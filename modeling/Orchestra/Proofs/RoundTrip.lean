import Orchestra.Pattern.Printing
import Orchestra.Proofs.Canonical
import Orchestra.Proofs.PatternSpelling

namespace Orchestra

/-- The free values are in order, as all values are that were read. -/
def Outputs.Ordered (outputs : Outputs) : Prop :=
  ∀ declared, outputs = .mapping declared → (Json.object declared.entries).canonical = .object declared.entries

structure Pattern.Ordered (pattern : Pattern) : Prop where
  args : ∀ step ∈ pattern.steps, step.args.canonical = step.args
  outputs : pattern.outputs.Ordered

/-- The outputs are no mapping whose entry for panels can be read as a list of panels. -/
def Outputs.Settled (outputs : Outputs) : Prop :=
  ∀ declared w, outputs = .mapping declared → declared.get? "panels" = some w →
    Document.array? Panel.read? (.ofJson w) = none

theorem Outputs.settled_mapping_iff {declared : Dict Json} :
    (Outputs.mapping declared).Settled ↔ ∀ panels, ¬ Panelled panels (.object declared.entries) := by
  constructor
  · rintro settled panels ⟨written, given⟩
    obtain ⟨listed⟩ := given
    have there := (written.at_iff 0 rfl rfl _).mpr rfl
    obtain ⟨named, member⟩ := there
    obtain rfl := List.mem_singleton.mp named
    have unread := settled declared _ rfl (declared.ascending.mem_iff.mp member)
    rw [(Panel.reads.listed _ _).mpr listed] at unread
    cases unread
  · rintro unpanelled _ w ⟨⟩ found
    refine Option.eq_none_iff_forall_ne_some.mpr fun panels read => unpanelled panels ?_
    refine .object (.object (.cons ?_ .nil)) (.given ((Panel.reads.listed _ _).mp read))
    rw [Field.values_entries, found]

section Printing

theorem OnError.spelled_toJson (onError : OnError) : onError.Spelled onError.toJson := by
  cases onError with
  | proceed => exact .proceed
  | stop => exact .stop

theorem spelled_ofString? (text : Option String) : Nullable IsText text (.ofString? text) := by
  cases text with
  | none => exact .null
  | some text => exact .given rfl

theorem Reroute.spelled_toJson (reroute : Reroute) : reroute.Spelled reroute.toJson :=
  .record (.object (.cons rfl (.cons rfl .nil))) (.given rfl) (.given rfl)

theorem Step.spelled_toJson {step : Step} (ordered : step.args.canonical = step.args) : step.Spelled step.toJson := by
  have written : Record Step.fields
      [some (.string step.description), some (.string step.capability), some step.args,
        some (.ofString? step.saveAs), some step.onError.toJson, some (step.reroute.elim .null Reroute.toJson)]
      step.toJson :=
    .object (.cons rfl (.cons rfl (.cons rfl (.cons rfl (.cons rfl (.cons rfl .nil))))))
  have reroute : Nullable Reroute.Spelled step.reroute (step.reroute.elim .null Reroute.toJson) := by
    cases step.reroute with
    | none => exact .null
    | some reroute => exact .given reroute.spelled_toJson
  exact .record written (.given rfl) (.given rfl) (.given ordered) (.given (spelled_ofString? step.saveAs))
    (.given step.onError.spelled_toJson) (.given reroute)

theorem Panel.spelled_toJson (panel : Panel) : panel.Spelled panel.toJson :=
  .record (.object (.cons rfl (.cons rfl .nil))) (.given rfl) (.given (spelled_ofString? panel.dataPath))

theorem Outputs.spelled_toJson {outputs : Outputs} (ordered : outputs.Ordered) (settled : outputs.Settled) :
    outputs.Spelled outputs.toJson := by
  cases outputs with
  | panels declared =>
    exact .panels (.object (.object (.cons rfl .nil)) (.given (.of_map fun panel _ => panel.spelled_toJson)))
  | keys declared => exact .keys (.of_map fun _ _ => rfl)
  | mapping declared => exact .mapping (ordered declared rfl) (Outputs.settled_mapping_iff.mp settled)

theorem Pattern.spelled_toJson {pattern : Pattern} (ordered : pattern.Ordered) (settled : pattern.outputs.Settled) :
    pattern.Spelled pattern.toJson := by
  have written : Record Pattern.fields
      [some (.string pattern.id), some (.string pattern.name), some (.string pattern.version),
        some (.ofString? pattern.description), some (.array (pattern.steps.map Step.toJson)),
        some pattern.outputs.toJson]
      pattern.toJson :=
    .object (.cons rfl (.cons rfl (.cons rfl (.cons rfl (.cons rfl (.cons rfl .nil))))))
  exact .record written (.given rfl) (.given rfl) (.given rfl) (.given (spelled_ofString? pattern.description))
    (.given (.of_map fun step member => Step.spelled_toJson (ordered.args step member)))
    (.given (Outputs.spelled_toJson ordered.outputs settled))

end Printing

section Order

variable {v : Json}

theorem OnError.stable : Stable OnError.Spelled := by
  rintro _ _ (_ | _ | _ | _)
  · exact .proceed
  · exact .proceedUnit
  · exact .stop
  · exact .stopUnit

theorem Reroute.stable : Stable Reroute.Spelled := by
  rintro reroute _ ⟨written, flag, capability⟩
  exact .record written.canonical (flag.canonical (stable_text _)) (capability.canonical (stable_text _))

theorem Step.stable : Stable Step.Spelled := by
  rintro step _ ⟨written, description, capability, args, saveAs, onError, reroute⟩
  exact .record written.canonical (description.canonical (stable_text _)) (capability.canonical (stable_text _))
    (args.canonical (stable_free _)) (saveAs.canonical (stable_text.nullable _)) (onError.canonical (OnError.stable _))
    (reroute.canonical (Reroute.stable.nullable _))

theorem Panel.stable : Stable Panel.Spelled := by
  rintro panel _ ⟨written, id, dataPath⟩
  exact .record written.canonical (id.canonical (stable_text _)) (dataPath.canonical (stable_text.nullable _))

theorem stable_panelled : Stable Panelled := by
  rintro declared _ ⟨written, panels⟩
  have written := written.canonical
  rw [Json.canonical] at written ⊢
  exact .object written (panels.canonical (Panel.stable.listed _))

/-- Settled outputs keep their form, since what they print is in order. -/
theorem Outputs.Spelled.canonical {outputs : Outputs} (spelled : outputs.Spelled v) (settled : outputs.Settled) :
    outputs.Spelled v.canonical := by
  cases spelled with
  | panels panelled => exact .panels (stable_panelled _ _ panelled)
  | keys listed => exact .keys (stable_text.listed _ _ listed)
  | @mapping declared members free _ =>
    rw [IsFree] at free
    have ordered := Json.canonical_canonical (.object members)
    rw [free] at ordered ⊢
    exact .mapping ordered (Outputs.settled_mapping_iff.mp settled)

theorem Pattern.Spelled.canonical {pattern : Pattern} (spelled : pattern.Spelled v)
    (settled : pattern.outputs.Settled) : pattern.Spelled v.canonical := by
  obtain ⟨written, id, name, version, description, steps, outputs⟩ := spelled
  exact .record written.canonical (id.canonical (stable_text _)) (name.canonical (stable_text _))
    (version.canonical (stable_text _)) (description.canonical (stable_text.nullable _))
    (steps.canonical (Step.stable.listed _)) (outputs.canonical fun _ given => given.canonical settled)

end Order

section Read

variable {v : Json}

theorem Step.Spelled.ordered {step : Step} (spelled : step.Spelled v) : step.args.canonical = step.args := by
  obtain ⟨_, _, _, args, _, _, _⟩ := spelled
  obtain same | free := args
  · rw [same]
    rfl
  · exact free ▸ Json.canonical_canonical _

theorem Outputs.Spelled.ordered {outputs : Outputs} (spelled : outputs.Spelled v) : outputs.Ordered := by
  rintro declared rfl
  cases spelled with
  | mapping free _ => exact free ▸ Json.canonical_canonical _

theorem Outputs.Spelled.settled {outputs : Outputs} (spelled : outputs.Spelled v) (ordered : v.canonical = v) :
    outputs.Settled := by
  cases spelled with
  | panels | keys => exact nofun
  | mapping free unpanelled =>
    rw [free] at ordered
    exact Outputs.settled_mapping_iff.mpr (ordered ▸ unpanelled)

theorem Pattern.Spelled.ordered {pattern : Pattern} (spelled : pattern.Spelled v) : pattern.Ordered := by
  obtain ⟨_, _, _, _, _, steps, outputs⟩ := spelled
  constructor
  · intro step member
    obtain ⟨listed⟩ := steps
    obtain ⟨_, own⟩ := listed.exists_of_mem_values member
    exact own.ordered
  · obtain same | given := outputs
    · rw [same]
      exact nofun
    · exact given.ordered

theorem Pattern.Spelled.settled {pattern : Pattern} (spelled : pattern.Spelled v) (ordered : v.canonical = v) :
    pattern.outputs.Settled := by
  obtain ⟨written, _, _, _, _, _, outputs⟩ := spelled
  generalize pattern.outputs = target at outputs
  obtain rfl | given := outputs
  · exact nofun
  · have there := (written.at_iff 5 rfl rfl _).mpr rfl
    exact given.settled (Json.canonical_of_at ordered there)

end Read

/-- What is printed, in the order of declaration or with its members in order, is read as what it was printed from. -/
def ReadsBack {α : Type} (read? : Json → Option α) (toJson : α → Json) (a : α) : Prop :=
  read? (toJson a) = some a ∧ read? (toJson a).canonical = some a

theorem Outputs.readsBack {outputs : Outputs} (ordered : outputs.Ordered) (settled : outputs.Settled) :
    ReadsBack Outputs.ofJson? Outputs.toJson outputs := by
  have spelled := Outputs.spelled_toJson ordered settled
  exact ⟨(Outputs.reads 0 _ _).mpr spelled, (Outputs.reads 0 _ _).mpr (spelled.canonical settled)⟩

theorem Pattern.readsBack {pattern : Pattern} (ordered : pattern.Ordered) (settled : pattern.outputs.Settled) :
    ReadsBack Pattern.ofJson? Pattern.toJson pattern := by
  have spelled := Pattern.spelled_toJson ordered settled
  exact ⟨(Pattern.reads _ _).mpr spelled, (Pattern.reads _ _).mpr (spelled.canonical settled)⟩

/-- The pattern of a value, printed. -/
def Pattern.reprint? (v : Json) : Option Json := (Pattern.ofJson? v).map fun pattern => pattern.toJson.canonical

/-- Printing and reading patterns. -/
structure Pattern.RoundTrip : Prop where
  printed : ∀ pattern : Pattern, pattern.Ordered → pattern.outputs.Settled →
    ReadsBack Pattern.ofJson? Pattern.toJson pattern
  accepted : ∀ (v : Json) (pattern : Pattern), v.canonical = v → ofJson? v = some pattern →
    ReadsBack Pattern.ofJson? Pattern.toJson pattern
  outputs : ∀ (v : Json) (outputs : Outputs), v.canonical = v → Outputs.ofJson? v = some outputs →
    ReadsBack Outputs.ofJson? Outputs.toJson outputs
  idempotent : ∀ v : Json, v.canonical = v → (reprint? v).bind reprint? = reprint? v

/-- A printed pattern is one of its spellings, also when its members are put in order; so it is read as the same
pattern, with the same form of outputs. -/
theorem Pattern.round_trip : Pattern.RoundTrip where
  printed _ ordered settled := Pattern.readsBack ordered settled
  accepted v pattern ordered read := by
    have spelled := (Pattern.reads v pattern).mp read
    exact Pattern.readsBack spelled.ordered (spelled.settled ordered)
  outputs v outputs ordered read := by
    have spelled := (Outputs.reads 0 v outputs).mp read
    exact Outputs.readsBack spelled.ordered (spelled.settled ordered)
  idempotent v ordered := by
    unfold reprint?
    cases read : ofJson? v with
    | none => rfl
    | some pattern =>
      have spelled := (Pattern.reads v pattern).mp read
      have again := (Pattern.readsBack spelled.ordered (spelled.settled ordered)).2
      rw [Option.map_some, Option.bind_some, again, Option.map_some]

/-- A step with arguments, and a mapping whose entry for panels is a remark. -/
def Pattern.remarked : Pattern where
  id := "p"
  steps := [{
    capability := "echo"
    args := .object [("count", .ofNat 2), ("nested", .object [("text", .string "hello")])]
    saveAs := some "said"
    reroute := some ⟨"beta", "text.generate"⟩ }]
  outputs := .mapping (.ofList [("panels", .string "twr")])

theorem Pattern.round_trip_remarked :
    remarked.Ordered ∧ remarked.outputs.Settled ∧ ofJson? remarked.toJson = some remarked := by
  have ordered : remarked.Ordered := by
    constructor
    · intro step member
      cases List.mem_singleton.mp member
      rfl
    · rintro _ ⟨⟩
      rfl
  have settled : remarked.outputs.Settled := by
    rintro _ _ ⟨⟩ ⟨⟩
    rfl
  exact ⟨ordered, settled, (Pattern.round_trip.printed remarked ordered settled).1⟩

end Orchestra
