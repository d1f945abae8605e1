import Orchestra.Pattern.Reading
import Orchestra.Proofs.Spelling

namespace Orchestra

/-- The word for what happens on failure, also as an object without payload. -/
inductive OnError.Spelled : OnError → Json → Prop
  | proceed : OnError.Spelled .proceed (.string "continue")
  | proceedUnit : OnError.Spelled .proceed (.object [("continue", .null)])
  | stop : OnError.Spelled .stop (.string "stop")
  | stopUnit : OnError.Spelled .stop (.object [("stop", .null)])

def Reroute.fields : List Field :=
  [{ names := ["name"], needed := true }, { names := ["capability"], needed := true }]

inductive Reroute.Spelled (reroute : Reroute) (v : Json) : Prop
  | record {flag capability : Option Json} : Record Reroute.fields [flag, capability] v →
      Required IsText reroute.flag flag → Required IsText reroute.capability capability → Reroute.Spelled reroute v

def Step.fields : List Field :=
  [{ names := ["description"] }, { names := ["capability"], needed := true },
    { names := ["args", "params"], nullable := true }, { names := ["as", "save_as"], nullable := true },
    { names := ["error_handling"] }, { names := ["flag"], nullable := true }]

inductive Step.Spelled (step : Step) (v : Json) : Prop
  | record {description capability args saveAs onError reroute : Option Json} :
      Record Step.fields [description, capability, args, saveAs, onError, reroute] v →
      Optional IsText "" step.description description → Required IsText step.capability capability →
      Optional IsFree (.object []) step.args args → Optional (Nullable IsText) none step.saveAs saveAs →
      Optional OnError.Spelled .proceed step.onError onError →
      Optional (Nullable Reroute.Spelled) none step.reroute reroute → Step.Spelled step v

def Panel.fields : List Field :=
  [{ names := ["id"], needed := true }, { names := ["dataPath", "data_path"], nullable := true }]

inductive Panel.Spelled (panel : Panel) (v : Json) : Prop
  | record {id dataPath : Option Json} : Record Panel.fields [id, dataPath] v → Required IsText panel.id id →
      Optional (Nullable IsText) none panel.dataPath dataPath → Panel.Spelled panel v

/-- An object that holds a list of panels, whatever else it holds. -/
inductive Panelled (declared : List Panel) : Json → Prop
  | object {members : List (String × Json)} {panels : Option Json} :
      Record [{ names := ["panels"], needed := true }] [panels] (.object members) →
      Required (Listed Panel.Spelled) declared panels → Panelled declared (.object members)

/-- A mapping is spelled by an object of its entries, unless that is a spelling of panels. -/
inductive Outputs.Spelled : Outputs → Json → Prop
  | panels {declared : List Panel} {v : Json} : Panelled declared v → Outputs.Spelled (.panels declared) v
  | keys {declared : List String} {v : Json} : Listed IsText declared v → Outputs.Spelled (.keys declared) v
  | mapping {declared : Dict Json} {members : List (String × Json)} :
      IsFree (.object declared.entries) (.object members) → (∀ panels, ¬ Panelled panels (.object members)) →
      Outputs.Spelled (.mapping declared) (.object members)

def Pattern.fields : List Field :=
  [{ names := ["id"], needed := true }, { names := ["name"] }, { names := ["version"] },
    { names := ["description"], nullable := true }, { names := ["steps"], needed := true }, { names := ["outputs"] }]

inductive Pattern.Spelled (pattern : Pattern) (v : Json) : Prop
  | record {id name version description steps outputs : Option Json} :
      Record Pattern.fields [id, name, version, description, steps, outputs] v → Required IsText pattern.id id →
      Optional IsText "" pattern.name name → Optional IsText "1.0.0" pattern.version version →
      Optional (Nullable IsText) none pattern.description description →
      Required (Listed Step.Spelled) pattern.steps steps →
      Optional Outputs.Spelled (.keys []) pattern.outputs outputs → Pattern.Spelled pattern v

theorem OnError.ofWord?_eq_some {word : String} {onError : OnError} (named : ofWord? word = some onError) :
    (word = "continue" ∧ onError = .proceed) ∨ (word = "stop" ∧ onError = .stop) := by
  unfold ofWord? at named
  split at named
  · exact .inl ⟨rfl, (Option.some.inj named).symm⟩
  · exact .inr ⟨rfl, (Option.some.inj named).symm⟩
  · cases named

theorem OnError.reads : Reads (OnError.read? .memory) OnError.Spelled := by
  intro w onError
  constructor
  · intro read
    cases w with
    | string word =>
      rcases ofWord?_eq_some read with ⟨rfl, rfl⟩ | ⟨rfl, rfl⟩
      · exact .proceed
      · exact .stop
    | object members =>
      match members with
      | [(word, .null)] =>
        rcases ofWord?_eq_some read with ⟨rfl, rfl⟩ | ⟨rfl, rfl⟩
        · exact .proceedUnit
        · exact .stopUnit
      | [(_, .bool _)] | [(_, .number _)] | [(_, .string _)] | [(_, .array _)] | [(_, .object _)] | []
      | _ :: _ :: _ => cases read
    | _ => cases read
  · rintro (_ | _ | _ | _) <;> rfl

theorem Reroute.reads : Reads (Reroute.read? .memory) Reroute.Spelled := by
  have distinct : RecordForm.Distinct (Reroute.fields.map Field.names) := by decide
  intro v reroute
  constructor
  · intro read
    unfold Reroute.read? at read
    split at read
    next found =>
      obtain ⟨slots, record, same⟩ := (slots?_ofJson_eq_some_iff distinct).mp found
      match slots, record, same, record.length_eq with
      | [flag, capability], record, same, _ =>
        -- What is left of reading is one reader for each slot, and each of them takes the spellings of its field.
        cases same
        simp only [Option.bind_eq_bind, Option.bind_eq_some_iff, reads_text.required_iff] at read
        obtain ⟨_, own, _, own', ⟨⟩⟩ := read
        exact .record record own own'
    next => cases read
  · rintro ⟨record, flag, capability⟩
    have found : Reroute.form.slots? Medium.memory.surplus (.ofJson v) = _ := record.slots?_ofJson distinct
    simp only [Reroute.read?, found, List.map_cons, List.map_nil, (reads_text.required_iff _ _).mpr flag,
      (reads_text.required_iff _ _).mpr capability]
    rfl

theorem IsText.ne_null (text : String) : ¬ IsText text .null := nofun

theorem OnError.Spelled.ne_null (onError : OnError) : ¬ OnError.Spelled onError .null := nofun

theorem Reroute.Spelled.ne_null (reroute : Reroute) : ¬ Reroute.Spelled reroute .null :=
  fun ⟨written, _, _⟩ => nomatch written

theorem reads_nullable_text : Reads (Document.nullable? Document.string?) (Nullable IsText) :=
  reads_text.nullable IsText.ne_null

theorem Step.reads : Reads (Step.read? .memory) Step.Spelled := by
  have distinct : RecordForm.Distinct (Step.fields.map Field.names) := by decide
  have reads_reroute := Reroute.reads.nullable Reroute.Spelled.ne_null
  intro v step
  constructor
  · intro read
    unfold Step.read? at read
    split at read
    next found =>
      obtain ⟨slots, record, same⟩ := (slots?_ofJson_eq_some_iff distinct).mp found
      match slots, record, same, record.length_eq with
      | [description, capability, args, saveAs, onError, reroute], record, same, _ =>
        cases same
        simp only [Option.bind_eq_bind, Option.bind_eq_some_iff, reads_text.required_iff, reads_text.optional_iff,
          (reads_free 3).optional_iff, reads_nullable_text.optional_iff, OnError.reads.optional_iff,
          reads_reroute.optional_iff] at read
        obtain ⟨_, description, _, capability, _, args, _, saveAs, _, onError, _, reroute, ⟨⟩⟩ := read
        exact .record record description capability args saveAs onError reroute
    next => cases read
  · rintro ⟨record, description, capability, args, saveAs, onError, reroute⟩
    have found : Step.form.slots? Medium.memory.surplus (.ofJson v) = _ := record.slots?_ofJson distinct
    simp only [Step.read?, found, List.map_cons, List.map_nil, (reads_text.optional_iff _ _ _).mpr description,
      (reads_text.required_iff _ _).mpr capability, ((reads_free 3).optional_iff _ _ _).mpr args,
      (reads_nullable_text.optional_iff _ _ _).mpr saveAs, (OnError.reads.optional_iff _ _ _).mpr onError,
      (reads_reroute.optional_iff _ _ _).mpr reroute]
    rfl

theorem Panel.reads : Reads Panel.read? Panel.Spelled := by
  have distinct : RecordForm.Distinct (Panel.fields.map Field.names) := by decide
  intro v panel
  constructor
  · intro read
    unfold Panel.read? at read
    split at read
    next found =>
      obtain ⟨slots, record, same⟩ := (slots?_ofJson_eq_some_iff distinct).mp found
      match slots, record, same, record.length_eq with
      | [id, dataPath], record, same, _ =>
        cases same
        simp only [Option.bind_eq_bind, Option.bind_eq_some_iff, reads_text.required_iff,
          reads_nullable_text.optional_iff] at read
        obtain ⟨_, id, _, dataPath, ⟨⟩⟩ := read
        exact .record record id dataPath
    next => cases read
  · rintro ⟨record, id, dataPath⟩
    have found : Panel.form.slots? false (.ofJson v) = _ := record.slots?_ofJson distinct
    simp only [Panel.read?, found, List.map_cons, List.map_nil, (reads_text.required_iff _ _).mpr id,
      (reads_nullable_text.optional_iff _ _ _).mpr dataPath]
    rfl

theorem reads_panels : Reads Outputs.panels? Panelled := by
  have distinct : RecordForm.Distinct (List.map Field.names [{ names := ["panels"], needed := true }]) := by decide
  intro v declared
  constructor
  · intro read
    cases v with
    | object members =>
      rw [Document.ofJson] at read
      unfold Outputs.panels? at read
      dsimp only at read
      split at read
      next found =>
        obtain ⟨slots, record, same⟩ := (slots?_ofJson_eq_some_iff (v := .object members) distinct).mp found
        match slots, record, same, record.length_eq with
        | [panels], record, same, _ =>
          cases same
          exact .object record ((Panel.reads.listed.required_iff _ _).mp read)
      next => cases read
    | _ => cases read
  · rintro ⟨record, panels⟩
    have found : Outputs.panelsForm.slots? false (.ofJson _) = _ := record.slots?_ofJson distinct
    rw [Document.ofJson] at found ⊢
    simp only [Outputs.panels?, found, List.map_cons, List.map_nil]
    exact (Panel.reads.listed.required_iff _ _).mpr panels

theorem Json.canonical_eq_object {v : Json} {fields : List (String × Json)} (object : v.canonical = .object fields) :
    ∃ members, v = .object members ∧ (Dict.ofList fields).entries = fields := by
  cases v with
  | object members =>
    rw [canonical] at object
    cases object
    exact ⟨members, rfl, by rw [Dict.ofList_entries]⟩
  | array items =>
    rw [canonical] at object
    cases object
  | _ => cases object

theorem Outputs.reads (level : Nat) : Reads (Outputs.read? .memory level) Outputs.Spelled := by
  intro v outputs
  have value : Medium.memory.free? level (.ofJson v) = some v.canonical := ((reads_free level) v _).mpr rfl
  unfold Outputs.read?
  simp only [value]
  constructor
  · intro read
    split at read
    next declared panels =>
      cases read
      exact .panels ((reads_panels _ _).mp panels)
    next declared _ keys =>
      cases read
      exact .keys ((reads_text.listed _ _).mp keys)
    -- The third form is tried last, so what it takes is no spelling of panels.
    next fields unread _ object =>
      cases read
      obtain ⟨members, rfl, entries⟩ := Json.canonical_eq_object object
      refine .mapping (by rw [IsFree, entries, object]) fun panels panelled => ?_
      have read := (reads_panels _ _).mpr panelled
      rw [unread] at read
      cases read
    next => cases read
  · rintro (panels | ⟨⟨items⟩⟩ | @⟨declared, members, free, unpanelled⟩)
    · rw [(reads_panels _ _).mpr panels]
    · have keys := (reads_text.listed _ _).mpr ⟨items⟩
      rw [keys]
      rfl
    · have unread : panels? (.ofJson (.object members)) = none := by
        refine Option.eq_none_iff_forall_ne_some.mpr fun panels read => ?_
        exact unpanelled panels ((reads_panels _ _).mp read)
      have other : Document.array? Document.string? (.ofJson (.object members)) = none := rfl
      rw [unread, other, free]
      simp only [Dict.ofList_entries]

theorem Outputs.Spelled.ne_null (outputs : Outputs) : ¬ Outputs.Spelled outputs .null := by
  rintro (panelled | listed)
  · cases panelled
  · cases listed

theorem Pattern.reads : Reads (Pattern.read? .memory) Pattern.Spelled := by
  have distinct : RecordForm.Distinct (Pattern.fields.map Field.names) := by decide
  have reads_steps := Step.reads.listed
  have reads_outputs := Outputs.reads 1
  intro v pattern
  constructor
  · intro read
    unfold Pattern.read? at read
    split at read
    next found =>
      obtain ⟨slots, record, same⟩ := (slots?_ofJson_eq_some_iff distinct).mp found
      match slots, record, same, record.length_eq with
      | [id, name, version, description, steps, outputs], record, same, _ =>
        cases same
        simp only [Option.bind_eq_bind, Option.bind_eq_some_iff, reads_text.required_iff, reads_text.optional_iff,
          reads_nullable_text.optional_iff, reads_steps.required_iff, reads_outputs.optional_iff] at read
        obtain ⟨_, id, _, name, _, version, _, description, _, steps, _, outputs, ⟨⟩⟩ := read
        exact .record record id name version description steps outputs
    next => cases read
  · rintro ⟨record, id, name, version, description, steps, outputs⟩
    have found : Pattern.form.slots? Medium.memory.surplus (.ofJson v) = _ := record.slots?_ofJson distinct
    simp only [Pattern.read?, found, List.map_cons, List.map_nil, (reads_text.required_iff _ _).mpr id,
      (reads_text.optional_iff _ _ _).mpr name, (reads_text.optional_iff _ _ _).mpr version,
      (reads_nullable_text.optional_iff _ _ _).mpr description, (reads_steps.required_iff _ _).mpr steps,
      (reads_outputs.optional_iff _ _ _).mpr outputs]
    rfl

section Flaws

variable {v : Json}

theorem Reroute.Spelled.not_flawed {reroute : Reroute} (spelled : reroute.Spelled v) : ¬ Flawed Reroute.fields v := by
  obtain ⟨written, flag, capability⟩ := spelled
  exact written.not_flawed (.cons (flag.allows IsText.ne_null) (.cons (capability.allows IsText.ne_null) .nil))

theorem Step.Spelled.not_flawed {step : Step} (spelled : step.Spelled v) : ¬ Flawed Step.fields v := by
  obtain ⟨written, description, capability, args, saveAs, onError, reroute⟩ := spelled
  refine written.not_flawed (.cons ?_ (.cons ?_ (.cons ?_ (.cons ?_ (.cons ?_ (.cons ?_ .nil))))))
  · exact description.allows rfl fun _ => IsText.ne_null
  · exact capability.allows IsText.ne_null
  · exact args.allows rfl nofun
  · exact saveAs.allows rfl nofun
  · exact onError.allows rfl fun _ => OnError.Spelled.ne_null
  · exact reroute.allows rfl nofun

theorem Panel.Spelled.not_flawed {panel : Panel} (spelled : panel.Spelled v) : ¬ Flawed Panel.fields v := by
  obtain ⟨written, id, dataPath⟩ := spelled
  exact written.not_flawed (.cons (id.allows IsText.ne_null) (.cons (dataPath.allows rfl nofun) .nil))

theorem Step.ne_null_of_listed (steps : List Step) : ¬ Listed Step.Spelled steps .null := nofun

theorem Pattern.Spelled.not_flawed {pattern : Pattern} (spelled : pattern.Spelled v) : ¬ Flawed Pattern.fields v := by
  obtain ⟨written, id, name, version, description, steps, outputs⟩ := spelled
  refine written.not_flawed (.cons ?_ (.cons ?_ (.cons ?_ (.cons ?_ (.cons ?_ (.cons ?_ .nil))))))
  · exact id.allows IsText.ne_null
  · exact name.allows rfl fun _ => IsText.ne_null
  · exact version.allows rfl fun _ => IsText.ne_null
  · exact description.allows rfl nofun
  · exact steps.allows Step.ne_null_of_listed
  · exact outputs.allows rfl fun _ => Outputs.Spelled.ne_null

/-- A flaw of a pattern, of one of its steps, or of a flag route. -/
inductive Pattern.Defective (v : Json) : Prop
  | own : Flawed Pattern.fields v → Pattern.Defective v
  | step {items : List Json} {step : Json} : At ["steps"] 4 (.array items) v → step ∈ items →
      Flawed Step.fields step → Pattern.Defective v
  | reroute {items : List Json} {step reroute : Json} : At ["steps"] 4 (.array items) v → step ∈ items →
      At ["flag"] 5 reroute step → reroute ≠ .null → Flawed Reroute.fields reroute → Pattern.Defective v

theorem Pattern.Spelled.exists_step {pattern : Pattern} {items : List Json} {item : Json} (spelled : pattern.Spelled v)
    (there : At ["steps"] 4 (.array items) v) (member : item ∈ items) : ∃ step : Step, step.Spelled item := by
  obtain ⟨written, _, _, _, _, steps, _⟩ := spelled
  obtain rfl := (written.at_iff 4 rfl rfl _).mp there
  obtain ⟨listed⟩ := steps
  exact listed.exists_of_mem member

theorem Pattern.Spelled.not_defective {pattern : Pattern} (spelled : pattern.Spelled v) : ¬ Pattern.Defective v := by
  rintro (flawed | ⟨there, member, flawed⟩ | ⟨there, member, here, given, flawed⟩)
  · exact spelled.not_flawed flawed
  · obtain ⟨step, spelled⟩ := spelled.exists_step there member
    exact spelled.not_flawed flawed
  · obtain ⟨step, written, _, _, _, _, _, reroute⟩ := spelled.exists_step there member
    obtain rfl := (written.at_iff 5 rfl rfl _).mp here
    generalize step.reroute = target at reroute
    obtain _ | _ | spelled := reroute
    · exact given rfl
    · exact spelled.not_flawed flawed

/-- One of the panels has a flaw. -/
def Spoiled (members : List (String × Json)) : Prop :=
  ∃ items panel, ("panels", .array items) ∈ members ∧ panel ∈ items ∧ Flawed Panel.fields panel

theorem Spoiled.not_panelled {members : List (String × Json)} (spoiled : Spoiled members) (declared : List Panel) :
    ¬ Panelled declared (.object members) := by
  obtain ⟨items, panel, there, member, flawed⟩ := spoiled
  rintro ⟨written, panels⟩
  obtain rfl := (written.at_iff 0 rfl rfl _).mp (.member (List.mem_singleton_self _) there)
  obtain ⟨listed⟩ := panels
  obtain ⟨panel, spelled⟩ := listed.exists_of_mem member
  exact spelled.not_flawed flawed

end Flaws

namespace Pattern

variable {id name version description steps : Option Json} {members : List (String × Json)} {v v' : Json}

/-- The outputs are a mapping if the panels in them have a flaw. -/
theorem read?_of_spoiled (spoiled : Spoiled members) (level : Nat) :
    Outputs.read? .memory level (.ofJson (.object members)) =
      some (.mapping (.ofList (Json.canonicalFields members))) := by
  refine (Outputs.reads level _ _).mpr (.mapping ?_ spoiled.not_panelled)
  rw [IsFree, Json.canonical]

theorem ofJson?_of_spoiled
    (written : Record Pattern.fields [id, name, version, description, steps, some (.object members)] v)
    (written' : Record Pattern.fields [id, name, version, description, steps, none] v') (spoiled : Spoiled members) :
    ofJson? v = (ofJson? v').map fun pattern =>
      { pattern with outputs := .mapping (.ofList (Json.canonicalFields members)) } := by
  have distinct : RecordForm.Distinct (Pattern.fields.map Field.names) := by decide
  have found : Pattern.form.slots? Medium.memory.surplus (.ofJson v) = _ := written.slots?_ofJson distinct
  have found' : Pattern.form.slots? Medium.memory.surplus (.ofJson v') = _ := written'.slots?_ofJson distinct
  have declared : Document.optional? (Outputs.read? .memory 1) (.keys []) (some (.ofJson (.object members))) =
      some (.mapping (.ofList (Json.canonicalFields members))) := read?_of_spoiled spoiled 1
  have omitted : Document.optional? (Outputs.read? .memory 1) (.keys []) none = some (.keys []) := rfl
  -- The fields before the outputs are read alike.
  simp only [ofJson?, read?, found, found', List.map_cons, List.map_nil, Option.map_some, Option.map_none, declared,
    omitted, Option.bind_eq_bind, Option.map_bind, Function.comp_def, Option.bind_some, Option.pure_def]

theorem mem_keys_of_spoiled (spoiled : Spoiled members) :
    "panels" ∈ (Dict.ofList (Json.canonicalFields members)).keys := by
  obtain ⟨items, _, there, _⟩ := spoiled
  refine Dict.mem_keys_iff.mpr (Dict.isSome_get?_extend (.inr ?_))
  rw [Json.canonicalFields_eq_map, List.map_map]
  exact List.mem_map.mpr ⟨_, there, rfl⟩

/-- How a value is read as a pattern. -/
structure Spellings (v : Json) : Prop where
  described : ∀ pattern : Pattern, ofJson? v = some pattern ↔ pattern.Spelled v
  refused : Defective v → ofJson? v = none
  /-- Flawed panels never matter for the rest of the pattern. -/
  tolerated : ∀ {id name version description steps : Option Json} {members : List (String × Json)} {v' : Json},
    Record Pattern.fields [id, name, version, description, steps, some (.object members)] v →
    Record Pattern.fields [id, name, version, description, steps, none] v' → Spoiled members →
    "panels" ∈ (Dict.ofList (Json.canonicalFields members)).keys ∧
      ofJson? v = (ofJson? v').map fun pattern =>
        { pattern with outputs := .mapping (.ofList (Json.canonicalFields members)) }

/-- A value describes a pattern if and only if it is one of its spellings; it describes none if it, one of its steps
or a flag route has a flaw. A flaw in a panel makes a mapping of the outputs. -/
theorem spellings (v : Json) : Spellings v where
  described := Pattern.reads v
  refused defective := by
    refine Option.eq_none_iff_forall_ne_some.mpr fun pattern read => ?_
    exact ((Pattern.reads v pattern).mp read).not_defective defective
  tolerated written written' spoiled := ⟨mem_keys_of_spoiled spoiled, ofJson?_of_spoiled written written' spoiled⟩

/-- A step as an array that ends early, in an object with a member that is no field. -/
example :
    ofJson? (.object [
      ("note", .null),
      ("steps", .array [.array [.string "", .string "metrics.twr", .object [], .string "twr", .object [("stop", .null)]]]),
      ("id", .string "p")]) =
    some { id := "p", steps := [{ capability := "metrics.twr", saveAs := some "twr", onError := .stop }] } :=
  rfl

end Pattern

end Orchestra
