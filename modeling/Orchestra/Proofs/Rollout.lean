import Orchestra.Flag.Gate
import Orchestra.Number.Value

namespace Orchestra

theorem bucket_lt (flag who : String) : bucket flag who < 100 := Nat.mod_lt _ (by decide)

theorem bucket_cast_lt (flag who : String) : (bucket flag who : Rat) < 100 := by
  have below := bucket_lt flag who
  exact_mod_cast below

theorem FlagSpec.isOn_iff {spec : FlagSpec} {flag who : String} :
    spec.isOn flag who = true ↔ spec.enabled = true ∧ (bucket flag who : Rat) < spec.rollout.value := by
  have exact : (Double.ofNat (bucket flag who)).value = bucket flag who :=
    Double.value_ofNat (Nat.lt_trans (bucket_lt flag who) (by decide))
  have hundred : (Double.ofNat 100).value = 100 := Double.value_ofNat (by decide)
  have least : (0 : Rat) ≤ bucket flag who := Rat.natCast_nonneg
  have greatest := bucket_cast_lt flag who
  -- Below and at 0, and from 100 on, the comparison comes out as the two shortcuts say.
  unfold FlagSpec.isOn
  split
  next off =>
    simp only [Bool.or_eq_true, Bool.not_eq_true', Double.le_iff, Double.value_zero] at off
    rcases off with disabled | nothing
    · simp [disabled]
    · have none : ¬ (bucket flag who : Rat) < spec.rollout.value := by grind
      simp [none]
  next on =>
    simp only [Bool.or_eq_true, Bool.not_eq_true', Double.le_iff, Double.value_zero, not_or,
      Bool.not_eq_false] at on
    split
    next all =>
      rw [Double.le_iff, hundred] at all
      have every : (bucket flag who : Rat) < spec.rollout.value := by grind
      simp [on.1, every]
    · rw [Double.lt_iff, exact]
      simp [on.1]

/-- A flag, and one that is enabled whenever it is, for no smaller percentage. -/
structure FlagSpec.WidenedTo (spec wider : FlagSpec) : Prop where
  enabled : spec.enabled = true → wider.enabled = true
  rollout : spec.rollout.value ≤ wider.rollout.value

theorem FlagSpec.WidenedTo.isOn {spec wider : FlagSpec} {flag who : String} (widened : spec.WidenedTo wider)
    (on : spec.isOn flag who = true) : wider.isOn flag who = true := by
  obtain ⟨enabled, below⟩ := FlagSpec.isOn_iff.mp on
  have atMost := widened.rollout
  exact FlagSpec.isOn_iff.mpr ⟨widened.enabled enabled, by grind⟩

/-- Searches that are related at every item find related things, or both nothing. -/
theorem findSome?_rel {α β : Type} {R : β → β → Prop} {f g : α → Option β}
    (related : ∀ item, Option.Rel R (f item) (g item)) (items : List α) :
    Option.Rel R (items.findSome? f) (items.findSome? g) := by
  induction items with
  | nil => exact .none
  | cons item rest ih =>
    rw [List.findSome?_cons, List.findSome?_cons]
    have here := related item
    generalize f item = first at here ⊢
    generalize g item = second at here ⊢
    cases here with
    | some found => exact .some found
    | none => exact ih

namespace FlagConfig

variable {config wider : FlagConfig} {category name flag : String}

/-- A configuration, and one with the same categories and names in which each flag is widened. -/
structure WidenedTo (config wider : FlagConfig) : Prop where
  categories : config.keys = wider.keys
  names : ∀ category name, (config.spec? category name).isSome = (wider.spec? category name).isSome
  specs : ∀ category name spec spec', config.spec? category name = some spec →
    wider.spec? category name = some spec' → spec.WidenedTo spec'

namespace WidenedTo

theorem refl (config : FlagConfig) : config.WidenedTo config where
  categories := rfl
  names _ _ := rfl
  specs _ _ spec spec' here here' := by
    obtain rfl : spec = spec' := Option.some.inj (here.symm.trans here')
    exact ⟨id, Rat.le_refl⟩

/-- Widening one flag, or adding it to both sides, widens a configuration. -/
theorem withFlag {spec spec' : FlagSpec} (widened : config.WidenedTo wider) (wide : spec.WidenedTo spec')
    (category name : String) : (config.withFlag category name spec).WidenedTo (wider.withFlag category name spec') where
  categories := by
    refine Dict.keys_eq_of_isSome fun other => ?_
    rw [isSome_get?_withFlag, isSome_get?_withFlag, Bool.eq_iff_iff, Bool.or_eq_true, Bool.or_eq_true,
      ← Dict.mem_keys_iff, ← Dict.mem_keys_iff, widened.categories]
  names other flag := by
    rw [spec?_withFlag, spec?_withFlag]
    split
    · rfl
    · exact widened.names other flag
  specs other flag found found' here here' := by
    rw [spec?_withFlag] at here here'
    split at here
    next same =>
      rw [if_pos same] at here'
      cases here
      cases here'
      exact wide
    next different =>
      rw [if_neg different] at here'
      exact widened.specs other flag found found' here here'

theorem spec?_rel (widened : config.WidenedTo wider) (category name : String) :
    Option.Rel FlagSpec.WidenedTo (config.spec? category name) (wider.spec? category name) := by
  have present := widened.names category name
  cases first : config.spec? category name with
  | none =>
    cases second : wider.spec? category name with
    | none => exact .none
    | some => simp [first, second] at present
  | some spec =>
    cases second : wider.spec? category name with
    | none => simp [first, second] at present
    | some spec' => exact .some (widened.specs category name spec spec' first second)

theorem anywhere?_rel (widened : config.WidenedTo wider) (name : String) :
    Option.Rel FlagSpec.WidenedTo (config.anywhere? name) (wider.anywhere? name) := by
  rw [anywhere?_eq, anywhere?_eq, widened.categories]
  exact findSome?_rel (fun category => widened.spec?_rel category name) wider.keys

/-- Both stages of a lookup end at flags in the same place. -/
theorem lookup_rel (widened : config.WidenedTo wider) (flag : String) :
    Option.Rel FlagSpec.WidenedTo (config.lookup flag) (wider.lookup flag) := by
  unfold lookup
  split
  next category name _ =>
    have held := widened.spec?_rel category name
    unfold spec? at held
    generalize (config.get? category).bind (·.get? name) = first at held ⊢
    generalize (wider.get? category).bind (·.get? name) = second at held ⊢
    cases held with
    | some found => exact .some found
    | none => exact widened.anywhere?_rel name
  · exact widened.anywhere?_rel flag

end WidenedTo

theorem decision_enabled_iff {context : Dict Json} : (config.decision flag context).enabled = true ↔
    ∃ spec, config.lookup flag = some spec ∧ spec.isOn flag (identifier context) = true := by
  unfold decision
  cases config.lookup flag with
  | none => simp
  | some spec => simp

theorem WidenedTo.decision {context : Dict Json} (widened : config.WidenedTo wider)
    (on : (config.decision flag context).enabled = true) : (wider.decision flag context).enabled = true := by
  obtain ⟨spec, found, on⟩ := decision_enabled_iff.mp on
  have related := widened.lookup_rel flag
  rw [found] at related
  generalize found' : wider.lookup flag = other at related
  cases related with
  | some wide => exact decision_enabled_iff.mpr ⟨_, found', wide.isOn on⟩

/-- What decides a flag that the lookup finds is the bucket of the caller alone: it lies below the percentage. -/
structure DecidedByBucket (config : FlagConfig) (flag : String) (context : Dict Json) : Prop where
  bounded : bucket flag (identifier context) < 100
  decided : ∀ spec, config.lookup flag = some spec → spec.enabled = true →
    ((config.decision flag context).enabled = true ↔
      (bucket flag (identifier context) : Rat) < spec.rollout.value)
  nobody : ∀ spec, config.lookup flag = some spec → spec.rollout.value ≤ 0 →
    (config.decision flag context).enabled = false
  everybody : ∀ spec, config.lookup flag = some spec → spec.enabled = true → 100 ≤ spec.rollout.value →
    (config.decision flag context).enabled = true
  disabled : ∀ spec, config.lookup flag = some spec → spec.enabled = false →
    (config.decision flag context).enabled = false
  unknown : config.lookup flag = none → (config.decision flag context).enabled = false
  /-- A gate that goes by this configuration decides no differently. -/
  gate : ∀ gate : Gate, gate.snapshot.1 = .ok config →
    (gate.isEnabled flag context).1 = .ok (config.decision flag context).enabled

end FlagConfig

theorem Gate.isEnabled_of_snapshot {gate : Gate} {config : FlagConfig} (snapshot : gate.snapshot.1 = .ok config)
    (flag : String) (context : Dict Json) :
    (gate.isEnabled flag context).1 = .ok (config.decision flag context).enabled := by
  simp only [Gate.isEnabled, Gate.decision, snapshot]
  rfl

namespace FlagConfig

theorem decidedByBucket (config : FlagConfig) (flag : String) (context : Dict Json) :
    config.DecidedByBucket flag context := by
  have least : (0 : Rat) ≤ bucket flag (identifier context) := Rat.natCast_nonneg
  have greatest := bucket_cast_lt flag (identifier context)
  have found {spec : FlagSpec} (found : config.lookup flag = some spec) :
      (config.decision flag context).enabled = true ↔
        spec.enabled = true ∧ (bucket flag (identifier context) : Rat) < spec.rollout.value := by
    rw [decision_enabled_iff, found, ← FlagSpec.isOn_iff]
    simp
  constructor
  · exact bucket_lt flag (identifier context)
  · intro spec lookup enabled
    rw [found lookup, enabled]
    simp
  · intro spec lookup nothing
    rw [Bool.eq_false_iff, ne_eq, found lookup]
    grind
  · intro spec lookup enabled all
    exact (found lookup).mpr ⟨enabled, by grind⟩
  · intro spec lookup disabled
    rw [Bool.eq_false_iff, ne_eq, found lookup, disabled]
    simp
  · intro unknown
    simp [decision, unknown]
  · intro gate snapshot
    exact Gate.isEnabled_of_snapshot snapshot flag context

end FlagConfig

/-- Whoever a gate has a flag on for under a configuration has it under the wider one. -/
structure FlagConfig.RolledOut (config wider : FlagConfig) : Prop where
  kept : ∀ (gate gate' : Gate) (flag : String) (context : Dict Json),
    gate.snapshot.1 = .ok config → gate'.snapshot.1 = .ok wider →
      (gate.isEnabled flag context).1 = .ok true → (gate'.isEnabled flag context).1 = .ok true
  /-- Under any configuration it is the bucket that decides. -/
  decided : ∀ (any : FlagConfig) (flag : String) (context : Dict Json), any.DecidedByBucket flag context

/-- A configuration that enables no fewer flags for no smaller percentages turns no flag off for anyone. -/
theorem FlagConfig.rollout_monotone {config wider : FlagConfig} (widened : config.WidenedTo wider) :
    config.RolledOut wider where
  kept gate gate' flag context snapshot snapshot' on := by
    rw [Gate.isEnabled_of_snapshot snapshot] at on
    rw [Gate.isEnabled_of_snapshot snapshot', widened.decision (Except.ok.inj on)]
  decided any flag context := any.decidedByBucket flag context

/-- A flag in two categories: off in one of them, and on for 30 percent of the callers in the other. -/
def pilotConfig : FlagConfig :=
  ((∅ : FlagConfig).withFlag "api" "beta" { rollout := (Double.ofNat 5).neg }).withFlag "ui" "beta"
    (.ofRollout (.ofNat 30))

/-- The same flag, enabled in both categories, in one of them for 62.5 percent of the callers. -/
def releaseConfig : FlagConfig :=
  ((∅ : FlagConfig).withFlag "api" "beta" (.ofRollout .zero)).withFlag "ui" "beta"
    (.ofRollout ((Double.ofNat 125).div (.ofNat 2)))

theorem FlagConfig.rollout_monotone_release :
    pilotConfig.WidenedTo releaseConfig ∧ pilotConfig.RolledOut releaseConfig ∧
      (pilotConfig.decision "ui.beta" (.ofList [("user_id", .string "lea")])).enabled = true ∧
      (pilotConfig.decision "ui.beta" (.ofList [("user_id", .string "ann")])).enabled = false ∧
      (releaseConfig.decision "ui.beta" (.ofList [("user_id", .string "ann")])).enabled = true := by
  have api : FlagSpec.WidenedTo { rollout := (Double.ofNat 5).neg } (.ofRollout .zero) :=
    ⟨nofun, Double.le_iff.mp (by decide +kernel)⟩
  have ui : FlagSpec.WidenedTo (.ofRollout (.ofNat 30)) (.ofRollout ((Double.ofNat 125).div (.ofNat 2))) :=
    ⟨fun _ => rfl, Double.le_iff.mp (by decide +kernel)⟩
  have widened : pilotConfig.WidenedTo releaseConfig :=
    ((FlagConfig.WidenedTo.refl ∅).withFlag api "api" "beta").withFlag ui "ui" "beta"
  exact ⟨widened, FlagConfig.rollout_monotone widened, by decide +kernel, by decide +kernel, by decide +kernel⟩

end Orchestra
