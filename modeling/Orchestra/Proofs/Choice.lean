import Orchestra.Run.Step

namespace Orchestra

/-- What a gate decides by after a load of its source. -/
def FlagLoad.settled : FlagLoad → Except Panic FlagConfig
  | config loaded => .ok loaded
  | error _ => .ok ∅
  | panic text => .error ⟨text⟩

/-- The gate loads its source for the next decision. -/
def Gate.Loads (gate : Gate) : Prop := gate.reload = .once → gate.cache = none

/-- The source of the gate panics in the load that decides this step's flag. -/
def Step.FlagPanics (step : Step) (gate : Option Gate) (panic : Panic) : Prop :=
  ∃ reroute present, step.reroute = some reroute ∧ gate = some present ∧ present.Loads ∧
    present.source.answer present.source.loads = .panic panic.text

theorem Gate.load_error_iff {gate : Gate} {panic : Panic} :
    gate.load.1 = .error panic ↔ gate.source.answer gate.source.loads = .panic panic.text := by
  unfold Gate.load
  cases gate.source.answer gate.source.loads with
  | config => simp
  | error => simp
  | panic text => exact ⟨fun same => by cases same; rfl, fun same => by cases same; rfl⟩

theorem Gate.isEnabled_error_iff {gate : Gate} {flag : String} {context : Dict Json} {panic : Panic} :
    (gate.isEnabled flag context).1 = .error panic ↔
      gate.Loads ∧ gate.source.answer gate.source.loads = .panic panic.text := by
  have passed : (gate.isEnabled flag context).1 = .error panic ↔ gate.snapshot.1 = .error panic := by
    simp only [Gate.isEnabled, Gate.decision]
    cases gate.snapshot.1 <;> simp [Except.map]
  rw [passed, ← Gate.load_error_iff, Gate.snapshot, Gate.Loads]
  cases gate.reload <;> cases gate.cache <;> simp

theorem Step.choose_error_iff {step : Step} {run : Run} {gate : Option Gate} {panic : Panic} :
    (step.choose run gate).1 = .error panic ↔ step.FlagPanics gate panic := by
  unfold Step.choose Step.FlagPanics
  cases step.reroute with
  | none => simp
  | some reroute =>
    cases gate with
    | none => simp
    | some gate =>
      have passed : (((gate.isEnabled reroute.flag run.inputs).1.map fun on =>
          if on then reroute.capability else step.capability) = .error panic) ↔
          (gate.isEnabled reroute.flag run.inputs).1 = .error panic := by
        cases (gate.isEnabled reroute.flag run.inputs).1 <;> simp [Except.map]
      simp [passed, Gate.isEnabled_error_iff]

theorem Step.prepare_error_iff {step : Step} {index : Nat} {run : Run} {gate : Option Gate} {panic : Panic} :
    (step.prepare index run gate).1 = .error panic ↔ step.FlagPanics gate panic := by
  have choice : (step.choose run gate).1 = .error panic ↔ step.FlagPanics gate panic := Step.choose_error_iff
  simp only [Step.prepare]
  generalize step.choose run gate = answer at choice ⊢
  obtain ⟨chosen, _⟩ := answer
  cases chosen <;> simpa [Except.map] using choice

/-- A prepared step has its own index and the capability that was chosen for it. -/
theorem Step.prepare_ok {step : Step} {index : Nat} {run : Run} {gate : Option Gate}
    {prepared : PreparedStep} (ready : (step.prepare index run gate).1 = .ok prepared) :
    prepared.index = index ∧ (step.choose run gate).1 = .ok prepared.capability := by
  simp only [Step.prepare] at ready
  generalize step.choose run gate = answer at ready ⊢
  obtain ⟨chosen, _⟩ := answer
  cases chosen with
  | error panic => simp [Except.map] at ready
  | ok capability =>
    cases ready
    exact ⟨rfl, rfl⟩

/-- The arguments are filled in by the inputs and the state of the run, whatever capability is chosen. -/
theorem Step.prepare_params {step : Step} {index : Nat} {run : Run} {gate : Option Gate} {prepared : PreparedStep}
    (ready : (step.prepare index run gate).1 = .ok prepared) :
    prepared.params = Template.resolve run.inputs run.state step.args := by
  simp only [Step.prepare] at ready
  generalize step.choose run gate = answer at ready
  obtain ⟨chosen, _⟩ := answer
  cases chosen with
  | error panic => simp [Except.map] at ready
  | ok capability =>
    cases ready
    rfl

/-- A step is prepared with what was chosen for it, its arguments filled in, and leaves the gate as the choice does. -/
theorem Step.choose_of_prepare {step : Step} {index : Nat} {run : Run} {gate after : Option Gate}
    {prepared : PreparedStep} (ready : step.prepare index run gate = (.ok prepared, after)) :
    step.choose run gate = (.ok prepared.capability, after) ∧
      prepared = ⟨index, prepared.capability, Template.resolve run.inputs run.state step.args⟩ := by
  have kept : (step.choose run gate).2 = after := congrArg Prod.snd ready
  have ready : (step.prepare index run gate).1 = .ok prepared := congrArg Prod.fst ready
  obtain ⟨place, chosen⟩ := prepare_ok ready
  have filled : prepared.params = Template.resolve run.inputs run.state step.args := prepare_params ready
  obtain ⟨_, capability, _⟩ := prepared
  cases place
  cases filled
  exact ⟨Prod.ext chosen kept, rfl⟩

end Orchestra
