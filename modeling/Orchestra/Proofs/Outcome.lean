import Orchestra.Run.Loop

namespace Orchestra

/-- A step that was served, and what came of it. -/
structure Outcome where
  step : Step
  prepared : PreparedStep
  result : Except CallError (Dict Json)

/-- What an entry tells of the result that its step was served with. -/
structure StepRecord.Reports (record : StepRecord) (step : Step) (result : Except CallError (Dict Json)) : Prop where
  isOk_iff : record.isOk = true ↔ ∃ output, result = .ok output
  clean : ∀ output, result = .ok output → record.error? = none ∧ record.detail? = none
  flat : ∀ output, result = .ok output → step.saveAs = none → record.producedKeys = output.keys
  wrapped : ∀ output key, result = .ok output → step.saveAs = some key → record.producedKeys = [key]
  /-- An error is told by the first 160 characters of its text. -/
  failed : ∀ error, result = .error error → record.producedKeys = [] ∧ record.detail? = some error.detail ∧
    record.error? = some (if 160 < error.message.length
      then String.ofList (error.message.toList.take 160) ++ "..." else error.message)

/-- What a state becomes that takes in a result: an error leaves it alone, and an output is written over it, entry
by entry or as one value under the key of its step. -/
structure State.Takes (step : Step) (result : Except CallError (Dict Json)) (before after : State) : Prop where
  failed : ∀ error, result = .error error → after = before
  flat : ∀ output, result = .ok output → step.saveAs = none →
    ∀ key, after.get? key = (output.get? key).or (before.get? key)
  wrapped : ∀ output own, result = .ok output → step.saveAs = some own →
    ∀ key, after.get? key = if key = own then some (.object output.entries) else before.get? key

namespace Outcome

def record (outcome : Outcome) : StepRecord := outcome.prepared.record outcome.step outcome.result 0

def apply (outcome : Outcome) (run : Run) : Run := run.apply outcome.step outcome.prepared outcome.result 0

/-- The state with the output merged in, flat or under the step's key; a failure has no output. -/
def merge (state : State) (outcome : Outcome) : State :=
  match outcome.result with
  | .ok output => state.merge output outcome.step.saveAs
  | .error _ => state

/-- How an outcome ends its pattern, if it does: as the failure of a step that halts. -/
def halt? (outcome : Outcome) : Option Interruption :=
  match outcome.record.error? with
  | some reason =>
    if outcome.step.halts then
      some (.error (.stepHalted outcome.record.index outcome.record.capability reason))
    else none
  | none => none

theorem reports (outcome : Outcome) : outcome.record.Reports outcome.step outcome.result := by
  obtain ⟨step, prepared, result⟩ := outcome
  cases result with
  | error error =>
    refine ⟨⟨nofun, nofun⟩, nofun, nofun, nofun, fun same told => ?_⟩
    cases told
    exact ⟨rfl, rfl, rfl⟩
  | ok output =>
    refine ⟨⟨fun _ => ⟨output, rfl⟩, fun _ => rfl⟩, fun _ _ => ⟨rfl, rfl⟩, fun same told flat => ?_,
      fun same key told wraps => ?_, nofun⟩
    · cases told
      change State.producedKeys output step.saveAs = output.keys
      rw [flat]
      rfl
    · change State.producedKeys output step.saveAs = [key]
      rw [wraps]
      rfl

theorem takes (outcome : Outcome) (run : Run) :
    State.Takes outcome.step outcome.result run.state (outcome.apply run).state := by
  obtain ⟨step, prepared, result⟩ := outcome
  cases result with
  | error => exact ⟨fun _ _ => rfl, nofun, nofun⟩
  | ok output =>
    refine ⟨nofun, fun same told flat key => ?_, fun same own told wraps key => ?_⟩
    · cases told
      change (State.merge run.state output step.saveAs).get? key = _
      rw [flat]
      exact Dict.get?_extend output.ascending run.state key
    · cases told
      change (State.merge run.state output step.saveAs).get? key = _
      rw [wraps, State.merge, Dict.get?_insert]
      simp only [eq_comm]

theorem halt?_ne_none_iff {outcome : Outcome} :
    outcome.halt? ≠ none ↔ outcome.step.halts = true ∧ outcome.record.isOk = false := by
  obtain ⟨step, prepared, result⟩ := outcome
  cases result <;>
    simp [halt?, record, PreparedStep.record, StepRecord.error?, StepRecord.isOk, Except.map, Except.isOk,
      Except.toBool]

theorem halt?_eq_some {outcome : Outcome} {interruption : Interruption}
    (halts : outcome.halt? = some interruption) :
    ∃ reason, outcome.record.error? = some reason ∧
      interruption = .error (.stepHalted outcome.record.index outcome.record.capability reason) := by
  unfold halt? at halts
  split at halts
  next reason told =>
    split at halts
    · exact ⟨reason, told, (Option.some.inj halts).symm⟩
    · cases halts
  next => cases halts

theorem trace_foldl_apply (outcomes : List Outcome) (run : Run) :
    (outcomes.foldl (fun run outcome => outcome.apply run) run).trace =
      run.trace ++ outcomes.map record := by
  induction outcomes generalizing run with
  | nil => simp
  | cons outcome rest ih =>
    rw [List.foldl_cons, ih, List.map_cons, List.append_cons]
    rfl

theorem state_foldl_apply (outcomes : List Outcome) (run : Run) :
    (outcomes.foldl (fun run outcome => outcome.apply run) run).state =
      outcomes.foldl merge run.state := by
  induction outcomes generalizing run with
  | nil => rfl
  | cons outcome rest ih =>
    rw [List.foldl_cons, ih]
    rfl

end Outcome

end Orchestra
