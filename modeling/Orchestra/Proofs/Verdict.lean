import Orchestra.Capability.Builtin
import Orchestra.Proofs.Attempt

namespace Orchestra

variable {σ : Type}

/-- What an envelope says of the steps of a pattern that started like this. -/
structure Runner.Verdict (runner : Runner σ) (nested : Nested σ) (mode : StepMode) (pattern : Pattern)
    (start : Live σ) (envelope : Envelope) : Prop where
  patternId : envelope.patternId = pattern.id
  /-- The steps that the run comes to are those with an entry; so they are the first ones. -/
  executed : ∀ i, (∃ before, runner.ComesTo nested mode pattern.steps 0 start i before) ↔
    i < envelope.trace.length
  /-- An entry has its place as index, and tells what the step of that place was served with, by the capability that
  was chosen for it. -/
  entry : ∀ (i : Nat) (record : StepRecord), envelope.trace[i]? = some record → record.index = i ∧
    ∃ step result, runner.ServedBy nested mode pattern.steps 0 start i step record.capability result ∧
      record.Reports step result
  /-- A failure of a step that halts is the last entry. -/
  last : ∀ (i : Nat) (record : StepRecord) (step : Step), envelope.trace[i]? = some record →
    pattern.steps[i]? = some step → step.halts = true → record.isOk = false → i + 1 = envelope.trace.length
  /-- Success is the absence of a failure of a step that halts. -/
  success_iff : envelope.success = true ↔ ∀ (i : Nat) (record : StepRecord) (step : Step),
    envelope.trace[i]? = some record → pattern.steps[i]? = some step → step.halts = true → record.isOk = true
  /-- So it is success that every step that halts is served with an output, if it is served. -/
  served_iff : envelope.success = true ↔ ∀ (i : Nat) (step : Step) (capability : String)
    (result : Except CallError (Dict Json)),
    runner.ServedBy nested mode pattern.steps 0 start i step capability result → step.halts = true →
      ∃ output, result = .ok output
  through : envelope.success = true →
    envelope.trace.length = pattern.steps.length ∧ envelope.errorText = none
  /-- A run without success ends in a failure that halts, and names it as its last entry does. -/
  halted : envelope.success = false → ∃ record step error reason, envelope.trace.getLast? = some record ∧
    runner.ServedBy nested mode pattern.steps 0 start (envelope.trace.length - 1) step record.capability
      (.error error) ∧
    step.halts = true ∧ record.Reports step (.error error) ∧ record.error? = some reason ∧
    envelope.errorText = some ("Step " ++ toString (envelope.trace.length - 1) ++ " (" ++ record.capability ++
      ") failed and halted the pattern: " ++ reason)
  data : envelope.data = (pattern.outputs.resolve envelope.state).data
  warnings : envelope.warnings = (pattern.outputs.resolve envelope.state).warnings
  /-- Where no step halts, nothing that a capability does denies success. -/
  steady : (∀ step ∈ pattern.steps, step.halts = false) → envelope.success = true

namespace Runner

variable {runner : Runner σ} {nested : Nested σ} {mode : StepMode} {pattern : Pattern} {live after : Live σ}
  {steps : List Step} {index : Nat} {outcomes : List Outcome} {stop : Option Interruption}
  {error : Option RunError}

theorem map_error_ne_panic (error : Option RunError) (panic : Panic) :
    error.map Interruption.error ≠ some (.panic panic) := by
  cases error <;> nofun

theorem Course.outcome_of_entry (course : runner.Course nested mode pattern.steps 0 live outcomes stop after)
    (fresh : live.run.trace = []) {i : Nat} {record : StepRecord}
    (atEntry : (conclude pattern after.run error).trace[i]? = some record) :
    ∃ outcome, outcomes[i]? = some outcome ∧ outcome.record = record ∧
      pattern.steps[i]? = some outcome.step := by
  rw [course.trace_conclude fresh, List.getElem?_map, Option.map_eq_some_iff] at atEntry
  obtain ⟨outcome, atOutcome, same⟩ := atEntry
  exact ⟨outcome, atOutcome, same, (course.serves atOutcome).1⟩

theorem Course.entry_of_outcome (course : runner.Course nested mode pattern.steps 0 live outcomes stop after)
    (fresh : live.run.trace = []) {i : Nat} {outcome : Outcome} (atOutcome : outcomes[i]? = some outcome) :
    (conclude pattern after.run error).trace[i]? = some outcome.record := by
  rw [course.trace_conclude fresh, List.getElem?_map, atOutcome]
  rfl

/-- A step that is served has an outcome, by which it is served. -/
theorem Course.outcome_of_servedBy (course : runner.Course nested mode steps index live outcomes stop after)
    (attended : Attended after.sink) (calm : ∀ panic, stop ≠ some (.panic panic)) {i : Nat} {step : Step}
    {capability : String} {result : Except CallError (Dict Json)}
    (served : runner.ServedBy nested mode steps index live i step capability result) :
    ∃ outcome, outcomes[i]? = some outcome ∧ outcome.step = step ∧ outcome.result = result := by
  have ⟨before, _, _, _, reached, _⟩ := served
  have within : i < outcomes.length := course.lt_of_comesTo attended calm reached
  have atOutcome : outcomes[i]? = some outcomes[i] := List.getElem?_eq_getElem within
  obtain ⟨own, _, same⟩ := (course.servedBy atOutcome).unique served
  exact ⟨outcomes[i], atOutcome, own, same⟩

/-- Without an error, every step was served, and none of them halted. -/
theorem Course.clean (course : runner.Course nested mode steps index live outcomes none after)
    (attended : Attended after.sink) :
    outcomes.length = steps.length ∧ ∀ outcome ∈ outcomes, outcome.halt? = none := by
  rcases course.ending attended with ⟨_, length, goOn⟩ | ⟨_, _, _, some⟩ | ⟨_, panics⟩
  · exact ⟨length, goOn⟩
  · exact absurd rfl some
  · cases panics

/-- An error is the failure of the last step that was served, and that step halts. -/
theorem Course.broken {reason : RunError}
    (course : runner.Course nested mode steps index live outcomes (some (.error reason)) after)
    (attended : Attended after.sink) :
    ∃ outcome, outcomes[outcomes.length - 1]? = some outcome ∧ outcome.halt? = some (.error reason) := by
  rcases course.ending attended with ⟨none, _⟩ | ⟨outcome, last, halts, _⟩ | ⟨_, panics⟩
  · cases none
  · exact ⟨outcome, List.getLast?_eq_getElem? ▸ last, halts⟩
  · cases panics

section Concluded

variable (course : runner.Course nested mode pattern.steps 0 live outcomes (error.map .error) after)
  (attended : Attended after.sink) (fresh : live.run.trace = [])

include course attended fresh

theorem Course.success_iff : (conclude pattern after.run error).success = true ↔
    ∀ (i : Nat) (record : StepRecord) (step : Step),
      (conclude pattern after.run error).trace[i]? = some record →
      pattern.steps[i]? = some step → step.halts = true → record.isOk = true := by
  cases error with
  | none =>
    refine ⟨fun _ i record step atEntry atStep halts => ?_, fun _ => rfl⟩
    obtain ⟨outcome, atOutcome, rfl, own⟩ := course.outcome_of_entry fresh atEntry
    cases atStep.symm.trans own
    have goesOn := (course.clean attended).2 outcome (List.mem_of_getElem? atOutcome)
    cases ok : outcome.record.isOk with
    | true => rfl
    | false => exact absurd goesOn (Outcome.halt?_ne_none_iff.mpr ⟨halts, ok⟩)
  | some reason =>
    refine ⟨nofun, fun succeeds => ?_⟩
    obtain ⟨outcome, atOutcome, stops⟩ := course.broken attended
    have failed := Outcome.halt?_ne_none_iff.mp (by rw [stops]; nofun)
    have ok := succeeds _ outcome.record outcome.step (course.entry_of_outcome fresh atOutcome)
      (course.serves atOutcome).1 failed.1
    rw [failed.2] at ok
    cases ok

theorem Course.served_iff : (conclude pattern after.run error).success = true ↔
    ∀ (i : Nat) (step : Step) (capability : String) (result : Except CallError (Dict Json)),
      runner.ServedBy nested mode pattern.steps 0 live i step capability result → step.halts = true →
        ∃ output, result = .ok output := by
  rw [course.success_iff attended fresh]
  constructor
  · intro succeeds i step capability result served halts
    obtain ⟨outcome, atOutcome, rfl, rfl⟩ :=
      course.outcome_of_servedBy attended (map_error_ne_panic error) served
    have ok := succeeds i outcome.record outcome.step (course.entry_of_outcome fresh atOutcome)
      (course.serves atOutcome).1 halts
    exact outcome.reports.isOk_iff.mp ok
  · intro outputs i record step atEntry atStep halts
    obtain ⟨outcome, atOutcome, rfl, own⟩ := course.outcome_of_entry fresh atEntry
    cases atStep.symm.trans own
    have output := outputs i outcome.step _ outcome.result (course.servedBy atOutcome) halts
    exact outcome.reports.isOk_iff.mpr output

end Concluded

theorem Course.halted {reason : RunError}
    (course : runner.Course nested mode pattern.steps 0 live outcomes (some (.error reason)) after)
    (attended : Attended after.sink) :
    ∃ outcome failure told, outcomes[outcomes.length - 1]? = some outcome ∧ outcome.step.halts = true ∧
      outcome.result = .error failure ∧ outcome.record.error? = some told ∧
      reason = .stepHalted (outcomes.length - 1) outcome.record.capability told := by
  obtain ⟨outcome, atOutcome, stops⟩ := course.broken attended
  obtain ⟨told, error, same⟩ := Outcome.halt?_eq_some stops
  obtain ⟨_, _, _, gate, chosen, _⟩ := course.serves atOutcome
  have place : outcome.record.index = outcomes.length - 1 :=
    (Step.prepare_ok (congrArg Prod.fst chosen)).1.trans (Nat.zero_add _)
  obtain ⟨halts, failed⟩ := Outcome.halt?_ne_none_iff.mp (by rw [stops]; nofun)
  rw [place] at same
  cases result : outcome.result with
  | ok output =>
    have ok := outcome.reports.isOk_iff.mpr ⟨output, result⟩
    rw [failed] at ok
    cases ok
  | error failure => exact ⟨outcome, failure, told, atOutcome, halts, result, error, Interruption.error.inj same⟩

/-- The conclusion of a course that nobody left and that did not break off. -/
theorem Course.verdict
    (course : runner.Course nested mode pattern.steps 0 live outcomes (error.map .error) after)
    (attended : Attended after.sink) (fresh : live.run.trace = []) :
    runner.Verdict nested mode pattern live (conclude pattern after.run error) := by
  have trace : (conclude pattern after.run error).trace = outcomes.map Outcome.record :=
    course.trace_conclude fresh
  have length : (conclude pattern after.run error).trace.length = outcomes.length := by
    rw [trace, List.length_map]
  refine ⟨rfl, fun i => ?_, fun i record atEntry => ?_, fun i record step atEntry atStep halts failed => ?_,
    course.success_iff attended fresh, course.served_iff attended fresh, fun succeeds => ?_, fun fails => ?_, rfl,
    rfl, fun steady => ?_⟩
  · rw [length]
    refine ⟨fun ⟨before, reached⟩ => course.lt_of_comesTo attended (map_error_ne_panic error) reached,
      fun within => ?_⟩
    obtain ⟨_, before, reached, _⟩ := course.serves (List.getElem?_eq_getElem within)
    exact ⟨before, reached⟩
  · obtain ⟨outcome, atOutcome, rfl, _⟩ := course.outcome_of_entry fresh atEntry
    obtain ⟨_, _, _, gate, chosen, _⟩ := course.serves atOutcome
    have place : outcome.record.index = 0 + i := (Step.prepare_ok (congrArg Prod.fst chosen)).1
    exact ⟨place.trans (Nat.zero_add i), outcome.step, outcome.result, course.servedBy atOutcome, outcome.reports⟩
  · obtain ⟨outcome, atOutcome, rfl, own⟩ := course.outcome_of_entry fresh atEntry
    cases atStep.symm.trans own
    rw [length]
    exact course.halt?_last atOutcome (Outcome.halt?_ne_none_iff.mpr ⟨halts, failed⟩)
  · cases error with
    | some => cases succeeds
    | none => exact ⟨length.trans (course.clean attended).1, rfl⟩
  · cases error with
    | none => cases fails
    | some reason =>
      obtain ⟨outcome, failure, told, atOutcome, halts, result, error, rfl⟩ := course.halted attended
      have served := course.servedBy atOutcome
      have reports := outcome.reports
      rw [result] at served reports
      rw [length]
      refine ⟨outcome.record, outcome.step, failure, told, ?_, served, halts, reports, error, rfl⟩
      rw [trace, List.getLast?_eq_getElem?, List.length_map, List.getElem?_map, atOutcome]
      rfl
  · refine (course.success_iff attended fresh).mpr fun i record step _ atStep halts => ?_
    rw [steady step (List.mem_of_getElem? atStep)] at halts
    cases halts

/-- A pattern whose reader is still there in the end and whose flags' loads do not panic ends in an envelope,
and that tells exactly how its steps went. -/
theorem runPattern_verdict (runner : Runner σ) (nested : Nested σ) (mode : StepMode) (pattern : Pattern)
    (inputs : Dict Json) (depth : Nat) (session : Session σ) (sink : Option Sink)
    (attended : Attended (runner.runPattern nested mode pattern inputs depth session sink).2.2)
    (calm : ∀ panic, ¬ runner.BreaksBy nested mode pattern.steps 0
      (enter pattern inputs depth session sink).2 panic) :
    ∃ envelope, (runner.runPattern nested mode pattern inputs depth session sink).1 = .done envelope ∧
      runner.Verdict nested mode pattern (enter pattern inputs depth session sink).2 envelope := by
  have attempted := runner.runPattern_attempted nested mode pattern inputs depth session sink
  have heard := enter_heard pattern inputs depth session sink
  generalize runner.runPattern nested mode pattern inputs depth session sink = ended at attempted attended ⊢
  obtain ⟨attempt, final, last⟩ := ended
  cases attempted with
  | refused _ absent => exact absurd attended absent
  | panicked _ ran => exact absurd (runSteps_panic_iff.mp (congrArg Prod.fst ran)) (calm _)
  | @done stop error after _ _ ran ended kept =>
    obtain ⟨outcomes, course⟩ := runner.runSteps_course nested mode pattern.steps 0
      (enter pattern inputs depth session sink).2
    rw [ran] at course
    rcases ended with rfl | ⟨_, _, absent⟩
    · exact ⟨_, rfl, course.verdict (kept attended) (by rw [heard.run])⟩
    · exact absurd attended absent

/-- A runner with the builtin capabilities and nothing else. -/
def bare : Runner Unit := { registry := Builtin.registry, catalog := .empty }

/-- A failure that is passed over, a step behind a flag, a failure that halts, and a step after it. -/
def haltingPattern : Pattern where
  id := "halting"
  steps := [
    { capability := "absent" },
    { capability := "echo", reroute := some ⟨"beta", "absent"⟩ },
    { capability := "absent", onError := .stop },
    { capability := "echo" }]

/-- A session whose gate loads an empty configuration at every decision. -/
def gatedSession : Session Unit where
  handlers := ()
  gate := some ⟨.constant ∅, .always, none⟩
  telemetry := { capacity := 1 }

theorem runPattern_verdict_halting :
    Attended (bare.runPattern (bare.nested 0) .evented haltingPattern ∅ 0 gatedSession (some {})).2.2 ∧
      (∀ panic, ¬ bare.BreaksBy (bare.nested 0) .evented haltingPattern.steps 0
        (enter haltingPattern ∅ 0 gatedSession (some {})).2 panic) ∧
      ∃ envelope,
        (bare.runPattern (bare.nested 0) .evented haltingPattern ∅ 0 gatedSession (some {})).1 =
          .done envelope ∧
        bare.Verdict (bare.nested 0) .evented haltingPattern
          (enter haltingPattern ∅ 0 gatedSession (some {})).2 envelope := by
  have attended : Attended
      (bare.runPattern (bare.nested 0) .evented haltingPattern ∅ 0 gatedSession (some {})).2.2 := by
    intro present last
    have still : ((bare.runPattern (bare.nested 0) .evented haltingPattern ∅ 0 gatedSession
      (some {})).2.2.map Sink.closed) = some false := by rfl
    rw [last] at still
    exact Option.some.inj still
  have calm (panic : Panic) : ¬ bare.BreaksBy (bare.nested 0) .evented haltingPattern.steps 0
      (enter haltingPattern ∅ 0 gatedSession (some {})).2 panic := by
    have ended : (bare.runSteps (bare.nested 0) .evented haltingPattern.steps 0
        (enter haltingPattern ∅ 0 gatedSession (some {})).2).1 =
          some (.error (.stepHalted 2 "absent" "Capability not found: absent")) := by decide
    rw [← runSteps_panic_iff, ended]
    nofun
  exact ⟨attended, calm, runPattern_verdict bare (bare.nested 0) .evented haltingPattern ∅ 0 gatedSession
    (some {}) attended calm⟩

end Runner

end Orchestra
