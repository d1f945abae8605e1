import Orchestra.Proofs.Check
import Orchestra.Proofs.Course

namespace Orchestra

variable {σ : Type}

namespace Runner

/-- The step of this number is served, has this entry, and offers these events. -/
inductive Tells (runner : Runner σ) (nested : Nested σ) (mode : StepMode) (steps : List Step) (index : Nat)
    (live : Live σ) (i : Nat) : StepRecord → List Event → Prop
  | served {step before prepared gate result after} : steps[i]? = some step →
      runner.ComesTo nested mode steps index live i before →
      step.prepare (index + i) before.run before.session.gate = (.ok prepared, gate) →
      runner.serve nested mode prepared before.run { before.session with gate } = (result, after) →
      (runner.runSteps nested mode (steps.take (i + 1)) index live).2.run =
        (Outcome.mk step prepared result).apply before.run →
      Tells runner nested mode steps index live i (prepared.record step result 0)
        (offered (runner.offers nested mode step prepared before.run { before.session with gate }))

variable {runner : Runner σ} {nested : Nested σ} {mode : StepMode} {step : Step} {rest : List Step} {index i : Nat}
  {live middle : Live σ} {record : StepRecord} {part : List Event}

theorem Tells.succ (tells : runner.Tells nested mode rest (index + 1) middle i record part)
    (ran : runner.runStep nested mode step index live = (none, middle)) :
    runner.Tells nested mode (step :: rest) index live (i + 1) record part := by
  cases tells with
  | served atStep reached chosen served after =>
    rw [Nat.add_right_comm] at chosen
    refine .served atStep (comesTo_succ_iff.mpr ⟨middle, ran, reached⟩) chosen served ?_
    rw [List.take_succ_cons, runSteps, ran]
    exact after

theorem runSteps_tells (runner : Runner σ) (nested : Nested σ) (mode : StepMode) (steps : List Step) (index : Nat)
    (run : Run) (session : Session σ) :
    ∃ (records : List StepRecord) (parts : List (List Event)),
      (runner.runSteps nested mode steps index ⟨run, session, none⟩).2.run.trace = run.trace ++ records ∧
      offered (runner.checksFrom nested mode steps index run session) = parts.flatten ∧
      parts.length = records.length ∧
      ∀ (i : Nat) (record : StepRecord) (part : List Event), records[i]? = some record → parts[i]? = some part →
        runner.Tells nested mode steps index ⟨run, session, none⟩ i record part := by
  induction steps generalizing index run session with
  | nil => exact ⟨[], [], by simp [runSteps], rfl, rfl, by simp⟩
  | cons step rest ih =>
    rw [runSteps, checksFrom, offered_append, runStep_alone]
    rcases runner.advance_cases nested mode step index run session with
      ⟨panic, gate, _, ended, checks⟩ | ⟨prepared, gate, result, after, chosen, served, ended, checks⟩
    · rw [ended, checks]
      exact ⟨[], [], by simp, rfl, rfl, by simp⟩
    · have first : runner.Tells nested mode (step :: rest) index ⟨run, session, none⟩ 0
          (prepared.record step result 0)
          (offered (runner.offers nested mode step prepared run { session with gate })) := by
        refine .served rfl (comesTo_zero ..) chosen served ?_
        rw [List.take_succ_cons, List.take_zero, runSteps, runStep_alone, ended]
        cases (Outcome.mk step prepared result).halt? <;> rfl
      rw [ended, checks, offered_cons]
      cases halts : (Outcome.mk step prepared result).halt? with
      | some interruption =>
        refine ⟨[prepared.record step result 0],
          [offered (runner.offers nested mode step prepared run { session with gate })], rfl, ?_, rfl, ?_⟩
        · simp [offered]
        · intro i record part atRecord atPart
          cases i with
          | succ i => cases atRecord
          | zero =>
            cases atRecord
            cases atPart
            exact first
      | none =>
        obtain ⟨records, parts, trace, events, length, tells⟩ :=
          ih (index + 1) ((Outcome.mk step prepared result).apply run) after
        have onward := (runner.runStep_alone nested mode step index run session).trans ended
        rw [halts] at onward
        refine ⟨prepared.record step result 0 :: records,
          offered (runner.offers nested mode step prepared run { session with gate }) :: parts, ?_, ?_,
          congrArg Nat.succ length, ?_⟩
        · dsimp only
          rw [trace]
          exact List.append_assoc ..
        · dsimp only
          rw [events, List.flatten_cons]
          rfl
        · intro i record part atRecord atPart
          cases i with
          | zero =>
            cases atRecord
            cases atPart
            exact first
          | succ i => exact (tells i record part atRecord atPart).succ onward

end Runner

end Orchestra
