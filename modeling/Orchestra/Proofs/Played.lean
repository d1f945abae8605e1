import Orchestra.Proofs.Containment
import Orchestra.Proofs.Stream
import Orchestra.Proofs.Verdict

namespace Orchestra

variable {σ : Type}

namespace Runner

/-- A pattern at the top after its first steps, as far as it gets: what has ended it early, and the run. -/
def playedTo (runner : Runner σ) (mode : StepMode) (pattern : Pattern) (inputs : Dict Json) (session : Session σ)
    (k : Nat) : Option Interruption × Live σ :=
  runner.runSteps (runner.nested 0) mode (pattern.steps.take k) 0 (fresh pattern inputs 0 session)

/-- A pattern at the top after all its steps, as far as it gets. -/
def played (runner : Runner σ) (mode : StepMode) (pattern : Pattern) (inputs : Dict Json) (session : Session σ) :
    Option Interruption × Live σ :=
  runner.runSteps (runner.nested 0) mode pattern.steps 0 (fresh pattern inputs 0 session)

variable {runner : Runner σ} {mode : StepMode} {pattern : Pattern} {inputs : Dict Json} {session : Session σ}
  {id : String} {panic : Panic}

theorem breaks_iff (known : runner.catalog.get? id = some pattern) :
    runner.Breaks mode id inputs 0 session none panic ↔
      (runner.played mode pattern inputs session).1 = some (.panic panic) := by
  rw [played, runSteps_panic_iff]
  constructor
  · rintro ⟨other, found, _, breaks⟩
    cases known.symm.trans found
    exact breaks
  · exact fun breaks => ⟨pattern, known, rfl, breaks⟩

/-- The checks of a known pattern: its announcement, those of its steps, and its completion if it gets there. -/
theorem checks_of_known (below : 0 < runner.options.maxDepth) (known : runner.catalog.get? id = some pattern)
    (mode : StepMode) (inputs : Dict Json) (session : Session σ) :
    runner.checks mode id inputs 0 session = firstCheck pattern inputs 0 session ::
      (runner.checksFrom (runner.nested 0) mode pattern.steps 0 (fresh pattern inputs 0 session).run session ++
        if (runner.played mode pattern inputs session).1 = none then
          [⟨some (.patternComplete id), (runner.played mode pattern inputs session).2.run,
            (runner.played mode pattern inputs session).2.session⟩]
        else []) := by
  rw [checks, if_neg (Nat.not_le.mpr below), known]
  dsimp only [laterChecks]
  rw [runner.catalog.keyed known, played]
  generalize runner.runSteps (runner.nested 0) mode pattern.steps 0 (fresh pattern inputs 0 session) = ended
  obtain ⟨_ | interruption, after⟩ := ended <;> rfl

theorem exists_error_of_calm (known : runner.catalog.get? id = some pattern)
    (calm : ∀ panic, ¬ runner.Breaks mode id inputs 0 session none panic) :
    ∃ error : Option RunError, (runner.played mode pattern inputs session).1 = error.map .error := by
  cases ended : (runner.played mode pattern inputs session).1 with
  | none => exact ⟨none, rfl⟩
  | some interruption =>
    cases interruption with
    | error error => exact ⟨some error, rfl⟩
    | panic panic => exact absurd ((breaks_iff known).mpr ended) (calm panic)

theorem contained_of_played {error : Option RunError} (below : 0 < runner.options.maxDepth)
    (known : runner.catalog.get? id = some pattern)
    (ended : (runner.played mode pattern inputs session).1 = error.map .error) :
    runner.contained mode id inputs 0 session none =
      (conclude pattern (runner.played mode pattern inputs session).2.run error,
        (runner.played mode pattern inputs session).2.session) := by
  have begun : enter pattern inputs 0 session none = (true, fresh pattern inputs 0 session) := rfl
  have alone : (runner.played mode pattern inputs session).2.sink = none := runner.runSteps_sink ..
  cases ran : runner.played mode pattern inputs session with
  | mk stop after =>
    rw [ran] at ended alone
    dsimp only at ended alone
    subst ended
    rw [played] at ran
    rw [contained, execute, if_neg (Nat.not_le.mpr below), known]
    dsimp only
    rw [runPattern, begun]
    dsimp only
    rw [ran]
    cases error with
    | some error => rfl
    | none =>
      obtain ⟨run, session, sink⟩ := after
      cases alone
      rfl

/-- A pattern is complete exactly if neither a flag's load panics nor a step that halts fails. -/
theorem played_none_iff (known : runner.catalog.get? id = some pattern) :
    (runner.played mode pattern inputs session).1 = none ↔
      (∀ (i : Nat) (record : StepRecord) (step : Step),
        (runner.played mode pattern inputs session).2.run.trace[i]? = some record →
        pattern.steps[i]? = some step → step.halts = true → record.isOk = true) ∧
      ∀ panic, ¬ runner.Breaks mode id inputs 0 session none panic := by
  have alone : (runner.played mode pattern inputs session).2.sink = none := runner.runSteps_sink ..
  have attended : Attended (runner.played mode pattern inputs session).2.sink := by
    rw [alone]
    nofun
  obtain ⟨outcomes, course⟩ := runner.runSteps_course (runner.nested 0) mode pattern.steps 0
    (fresh pattern inputs 0 session)
  change runner.Course _ _ _ _ _ _ (runner.played mode pattern inputs session).1
    (runner.played mode pattern inputs session).2 at course
  by_cases calm : ∀ panic, ¬ runner.Breaks mode id inputs 0 session none panic
  · obtain ⟨error, ended⟩ := exists_error_of_calm known calm
    rw [ended] at course ⊢
    have success := course.success_iff attended rfl
    rw [and_iff_left calm]
    refine Iff.trans ?_ success
    cases error <;> simp [conclude, Envelope.success]
  · refine ⟨fun complete => ?_, fun both => absurd both.2 calm⟩
    obtain ⟨panic, broken⟩ := Classical.not_forall_not.mp calm
    rw [breaks_iff known, complete] at broken
    cases broken

section At

variable {i : Nat} {step : Step} {before : Live σ}

/-- A pattern that comes to a step has one entry for each step before it, and goes on from there. -/
theorem played_eq_of_comesTo (atStep : pattern.steps[i]? = some step)
    (reached : runner.ComesTo (runner.nested 0) mode pattern.steps 0 (fresh pattern inputs 0 session) i before) :
    before.sink = none ∧ before.run.trace.length = i ∧
      runner.played mode pattern inputs session =
        runner.runSteps (runner.nested 0) mode (step :: pattern.steps.drop (i + 1)) i before := by
  have alone : (runner.playedTo mode pattern inputs session i).2.sink = none := runner.runSteps_sink ..
  have arrived : runner.playedTo mode pattern inputs session i = (none, before) := reached.2
  have length : before.run.trace.length = 0 + i := reached.length_trace
  obtain ⟨within, same⟩ := List.getElem?_eq_some_iff.mp atStep
  rw [arrived] at alone
  rw [Nat.zero_add] at length
  rw [played, reached.runSteps_eq, List.drop_eq_getElem_cons within, same, Nat.zero_add]
  exact ⟨alone, length, rfl⟩

theorem played_broken (atStep : pattern.steps[i]? = some step)
    (reached : runner.ComesTo (runner.nested 0) mode pattern.steps 0 (fresh pattern inputs 0 session) i before)
    (panics : step.FlagPanics before.session.gate panic) :
    (runner.played mode pattern inputs session).2.run.trace = before.run.trace ∧
      (runner.played mode pattern inputs session).2.run.trace.length = i := by
  obtain ⟨alone, length, goesOn⟩ := played_eq_of_comesTo atStep reached
  have failed : (step.prepare i before.run before.session.gate).1 = .error panic := Step.prepare_error_iff.mpr panics
  obtain ⟨run, session, sink⟩ := before
  cases alone
  rw [goesOn, runSteps, runStep_alone]
  rcases runner.advance_cases (runner.nested 0) mode step i run session with
    ⟨_, _, _, ended, _⟩ | ⟨_, _, _, _, chosen, _⟩
  · rw [ended]
    exact ⟨rfl, length⟩
  · rw [chosen] at failed
    cases failed

/-- A step that a pattern comes to has an entry, unless its flag's load panics. -/
theorem lt_length_of_comesTo (atStep : pattern.steps[i]? = some step)
    (reached : runner.ComesTo (runner.nested 0) mode pattern.steps 0 (fresh pattern inputs 0 session) i before)
    (calm : ∀ panic, ¬ step.FlagPanics before.session.gate panic) :
    i < (runner.played mode pattern inputs session).2.run.trace.length := by
  obtain ⟨alone, length, goesOn⟩ := played_eq_of_comesTo atStep reached
  obtain ⟨run, session, sink⟩ := before
  cases alone
  rw [goesOn, runSteps, runStep_alone]
  rcases runner.advance_cases (runner.nested 0) mode step i run session with
    ⟨panic, _, failed, _⟩ | ⟨prepared, _, result, after, _, _, ended, _⟩
  · exact absurd (Step.prepare_error_iff.mp (congrArg Prod.fst failed)) (calm panic)
  · have entries : ((Outcome.mk step prepared result).apply run).trace.length = i + 1 :=
      List.length_append.trans (congrArg Nat.succ length)
    rw [ended]
    cases (Outcome.mk step prepared result).halt? with
    | some => exact Nat.lt_of_lt_of_eq (Nat.lt_succ_self i) entries.symm
    | none =>
      have onward := runner.trace_isPrefix_runSteps (runner.nested 0) mode (pattern.steps.drop (i + 1)) (i + 1)
        ⟨(Outcome.mk step prepared result).apply run, after, none⟩
      have further := onward.length_le
      rw [entries] at further
      exact further

/-- Without a panic, a pattern gets no further than its entries. -/
theorem playedTo_length (known : runner.catalog.get? id = some pattern)
    (calm : ∀ panic, ¬ runner.Breaks mode id inputs 0 session none panic) :
    runner.playedTo mode pattern inputs session (runner.played mode pattern inputs session).2.run.trace.length =
      runner.played mode pattern inputs session := by
  generalize length : (runner.played mode pattern inputs session).2.run.trace.length = k
  have split := runner.runSteps_append (runner.nested 0) mode (pattern.steps.take k) (pattern.steps.drop k) 0
    (fresh pattern inputs 0 session)
  rw [List.take_append_drop] at split
  change runner.played mode pattern inputs session = _ at split
  cases ended : runner.playedTo mode pattern inputs session k with
  | mk interruption middle =>
    rw [playedTo] at ended
    rw [split, ended]
    cases interruption with
    | some => rfl
    | none =>
      by_cases within : k < pattern.steps.length
      · -- A step after the last entry would have been served, too.
        have atStep : pattern.steps[k]? = some pattern.steps[k] := List.getElem?_eq_getElem within
        have quiet (panic : Panic) : ¬ pattern.steps[k].FlagPanics middle.session.gate panic := by
          intro panics
          have alone : middle.sink = none := (played_eq_of_comesTo atStep ⟨within, ended⟩).1
          have here : middle.poll.1 = false := by rw [Live.poll, alone]
          have broken := runSteps_panic_iff.mpr ⟨k, _, middle, atStep, ⟨within, ended⟩, here, panics⟩
          exact calm panic ((breaks_iff known).mpr broken)
        have further := lt_length_of_comesTo atStep ⟨within, ended⟩ quiet
        exact absurd length (Nat.ne_of_gt further)
      · rw [List.drop_eq_nil_of_le (Nat.not_lt.mp within)]
        rfl

end At

end Runner

end Orchestra
