import Orchestra.Proofs.Act
import Orchestra.Proofs.Check

namespace Orchestra

variable {σ : Type}

/-- How many entries there are when an event is offered that tells of a step, or of the start. -/
def Event.entries? : Event → Option Nat
  | patternStart .. => some 0
  | stepStart index .. => some index
  | textChunk index _ => some index
  | stepComplete index .. => some (index + 1)
  | stepError index .. => some (index + 1)
  | _ => none

theorem StepRecord.entries?_telling (record : StepRecord) (halted : Bool) :
    (record.telling halted).entries? = some (record.index + 1) := by
  unfold StepRecord.telling
  cases record.error? <;> rfl

namespace Runner

/-- A check of the step with this index, which finds the run and the session like this. -/
inductive CheckOf (runner : Runner σ) (nested : Nested σ) (mode : StepMode) (step : Step) (index : Nat) (run : Run)
    (session : Session σ) : Check σ → Prop
  | look : CheckOf runner nested mode step index run session ⟨none, run, session⟩
  | start {prepared gate capability description} : step.prepare index run session.gate = (.ok prepared, gate) →
      CheckOf runner nested mode step index run session
        ⟨some (.stepStart index capability description), run, { session with gate }⟩
  | piece {prepared gate text} : step.prepare index run session.gate = (.ok prepared, gate) →
      CheckOf runner nested mode step index run session
        ⟨some (.textChunk index text), run, (runner.serve nested mode prepared run { session with gate }).2⟩
  | told {prepared gate result after halted} : step.prepare index run session.gate = (.ok prepared, gate) →
      runner.serve nested mode prepared run { session with gate } = (result, after) →
      CheckOf runner nested mode step index run session
        ⟨some ((Outcome.mk step prepared result).record.telling halted),
          (Outcome.mk step prepared result).apply run, after⟩

variable {runner : Runner σ} {nested : Nested σ} {mode : StepMode} {step : Step} {steps : List Step} {index : Nat}
  {run : Run} {session : Session σ} {check : Check σ} {context : CallContext}

theorem checkOf_of_mem (member : check ∈ runner.stepChecks nested mode step index run session) :
    runner.CheckOf nested mode step index run session check := by
  rcases runner.advance_cases nested mode step index run session with
    ⟨_, _, _, _, checks⟩ | ⟨prepared, gate, result, after, chosen, served, _, checks⟩
  · rw [checks] at member
    cases List.mem_singleton.mp member
    exact .look
  · rw [checks] at member
    rcases List.mem_cons.mp member with rfl | member
    · exact .look
    · have place : prepared.index = index := (Step.prepare_ok (congrArg Prod.fst chosen)).1
      rw [offers, served, place] at member
      cases mode with
      | evented =>
        simp only [List.mem_cons, List.not_mem_nil, or_false] at member
        rcases member with rfl | rfl
        · exact .start chosen
        · exact .told chosen served
      | tokens generative =>
        dsimp only at member
        split at member
        · rcases List.mem_append.mp member with spoken | last
          · obtain ⟨piece, _, rfl⟩ := List.mem_map.mp spoken
            have piece : runner.CheckOf nested (.tokens generative) step index run session
                ⟨some (.textChunk index piece), run, _⟩ := .piece chosen
            rwa [served] at piece
          · cases List.mem_singleton.mp last
            exact .told chosen served
        · cases member

/-- Every check of steps belongs to one that they come to. -/
theorem exists_checkOf (member : check ∈ runner.checksFrom nested mode steps index run session) :
    ∃ i step before, steps[i]? = some step ∧
      runner.ComesTo nested mode steps index ⟨run, session, none⟩ i before ∧ before.sink = none ∧
      runner.CheckOf nested mode step (index + i) before.run before.session check := by
  induction steps generalizing index run session with
  | nil => cases member
  | cons step rest ih =>
    rw [checksFrom] at member
    rcases List.mem_append.mp member with first | later
    · exact ⟨0, step, _, rfl, comesTo_zero .., rfl, checkOf_of_mem first⟩
    · have alone := runner.advance_sink nested mode step index run session
      rw [← runStep_alone] at alone
      cases ran : runner.runStep nested mode step index ⟨run, session, none⟩ with
      | mk interruption middle =>
        rw [ran] at later alone
        cases interruption with
        | some => cases later
        | none =>
          obtain ⟨run', session', sink⟩ := middle
          cases alone
          obtain ⟨i, found, before, atStep, reached, quiet, checkOf⟩ := ih later
          rw [Nat.add_right_comm] at checkOf
          exact ⟨i + 1, found, before, atStep, comesTo_succ_iff.mpr ⟨_, ran, reached⟩, quiet, checkOf⟩

/-- The run at a check is that after the first steps, as many as the check's event tells. -/
theorem exists_take_of_mem (member : check ∈ runner.checksFrom nested mode steps index run session) :
    ∃ k, check.run = (runner.runSteps nested mode (steps.take k) index ⟨run, session, none⟩).2.run ∧
      check.run.trace.length = run.trace.length + k ∧
      ∀ event, check.event = some event → event.entries? = some (index + k) := by
  obtain ⟨i, step, before, atStep, reached, quiet, checkOf⟩ := exists_checkOf member
  have here : before.run = (runner.runSteps nested mode (steps.take i) index ⟨run, session, none⟩).2.run := by
    rw [reached.2]
  have length : before.run.trace.length = run.trace.length + i := reached.length_trace
  cases checkOf with
  | look => exact ⟨i, here, length, nofun⟩
  | start =>
    refine ⟨i, here, length, fun event offer => ?_⟩
    cases offer
    rfl
  | piece =>
    refine ⟨i, here, length, fun event offer => ?_⟩
    cases offer
    rfl
  | @told prepared gate result after halted chosen served =>
    have place : prepared.index = index + i := (Step.prepare_ok (congrArg Prod.fst chosen)).1
    refine ⟨i + 1, ?_, ?_, fun event offer => ?_⟩
    · obtain ⟨run, session, sink⟩ := before
      cases quiet
      rw [reached.runSteps_take_succ atStep, runStep_alone, advance, chosen]
      dsimp only
      rw [served]
    · have one : ((Outcome.mk step prepared result).apply before.run).trace.length = before.run.trace.length + 1 :=
        List.length_append
      rw [one, length, Nat.add_assoc]
    · cases offer
      rw [StepRecord.entries?_telling, ← Nat.add_assoc, ← place]
      rfl

section Acts

theorem runSteps_acts (runner : Runner σ) (mode : StepMode) (steps : List Step) (index : Nat) {live : Live σ}
    (here : live.run.context = context) :
    runner.Acts context live.session
      (runner.runSteps (runner.nested context.depth) mode steps index live).2.session := by
  obtain ⟨_, course⟩ := runner.runSteps_course (runner.nested context.depth) mode steps index live
  exact course.acts here

theorem Course.context_eq {live after : Live σ} {outcomes : List Outcome} {stop : Option Interruption}
    (course : runner.Course nested mode steps index live outcomes stop after) :
    after.run.context = live.run.context := by
  induction course with
  | done => rfl
  | next _ stepped _ ih => exact ih.trans stepped.context_eq
  | stopped _ stepped => exact stepped.context_eq

theorem CheckOf.acts (here : run.context = context)
    (checkOf : runner.CheckOf (runner.nested context.depth) mode step index run session check) :
    runner.Acts context session check.session ∧
      runner.Acts context check.session
        (runner.advance (runner.nested context.depth) mode step index run session).2.session := by
  have prepares := prepare_acts runner step index here session
  have serves (prepared : PreparedStep) (session : Session σ) := serve_acts runner mode prepared here session
  cases checkOf with
  | look =>
    obtain ⟨_, stepped⟩ := runner.runStep_stepped (runner.nested context.depth) mode step index
      ⟨run, session, none⟩
    rw [runStep_alone] at stepped
    exact ⟨.start, stepped.acts here⟩
  | start chosen =>
    rw [chosen] at prepares
    rw [advance, chosen]
    exact ⟨prepares, serves ..⟩
  | piece chosen =>
    rw [chosen] at prepares
    rw [advance, chosen]
    exact ⟨prepares.trans (serves ..), .start⟩
  | @told prepared gate _ _ _ chosen served =>
    have acts := serves prepared { session with gate }
    rw [chosen] at prepares
    rw [served] at acts
    rw [advance, chosen]
    dsimp only
    rw [served]
    exact ⟨prepares.trans acts, .start⟩

/-- Steps act up to each of their checks, and from there on to their end. -/
theorem acts_of_mem (here : run.context = context)
    (member : check ∈ runner.checksFrom (runner.nested context.depth) mode steps index run session) :
    runner.Acts context session check.session ∧
      runner.Acts context check.session
        (runner.runSteps (runner.nested context.depth) mode steps index ⟨run, session, none⟩).2.session := by
  obtain ⟨i, step, before, atStep, reached, quiet, checkOf⟩ := exists_checkOf member
  obtain ⟨outcomes, course⟩ := runner.runSteps_course (runner.nested context.depth) mode (steps.take i) index
    ⟨run, session, none⟩
  rw [reached.2] at course
  have there : before.run.context = context := course.context_eq.trans here
  obtain ⟨earlier, later⟩ := checkOf.acts there
  obtain ⟨within, same⟩ := List.getElem?_eq_some_iff.mp atStep
  obtain ⟨run', session', sink⟩ := before
  cases quiet
  refine ⟨(course.acts here).trans earlier, later.trans ?_⟩
  -- After the step with the check, the steps behind it act on in the same context.
  rw [reached.runSteps_eq, List.drop_eq_getElem_cons within, same, runSteps, runStep_alone]
  obtain ⟨outcome, stepped⟩ := runner.runStep_stepped (runner.nested context.depth) mode step (index + i)
    ⟨run', session', none⟩
  rw [runStep_alone] at stepped
  cases ended : runner.advance (runner.nested context.depth) mode step (index + i) run' session' with
  | mk interruption middle =>
    rw [ended] at stepped
    cases interruption with
    | some => exact .start
    | none => exact runner.runSteps_acts mode _ _ (stepped.context_eq.trans there)

end Acts

end Runner

end Orchestra
