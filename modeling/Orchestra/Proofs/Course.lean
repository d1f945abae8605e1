import Orchestra.Proofs.Choice
import Orchestra.Proofs.Serving

namespace Orchestra

variable {σ : Type}

namespace Runner

/-- The steps go on without interruption to the one with this number, which finds the run like this. -/
def ComesTo (runner : Runner σ) (nested : Nested σ) (mode : StepMode) (steps : List Step) (index : Nat)
    (live : Live σ) (i : Nat) (before : Live σ) : Prop :=
  i < steps.length ∧ runner.runSteps nested mode (steps.take i) index live = (none, before)

/-- One of the steps finds its reader there, and the load that decides its flag panics. -/
def BreaksBy (runner : Runner σ) (nested : Nested σ) (mode : StepMode) (steps : List Step) (index : Nat)
    (live : Live σ) (panic : Panic) : Prop :=
  ∃ i step before, steps[i]? = some step ∧ runner.ComesTo nested mode steps index live i before ∧
    before.poll.1 = false ∧ step.FlagPanics before.session.gate panic

/-- From a run like this, the step of the outcome is prepared and served with its result. -/
def Serves (runner : Runner σ) (nested : Nested σ) (mode : StepMode) (index : Nat) (before : Live σ)
    (outcome : Outcome) : Prop :=
  ∃ gate, outcome.step.prepare index before.run before.session.gate = (.ok outcome.prepared, gate) ∧
    (runner.serve nested mode outcome.prepared before.run { before.session with gate }).1 = outcome.result

/-- The steps come to this one as the one of this number, and it is served by this capability with this result. -/
def ServedBy (runner : Runner σ) (nested : Nested σ) (mode : StepMode) (steps : List Step) (index : Nat)
    (live : Live σ) (i : Nat) (step : Step) (capability : String) (result : Except CallError (Dict Json)) : Prop :=
  ∃ before gate after, steps[i]? = some step ∧ runner.ComesTo nested mode steps index live i before ∧
    step.choose before.run before.session.gate = (.ok capability, gate) ∧
    runner.serve nested mode ⟨index + i, capability, Template.resolve before.run.inputs before.run.state step.args⟩
      before.run { before.session with gate } = (result, after)

/-- How steps go, the first of which has this index: the outcomes of those that are served, the interruption
if there is one, and the run at the end. -/
inductive Course (runner : Runner σ) (nested : Nested σ) (mode : StepMode) :
    List Step → Nat → Live σ → List Outcome → Option Interruption → Live σ → Prop
  | done {index live} : Course runner nested mode [] index live [] none live
  | next {step rest index live outcome middle outcomes stop after} :
      runner.runStep nested mode step index live = (none, middle) →
      runner.Stepped nested mode step index live (some outcome) none middle →
      Course runner nested mode rest (index + 1) middle outcomes stop after →
      Course runner nested mode (step :: rest) index live (outcome :: outcomes) stop after
  | stopped {step rest index live outcome interruption after} :
      runner.runStep nested mode step index live = (some interruption, after) →
      runner.Stepped nested mode step index live outcome (some interruption) after →
      Course runner nested mode (step :: rest) index live outcome.toList (some interruption) after

variable {runner : Runner σ} {nested : Nested σ} {mode : StepMode} {step : Step} {rest steps : List Step}
  {index : Nat} {live middle after : Live σ} {outcome : Outcome} {outcomes : List Outcome}
  {stop : Option Interruption}

theorem comesTo_zero (runner : Runner σ) (nested : Nested σ) (mode : StepMode) (step : Step)
    (rest : List Step) (index : Nat) (live : Live σ) :
    runner.ComesTo nested mode (step :: rest) index live 0 live :=
  ⟨Nat.succ_pos _, rfl⟩

theorem ComesTo.unique {i : Nat} {before other : Live σ}
    (reached : runner.ComesTo nested mode steps index live i before)
    (reached' : runner.ComesTo nested mode steps index live i other) : before = other :=
  congrArg Prod.snd (reached.2.symm.trans reached'.2)

theorem ServedBy.unique {i : Nat} {step other : Step} {capability capability' : String}
    {result result' : Except CallError (Dict Json)}
    (served : runner.ServedBy nested mode steps index live i step capability result)
    (served' : runner.ServedBy nested mode steps index live i other capability' result') :
    step = other ∧ capability = capability' ∧ result = result' := by
  obtain ⟨before, gate, after, atStep, reached, chosen, answer⟩ := served
  obtain ⟨before', gate', after', atStep', reached', chosen', answer'⟩ := served'
  cases atStep.symm.trans atStep'
  cases reached.unique reached'
  cases chosen.symm.trans chosen'
  exact ⟨rfl, rfl, congrArg Prod.fst (answer.symm.trans answer')⟩

/-- A step that is prepared and served is served by the capability that it is prepared for. -/
theorem ComesTo.servedBy {i : Nat} {before : Live σ} {prepared : PreparedStep} {gate : Option Gate}
    {result : Except CallError (Dict Json)} {last : Session σ}
    (reached : runner.ComesTo nested mode steps index live i before) (atStep : steps[i]? = some step)
    (ready : step.prepare (index + i) before.run before.session.gate = (.ok prepared, gate))
    (answer : runner.serve nested mode prepared before.run { before.session with gate } = (result, last)) :
    runner.ServedBy nested mode steps index live i step prepared.capability result := by
  obtain ⟨chosen, filled⟩ := Step.choose_of_prepare ready
  rw [filled] at answer
  exact ⟨before, gate, last, atStep, reached, chosen, answer⟩

theorem comesTo_succ_iff {i : Nat} {before : Live σ} :
    runner.ComesTo nested mode (step :: rest) index live (i + 1) before ↔
      ∃ middle, runner.runStep nested mode step index live = (none, middle) ∧
        runner.ComesTo nested mode rest (index + 1) middle i before := by
  simp only [ComesTo, List.take_succ_cons, runSteps, List.length_cons, Nat.add_lt_add_iff_right]
  cases runner.runStep nested mode step index live with
  | mk interruption middle => cases interruption <;> simp

/-- A step breaks off exactly if it finds its reader there and its flag's load panics. -/
theorem runStep_panic_iff (nested : Nested σ) (mode : StepMode) (index : Nat) {panic : Panic} :
    (runner.runStep nested mode step index live).1 = some (.panic panic) ↔
      live.poll.1 = false ∧ step.FlagPanics live.session.gate panic := by
  constructor
  · intro broken
    obtain ⟨outcome, stepped⟩ := runner.runStep_stepped nested mode step index live
    rw [broken] at stepped
    cases stepped with
    | panicked here failed => exact ⟨here, Step.prepare_error_iff.mp (congrArg Prod.fst failed)⟩
    | @served _ _ outcome taken _ _ _ _ stop =>
      -- A served step is interrupted by a refusal or by its failure, neither of which is a panic.
      cases taken
      · cases stop
      · simp only [Outcome.halt?, if_true] at stop
        split at stop
        · split at stop <;> cases stop
        · cases stop
  · rintro ⟨here, panics⟩
    unfold runStep
    split
    next look => rw [look] at here; cases here
    next next look =>
      have heard := Live.poll_heard look
      have failed : (step.prepare index live.run live.session.gate).1 = .error panic :=
        Step.prepare_error_iff.mpr panics
      rw [heard.run, heard.session]
      generalize step.prepare index live.run live.session.gate = answer at failed
      obtain ⟨chosen, gate⟩ := answer
      cases failed
      rfl

theorem breaksBy_cons_iff {panic : Panic} :
    runner.BreaksBy nested mode (step :: rest) index live panic ↔
      (live.poll.1 = false ∧ step.FlagPanics live.session.gate panic) ∨
        ∃ middle, runner.runStep nested mode step index live = (none, middle) ∧
          runner.BreaksBy nested mode rest (index + 1) middle panic := by
  constructor
  · rintro ⟨i, found, before, atStep, reached, here, panics⟩
    cases i with
    | zero =>
      cases reached.2
      cases atStep
      exact .inl ⟨here, panics⟩
    | succ i =>
      obtain ⟨middle, stepped, reached⟩ := comesTo_succ_iff.mp reached
      exact .inr ⟨middle, stepped, i, found, before, atStep, reached, here, panics⟩
  · rintro (⟨here, panics⟩ | ⟨middle, stepped, i, found, before, atStep, reached, here, panics⟩)
    · exact ⟨0, step, live, rfl, comesTo_zero .., here, panics⟩
    · exact ⟨i + 1, found, before, atStep, comesTo_succ_iff.mpr ⟨middle, stepped, reached⟩, here, panics⟩

theorem runSteps_panic_iff {panic : Panic} :
    (runner.runSteps nested mode steps index live).1 = some (.panic panic) ↔
      runner.BreaksBy nested mode steps index live panic := by
  induction steps generalizing index live with
  | nil => simp [runSteps, BreaksBy, ComesTo]
  | cons step rest ih =>
    rw [breaksBy_cons_iff, ← runStep_panic_iff nested mode index, runSteps]
    cases runner.runStep nested mode step index live with
    | mk interruption middle => cases interruption <;> simp [ih]

theorem runSteps_course (runner : Runner σ) (nested : Nested σ) (mode : StepMode) (steps : List Step)
    (index : Nat) (live : Live σ) :
    ∃ outcomes, runner.Course nested mode steps index live outcomes
      (runner.runSteps nested mode steps index live).1 (runner.runSteps nested mode steps index live).2 := by
  induction steps generalizing index live with
  | nil => exact ⟨[], .done⟩
  | cons step rest ih =>
    obtain ⟨outcome, stepped⟩ := runner.runStep_stepped nested mode step index live
    rw [runSteps]
    cases ran : runner.runStep nested mode step index live with
    | mk interruption middle =>
      rw [ran] at stepped
      cases interruption with
      | some interruption => exact ⟨outcome.toList, .stopped ran stepped⟩
      | none =>
        obtain ⟨outcomes, course⟩ := ih (index + 1) middle
        cases outcome with
        | none => cases stepped
        | some outcome => exact ⟨outcome :: outcomes, .next ran stepped course⟩

theorem Stepped.halt?_of_none (stepped : runner.Stepped nested mode step index live (some outcome) none after) :
    outcome.halt? = none := by
  cases stepped with
  | @served _ _ _ taken _ _ _ _ stop =>
    cases taken
    · cases stop
    · exact stop.symm

theorem Stepped.serves (stepped : runner.Stepped nested mode step index live (some outcome) stop after) :
    outcome.step = step ∧ runner.Serves nested mode index live outcome := by
  cases stepped with
  | @served prepared gate _ _ _ _ chosen value =>
    subst value
    exact ⟨rfl, gate, chosen, rfl⟩

theorem Stepped.run_eq {outcome : Option Outcome}
    (stepped : runner.Stepped nested mode step index live outcome stop after) :
    after.run = outcome.toList.foldl (fun run outcome => outcome.apply run) live.run := by
  cases stepped <;> assumption

theorem Course.run_eq (course : runner.Course nested mode steps index live outcomes stop after) :
    after.run = outcomes.foldl (fun run outcome => outcome.apply run) live.run := by
  induction course with
  | done => rfl
  | next _ stepped _ ih => rw [ih, stepped.run_eq]; rfl
  | stopped _ stepped => exact stepped.run_eq

/-- Every outcome belongs to the step of its number, to which the steps come and which is served there. -/
theorem Course.serves (course : runner.Course nested mode steps index live outcomes stop after) {i : Nat}
    (atOutcome : outcomes[i]? = some outcome) :
    steps[i]? = some outcome.step ∧ ∃ before, runner.ComesTo nested mode steps index live i before ∧
      runner.Serves nested mode (index + i) before outcome := by
  induction course generalizing i with
  | done => simp at atOutcome
  | next ran stepped _ ih =>
    cases i with
    | zero =>
      cases atOutcome
      obtain ⟨same, serves⟩ := stepped.serves
      exact ⟨congrArg some same.symm, _, comesTo_zero .., serves⟩
    | succ i =>
      obtain ⟨atStep, before, reached, serves⟩ := ih atOutcome
      refine ⟨atStep, before, comesTo_succ_iff.mpr ⟨_, ran, reached⟩, ?_⟩
      rwa [Nat.add_right_comm] at serves
  | @stopped _ _ _ _ served _ _ _ stepped =>
    cases served with
    | none => simp at atOutcome
    | some served =>
      cases i with
      | succ => simp at atOutcome
      | zero =>
        cases atOutcome
        obtain ⟨same, serves⟩ := stepped.serves
        exact ⟨congrArg some same.symm, _, comesTo_zero .., serves⟩

theorem Course.servedBy (course : runner.Course nested mode steps index live outcomes stop after) {i : Nat}
    (atOutcome : outcomes[i]? = some outcome) :
    runner.ServedBy nested mode steps index live i outcome.step outcome.record.capability outcome.result := by
  obtain ⟨atStep, before, reached, gate, ready, answer⟩ := course.serves atOutcome
  exact reached.servedBy atStep ready (Prod.ext answer rfl)

/-- Only the last outcome can be a failure that halts. -/
theorem Course.halt?_last (course : runner.Course nested mode steps index live outcomes stop after) {i : Nat}
    (atOutcome : outcomes[i]? = some outcome) (halts : outcome.halt? ≠ none) : i + 1 = outcomes.length := by
  induction course generalizing i with
  | done => simp at atOutcome
  | next _ stepped _ ih =>
    cases i with
    | zero =>
      cases atOutcome
      exact absurd stepped.halt?_of_none halts
    | succ i => exact congrArg Nat.succ (ih atOutcome)
  | @stopped _ _ _ _ served =>
    cases served with
    | none => simp at atOutcome
    | some served => cases i <;> simp_all

/-- A course that nobody left goes through all steps, or ends by a failure that halts, or by a panic. -/
theorem Course.ending (course : runner.Course nested mode steps index live outcomes stop after)
    (attended : Attended after.sink) :
    stop = none ∧ outcomes.length = steps.length ∧ (∀ outcome ∈ outcomes, outcome.halt? = none) ∨
      (∃ outcome, outcomes.getLast? = some outcome ∧ outcome.halt? = stop ∧ stop ≠ none) ∨
      ∃ panic, stop = some (.panic panic) := by
  induction course with
  | done => exact .inl ⟨rfl, rfl, by simp⟩
  | next _ stepped _ ih =>
    rcases ih attended with ⟨ended, length, goOn⟩ | ⟨last, atLast, halts, some⟩ | panics
    · exact .inl ⟨ended, congrArg Nat.succ length, List.forall_mem_cons.mpr ⟨stepped.halt?_of_none, goOn⟩⟩
    · refine .inr (.inl ⟨last, ?_, halts, some⟩)
      rw [List.getLast?_cons, atLast]
      rfl
    · exact .inr (.inr panics)
  | stopped _ stepped =>
    cases stepped with
    | left absent => exact absurd attended absent
    | panicked => exact .inr (.inr ⟨_, rfl⟩)
    | refused absent => exact absurd attended absent
    | served _ _ stop _ _ kept =>
      rw [(kept attended).1] at stop
      exact .inr (.inl ⟨_, rfl, stop.symm, nofun⟩)

/-- A course that nobody left and that does not break off serves every step that it comes to. -/
theorem Course.lt_of_comesTo (course : runner.Course nested mode steps index live outcomes stop after)
    (attended : Attended after.sink) (calm : ∀ panic, stop ≠ some (.panic panic)) {i : Nat} {before : Live σ}
    (reached : runner.ComesTo nested mode steps index live i before) : i < outcomes.length := by
  induction course generalizing i with
  | done => exact absurd reached.1 (Nat.not_lt_zero i)
  | next ran stepped _ ih =>
    cases i with
    | zero => exact Nat.succ_pos _
    | succ i =>
      obtain ⟨middle, ran', reached⟩ := comesTo_succ_iff.mp reached
      cases ran.symm.trans ran'
      exact Nat.succ_lt_succ (ih attended calm reached)
  | stopped ran stepped =>
    cases i with
    | succ i =>
      obtain ⟨middle, ran', _⟩ := comesTo_succ_iff.mp reached
      cases ran.symm.trans ran'
    | zero =>
      cases stepped with
      | left absent => exact absurd attended absent
      | panicked => exact absurd rfl (calm _)
      | refused absent => exact absurd attended absent
      | served => exact Nat.one_pos

theorem runSteps_append (runner : Runner σ) (nested : Nested σ) (mode : StepMode) (first second : List Step)
    (index : Nat) (live : Live σ) :
    runner.runSteps nested mode (first ++ second) index live =
      match runner.runSteps nested mode first index live with
      | (none, middle) => runner.runSteps nested mode second (index + first.length) middle
      | (some interruption, after) => (some interruption, after) := by
  induction first generalizing index live with
  | nil => rfl
  | cons step rest ih =>
    rw [List.cons_append, runSteps, runSteps]
    cases runner.runStep nested mode step index live with
    | mk interruption middle =>
      cases interruption with
      | some => rfl
      | none =>
        have place : index + (step :: rest).length = index + 1 + rest.length := by
          rw [List.length_cons]
          omega
        rw [place]
        exact ih (index + 1) middle

/-- Steps that come to one of them go on from there. -/
theorem ComesTo.runSteps_eq {i : Nat} {before : Live σ}
    (reached : runner.ComesTo nested mode steps index live i before) :
    runner.runSteps nested mode steps index live = runner.runSteps nested mode (steps.drop i) (index + i) before := by
  have split := runner.runSteps_append nested mode (steps.take i) (steps.drop i) index live
  rwa [List.take_append_drop, reached.2, List.length_take_of_le (Nat.le_of_lt reached.1)] at split

theorem trace_isPrefix_runSteps (runner : Runner σ) (nested : Nested σ) (mode : StepMode) (steps : List Step)
    (index : Nat) (live : Live σ) :
    live.run.trace <+: (runner.runSteps nested mode steps index live).2.run.trace := by
  obtain ⟨outcomes, course⟩ := runner.runSteps_course nested mode steps index live
  rw [course.run_eq, Outcome.trace_foldl_apply]
  exact List.prefix_append ..

theorem trace_take_isPrefix (runner : Runner σ) (nested : Nested σ) (mode : StepMode) (steps : List Step)
    (index : Nat) (live : Live σ) (k : Nat) :
    (runner.runSteps nested mode (steps.take k) index live).2.run.trace <+:
      (runner.runSteps nested mode steps index live).2.run.trace := by
  have split := runner.runSteps_append nested mode (steps.take k) (steps.drop k) index live
  rw [List.take_append_drop] at split
  rw [split]
  obtain ⟨_ | interruption, middle⟩ := runner.runSteps nested mode (steps.take k) index live
  · exact runner.trace_isPrefix_runSteps nested mode (steps.drop k) _ middle
  · exact List.prefix_rfl

/-- The steps before the one with this number have one entry each. -/
theorem ComesTo.length_trace {i : Nat} {before : Live σ}
    (reached : runner.ComesTo nested mode steps index live i before) :
    before.run.trace.length = live.run.trace.length + i := by
  induction i generalizing steps index live with
  | zero =>
    cases reached.2
    rfl
  | succ i ih =>
    cases steps with
    | nil => exact absurd reached.1 (Nat.not_lt_zero _)
    | cons step rest =>
      obtain ⟨middle, ran, reached⟩ := comesTo_succ_iff.mp reached
      obtain ⟨outcome, stepped⟩ := runner.runStep_stepped nested mode step index live
      rw [ran] at stepped
      cases outcome with
      | none => cases stepped
      | some outcome =>
        have entries : middle.run.trace.length = live.run.trace.length + 1 := by
          rw [stepped.run_eq]
          exact List.length_append
        rw [ih reached, entries, Nat.add_assoc, Nat.add_comm 1]

/-- The step that the steps come to is the last of the first ones with it. -/
theorem ComesTo.runSteps_take_succ {i : Nat} {before : Live σ} (atStep : steps[i]? = some step)
    (reached : runner.ComesTo nested mode steps index live i before) :
    runner.runSteps nested mode (steps.take (i + 1)) index live =
      runner.runStep nested mode step (index + i) before := by
  have first : runner.runSteps nested mode (steps.take i) index live = (none, before) := reached.2
  rw [List.take_add_one, atStep, runSteps_append, first, List.length_take_of_le (Nat.le_of_lt reached.1)]
  dsimp only [Option.toList, runSteps]
  cases runner.runStep nested mode step (index + i) before with
  | mk interruption middle => cases interruption <;> rfl

end Runner

end Orchestra
