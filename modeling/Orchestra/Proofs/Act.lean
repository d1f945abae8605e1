import Orchestra.Proofs.Attempt
import Orchestra.Proofs.Recursion

namespace Orchestra

variable {σ : Type}

/-- A call of a capability in plain form or by its stream, with where it comes from. -/
structure Call where
  capability : String
  params : Json
  context : CallContext
  streamed : Bool

/-- The state of the handlers after a call. -/
def Registry.perform (registry : Registry σ) (s : σ) (call : Call) : σ :=
  if call.streamed then (registry.stream call.capability call.params call.context s).state
  else (registry.execute call.capability call.params call.context s).state

namespace Runner

/-- One act of a run with this context. -/
inductive Act (runner : Runner σ) (context : CallContext) : Session σ → Session σ → Prop
  | ask {session gate} (flag : String) : session.gate = some gate →
      Act runner context session { session with gate := some (gate.isEnabled flag context.inputs).2 }
  | call {session} (call : Call) : call.context = context →
      Act runner context session { session with handlers := runner.registry.perform session.handlers call }
  | run {session} (id : String) (extra : List (String × Json)) :
      Act runner context session
        (runner.runAtDepth id (context.inputs.extend extra) (context.depth + 1) session).2

/-- The acts of a run, one after another. -/
inductive Acts (runner : Runner σ) (context : CallContext) (start : Session σ) : Session σ → Prop
  | start : Acts runner context start start
  | next {middle after} : Acts runner context start middle → runner.Act context middle after →
      Acts runner context start after

variable {runner : Runner σ} {context : CallContext} {mode : StepMode} {step : Step} {steps : List Step}
  {index : Nat} {live after : Live σ} {outcome : Option Outcome} {outcomes : List Outcome}
  {stop : Option Interruption}

theorem Act.acts {session next : Session σ} (act : runner.Act context session next) :
    runner.Acts context session next := .next .start act

theorem Acts.trans {first middle last : Session σ} (before : runner.Acts context first middle)
    (later : runner.Acts context middle last) : runner.Acts context first last := by
  induction later with
  | start => exact before
  | next _ act ih => exact .next ih act

theorem prepare_acts (runner : Runner σ) (step : Step) (index : Nat) {run : Run} (here : run.context = context)
    (session : Session σ) :
    runner.Acts context session { session with gate := (step.prepare index run session.gate).2 } := by
  have same : (step.prepare index run session.gate).2 = (step.choose run session.gate).2 := rfl
  rw [same]
  unfold Step.choose
  split
  next reroute gate _ present =>
    have asked : runner.Act context session
        { session with gate := some (gate.isEnabled reroute.flag context.inputs).2 } := .ask reroute.flag present
    rw [← here] at asked ⊢
    exact asked.acts
  · exact .start

theorem nestedInputs_eq (run : Run) (params : Json) :
    ∃ extra, nestedInputs run params = run.context.inputs.extend extra := by
  unfold nestedInputs
  split
  next extra _ => exact ⟨extra, rfl⟩
  · exact ⟨[], rfl⟩

/-- Serving a step calls its capability, or runs a pattern one level below. -/
theorem serve_acts (runner : Runner σ) (mode : StepMode) (prepared : PreparedStep) {run : Run}
    (here : run.context = context) (session : Session σ) :
    runner.Acts context session
      (runner.serve (runner.nested context.depth) mode prepared run session).2 := by
  subst here
  unfold serve
  split
  · exact Act.acts (.call ⟨prepared.capability, prepared.params, run.context, true⟩ rfl)
  · unfold call
    split
    · unfold invokeNested
      split
      next id _ =>
        obtain ⟨extra, same⟩ := nestedInputs_eq run prepared.params
        rw [same]
        exact Act.acts (.run id extra)
      · exact .start
    · exact Act.acts (.call ⟨prepared.capability, prepared.params, run.context, false⟩ rfl)

theorem Stepped.acts
    (stepped : runner.Stepped (runner.nested context.depth) mode step index live outcome stop after)
    (here : live.run.context = context) : runner.Acts context live.session after.session := by
  have chose {choice : Except Panic PreparedStep} {gate : Option Gate}
      (chosen : step.prepare index live.run live.session.gate = (choice, gate)) :
      runner.Acts context live.session { live.session with gate } := by
    have acts := prepare_acts runner step index here live.session
    rwa [chosen] at acts
  cases stepped with
  | left _ _ same => rw [same]; exact .start
  | panicked _ failed _ same => rw [same]; exact chose failed
  | refused _ chosen _ same =>
    rcases same with same | same
    · rw [same]; exact chose chosen
    · rw [same]; exact (chose chosen).trans (serve_acts runner mode _ here _)
  | served chosen _ _ _ same => rw [same]; exact (chose chosen).trans (serve_acts runner mode _ here _)

theorem Stepped.context_eq {nested : Nested σ}
    (stepped : runner.Stepped nested mode step index live outcome stop after) :
    after.run.context = live.run.context := by
  rw [stepped.run_eq]
  cases outcome <;> rfl

theorem Course.acts (here : live.run.context = context)
    (course : runner.Course (runner.nested context.depth) mode steps index live outcomes stop after) :
    runner.Acts context live.session after.session := by
  induction course with
  | done => exact .start
  | next _ stepped _ ih => exact (stepped.acts here).trans (ih (stepped.context_eq.trans here))
  | stopped _ stepped => exact stepped.acts here

variable {inputs : Dict Json} {depth : Nat} {session : Session σ} {sink : Option Sink}

/-- A run of a pattern acts under its id, its depth and its inputs. -/
theorem runPattern_acts (runner : Runner σ) (mode : StepMode) (pattern : Pattern) (inputs : Dict Json)
    (depth : Nat) (session : Session σ) (sink : Option Sink) :
    runner.Acts ⟨pattern.id, depth, inputs⟩ session
      (runner.runPattern (runner.nested depth) mode pattern inputs depth session sink).2.1 := by
  have attempted := runner.runPattern_attempted (runner.nested depth) mode pattern inputs depth session sink
  have heard := enter_heard pattern inputs depth session sink
  have acts {stop : Option Interruption} {after : Live σ}
      (ran : runner.runSteps (runner.nested depth) mode pattern.steps 0
        (enter pattern inputs depth session sink).2 = (stop, after)) :
      runner.Acts ⟨pattern.id, depth, inputs⟩ session after.session := by
    obtain ⟨outcomes, course⟩ := runner.runSteps_course (runner.nested depth) mode pattern.steps 0
      (enter pattern inputs depth session sink).2
    rw [ran] at course
    have here : (enter pattern inputs depth session sink).2.run.context = ⟨pattern.id, depth, inputs⟩ := by
      rw [heard.run]
      rfl
    have acts := course.acts here
    rwa [heard.session] at acts
  generalize runner.runPattern (runner.nested depth) mode pattern inputs depth session sink = ended at attempted ⊢
  obtain ⟨attempt, final, last⟩ := ended
  cases attempted with
  | refused =>
    have idle : runner.Acts ⟨pattern.id, depth, inputs⟩ session
        (enter pattern inputs depth session sink).2.session := by
      rw [heard.session]
      exact .start
    exact idle
  | panicked _ ran => exact acts ran
  | done _ ran => exact acts ran

theorem execute_acts (runner : Runner σ) (mode : StepMode) (id : String) (inputs : Dict Json) (depth : Nat)
    (session : Session σ) (sink : Option Sink) :
    runner.Acts ⟨id, depth, inputs⟩ session
      (runner.execute (runner.nested depth) mode id inputs depth session sink).2.1 := by
  unfold execute
  split
  · exact .start
  · split
    · exact .start
    next pattern found =>
      have own : pattern.id = id := runner.catalog.keyed found
      rw [← own]
      exact runner.runPattern_acts mode pattern inputs depth session sink

/-- Containing an attempt does nothing more, except that the recovery pattern acts at the same depth. -/
theorem contain_acts (runner : Runner σ) (id : String) (inputs : Dict Json) (depth : Nat) (attempt : Attempt)
    (session : Session σ) :
    (runner.contain (runner.nested depth) id inputs depth attempt session).2 = session ∨
      ∃ recovery panic, runner.options.recoveryPattern = some recovery ∧ attempt = .panicked panic ∧
        runner.Acts ⟨recovery, depth, recoveryInputs inputs panic id⟩ session
          (runner.contain (runner.nested depth) id inputs depth attempt session).2 := by
  cases attempt with
  | done => exact .inl rfl
  | failed => exact .inl rfl
  | panicked panic =>
    dsimp only [contain]
    unfold recover
    split
    · exact .inl rfl
    next recovery configured =>
      split
      · exact .inl rfl
      · refine .inr ⟨recovery, panic, configured, rfl, ?_⟩
        have acts := runner.execute_acts .evented recovery (recoveryInputs inputs panic id) depth session none
        split
        next ran => rw [ran] at acts; exact acts
        next ran => rw [ran] at acts; exact acts

end Runner

end Orchestra
