import Orchestra.Proofs.Course
import Orchestra.Run.Runner

namespace Orchestra

variable {σ : Type}

namespace Runner

theorem enter_heard (pattern : Pattern) (inputs : Dict Json) (depth : Nat) (session : Session σ)
    (sink : Option Sink) :
    Live.Heard ⟨{ patternId := pattern.id, inputs, depth }, session, sink⟩
      (enter pattern inputs depth session sink).1 (enter pattern inputs depth session sink).2 :=
  Live.emit_heard rfl

/-- What an attempt to run this pattern comes to, with the session and the sink after it. -/
inductive Attempted (runner : Runner σ) (nested : Nested σ) (mode : StepMode) (pattern : Pattern)
    (start : Bool × Live σ) : Attempt → Session σ → Option Sink → Prop
  | refused : start.1 = false → ¬ Attended start.2.sink →
      Attempted runner nested mode pattern start (.failed .cancelled) start.2.session start.2.sink
  | panicked {panic after} : start.1 = true →
      runner.runSteps nested mode pattern.steps 0 start.2 = (some (.panic panic), after) →
      Attempted runner nested mode pattern start (.panicked panic) after.session after.sink
  | done {stop error after sink} : start.1 = true →
      runner.runSteps nested mode pattern.steps 0 start.2 = (stop, after) →
      stop = error.map .error ∨ stop = none ∧ error = some .cancelled ∧ ¬ Attended sink →
      (Attended sink → Attended after.sink) →
      Attempted runner nested mode pattern start (.done (conclude pattern after.run error)) after.session sink

theorem runPattern_attempted (runner : Runner σ) (nested : Nested σ) (mode : StepMode) (pattern : Pattern)
    (inputs : Dict Json) (depth : Nat) (session : Session σ) (sink : Option Sink) :
    runner.Attempted nested mode pattern (enter pattern inputs depth session sink)
      (runner.runPattern nested mode pattern inputs depth session sink).1
      (runner.runPattern nested mode pattern inputs depth session sink).2.1
      (runner.runPattern nested mode pattern inputs depth session sink).2.2 := by
  have heard := enter_heard pattern inputs depth session sink
  unfold runPattern
  generalize enter pattern inputs depth session sink = start at heard
  obtain ⟨_ | _, live⟩ := start
  · exact .refused rfl heard.unattended
  · dsimp only
    generalize ran : runner.runSteps nested mode pattern.steps 0 live = ended
    obtain ⟨_ | _ | panic, after⟩ := ended
    · dsimp only
      split
      next last offer =>
        have heard := Live.emit_heard offer
        rw [heard.run, heard.session]
        exact .done rfl ran (.inl rfl) fun attended => (heard.kept attended).2
      next last offer =>
        have heard := Live.emit_heard offer
        rw [heard.run, heard.session]
        exact .done rfl ran (.inr ⟨rfl, rfl, heard.unattended⟩) fun attended => (heard.kept attended).2
    · exact .done rfl ran (.inl rfl) id
    · exact .panicked rfl ran

theorem Course.trace_conclude {runner : Runner σ} {nested : Nested σ} {mode : StepMode} {pattern : Pattern}
    {live after : Live σ} {outcomes : List Outcome} {stop : Option Interruption} {error : Option RunError}
    (course : runner.Course nested mode pattern.steps 0 live outcomes stop after) (fresh : live.run.trace = []) :
    (conclude pattern after.run error).trace = outcomes.map Outcome.record := by
  change after.run.trace = _
  rw [course.run_eq, Outcome.trace_foldl_apply, fresh, List.nil_append]

/-- An envelope that an attempt comes to concludes the course of the pattern's steps. -/
theorem runPattern_done {runner : Runner σ} {nested : Nested σ} {mode : StepMode} {pattern : Pattern}
    {inputs : Dict Json} {depth : Nat} {session : Session σ} {sink : Option Sink} {envelope : Envelope}
    (done : (runner.runPattern nested mode pattern inputs depth session sink).1 = .done envelope) :
    ∃ outcomes stop after error,
      runner.Course nested mode pattern.steps 0 (enter pattern inputs depth session sink).2 outcomes stop after ∧
      envelope = conclude pattern after.run error := by
  have attempted := runner.runPattern_attempted nested mode pattern inputs depth session sink
  generalize runner.runPattern nested mode pattern inputs depth session sink = ended at attempted done
  obtain ⟨attempt, final, last⟩ := ended
  cases done
  cases attempted with
  | @done stop error after _ _ ran =>
    obtain ⟨outcomes, course⟩ := runner.runSteps_course nested mode pattern.steps 0
      (enter pattern inputs depth session sink).2
    rw [ran] at course
    exact ⟨outcomes, stop, after, error, course, rfl⟩

/-- An envelope that an execution comes to concludes a run of the pattern of that id. -/
theorem execute_conclude {runner : Runner σ} {nested : Nested σ} {mode : StepMode} {id : String}
    {inputs : Dict Json} {depth : Nat} {session : Session σ} {sink : Option Sink} {envelope : Envelope}
    (done : (runner.execute nested mode id inputs depth session sink).1 = .done envelope) :
    ∃ pattern run error, runner.catalog.get? id = some pattern ∧ envelope = conclude pattern run error := by
  unfold execute at done
  split at done
  · cases done
  · split at done
    · cases done
    next pattern found =>
      obtain ⟨_, _, after, error, _, same⟩ := runPattern_done done
      exact ⟨pattern, after.run, error, found, same⟩

/-- The only step of a direct call, ready to be called. -/
def directStep (request : RouteRequest) : PreparedStep :=
  ⟨0, request.capability, Template.resolve request.inputs ∅ request.params⟩

def directRun (request : RouteRequest) : Run where
  patternId := (directPattern request).id
  inputs := request.inputs
  depth := 0

/-- The error of a direct call, which halts if its step fails. -/
def directError (request : RouteRequest) : Except CallError (Dict Json) → Option RunError
  | .ok _ => none
  | .error error => some (.stepHalted 0 request.capability (shorten 160 error.message))

/-- A direct call takes in the outcome of its only step. -/
theorem runPattern_direct {runner : Runner σ} {request : RouteRequest} {session after : Session σ}
    {result : Except CallError (Dict Json)}
    (called : runner.call (runner.nested 0) (directStep request) (directRun request) session = (result, after)) :
    runner.runPattern (runner.nested 0) .evented (directPattern request) request.inputs 0 session none =
      (.done (conclude (directPattern request)
        ((directRun request).apply { capability := request.capability, args := request.params, onError := .stop }
          (directStep request) result 0) (directError request result)), after, none) := by
  dsimp only [directPattern, directStep, directRun] at called ⊢
  cases result <;>
    simp [runPattern, enter, Live.emit, runSteps, runStep, Live.poll, Step.prepare, Step.choose, Except.map,
      runPlain, Live.emitIf, called, finish, PreparedStep.record, StepRecord.error?, Live.apply, Step.halts,
      directError]

end Runner

end Orchestra
