import Orchestra.Proofs.Act
import Orchestra.Proofs.Bookkeeping
import Orchestra.Run.Request

namespace Orchestra

variable {σ : Type}

namespace Runner

/-- The handlers come from one state to another by allowed calls alone. Handlers may record what they are
called with, so no other call is made. -/
def Calls (runner : Runner σ) (allowed : Call → Prop) (before after : σ) : Prop :=
  ∃ calls : List Call, after = calls.foldl runner.registry.perform before ∧ ∀ call ∈ calls, allowed call

def Between (runner : Runner σ) (depth : Nat) (call : Call) : Prop :=
  depth ≤ call.context.depth ∧ call.context.depth < runner.options.maxDepth

/-- A run of this pattern at this depth is refused: it calls nothing, loads no flags and leaves nothing. -/
structure Refused (runner : Runner σ) (id : String) (depth : Nat) (before : Session σ) (envelope : Envelope)
    (after : Session σ) : Prop where
  patternId : envelope.patternId = id
  error : envelope.error = some (.depthExceeded depth runner.options.maxDepth)
  trace : envelope.trace = []
  state : envelope.state = ∅
  data : envelope.data = ∅
  warnings : envelope.warnings = []
  handlers : after.handlers = before.handlers
  gate : after.gate = before.gate

/-- A run of this pattern at this depth: its own acts, and those of a recovery on the same level. -/
def Runs (runner : Runner σ) (id : String) (inputs : Dict Json) (depth : Nat) (before after : Session σ) :
    Prop :=
  ∃ middle, runner.Acts ⟨id, depth, inputs⟩ before middle ∧
    (after = middle ∨ ∃ recovery panic, runner.options.recoveryPattern = some recovery ∧
      runner.Acts ⟨recovery, depth, recoveryInputs inputs panic id⟩ middle after)

variable {runner : Runner σ} {allowed : Call → Prop} {context : CallContext} {id : String}
  {inputs : Dict Json} {depth : Nat} {before after : Session σ}

theorem Calls.none (s : σ) : runner.Calls allowed s s := ⟨[], rfl, by simp⟩

theorem Calls.trans {first middle last : σ} (earlier : runner.Calls allowed first middle)
    (later : runner.Calls allowed middle last) : runner.Calls allowed first last := by
  obtain ⟨calls, rfl, these⟩ := earlier
  obtain ⟨more, rfl, those⟩ := later
  refine ⟨calls ++ more, List.foldl_append.symm, fun call member => ?_⟩
  rcases List.mem_append.mp member with old | new
  · exact these call old
  · exact those call new

theorem Calls.mono {weaker : Call → Prop} (implies : ∀ call, allowed call → weaker call) {first last : σ}
    (calls : runner.Calls allowed first last) : runner.Calls weaker first last := by
  obtain ⟨calls, same, these⟩ := calls
  exact ⟨calls, same, fun call member => implies call (these call member)⟩

/-- Acts make no calls but their own and those of the runs one level below. -/
theorem Acts.calls (acts : runner.Acts context before after)
    (own : ∀ call, call.context = context → allowed call)
    (deeper : ∀ id inputs (session : Session σ), runner.Calls allowed session.handlers
      (runner.runAtDepth id inputs (context.depth + 1) session).2.handlers) :
    runner.Calls allowed before.handlers after.handlers := by
  induction acts with
  | start => exact .none _
  | next _ act ih =>
    refine ih.trans ?_
    cases act with
    | ask => exact .none _
    | call call here => exact ⟨[call], rfl, by simpa using own call here⟩
    | run id extra => exact deeper id _ _

theorem Runs.calls (runs : runner.Runs id inputs depth before after)
    (own : ∀ call, call.context.depth = depth → allowed call)
    (deeper : ∀ id inputs (session : Session σ), runner.Calls allowed session.handlers
      (runner.runAtDepth id inputs (depth + 1) session).2.handlers) :
    runner.Calls allowed before.handlers after.handlers := by
  obtain ⟨middle, acts, rfl | ⟨recovery, panic, _, recovered⟩⟩ := runs
  · exact acts.calls (fun call here => own call (by rw [here])) deeper
  · exact (acts.calls (fun call here => own call (by rw [here])) deeper).trans
      (recovered.calls (fun call here => own call (by rw [here])) deeper)

theorem contained_runs (runner : Runner σ) (mode : StepMode) (id : String) (inputs : Dict Json) (depth : Nat)
    (session : Session σ) (sink : Option Sink) :
    runner.Runs id inputs depth session (runner.contained mode id inputs depth session sink).2 := by
  refine ⟨_, runner.execute_acts mode id inputs depth session sink, ?_⟩
  rcases runner.contain_acts id inputs depth
      (runner.execute (runner.nested depth) mode id inputs depth session sink).1
      (runner.execute (runner.nested depth) mode id inputs depth session sink).2.1 with
    same | ⟨recovery, panic, configured, _, recovered⟩
  · exact .inl same
  · exact .inr ⟨recovery, panic, configured, recovered⟩

/-- All calls of a contained run lie between its depth and the limit, if those one level below do. -/
theorem contained_calls (runner : Runner σ) (depth : Nat)
    (deeper : depth < runner.options.maxDepth → ∀ id inputs (session : Session σ),
      runner.Calls (runner.Between (depth + 1)) session.handlers
        (runner.runAtDepth id inputs (depth + 1) session).2.handlers)
    (mode : StepMode) (id : String) (inputs : Dict Json) (session : Session σ) (sink : Option Sink) :
    runner.Calls (runner.Between depth) session.handlers
      (runner.contained mode id inputs depth session sink).2.handlers := by
  by_cases limit : runner.options.maxDepth ≤ depth
  · rw [contained_of_limit_le limit]
    exact .none _
  · have below := Nat.not_le.mp limit
    have runs := runner.contained_runs mode id inputs depth session sink
    refine runs.calls (fun call here => ⟨Nat.le_of_eq here.symm, here ▸ below⟩) fun id inputs session => ?_
    exact (deeper below id inputs session).mono fun call between => ⟨Nat.le_of_succ_le between.1, between.2⟩

theorem runAtDepth_calls (runner : Runner σ) (id : String) (inputs : Dict Json) (depth : Nat)
    (session : Session σ) : runner.Calls (runner.Between depth) session.handlers
      (runner.runAtDepth id inputs depth session).2.handlers := by
  rw [runAtDepth_eq_contained, Session.account_handlers]
  -- Only below the limit is there a level to descend to, and there the distance to the limit shrinks.
  exact runner.contained_calls depth
    (fun _ id inputs session => runAtDepth_calls runner id inputs (depth + 1) session)
    .evented id inputs session none
termination_by runner.options.maxDepth - depth

theorem refused_account (runner : Runner σ) (id : String) (inputs : Dict Json) (depth : Nat)
    (session : Session σ) :
    runner.Refused id depth session (.failure id (.depthExceeded depth runner.options.maxDepth))
      (session.account runner.audit (.failure id (.depthExceeded depth runner.options.maxDepth)) inputs depth) :=
  ⟨rfl, rfl, rfl, rfl, rfl, rfl, Session.account_handlers .., Session.account_gate ..⟩

theorem runAtDepth_refused (limit : runner.options.maxDepth ≤ depth) (id : String) (inputs : Dict Json)
    (session : Session σ) : runner.Refused id depth session (runner.runAtDepth id inputs depth session).1
      (runner.runAtDepth id inputs depth session).2 := by
  rw [runAtDepth_eq_contained, contained_of_limit_le limit]
  exact runner.refused_account id inputs depth session

theorem stream_refused (limit : runner.options.maxDepth = 0) (id : String) (inputs : Dict Json) (mode : StepMode)
    (departure : Departure) (session : Session σ) :
    runner.Refused id 0 session (runner.stream id inputs mode departure session).1
      (runner.stream id inputs mode departure session).2.2 := by
  simp only [stream, guarded, execute_of_limit_le (Nat.le_of_eq limit), settle, contain]
  exact runner.refused_account id inputs 0 session

/-- At a limit of zero a meta pattern that is known is refused, and nothing else is tried. -/
theorem route_refused (limit : runner.options.maxDepth = 0) (configured : runner.options.metaPattern = some id)
    (known : runner.catalog.contains id = true) (request : RouteRequest) (session : Session σ) :
    runner.Refused id 0 session (runner.route request session).1 (runner.route request session).2 := by
  have unsigned : signalsUnavailable (.failure id (.depthExceeded 0 runner.options.maxDepth)) = false := rfl
  simp only [route, configured, known, execute_of_limit_le (Nat.le_of_eq limit), contain, unsigned,
    not_true_eq_false, if_false, Bool.false_eq_true]
  exact runner.refused_account id (metaInputs request) 0 session

/-- A direct call has one step, which is called at the top whatever the limit. -/
theorem direct_called (runner : Runner σ) (request : RouteRequest) (session : Session σ) :
    (runner.direct request session).1.trace = [⟨0, request.capability, 0,
        (runner.call (runner.nested 0) (directStep request) (directRun request) session).1.map
          (State.producedKeys · none)⟩] ∧
      (runner.direct request session).2.handlers =
        (runner.call (runner.nested 0) (directStep request) (directRun request) session).2.handlers := by
  cases called : runner.call (runner.nested 0) (directStep request) (directRun request) session with
  | mk result after =>
    simp only [direct, runPattern_direct called, Attempt.publishState, contain, Session.account_handlers, and_true]
    rfl

/-- The calls that serve a request: those below the limit, and the direct one of a routed request. -/
def Served (runner : Runner σ) (request : Request) (call : Call) : Prop :=
  call.context.depth < runner.options.maxDepth ∨
    ∃ route, request = .route route ∧ call.context = ⟨"direct:" ++ route.capability, 0, route.inputs⟩

theorem direct_calls (runner : Runner σ) (request : RouteRequest) (session : Session σ) :
    runner.Calls (runner.Served (.route request)) session.handlers (runner.direct request session).2.handlers := by
  have here : (directRun request).context = ⟨"direct:" ++ request.capability, 0, request.inputs⟩ := rfl
  have acts := runner.serve_acts .evented (directStep request) here session
  rw [(runner.direct_called request session).2]
  refine Acts.calls acts (fun call here => .inr ⟨request, rfl, here⟩) fun id inputs session => ?_
  exact (runner.runAtDepth_calls id inputs 1 session).mono fun call between => .inl between.2

theorem route_calls (runner : Runner σ) (request : RouteRequest) (session : Session σ) :
    runner.Calls (runner.Served (.route request)) session.handlers (runner.route request session).2.handlers := by
  unfold route
  split
  · exact runner.direct_calls request session
  next id _ =>
    split
    · exact runner.direct_calls request session
    · have between := runner.contained_calls 0
        (fun _ id inputs session => runner.runAtDepth_calls id inputs 1 session)
        .evented id (metaInputs request) session none
      have calls : runner.Calls (runner.Served (.route request)) _ _ :=
        between.mono fun call within => .inl within.2
      dsimp only
      split
      · exact calls.trans (runner.direct_calls request _)
      · rw [Session.account_handlers]
        exact calls

theorem answer_calls (runner : Runner σ) (request : Request) (session : Session σ) :
    runner.Calls (runner.Served request) session.handlers (runner.answer request session).2.2.handlers := by
  cases request with
  | run id inputs => exact (runner.runAtDepth_calls id inputs 0 session).mono fun call between => .inl between.2
  | runAtDepth id inputs depth =>
    exact (runner.runAtDepth_calls id inputs depth session).mono fun call between => .inl between.2
  | route request => exact runner.route_calls request session
  | stream id inputs mode departure =>
    have calls := runner.contained_calls 0
      (fun _ id inputs session => runner.runAtDepth_calls id inputs 1 session)
      mode id inputs session (some { departure })
    have same : (runner.answer (.stream id inputs mode departure) session).2.2.handlers = _ :=
      Session.account_handlers ..
    rw [same]
    exact calls.mono fun call between => .inl between.2

theorem route_runs (runner : Runner σ) (request : RouteRequest) (session : Session σ) :
    runner.route request session = runner.direct request session ∨
      ∃ id after, runner.options.metaPattern = some id ∧ runner.Runs id (metaInputs request) 0 session after ∧
        (runner.route request session = runner.direct request after ∨
          (runner.route request session).2 =
            after.account runner.audit (runner.route request session).1 (metaInputs request) 0) := by
  unfold route
  split
  · exact .inl rfl
  next id configured =>
    have runs := runner.contained_runs .evented id (metaInputs request) 0 session none
    split
    · exact .inl rfl
    · refine .inr ⟨id, _, configured, runs, ?_⟩
      dsimp only
      split
      · exact .inl rfl
      · exact .inr rfl

/-- How deep a runner gets, whatever its patterns, handlers and flags are. -/
structure Descent (runner : Runner σ) : Prop where
  /-- The runs at all depths are the only solution of their recursion, in which nothing counts levels. -/
  recursion : ∀ runs : Nat → Nested σ,
    (∀ depth, runs depth = runner.guardedAt (runs (depth + 1)) depth) ↔
      ∀ depth, runs depth = fun id inputs session => runner.runAtDepth id inputs depth session
  /-- Any number of levels that reaches the limit is enough. -/
  levels : ∀ level depth, runner.options.maxDepth ≤ depth + level →
    runner.runLevel level depth = fun id inputs session => runner.runAtDepth id inputs depth session
  /-- Below the limit a run acts at its own depth, recovers there, and starts runs no deeper than the limit. -/
  descent : ∀ id inputs depth session, depth < runner.options.maxDepth →
    depth + 1 ≤ runner.options.maxDepth ∧ ∃ after, runner.Runs id inputs depth session after ∧
      (runner.runAtDepth id inputs depth session).2 =
        after.account runner.audit (runner.runAtDepth id inputs depth session).1 inputs depth
  /-- A step that runs a pattern runs it exactly one level below. -/
  invoked : ∀ prepared (run : Run) id session, prepared.capability = invokeCapability →
    prepared.params.field? "pattern_id" = some (.string id) →
    runner.call (runner.nested run.depth) prepared run session =
      (nestedOutput (runner.runAtDepth id (nestedInputs run prepared.params) (run.depth + 1) session).1,
        (runner.runAtDepth id (nestedInputs run prepared.params) (run.depth + 1) session).2)
  streamed : ∀ id inputs mode departure session, ∃ after, runner.Runs id inputs 0 session after ∧
    (runner.stream id inputs mode departure session).2.2 =
      after.account runner.audit (runner.stream id inputs mode departure session).1 inputs 0
  /-- A routed request is a run of the meta pattern at the top, a direct call, or the one after the other. -/
  routed : ∀ request session, runner.route request session = runner.direct request session ∨
    ∃ id after, runner.options.metaPattern = some id ∧ runner.Runs id (metaInputs request) 0 session after ∧
      (runner.route request session = runner.direct request after ∨
        (runner.route request session).2 =
          after.account runner.audit (runner.route request session).1 (metaInputs request) 0)
  /-- At the limit nothing is called and no flags are loaded. -/
  limit : ∀ id inputs depth session, runner.options.maxDepth ≤ depth →
    runner.Refused id depth session (runner.runAtDepth id inputs depth session).1
      (runner.runAtDepth id inputs depth session).2
  streamLimit : ∀ id inputs mode departure session, runner.options.maxDepth = 0 →
    runner.Refused id 0 session (runner.stream id inputs mode departure session).1
      (runner.stream id inputs mode departure session).2.2
  routeLimit : ∀ id request session, runner.options.maxDepth = 0 → runner.options.metaPattern = some id →
    runner.catalog.contains id = true →
    runner.Refused id 0 session (runner.route request session).1 (runner.route request session).2
  /-- Every call of a run lies between its depth and the limit. -/
  calls : ∀ id inputs depth session, runner.Calls (runner.Between depth) session.handlers
    (runner.runAtDepth id inputs depth session).2.handlers
  /-- Every call that serves a request lies below the limit, unless it is a direct one. -/
  served : ∀ request session, runner.Calls (runner.Served request) session.handlers
    (runner.answer request session).2.2.handlers
  /-- A direct call is made whatever the limit. -/
  direct : ∀ request session,
    (runner.direct request session).1.trace = [⟨0, request.capability, 0,
      (runner.call (runner.nested 0) (directStep request) (directRun request) session).1.map
        (State.producedKeys · none)⟩] ∧
    (runner.direct request session).2.handlers =
      (runner.call (runner.nested 0) (directStep request) (directRun request) session).2.handlers

/-- The recursion of runs ends, and no call is made at the depth limit or beyond it, save a direct one. -/
theorem descent_bounded (runner : Runner σ) : runner.Descent where
  recursion runs := by
    constructor
    · exact fun recursion depth => eq_runAtDepth recursion depth
    · intro same depth
      rw [same depth, same (depth + 1), runAtDepth_eq, nested_eq]
  levels level depth enough := runLevel_eq_runAtDepth enough
  descent id inputs depth session below :=
    ⟨below, _, runner.contained_runs .evented id inputs depth session none, by rw [runAtDepth_eq_contained]⟩
  invoked prepared run id session invokes named := by
    rw [call, if_pos invokes, invokeNested, named]
    rfl
  streamed id inputs mode departure session :=
    ⟨_, runner.contained_runs mode id inputs 0 session (some { departure }), rfl⟩
  routed request session := runner.route_runs request session
  limit id inputs depth session limit := runAtDepth_refused limit id inputs session
  streamLimit id inputs mode departure session limit := stream_refused limit id inputs mode departure session
  routeLimit id request session limit configured known := route_refused limit configured known request session
  calls id inputs depth session := runner.runAtDepth_calls id inputs depth session
  served request session := runner.answer_calls request session
  direct request session := runner.direct_called request session

end Runner

end Orchestra
