import Orchestra.Proofs.Routing

namespace Orchestra

variable {σ : Type}

/-- The entries that an outcome writes into the state. -/
def Outcome.written (outcome : Outcome) : State :=
  match outcome.result, outcome.step.saveAs with
  | .ok output, some key => Dict.empty.insert key (.object output.entries)
  | .ok output, none => output
  | .error _, _ => ∅

/-- The outcomes behind a trace and a state. -/
structure Replays (trace : List StepRecord) (state : State) (outcomes : List Outcome) : Prop where
  listed : trace = outcomes.map Outcome.record
  merged : state = outcomes.foldl Outcome.merge ∅
  keys : ∀ key, key ∈ state.keys ↔ ∃ record ∈ trace, key ∈ record.producedKeys
  /-- The last outcome that lists a key has written its value. -/
  value : ∀ before outcome after key, outcomes = before ++ outcome :: after →
    key ∈ outcome.record.producedKeys → (∀ later ∈ after, key ∉ later.record.producedKeys) →
    ∃ value, outcome.written.get? key = some value ∧ state.get? key = some value
  flat : ∀ outcome ∈ outcomes, ∀ output, outcome.result = .ok output → outcome.step.saveAs = none →
    outcome.written = output ∧ outcome.record.producedKeys = output.keys ∧ output.keys.Pairwise (· < ·)
  wrapped : ∀ outcome ∈ outcomes, ∀ output key, outcome.result = .ok output →
    outcome.step.saveAs = some key →
    outcome.written.entries = [(key, .object output.entries)] ∧ outcome.record.producedKeys = [key]
  /-- A success has no error. -/
  clean : ∀ outcome ∈ outcomes, ∀ output, outcome.result = .ok output →
    outcome.record.isOk = true ∧ outcome.record.error? = none ∧ outcome.record.detail? = none
  /-- A failure leaves every state alone, and its entry tells of it. -/
  failed : ∀ outcome ∈ outcomes, ∀ error, outcome.result = .error error →
    (∀ state, Outcome.merge state outcome = state) ∧
    outcome.record.isOk = false ∧ outcome.record.producedKeys = [] ∧
    outcome.record.error? = some (if 160 < error.message.length
      then String.ofList (error.message.toList.take 160) ++ "..." else error.message) ∧
    ∃ detail, outcome.record.detail? = some detail ∧
      detail.field? "capability" = some (.string outcome.record.capability)

/-- A run of a pattern, by all that it starts with. -/
structure PatternRun (σ : Type) where
  pattern : Pattern
  mode : StepMode
  inputs : Dict Json
  depth : Nat
  session : Session σ
  sink : Option Sink

namespace Runner

/-- The run that a contained run is answered by: that of its own pattern if it comes to an envelope, or if it panics,
that of the recovery pattern in the session that it left, if that succeeds. -/
inductive ContainedBy (runner : Runner σ) (mode : StepMode) (id : String) (inputs : Dict Json) (depth : Nat)
    (session : Session σ) (sink : Option Sink) : PatternRun σ → Prop
  | own {pattern envelope middle last} :
      runner.execute (runner.nested depth) mode id inputs depth session sink = (.done envelope, middle, last) →
      runner.catalog.get? id = some pattern →
      ContainedBy runner mode id inputs depth session sink ⟨pattern, mode, inputs, depth, session, sink⟩
  | recovery {panic middle last recovery envelope pattern} :
      runner.execute (runner.nested depth) mode id inputs depth session sink = (.panicked panic, middle, last) →
      runner.Recovers id recovery → (runner.recovering recovery id inputs depth panic middle).1 = .done envelope →
      envelope.success = true → runner.catalog.get? recovery = some pattern →
      ContainedBy runner mode id inputs depth session sink
        ⟨pattern, .evented, recoveryInputs inputs panic id, depth, middle, none⟩

/-- The run that a request is answered by. -/
inductive AnsweredBy (runner : Runner σ) (session : Session σ) : Request → PatternRun σ → Prop
  | run {id inputs run} : runner.ContainedBy .evented id inputs 0 session none run →
      AnsweredBy runner session (.run id inputs) run
  | runAtDepth {id inputs depth run} : runner.ContainedBy .evented id inputs depth session none run →
      AnsweredBy runner session (.runAtDepth id inputs depth) run
  | attempt {request id run} : ¬ runner.FallsBack request session → runner.options.metaPattern = some id →
      runner.ContainedBy .evented id (metaInputs request) 0 session none run →
      AnsweredBy runner session (.route request) run
  | direct {request} : runner.FallsBack request session → AnsweredBy runner session (.route request)
      ⟨directPattern request, .evented, request.inputs, 0, runner.beforeDirect request session, none⟩
  | stream {id inputs mode departure run} : runner.ContainedBy mode id inputs 0 session (some { departure }) run →
      AnsweredBy runner session (.stream id inputs mode departure) run

/-- The outcomes are those of the steps of a run, as they were served one after another. -/
def Sources (runner : Runner σ) (run : PatternRun σ) (outcomes : List Outcome) : Prop :=
  ∀ (i : Nat) (outcome : Outcome), outcomes[i]? = some outcome → run.pattern.steps[i]? = some outcome.step ∧
    ∃ before, runner.ComesTo (runner.nested run.depth) run.mode run.pattern.steps 0
      (enter run.pattern run.inputs run.depth run.session run.sink).2 i before ∧
      runner.Serves (runner.nested run.depth) run.mode i before outcome

/-- The trace and the state of an envelope have outcomes behind them: none, or those of a run like this, under the id of
its pattern. -/
def Replayed (runner : Runner σ) (answers : PatternRun σ → Prop) (envelope : Envelope) : Prop :=
  ∃ outcomes, Replays envelope.trace envelope.state outcomes ∧
    (outcomes = [] ∨ ∃ run, answers run ∧ run.pattern.id = envelope.patternId ∧ runner.Sources run outcomes)

end Runner

namespace Outcome

theorem producedKeys_record (outcome : Outcome) : outcome.record.producedKeys = outcome.written.keys := by
  obtain ⟨step, prepared, result⟩ := outcome
  cases result with
  | error => rfl
  | ok output =>
    simp only [record, PreparedStep.record, Except.map, written]
    cases step.saveAs with
    | none => rfl
    | some key => rfl

theorem merge_eq_extend (state : State) (outcome : Outcome) :
    merge state outcome = state.extend outcome.written.entries := by
  obtain ⟨step, prepared, result⟩ := outcome
  cases result with
  | error => rfl
  | ok output =>
    simp only [merge, written]
    cases step.saveAs with
    | none => rfl
    | some key => rfl

theorem get?_merge (state : State) (outcome : Outcome) (key : String) :
    (merge state outcome).get? key = (outcome.written.get? key).or (state.get? key) := by
  rw [merge_eq_extend, Dict.get?_extend outcome.written.ascending]
  rfl

theorem get?_foldl_merge_of_notMem {outcomes : List Outcome} {key : String}
    (absent : ∀ outcome ∈ outcomes, key ∉ outcome.record.producedKeys) (state : State) :
    (outcomes.foldl merge state).get? key = state.get? key := by
  induction outcomes generalizing state with
  | nil => rfl
  | cons outcome rest ih =>
    obtain ⟨own, others⟩ := List.forall_mem_cons.mp absent
    rw [List.foldl_cons, ih others, get?_merge]
    rw [producedKeys_record, Dict.mem_keys_iff, Option.not_isSome_iff_eq_none] at own
    rw [own, Option.none_or]

theorem mem_keys_foldl_merge {outcomes : List Outcome} {key : String} {state : State} :
    key ∈ (outcomes.foldl merge state).keys ↔
      key ∈ state.keys ∨ ∃ outcome ∈ outcomes, key ∈ outcome.record.producedKeys := by
  induction outcomes generalizing state with
  | nil => simp
  | cons outcome rest ih =>
    have own : key ∈ (merge state outcome).keys ↔
        key ∈ state.keys ∨ key ∈ outcome.record.producedKeys := by
      rw [producedKeys_record, Dict.mem_keys_iff, Dict.mem_keys_iff, Dict.mem_keys_iff, get?_merge,
        Option.isSome_or, Bool.or_eq_true, or_comm]
    rw [List.foldl_cons, ih, own]
    simp [or_assoc]

theorem get?_foldl_merge_last {before after : List Outcome} {outcome : Outcome} {key : String}
    (lists : key ∈ outcome.record.producedKeys)
    (last : ∀ later ∈ after, key ∉ later.record.producedKeys) (state : State) :
    ∃ value, outcome.written.get? key = some value ∧
      ((before ++ outcome :: after).foldl merge state).get? key = some value := by
  rw [producedKeys_record, Dict.mem_keys_iff, Option.isSome_iff_exists] at lists
  obtain ⟨value, own⟩ := lists
  refine ⟨value, own, ?_⟩
  rw [List.foldl_append, List.foldl_cons, get?_foldl_merge_of_notMem last, get?_merge, own, Option.some_or]

end Outcome

/-- Outcomes whose failures name the capability of their step are behind the run that takes them in. -/
theorem Replays.of_outcomes {outcomes : List Outcome}
    (named : ∀ outcome ∈ outcomes, ∀ error, outcome.result = .error error →
      error.capability = outcome.prepared.capability) :
    Replays (outcomes.map Outcome.record) (outcomes.foldl Outcome.merge ∅) outcomes where
  listed := rfl
  merged := rfl
  keys key := by
    rw [Outcome.mem_keys_foldl_merge]
    constructor
    · rintro (stale | ⟨outcome, member, lists⟩)
      · cases stale
      · exact ⟨outcome.record, List.mem_map_of_mem member, lists⟩
    · rintro ⟨record, member, lists⟩
      obtain ⟨outcome, inOutcomes, rfl⟩ := List.mem_map.mp member
      exact .inr ⟨outcome, inOutcomes, lists⟩
  value before outcome after key split lists last := by
    subst split
    exact Outcome.get?_foldl_merge_last lists last ∅
  flat outcome _ output success flat := by
    have whole : outcome.written = output := by rw [Outcome.written, success, flat]
    exact ⟨whole, by rw [outcome.producedKeys_record, whole], output.keys_ascending⟩
  wrapped outcome _ output key success wraps := by
    have single : outcome.written.entries = [(key, .object output.entries)] := by
      rw [Outcome.written, success, wraps]
      rfl
    refine ⟨single, ?_⟩
    rw [outcome.producedKeys_record, Dict.keys, single]
    rfl
  clean outcome _ output success :=
    ⟨outcome.reports.isOk_iff.mpr ⟨output, success⟩, outcome.reports.clean output success⟩
  failed outcome member error failure := by
    refine ⟨fun state => by rw [Outcome.merge, failure], ?_⟩
    rw [Outcome.record, failure]
    refine ⟨rfl, rfl, rfl, error.detail, rfl, ?_⟩
    rw [error.field?_detail, named outcome member error failure]
    rfl

theorem invokeNested_error {nested : Nested σ} {run : Run} {params : Json} {session : Session σ} {error : CallError}
    (failure : (invokeNested nested run params session).1 = .error error) :
    error.capability = invokeCapability := by
  unfold invokeNested at failure
  split at failure
  · dsimp only [nestedOutput] at failure
    split at failure <;> cases failure
    rfl
  · cases failure; rfl

namespace Runner

variable {runner : Runner σ} {mode : StepMode} {id : String} {inputs : Dict Json} {depth : Nat}
  {session : Session σ} {sink : Option Sink} {envelope : Envelope} {answers : PatternRun σ → Prop}

/-- However a step is served, its failure names the step's capability. -/
theorem serve_error {nested : Nested σ} {prepared : PreparedStep} {run : Run} {error : CallError}
    (failure : (runner.serve nested mode prepared run session).1 = .error error) :
    error.capability = prepared.capability := by
  unfold serve at failure
  split at failure
  · dsimp only [streamed] at failure
    cases opened : (runner.registry.stream prepared.capability prepared.params run.context
        session.handlers).result with
    | error => rw [opened] at failure; cases failure; exact Registry.stream_error opened
    | ok chunks =>
      rw [opened] at failure
      dsimp only [Except.bind] at failure
      split at failure <;> cases failure
      rfl
  · unfold call at failure
    split at failure
    next invokes => rw [invokes]; exact invokeNested_error failure
    · exact Registry.execute_error failure

theorem Replayed.mono {weaker : PatternRun σ → Prop} (replayed : runner.Replayed answers envelope)
    (implies : ∀ run, answers run → weaker run) : runner.Replayed weaker envelope := by
  obtain ⟨outcomes, replays, none | ⟨run, answered, own, sources⟩⟩ := replayed
  · exact ⟨outcomes, replays, .inl none⟩
  · exact ⟨outcomes, replays, .inr ⟨run, implies run answered, own, sources⟩⟩

theorem replayed_failure (runner : Runner σ) (answers : PatternRun σ → Prop) (id : String) (error : RunError) :
    runner.Replayed answers (.failure id error) := by
  have nothing : Replays [] ∅ [] := @Replays.of_outcomes [] (by simp)
  exact ⟨[], nothing, .inl rfl⟩

theorem runPattern_replayed {pattern : Pattern} (answered : answers ⟨pattern, mode, inputs, depth, session, sink⟩)
    (done : (runner.runPattern (runner.nested depth) mode pattern inputs depth session sink).1 =
      .done envelope) : runner.Replayed answers envelope := by
  have heard := enter_heard pattern inputs depth session sink
  obtain ⟨outcomes, stop, after, error, course, rfl⟩ := runPattern_done done
  have named : ∀ outcome ∈ outcomes, ∀ error, outcome.result = .error error →
      error.capability = outcome.prepared.capability := by
    intro outcome member error failure
    obtain ⟨i, atOutcome⟩ := List.mem_iff_getElem?.mp member
    obtain ⟨_, _, _, gate, _, result⟩ := course.serves atOutcome
    exact serve_error (result.trans failure)
  have trace : (conclude pattern after.run error).trace = outcomes.map Outcome.record :=
    course.trace_conclude (by rw [heard.run])
  have state : (conclude pattern after.run error).state = outcomes.foldl Outcome.merge ∅ := by
    change after.run.state = _
    rw [course.run_eq, Outcome.state_foldl_apply, heard.run]
  refine ⟨outcomes, ?_, .inr ⟨_, answered, rfl, ?_⟩⟩
  · rw [trace, state]
    exact .of_outcomes named
  · intro i outcome atOutcome
    obtain ⟨atStep, before, reached, serves⟩ := course.serves atOutcome
    rw [Nat.zero_add] at serves
    exact ⟨atStep, before, reached, serves⟩

theorem execute_replayed
    (answered : ∀ pattern, runner.catalog.get? id = some pattern →
      answers ⟨pattern, mode, inputs, depth, session, sink⟩)
    (done : (runner.execute (runner.nested depth) mode id inputs depth session sink).1 = .done envelope) :
    runner.Replayed answers envelope := by
  unfold execute at done
  split at done
  · cases done
  · split at done
    · cases done
    next pattern found => exact runPattern_replayed (answered pattern found) done

/-- What takes the place of a run that panicked is the terminal envelope, or that of the recovery pattern's run. -/
theorem recover_replayed {panic : Panic} {middle : Session σ} {last : Option Sink}
    (panicked : runner.execute (runner.nested depth) mode id inputs depth session sink =
      (.panicked panic, middle, last)) :
    runner.Replayed (runner.ContainedBy mode id inputs depth session sink)
      (runner.recover (runner.nested depth) id inputs depth panic middle).1 := by
  have terminal := runner.replayed_failure (runner.ContainedBy mode id inputs depth session sink) id (.unexpected id)
  rcases Classical.em (∃ recovery, runner.Recovers id recovery) with ⟨recovery, recovers⟩ | alone
  · rw [recover_eq_of_recovers recovers]
    cases ended : (runner.recovering recovery id inputs depth panic middle).1 with
    | failed => exact terminal
    | panicked => exact terminal
    | done envelope =>
      dsimp only [replacement]
      split
      next succeeds =>
        have replayed : runner.Replayed (runner.ContainedBy mode id inputs depth session sink) envelope :=
          execute_replayed (fun pattern => .recovery panicked recovers ended succeeds) ended
        exact replayed
      next => exact terminal
  · rw [recover_eq_of_not_recovers (not_exists.mp alone)]
    exact terminal

theorem contained_replayed (runner : Runner σ) (mode : StepMode) (id : String) (inputs : Dict Json) (depth : Nat)
    (session : Session σ) (sink : Option Sink) :
    runner.Replayed (runner.ContainedBy mode id inputs depth session sink)
      (runner.contained mode id inputs depth session sink).1 := by
  unfold contained
  cases ran : runner.execute (runner.nested depth) mode id inputs depth session sink with
  | mk attempt ended =>
    cases attempt with
    | done envelope => exact execute_replayed (fun pattern => .own ran) (congrArg Prod.fst ran)
    | failed error => exact runner.replayed_failure _ id error
    | panicked panic => exact recover_replayed ran

theorem run_replayed (runner : Runner σ) (id : String) (inputs : Dict Json) (depth : Nat) (session : Session σ) :
    runner.Replayed (runner.ContainedBy .evented id inputs depth session none)
      (runner.runAtDepth id inputs depth session).1 := by
  rw [runAtDepth_eq_contained]
  exact runner.contained_replayed .evented id inputs depth session none

theorem direct_replayed (runner : Runner σ) (request : RouteRequest) (session : Session σ) :
    runner.Replayed (· = ⟨directPattern request, .evented, request.inputs, 0, session, none⟩)
      (runner.direct request session).1 := by
  cases called : runner.call (runner.nested 0) (directStep request) (directRun request) session with
  | mk result after =>
    -- Publishing the state as data changes neither the state nor the trace.
    have replayed : runner.Replayed (· = ⟨directPattern request, .evented, request.inputs, 0, session, none⟩) _ :=
      runPattern_replayed rfl (congrArg Prod.fst (runPattern_direct called))
    simp only [direct, runPattern_direct called, Attempt.publishState, contain]
    exact replayed

theorem route_replayed (runner : Runner σ) (request : RouteRequest) (session : Session σ) :
    runner.Replayed (runner.AnsweredBy session (.route request)) (runner.route request session).1 := by
  rcases Classical.em (runner.FallsBack request session) with back | serves
  · rw [route_of_fallsBack back]
    refine (runner.direct_replayed request _).mono ?_
    rintro _ rfl
    exact .direct back
  · obtain ⟨id, known, served⟩ := route_of_not_fallsBack serves
    rw [served]
    exact (runner.run_replayed id (metaInputs request) 0 session).mono fun run =>
      .attempt serves (knownMeta?_eq_some_iff.mp known).1

/-- Whatever a runner is asked for, the state of its envelope is the replay of the outcomes in the trace. -/
theorem answer_replayed (runner : Runner σ) (request : Request) (session : Session σ) :
    runner.Replayed (runner.AnsweredBy session request) (runner.answer request session).1 := by
  cases request with
  | run id inputs => exact (runner.run_replayed id inputs 0 session).mono fun run => .run
  | runAtDepth id inputs depth => exact (runner.run_replayed id inputs depth session).mono fun run => .runAtDepth
  | route request => exact runner.route_replayed request session
  | stream id inputs mode departure =>
    exact (runner.contained_replayed mode id inputs 0 session (some { departure })).mono fun run => .stream

end Runner

end Orchestra
