import Orchestra.Proofs.Accounting
import Orchestra.Proofs.Turn

namespace Orchestra

variable {σ : Type}

section Identifier

variable {context other : Dict Json}

/-- A caller is identified by three inputs, and by no other. -/
theorem identifier_congr (same : ∀ field ∈ identifierFields, context.get? field = other.get? field) :
    identifier context = identifier other := by
  have fields := same
  simp only [identifierFields, List.forall_mem_cons] at fields
  obtain ⟨user, portfolio, request, _⟩ := fields
  simp [identifier, identifierFields, List.findSome?, user, portfolio, request]

theorem identifier_insert {key : String} (plain : key ∉ identifierFields) (context : Dict Json) (value : Json) :
    identifier (context.insert key value) = identifier context := by
  refine identifier_congr fun field member => ?_
  have different : key ≠ field := fun same => plain (same ▸ member)
  rw [Dict.get?_insert, if_neg different]

theorem identifier_extend {extra : List (String × Json)} (plain : ∀ field ∈ identifierFields, field ∉ extra.map Prod.fst)
    (context : Dict Json) : identifier (context.extend extra) = identifier context :=
  identifier_congr fun field member => Dict.get?_extend_of_notMem (plain field member) context

theorem identifier_recoveryInputs (inputs : Dict Json) (panic : Panic) (id : String) :
    identifier (Runner.recoveryInputs inputs panic id) = identifier inputs := by
  rw [Runner.recoveryInputs, identifier_insert (by decide), identifier_insert (by decide)]

theorem identifier_metaInputs (request : RouteRequest) :
    identifier (Runner.metaInputs request) = identifier request.inputs := by
  rw [Runner.metaInputs, identifier_insert (by decide), identifier_insert (by decide)]

/-- Of its context, a decision depends on the identifier alone. -/
theorem FlagConfig.decision_congr (same : identifier context = identifier other) (config : FlagConfig)
    (flag : String) : config.decision flag context = config.decision flag other := by
  rw [decision, decision, same]

end Identifier

/-- The step is to run a pattern, and passes inputs on to it that identify a caller. -/
def Turn.Reidentifies (turn : Turn) : Prop :=
  turn.choice = .ok invokeCapability ∧ ∃ extra, turn.params.field? "inputs" = some (.object extra) ∧
    ∃ field ∈ identifierFields, field ∈ extra.map Prod.fst

theorem Turn.identifier_nestedInputs {turn : Turn} (choice : turn.choice = .ok invokeCapability)
    (keeps : ¬ turn.Reidentifies) : identifier (nestedInputs turn.run turn.params) = identifier turn.run.inputs := by
  unfold nestedInputs
  split
  next extra passed =>
    exact identifier_extend (fun field identifies given =>
      keeps ⟨choice, extra, passed, field, identifies, given⟩) turn.run.inputs
  · rfl

/-- From one gate to another these turns are all that is asked, some of them by the entries of a trace; and all are for
this caller, if no step passes on another one. -/
structure Turn.Cover (turns : List Turn) (caller : String) (before after : Option Gate) (trace : List StepRecord) :
    Prop where
  chain : Turn.Chain before turns after
  told : ∀ record ∈ trace, ∃ turn ∈ turns, turn.choice = .ok record.capability
  identified : (∀ turn ∈ turns, ¬ turn.Reidentifies) → ∀ turn ∈ turns, identifier turn.run.inputs = caller

namespace Turn.Cover

variable {turns more : List Turn} {caller : String} {first middle last : Option Gate} {trace later : List StepRecord}

theorem none : Turn.Cover [] caller first first [] where
  chain := .nil
  told _ member := nomatch member
  identified _ _ member := nomatch member

theorem append (before : Turn.Cover turns caller first middle trace) (after : Turn.Cover more caller middle last later) :
    Turn.Cover (turns ++ more) caller first last (trace ++ later) where
  chain := before.chain.append after.chain
  told record member := by
    rcases List.mem_append.mp member with old | new
    · obtain ⟨turn, here, choice⟩ := before.told record old
      exact ⟨turn, List.mem_append_left _ here, choice⟩
    · obtain ⟨turn, here, choice⟩ := after.told record new
      exact ⟨turn, List.mem_append_right _ here, choice⟩
  identified keeps :=
    have parts := List.forall_mem_append.mp keeps
    List.forall_mem_append.mpr ⟨before.identified parts.1, after.identified parts.2⟩

theorem drop (cover : Turn.Cover turns caller first last trace) : Turn.Cover turns caller first last [] :=
  ⟨cover.chain, nofun, cover.identified⟩

end Turn.Cover

/-- Below this depth, the turns of every run are known. -/
def Covered (depth : Nat) (below : Invocation σ → List Turn) (nested : Nested σ) : Prop :=
  ∀ id inputs session, Turn.Cover (below ⟨id, inputs, depth + 1, session⟩) (identifier inputs) session.gate
    (nested id inputs session).2.gate []

namespace Runner

variable {runner : Runner σ} {nested : Nested σ} {below : Invocation σ → List Turn} {mode : StepMode} {step : Step}
  {index depth : Nat} {live after : Live σ} {outcome : Outcome} {stop : Option Interruption} {id : String}
  {inputs : Dict Json} {session : Session σ} {sink : Option Sink}

theorem Stepped.choice (stepped : runner.Stepped nested mode step index live (some outcome) stop after) :
    (live.turn step).choice = .ok outcome.record.capability := by
  obtain ⟨rfl, gate, ready, _⟩ := stepped.serves
  exact (Step.prepare_ok (congrArg Prod.fst ready)).2

/-- The turn of a step covers what it does, together with the turns of the run that it invokes. -/
theorem runStep_cover (runner : Runner σ) (covered : Covered live.run.depth below nested) (mode : StepMode)
    (step : Step) (index : Nat) :
    ∃ entries, (runner.runStep nested mode step index live).2.run.trace = live.run.trace ++ entries ∧
      Turn.Cover ((step.turn? live).toList ++ (step.invoked? mode index live).toList.flatMap below)
        (identifier live.run.inputs) live.session.gate
        (runner.runStep nested mode step index live).2.session.gate entries := by
  obtain ⟨outcome, stepped⟩ := runner.runStep_stepped nested mode step index live
  have takes := runner.runStep_takes nested mode step index live
  generalize runner.runStep nested mode step index live = ended at stepped takes
  generalize step.turn? live = turn at takes
  generalize step.invoked? mode index live = invocation at takes
  obtain ⟨interruption, after⟩ := ended
  have entries : after.run.trace = live.run.trace ++ outcome.toList.map Outcome.record := by
    rw [stepped.run_eq, Outcome.trace_foldl_apply]
  have told : ∀ record ∈ outcome.toList.map Outcome.record, (live.turn step).choice = .ok record.capability := by
    intro record member
    obtain ⟨outcome, here, rfl⟩ := List.mem_map.mp member
    obtain rfl := Option.mem_toList.mp here
    exact stepped.choice
  cases takes with
  | away run gate =>
    refine ⟨[], by rw [run, List.append_nil], ?_⟩
    rw [gate]
    exact .none
  | alone gate =>
    refine ⟨_, entries, .cons rfl ?_, fun record member => ⟨_, List.mem_cons_self .., told record member⟩, ?_⟩
    · rw [gate]
      exact .nil
    · exact fun _ => List.forall_mem_singleton.mpr rfl
  | @run invocation _ choice inner deeper start session =>
    have within := covered invocation.id invocation.inputs invocation.session
    rw [← deeper, ← session, start] at within
    rw [Option.toList_some, Option.toList_some, List.flatMap_singleton, List.singleton_append]
    refine ⟨_, entries, .cons rfl within.chain, fun record member => ⟨_, List.mem_cons_self .., told record member⟩, ?_⟩
    intro keeps
    obtain ⟨own, rest⟩ := List.forall_mem_cons.mp keeps
    -- The invoked run is for the same caller, since this step passes on no other.
    have caller : identifier invocation.inputs = identifier live.run.inputs := by
      rw [inner]
      exact Turn.identifier_nestedInputs choice own
    rw [← caller]
    exact List.forall_mem_cons.mpr ⟨caller.symm, within.identified rest⟩

theorem runSteps_cover (runner : Runner σ) (covered : Covered live.run.depth below nested) (mode : StepMode)
    (steps : List Step) (index : Nat) :
    ∃ entries, (runner.runSteps nested mode steps index live).2.run.trace = live.run.trace ++ entries ∧
      Turn.Cover (runner.turns below nested mode steps index live) (identifier live.run.inputs) live.session.gate
        (runner.runSteps nested mode steps index live).2.session.gate entries := by
  induction steps generalizing index live with
  | nil => exact ⟨[], (List.append_nil _).symm, .none⟩
  | cons step rest ih =>
    obtain ⟨first, trace, cover⟩ := runner.runStep_cover covered mode step index
    obtain ⟨outcome, stepped⟩ := runner.runStep_stepped nested mode step index live
    have context := stepped.context_eq
    rw [runSteps, turns]
    generalize runner.runStep nested mode step index live = ended at trace cover context ⊢
    obtain ⟨_ | interruption, after⟩ := ended
    · have level : after.run.depth = live.run.depth := congrArg CallContext.depth context
      have caller : after.run.inputs = live.run.inputs := congrArg CallContext.inputs context
      rw [← level] at covered
      obtain ⟨later, trace', cover'⟩ := ih covered (index + 1)
      rw [caller] at cover'
      exact ⟨first ++ later, by rw [trace', trace, List.append_assoc], cover.append cover'⟩
    · refine ⟨first, trace, ?_⟩
      simpa using cover

/-- The trace of the envelope that an attempt comes to. -/
def traceOf : Attempt → List StepRecord
  | .done envelope => envelope.trace
  | _ => []

theorem runPattern_cover (runner : Runner σ) (mode : StepMode) (pattern : Pattern) (inputs : Dict Json)
    (covered : Covered depth below (runner.nested depth)) (session : Session σ) (sink : Option Sink) :
    Turn.Cover (runner.patternTurns below mode pattern inputs depth session sink) (identifier inputs) session.gate
      (runner.runPattern (runner.nested depth) mode pattern inputs depth session sink).2.1.gate
      (traceOf (runner.runPattern (runner.nested depth) mode pattern inputs depth session sink).1) := by
  have attempted := runner.runPattern_attempted (runner.nested depth) mode pattern inputs depth session sink
  have heard := enter_heard pattern inputs depth session sink
  unfold patternTurns
  generalize enter pattern inputs depth session sink = start at attempted heard
  obtain ⟨taken, live⟩ := start
  have covered : Covered live.run.depth below (runner.nested depth) := by rwa [heard.run]
  obtain ⟨entries, trace, cover⟩ := runner.runSteps_cover covered mode pattern.steps 0
  rw [heard.run, heard.session] at cover
  rw [heard.run] at trace
  generalize runner.runPattern (runner.nested depth) mode pattern inputs depth session sink = ended at attempted ⊢
  obtain ⟨attempt, final, last⟩ := ended
  cases attempted with
  | refused absent =>
    cases absent
    have same : live.session = session := heard.session
    subst same
    exact .none
  | panicked present ran =>
    cases present
    rw [ran] at cover
    exact cover.drop
  | done present ran =>
    cases present
    rw [ran] at cover trace
    rw [traceOf, conclude, trace]
    exact cover

theorem execute_cover (runner : Runner σ) (mode : StepMode) (id : String) (inputs : Dict Json)
    (covered : Covered depth below (runner.nested depth)) (session : Session σ) (sink : Option Sink) :
    Turn.Cover (runner.attemptTurns below mode id inputs depth session sink) (identifier inputs) session.gate
      (runner.execute (runner.nested depth) mode id inputs depth session sink).2.1.gate
      (traceOf (runner.execute (runner.nested depth) mode id inputs depth session sink).1) := by
  unfold execute attemptTurns
  split
  · exact .none
  · cases runner.catalog.get? id with
    | none => exact .none
    | some pattern => exact runner.runPattern_cover mode pattern inputs covered session sink

/-- The inputs of a recovery identify the same caller as those of the run that panicked. -/
theorem recover_cover (runner : Runner σ) (id : String) (inputs : Dict Json) (panic : Panic)
    (covered : Covered depth below (runner.nested depth)) (session : Session σ) :
    Turn.Cover (runner.recoveryTurns below id inputs depth panic session) (identifier inputs) session.gate
      (runner.recover (runner.nested depth) id inputs depth panic session).2.gate
      (runner.recover (runner.nested depth) id inputs depth panic session).1.trace := by
  unfold recover recoveryTurns
  cases runner.options.recoveryPattern with
  | none => exact .none
  | some recovery =>
    dsimp only
    split
    · exact .none
    · have cover := runner.execute_cover .evented recovery (recoveryInputs inputs panic id) covered session none
      rw [identifier_recoveryInputs] at cover
      generalize runner.execute (runner.nested depth) .evented recovery (recoveryInputs inputs panic id) depth
        session none = ended at cover ⊢
      obtain ⟨envelope | _ | _, middle, last⟩ := ended
      · dsimp only
        split
        · exact cover
        · exact cover.drop
      · exact cover
      · exact cover

theorem contained_cover (runner : Runner σ) (mode : StepMode) (id : String) (inputs : Dict Json)
    (covered : Covered depth below (runner.nested depth)) (session : Session σ) (sink : Option Sink) :
    Turn.Cover (runner.containedTurns below mode id inputs depth session sink) (identifier inputs) session.gate
      (runner.contained mode id inputs depth session sink).2.gate
      (runner.contained mode id inputs depth session sink).1.trace := by
  have cover := runner.execute_cover mode id inputs covered session sink
  unfold contained containedTurns
  generalize runner.execute (runner.nested depth) mode id inputs depth session sink = ended at cover ⊢
  obtain ⟨attempt, middle, last⟩ := ended
  cases attempt with
  | done envelope =>
    dsimp only
    rw [List.append_nil]
    exact cover
  | failed error =>
    dsimp only
    rw [List.append_nil]
    exact cover
  | panicked panic => exact cover.append (runner.recover_cover id inputs panic covered middle)

theorem turnsWithin_cover {level : Nat} (enough : runner.options.maxDepth ≤ depth + level) (id : String)
    (inputs : Dict Json) (session : Session σ) :
    Turn.Cover (runner.turnsWithin level ⟨id, inputs, depth, session⟩) (identifier inputs) session.gate
      (runner.runAtDepth id inputs depth session).2.gate (runner.runAtDepth id inputs depth session).1.trace := by
  induction level generalizing id inputs depth session with
  | zero =>
    have limit : runner.options.maxDepth ≤ depth := enough
    rw [runAtDepth_eq_contained, contained_of_limit_le limit]
    dsimp only
    rw [Session.account_gate]
    exact .none
  | succ level ih =>
    have covered : Covered depth (runner.turnsWithin level) (runner.nested depth) := by
      intro id inputs session
      rw [nested_eq]
      exact (ih (by omega) id inputs session).drop
    rw [runAtDepth_eq_contained]
    dsimp only
    rw [Session.account_gate]
    exact runner.contained_cover .evented id inputs covered session none

theorem covered_nested (runner : Runner σ) (depth : Nat) :
    Covered depth (runner.turnsWithin runner.options.maxDepth) (runner.nested depth) := by
  intro id inputs session
  rw [nested_eq]
  exact (turnsWithin_cover (Nat.le_add_left _ _) id inputs session).drop

theorem direct_cover (runner : Runner σ) (request : RouteRequest) (session : Session σ) :
    Turn.Cover (runner.directTurns (runner.turnsWithin runner.options.maxDepth) request session)
      (identifier request.inputs) session.gate (runner.direct request session).2.gate
      (runner.direct request session).1.trace := by
  have cover := runner.runPattern_cover .evented (directPattern request) request.inputs (runner.covered_nested 0)
    session none
  cases called : runner.call (runner.nested 0) (directStep request) (directRun request) session with
  | mk result after =>
    rw [runPattern_direct called] at cover
    rw [direct_eq called]
    dsimp only
    rw [Session.account_gate]
    exact cover

theorem route_cover (runner : Runner σ) (request : RouteRequest) (session : Session σ) :
    Turn.Cover (runner.allTurns (.route request) session) (identifier request.inputs) session.gate
      (runner.route request session).2.gate (runner.route request session).1.trace := by
  rw [route_eq]
  unfold allTurns requestTurns routeTurns
  cases runner.knownMeta? with
  | none => exact runner.direct_cover request session
  | some id =>
    have attempt := runner.contained_cover .evented id (metaInputs request) (runner.covered_nested 0) session none
    rw [identifier_metaInputs] at attempt
    dsimp only
    split
    · -- The entries of the meta attempt are discarded, its turns are not.
      exact attempt.drop.append (runner.direct_cover request _)
    · rw [run_eq_metaAttempt, List.append_nil]
      dsimp only
      rw [Session.account_gate]
      exact attempt

theorem answer_cover (runner : Runner σ) (request : Request) (session : Session σ) :
    Turn.Cover (runner.allTurns request session) (identifier request.inputs) session.gate
      (runner.answer request session).2.2.gate (runner.answer request session).1.trace := by
  have enough (depth : Nat) : runner.options.maxDepth ≤ depth + (runner.options.maxDepth + 1) := by omega
  cases request with
  | run id inputs => exact turnsWithin_cover (enough 0) id inputs session
  | runAtDepth id inputs depth => exact turnsWithin_cover (enough depth) id inputs session
  | route request => exact runner.route_cover request session
  | stream id inputs mode departure =>
    have same : (runner.answer (.stream id inputs mode departure) session).2.2.gate = _ := Session.account_gate ..
    rw [same]
    exact runner.contained_cover mode id inputs (runner.covered_nested 0) session (some { departure })

/-- While a request is served from a source that comes to the same load every time, a flag is decided for one caller
and in one way. -/
structure Sticky (runner : Runner σ) (load : FlagLoad) (request : Request) (session : Session σ) (envelope : Envelope)
    (after : Session σ) : Prop where
  /-- The turns are all that is asked between the two sessions. -/
  chain : Turn.Chain session.gate (runner.allTurns request session) after.gate
  told : ∀ record ∈ envelope.trace, ∃ turn ∈ runner.allTurns request session, turn.choice = .ok record.capability
  identified : ∀ turn ∈ runner.allTurns request session, ∀ reroute gate decision, turn.step.reroute = some reroute →
    turn.gate = some gate → (gate.decision reroute.flag turn.run.inputs).1 = .ok decision →
    decision.identifier = identifier request.inputs
  decided : ∀ turn ∈ runner.allTurns request session, ∀ reroute, turn.step.reroute = some reroute →
    turn.choice = load.settled.map fun config =>
      if (config.decision reroute.flag request.inputs).enabled then reroute.capability else turn.step.capability
  /-- Steps with the same flag all go the way of their reroutes, or all their own way. -/
  agreed : ∀ flag,
    (∀ turn ∈ runner.allTurns request session, ∀ reroute capability, turn.step.reroute = some reroute →
      reroute.flag = flag → turn.choice = .ok capability → capability = reroute.capability) ∨
    ∀ turn ∈ runner.allTurns request session, ∀ reroute capability, turn.step.reroute = some reroute →
      reroute.flag = flag → turn.choice = .ok capability → capability = turn.step.capability

end Runner

theorem Gate.identifier_decision {gate : Gate} {flag : String} {context : Dict Json} {decision : Decision}
    (taken : (gate.decision flag context).1 = .ok decision) : decision.identifier = identifier context := by
  have own (config : FlagConfig) : (config.decision flag context).identifier = identifier context := by
    unfold FlagConfig.decision
    dsimp only
    split <;> rfl
  unfold Gate.decision at taken
  generalize gate.snapshot = answer at taken
  obtain ⟨_ | config, after⟩ := answer
  · cases taken
  · cases taken
    exact own config

section Steady

variable {turn : Turn} {load : FlagLoad}

theorem Turn.steady_after (steady : ∃ gate, turn.gate = some gate ∧ gate.Steady load) :
    ∃ gate, turn.after = some gate ∧ gate.Steady load := by
  obtain ⟨gate, found, steady⟩ := steady
  unfold Turn.after Step.choose
  rw [found]
  cases turn.step.reroute with
  | none => exact ⟨gate, rfl, steady⟩
  | some reroute => exact ⟨_, rfl, (steady.isEnabled reroute.flag turn.run.inputs).2⟩

/-- A flag is decided for the caller, whichever run the turn belongs to. -/
theorem Turn.choice_of_steady {inputs : Dict Json} {reroute : Reroute}
    (steady : ∃ gate, turn.gate = some gate ∧ gate.Steady load)
    (caller : identifier turn.run.inputs = identifier inputs) (flagged : turn.step.reroute = some reroute) :
    turn.choice = load.settled.map fun config =>
      if (config.decision reroute.flag inputs).enabled then reroute.capability else turn.step.capability := by
  obtain ⟨gate, found, steady⟩ := steady
  have decided := (steady.isEnabled reroute.flag turn.run.inputs).1
  unfold Turn.choice Step.choose
  rw [flagged, found]
  dsimp only
  rw [decided]
  cases load.settled with
  | error panic => rfl
  | ok config => simp only [Except.map, FlagConfig.decision_congr caller]

end Steady

namespace Runner

/-- All runs of a call are for the caller that its inputs identify, unless a step passes on other identifying inputs;
so a source that does not change decides a flag in one way, however often it is asked. -/
theorem answer_sticky (runner : Runner σ) (load : FlagLoad) (request : Request) (session : Session σ)
    (steady : session.Steady (some load)) (keeps : ∀ turn ∈ runner.allTurns request session, ¬ turn.Reidentifies) :
    runner.Sticky load request session (runner.answer request session).1 (runner.answer request session).2.2 := by
  have cover := runner.answer_cover request session
  have caller := cover.identified keeps
  have gates : ∀ turn ∈ runner.allTurns request session, ∃ gate, turn.gate = some gate ∧ gate.Steady load := by
    have start : ∃ gate, session.gate = some gate ∧ gate.Steady load := by
      cases steady with
      | gated found steady => exact ⟨_, found, steady⟩
    exact cover.chain.forall_gate (fun found => ∃ gate, found = some gate ∧ gate.Steady load) start
      fun _ => Turn.steady_after
  have decided : ∀ turn ∈ runner.allTurns request session, ∀ reroute, turn.step.reroute = some reroute →
      turn.choice = load.settled.map fun config =>
        if (config.decision reroute.flag request.inputs).enabled then reroute.capability else turn.step.capability :=
    fun turn member reroute flagged => Turn.choice_of_steady (gates turn member) (caller turn member) flagged
  refine ⟨cover.chain, cover.told, ?_, decided, fun flag => ?_⟩
  · intro turn member reroute gate decision _ _ taken
    rw [Gate.identifier_decision taken, caller turn member]
  · -- What the source settles on decides the flag for all turns at once.
    cases settled : load.settled with
    | error panic =>
      refine .inl fun turn member reroute capability flagged _ choice => ?_
      rw [decided turn member reroute flagged, settled] at choice
      cases choice
    | ok config =>
      cases on : (config.decision flag request.inputs).enabled with
      | true =>
        refine .inl fun turn member reroute capability flagged same choice => ?_
        rw [decided turn member reroute flagged, settled, same] at choice
        simpa [Except.map, on, eq_comm] using choice
      | false =>
        refine .inr fun turn member reroute capability flagged same choice => ?_
        rw [decided turn member reroute flagged, settled, same] at choice
        simpa [Except.map, on, eq_comm] using choice

/-- A runner whose meta pattern has a flagged step, and then runs a pattern with another step of that flag. -/
def flaggedRunner : Runner Unit where
  registry := Builtin.registry
  catalog := .ofList [
    { id := "meta"
      steps := [
        { capability := "absent", reroute := some ⟨"beta", "echo"⟩ },
        { capability := "pattern.invoke"
          args := .object [("pattern_id", .string "child"), ("inputs", .object [("tone", .string "{capability}")])] }] },
    { id := "child", steps := [{ capability := "echo", reroute := some ⟨"beta", "text.generate"⟩ }] }]
  options := { metaPattern := some "meta" }

def betaConfig : FlagConfig := FlagConfig.withFlag ∅ "ui" "beta" (.ofRollout (.ofNat 100))

def betaSession : Session Unit := { gatedSession with gate := some ⟨.constant betaConfig, .always, none⟩ }

def callerRequest : Request := .route ⟨"echo", .object [], .ofList [("user_id", .string "ann")]⟩

theorem answer_sticky_flagged :
    betaSession.Steady (some (.config betaConfig)) ∧
      (∀ turn ∈ flaggedRunner.allTurns callerRequest betaSession, ¬ turn.Reidentifies) ∧
      flaggedRunner.Sticky (.config betaConfig) callerRequest betaSession
        (flaggedRunner.answer callerRequest betaSession).1 (flaggedRunner.answer callerRequest betaSession).2.2 := by
  have steady : betaSession.Steady (some (.config betaConfig)) := .gated rfl ⟨fun _ => rfl, nofun⟩
  have passed : (flaggedRunner.allTurns callerRequest betaSession).map
      (fun turn => ((turn.params.field? "inputs").bind Json.object?).map fun extra => extra.map Prod.fst) =
        [none, some ["tone"], none] := by decide +kernel
  have keeps : ∀ turn ∈ flaggedRunner.allTurns callerRequest betaSession, ¬ turn.Reidentifies := by
    rintro turn member ⟨_, extra, found, field, identifies, given⟩
    have here := List.mem_map_of_mem member
      (f := fun turn => ((turn.params.field? "inputs").bind Json.object?).map fun extra => extra.map Prod.fst)
    rw [passed, found] at here
    have listed : some (extra.map Prod.fst) ∈ [none, some ["tone"], none] := here
    have tone : extra.map Prod.fst = ["tone"] := by simpa using listed
    rw [tone, List.mem_singleton] at given
    subst given
    exact absurd identifies (by decide)
  exact ⟨steady, keeps, answer_sticky flaggedRunner _ callerRequest betaSession steady keeps⟩

end Runner

end Orchestra
