import Orchestra.Proofs.Routing

namespace Orchestra

variable {σ : Type}

/-- A run of a pattern that a step invokes, with the session in which it starts. -/
structure Invocation (σ : Type) where
  id : String
  inputs : Dict Json
  depth : Nat
  session : Session σ

/-- What parameters invoke, if they name a pattern. -/
def invoked? (params : Json) (run : Run) (session : Session σ) : Option (Invocation σ) :=
  match params.field? "pattern_id" with
  | some (.string id) => some ⟨id, nestedInputs run params, run.depth + 1, session⟩
  | _ => none

/-- What a step invokes that is called in plain form, unless its reader refuses to hear of it. -/
def PreparedStep.invoked? (prepared : PreparedStep) (step : Step) (audible : Bool) (live : Live σ) :
    Option (Invocation σ) :=
  match live.emitIf audible (.stepStart prepared.index prepared.capability step.description) with
  | (false, _) => none
  | (true, live) =>
    if prepared.capability = invokeCapability then Orchestra.invoked? prepared.params live.run live.session
    else none

/-- What a step invokes. A capability that is streamed invokes nothing, whatever its name is. -/
def Step.invoked? (step : Step) (mode : StepMode) (index : Nat) (live : Live σ) : Option (Invocation σ) :=
  match live.poll with
  | (true, _) => none
  | (false, live) =>
    let (prepared, gate) := step.prepare index live.run live.session.gate
    let live := { live with session := { live.session with gate } }
    match prepared, mode with
    | .error _, _ => none
    | .ok prepared, .evented => prepared.invoked? step true live
    | .ok prepared, .tokens generative =>
      if prepared.capability = generative then none else prepared.invoked? step false live

def Request.depth : Request → Nat
  | .runAtDepth _ _ depth => depth
  | _ => 0

namespace Runner

/-- What steps invoke, until one interrupts. -/
def invocations (runner : Runner σ) (nested : Nested σ) (mode : StepMode) :
    List Step → Nat → Live σ → List (Invocation σ)
  | [], _, _ => []
  | step :: rest, index, live =>
    (step.invoked? mode index live).toList ++
      match runner.runStep nested mode step index live with
      | (none, live) => invocations runner nested mode rest (index + 1) live
      | (some _, _) => []

def patternInvocations (runner : Runner σ) (mode : StepMode) (pattern : Pattern) (inputs : Dict Json)
    (depth : Nat) (session : Session σ) (sink : Option Sink) : List (Invocation σ) :=
  match enter pattern inputs depth session sink with
  | (false, _) => []
  | (true, live) => runner.invocations (runner.nested depth) mode pattern.steps 0 live

def attemptInvocations (runner : Runner σ) (mode : StepMode) (id : String) (inputs : Dict Json) (depth : Nat)
    (session : Session σ) (sink : Option Sink) : List (Invocation σ) :=
  if runner.options.maxDepth ≤ depth then []
  else match runner.catalog.get? id with
    | none => []
    | some pattern => runner.patternInvocations mode pattern inputs depth session sink

def recoveryInvocations (runner : Runner σ) (id : String) (inputs : Dict Json) (depth : Nat) (panic : Panic)
    (session : Session σ) : List (Invocation σ) :=
  match runner.options.recoveryPattern with
  | none => []
  | some recovery =>
    if recovery = id ∨ ¬ runner.catalog.contains recovery then []
    else runner.attemptInvocations .evented recovery (recoveryInputs inputs panic id) depth session none

/-- What a contained run invokes, in its attempt and then in its recovery. -/
def containedInvocations (runner : Runner σ) (mode : StepMode) (id : String) (inputs : Dict Json) (depth : Nat)
    (session : Session σ) (sink : Option Sink) : List (Invocation σ) :=
  runner.attemptInvocations mode id inputs depth session sink ++
    match runner.execute (runner.nested depth) mode id inputs depth session sink with
    | (.panicked panic, session, _) => runner.recoveryInvocations id inputs depth panic session
    | _ => []

def directInvocations (runner : Runner σ) (request : RouteRequest) (session : Session σ) :
    List (Invocation σ) :=
  runner.patternInvocations .evented (directPattern request) request.inputs 0 session none

/-- What a routed request invokes, in its meta attempt and then in its direct call. -/
def routeInvocations (runner : Runner σ) (request : RouteRequest) (session : Session σ) :
    List (Invocation σ) :=
  match runner.knownMeta? with
  | none => runner.directInvocations request session
  | some id =>
    runner.containedInvocations .evented id (metaInputs request) 0 session none ++
      if signalsUnavailable (runner.metaAttempt id request session).1 then
        runner.directInvocations request (runner.metaAttempt id request session).2
      else []

/-- Invocations with all those that they lead to, this many levels down; each comes after its own. -/
def unfolded (runner : Runner σ) : Nat → List (Invocation σ) → List (Invocation σ)
  | 0, invocations => invocations
  | level + 1, invocations => invocations.flatMap fun invocation =>
      unfolded runner level (runner.containedInvocations .evented invocation.id invocation.inputs
        invocation.depth invocation.session none) ++ [invocation]

def requestInvocations (runner : Runner σ) (request : Request) (session : Session σ) : List (Invocation σ) :=
  match request with
  | .run id inputs => runner.containedInvocations .evented id inputs 0 session none
  | .runAtDepth id inputs depth => runner.containedInvocations .evented id inputs depth session none
  | .route request => runner.routeInvocations request session
  | .stream id inputs mode departure => runner.containedInvocations mode id inputs 0 session (some { departure })

/-- Everything that serving a request invokes, at any depth. -/
def allInvocations (runner : Runner σ) (request : Request) (session : Session σ) : List (Invocation σ) :=
  runner.unfolded runner.options.maxDepth (runner.requestInvocations request session)

def envelopeOf (runner : Runner σ) (invocation : Invocation σ) : Envelope :=
  (runner.runAtDepth invocation.id invocation.inputs invocation.depth invocation.session).1

def recordOf (runner : Runner σ) (invocation : Invocation σ) : RunRecord :=
  Session.recordOf (runner.envelopeOf invocation) invocation.inputs

end Runner

/-- These records, and no others, come to telemetry between two sessions. -/
def Session.Tracks (records : List RunRecord) (before after : Session σ) : Prop :=
  after.telemetry = records.foldl Telemetry.track before.telemetry

theorem Session.Tracks.trans {first middle last : Session σ} {records more : List RunRecord}
    (before : Session.Tracks records first middle) (later : Session.Tracks more middle last) :
    Session.Tracks (records ++ more) first last := by
  unfold Session.Tracks at *
  rw [List.foldl_append, later, before]

namespace Runner

variable {runner : Runner σ} {nested : Nested σ} {depth : Nat} {log : Invocation σ → List RunRecord}

/-- What a step comes to that invokes this run, or nothing. -/
inductive Invokes (nested : Nested σ) (step : Step) (before : Live σ) : Option (Invocation σ) → Live σ → Prop
  | nothing {after} : after.session.telemetry = before.session.telemetry → Invokes nested step before none after
  | run {invocation prepared after} : invocation.depth = before.run.depth + 1 →
      invocation.session.telemetry = before.session.telemetry →
      after.session = (nested invocation.id invocation.inputs invocation.session).2 →
      after.run = before.run.apply step prepared
        (nestedOutput (nested invocation.id invocation.inputs invocation.session).1) 0 →
      Invokes nested step before (some invocation) after

theorem Invokes.of_same {step : Step} {before middle after : Live σ} {invocation : Option (Invocation σ)}
    (invokes : Invokes nested step middle invocation after) (run : middle.run = before.run)
    (telemetry : middle.session.telemetry = before.session.telemetry) :
    Invokes nested step before invocation after := by
  cases invokes with
  | nothing same => exact .nothing (same.trans telemetry)
  | run deeper start session took =>
    rw [run] at deeper took
    exact .run deeper (start.trans telemetry) session took

theorem finish_run (step : Step) (prepared : PreparedStep) (result : Except CallError (Dict Json)) (audible : Bool)
    (live : Live σ) : (finish step prepared result audible live).2.run = live.run := by
  obtain ⟨taken, heard, _⟩ := finish_heard ⟨step, prepared, result⟩ audible live
  exact heard.run

theorem finish_session (step : Step) (prepared : PreparedStep) (result : Except CallError (Dict Json))
    (audible : Bool) (live : Live σ) : (finish step prepared result audible live).2.session = live.session := by
  obtain ⟨taken, heard, _⟩ := finish_heard ⟨step, prepared, result⟩ audible live
  exact heard.session

theorem runPlain_invokes (runner : Runner σ) (nested : Nested σ) (step : Step) (prepared : PreparedStep)
    (audible : Bool) (live : Live σ) :
    Invokes nested step live (prepared.invoked? step audible live)
      (runner.runPlain nested step prepared audible live).2 := by
  unfold runPlain PreparedStep.invoked?
  cases offer : live.emitIf audible (.stepStart prepared.index prepared.capability step.description) with
  | mk taken here =>
    have heard := Live.emitIf_heard offer
    refine Invokes.of_same ?_ heard.run (congrArg Session.telemetry heard.session)
    cases taken with
    | false => exact .nothing rfl
    | true =>
      dsimp only
      by_cases invoking : prepared.capability = invokeCapability
      · rw [if_pos invoking, call, if_pos invoking, invokeNested, invoked?]
        cases prepared.params.field? "pattern_id" with
        | none => exact .nothing (congrArg Session.telemetry (finish_session ..))
        | some value =>
          cases value with
          | string id => exact .run rfl rfl (finish_session ..) (finish_run ..)
          | _ => exact .nothing (congrArg Session.telemetry (finish_session ..))
      · rw [if_neg invoking, call, if_neg invoking]
        exact .nothing (by rw [finish_session]; rfl)

/-- A step that is streamed changes nothing in its session but the handlers. -/
theorem runGenerative_session (runner : Runner σ) (step : Step) (prepared : PreparedStep) (live : Live σ) :
    (runner.runGenerative step prepared live).2.session =
      { live.session with handlers := (runner.registry.stream prepared.capability prepared.params live.run.context
          live.session.handlers).state } := by
  unfold runGenerative
  generalize runner.registry.stream prepared.capability prepared.params live.run.context
    live.session.handlers = reply
  obtain ⟨_ | chunks, handlers, log⟩ := reply
  · exact finish_session ..
  · obtain ⟨taken, heard, _⟩ := readChunks_heard prepared.index chunks ""
      { live with session := { live.session with handlers } }
    have kept := heard.session
    dsimp only
    generalize readChunks prepared.index chunks "" _ = ended at kept ⊢
    obtain ⟨_ | _ | _, after⟩ := ended
    · exact (finish_session ..).trans kept
    · exact (finish_session ..).trans kept
    · exact kept

/-- A step adds to telemetry by the run that it invokes alone, and it takes in what that comes to. -/
theorem runStep_invokes (runner : Runner σ) (nested : Nested σ) (mode : StepMode) (step : Step) (index : Nat)
    (live : Live σ) :
    Invokes nested step live (step.invoked? mode index live) (runner.runStep nested mode step index live).2 := by
  unfold runStep Step.invoked?
  cases look : live.poll with
  | mk closed here =>
    have heard := Live.poll_heard look
    refine Invokes.of_same ?_ heard.run (congrArg Session.telemetry heard.session)
    cases closed with
    | true => exact .nothing rfl
    | false =>
      dsimp only
      generalize step.prepare index here.run here.session.gate = chosen
      obtain ⟨_ | prepared, gate⟩ := chosen
      · exact .nothing rfl
      · have gated {invocation : Option (Invocation σ)} {after : Live σ} (invokes : Invokes nested step
            ⟨here.run, { here.session with gate }, here.sink⟩ invocation after) :
            Invokes nested step here invocation after := invokes.of_same rfl rfl
        cases mode with
        | evented => exact gated (runner.runPlain_invokes nested step prepared true _)
        | tokens generative =>
          dsimp only
          split
          · exact .nothing (by rw [runGenerative_session])
          · exact gated (runner.runPlain_invokes nested step prepared false _)

variable {mode : StepMode} {pattern : Pattern} {id : String} {inputs : Dict Json} {session : Session σ}
  {sink : Option Sink}

theorem unfolded_eq_flatMap (runner : Runner σ) (level : Nat) (invocations : List (Invocation σ)) :
    runner.unfolded level invocations = invocations.flatMap fun invocation => runner.unfolded level [invocation] := by
  cases level with
  | zero => simp [unfolded]
  | succ level => simp [unfolded]

section Depth

variable {invocation : Invocation σ} {step : Step} {index : Nat} {live : Live σ}

end Depth

/-- The records of invocations, with those of all that they lead to. -/
def recordsOf (runner : Runner σ) (level : Nat) (invocations : List (Invocation σ)) : List RunRecord :=
  (runner.unfolded level invocations).map runner.recordOf

theorem recordsOf_eq_flatMap (runner : Runner σ) (level : Nat) (invocations : List (Invocation σ)) :
    runner.recordsOf level invocations =
      invocations.flatMap fun invocation => runner.recordsOf level [invocation] := by
  rw [recordsOf, unfolded_eq_flatMap, List.map_flatMap]
  rfl

end Runner

end Orchestra
