import Orchestra.Proofs.Invocation

namespace Orchestra

variable {σ : Type}

/-- A step whose turn has come, with the run and the gate that it finds. -/
structure Turn where
  step : Step
  run : Run
  gate : Option Gate

namespace Turn

/-- The capability that the step is dispatched to. -/
def choice (turn : Turn) : Except Panic String := (turn.step.choose turn.run turn.gate).1

/-- The gate when the step has asked it. -/
def after (turn : Turn) : Option Gate := (turn.step.choose turn.run turn.gate).2

/-- The arguments of the step, filled in. -/
def params (turn : Turn) : Json := Template.resolve turn.run.inputs turn.run.state turn.step.args

/-- Each of the turns finds the gate as the one before it left it. -/
inductive Chain : Option Gate → List Turn → Option Gate → Prop
  | nil {gate} : Chain gate [] gate
  | cons {first turn turns last} : turn.gate = first → Chain turn.after turns last → Chain first (turn :: turns) last

theorem Chain.append {first middle last : Option Gate} {turns more : List Turn} (before : Chain first turns middle)
    (later : Chain middle more last) : Chain first (turns ++ more) last := by
  induction before with
  | nil => exact later
  | cons found _ ih => exact .cons found (ih later)

/-- What every turn keeps of the gate is found by every turn. -/
theorem Chain.forall_gate {first last : Option Gate} {turns : List Turn} (chain : Chain first turns last)
    (kept : Option Gate → Prop) (start : kept first) (keeps : ∀ turn : Turn, kept turn.gate → kept turn.after) :
    ∀ turn ∈ turns, kept turn.gate := by
  induction chain with
  | nil => exact fun turn member => nomatch member
  | cons found _ ih =>
    rw [← found] at start
    exact List.forall_mem_cons.mpr ⟨start, ih (keeps _ start)⟩

end Turn

def Live.turn (live : Live σ) (step : Step) : Turn := ⟨step, live.run, live.session.gate⟩

/-- The turn of a step, unless the reader has left. -/
def Step.turn? (step : Step) (live : Live σ) : Option Turn := if live.poll.1 then none else some (live.turn step)

namespace Runner

section Listing

variable (runner : Runner σ) (below : Invocation σ → List Turn)

/-- The turns of steps until one interrupts, each followed by those of the run that its step invokes. -/
def turns (nested : Nested σ) (mode : StepMode) : List Step → Nat → Live σ → List Turn
  | [], _, _ => []
  | step :: rest, index, live =>
    (step.turn? live).toList ++ (step.invoked? mode index live).toList.flatMap below ++
      match runner.runStep nested mode step index live with
      | (none, live) => turns nested mode rest (index + 1) live
      | (some _, _) => []

def patternTurns (mode : StepMode) (pattern : Pattern) (inputs : Dict Json) (depth : Nat) (session : Session σ)
    (sink : Option Sink) : List Turn :=
  match enter pattern inputs depth session sink with
  | (false, _) => []
  | (true, live) => runner.turns below (runner.nested depth) mode pattern.steps 0 live

def attemptTurns (mode : StepMode) (id : String) (inputs : Dict Json) (depth : Nat) (session : Session σ)
    (sink : Option Sink) : List Turn :=
  if runner.options.maxDepth ≤ depth then []
  else match runner.catalog.get? id with
    | none => []
    | some pattern => runner.patternTurns below mode pattern inputs depth session sink

def recoveryTurns (id : String) (inputs : Dict Json) (depth : Nat) (panic : Panic) (session : Session σ) :
    List Turn :=
  match runner.options.recoveryPattern with
  | none => []
  | some recovery =>
    if recovery = id ∨ ¬ runner.catalog.contains recovery then []
    else runner.attemptTurns below .evented recovery (recoveryInputs inputs panic id) depth session none

/-- The turns of a contained run, in its attempt and then in its recovery. -/
def containedTurns (mode : StepMode) (id : String) (inputs : Dict Json) (depth : Nat) (session : Session σ)
    (sink : Option Sink) : List Turn :=
  runner.attemptTurns below mode id inputs depth session sink ++
    match runner.execute (runner.nested depth) mode id inputs depth session sink with
    | (.panicked panic, session, _) => runner.recoveryTurns below id inputs depth panic session
    | _ => []

def directTurns (request : RouteRequest) (session : Session σ) : List Turn :=
  runner.patternTurns below .evented (directPattern request) request.inputs 0 session none

/-- The turns of a routed request, in its meta attempt and then in its direct call. -/
def routeTurns (request : RouteRequest) (session : Session σ) : List Turn :=
  match runner.knownMeta? with
  | none => runner.directTurns below request session
  | some id =>
    runner.containedTurns below .evented id (metaInputs request) 0 session none ++
      if signalsUnavailable (runner.metaAttempt id request session).1 then
        runner.directTurns below request (runner.metaAttempt id request session).2
      else []

def requestTurns (request : Request) (session : Session σ) : List Turn :=
  match request with
  | .run id inputs => runner.containedTurns below .evented id inputs 0 session none
  | .runAtDepth id inputs depth => runner.containedTurns below .evented id inputs depth session none
  | .route request => runner.routeTurns below request session
  | .stream id inputs mode departure => runner.containedTurns below mode id inputs 0 session (some { departure })

end Listing

/-- The turns of an invoked run, with those of all that it invokes, this many levels down. -/
def turnsWithin (runner : Runner σ) : Nat → Invocation σ → List Turn
  | 0, _ => []
  | level + 1, invocation => runner.containedTurns (turnsWithin runner level) .evented invocation.id
      invocation.inputs invocation.depth invocation.session none

/-- All turns while a request is served, at any depth. -/
def allTurns (runner : Runner σ) (request : Request) (session : Session σ) : List Turn :=
  runner.requestTurns (runner.turnsWithin runner.options.maxDepth) request session

/-- What a step does with its turn: it has none if its reader has left, and it may go on to invoke a run. -/
inductive Takes (nested : Nested σ) (step : Step) (before : Live σ) :
    Option Turn → Option (Invocation σ) → Live σ → Prop
  | away {after} : after.run = before.run → after.session.gate = before.session.gate →
      Takes nested step before none none after
  | alone {after} : after.session.gate = (before.turn step).after →
      Takes nested step before (some (before.turn step)) none after
  | run {invocation after} : (before.turn step).choice = .ok invokeCapability →
      invocation.inputs = nestedInputs before.run (before.turn step).params →
      invocation.depth = before.run.depth + 1 → invocation.session.gate = (before.turn step).after →
      after.session = (nested invocation.id invocation.inputs invocation.session).2 →
      Takes nested step before (some (before.turn step)) (some invocation) after

variable {runner : Runner σ} {nested : Nested σ} {below : Invocation σ → List Turn} {mode : StepMode} {step : Step}
  {index : Nat} {live here : Live σ} {prepared : PreparedStep}

theorem runPlain_takes (runner : Runner σ) (nested : Nested σ) (audible : Bool)
    (choice : (live.turn step).choice = .ok prepared.capability) (params : prepared.params = (live.turn step).params)
    (run : here.run = live.run) (gate : here.session.gate = (live.turn step).after) :
    Takes nested step live (some (live.turn step)) (prepared.invoked? step audible here)
      (runner.runPlain nested step prepared audible here).2 := by
  unfold runPlain PreparedStep.invoked?
  cases offer : here.emitIf audible (.stepStart prepared.index prepared.capability step.description) with
  | mk taken told =>
    have heard := Live.emitIf_heard offer
    have kept : told.session.gate = (live.turn step).after := by rw [heard.session, gate]
    cases taken with
    | false => exact .alone kept
    | true =>
      dsimp only
      by_cases invoking : prepared.capability = invokeCapability
      · rw [if_pos invoking, call, if_pos invoking, invokeNested, invoked?]
        rw [invoking] at choice
        have level : told.run = live.run := heard.run.trans run
        cases prepared.params.field? "pattern_id" with
        | none => exact .alone (by rw [finish_session]; exact kept)
        | some value =>
          cases value with
          | string id => exact .run choice (by rw [level, params]) (by rw [level]) kept (finish_session ..)
          | _ => exact .alone (by rw [finish_session]; exact kept)
      · rw [if_neg invoking, call, if_neg invoking]
        exact .alone (by rw [finish_session]; exact kept)

theorem runStep_takes (runner : Runner σ) (nested : Nested σ) (mode : StepMode) (step : Step) (index : Nat)
    (live : Live σ) :
    Takes nested step live (step.turn? live) (step.invoked? mode index live)
      (runner.runStep nested mode step index live).2 := by
  unfold runStep Step.invoked? Step.turn?
  cases look : live.poll with
  | mk closed here =>
    have heard := Live.poll_heard look
    cases closed with
    | true => exact .away heard.run (by rw [heard.session])
    | false =>
      dsimp only
      rw [heard.run, heard.session]
      have asked : (step.prepare index live.run live.session.gate).2 = (live.turn step).after := rfl
      have ready : (step.prepare index live.run live.session.gate).1 =
          (live.turn step).choice.map fun capability => ⟨index, capability, (live.turn step).params⟩ := rfl
      generalize step.prepare index live.run live.session.gate = chosen at asked ready
      obtain ⟨answer, gate⟩ := chosen
      cases choice : (live.turn step).choice with
      | error panic =>
        rw [choice] at ready
        cases ready
        exact .alone asked
      | ok capability =>
        rw [choice] at ready
        cases ready
        cases mode with
        | evented => exact runner.runPlain_takes nested true choice rfl rfl asked
        | tokens generative =>
          by_cases streamed : capability = generative
          · dsimp only
            rw [if_pos streamed, if_pos streamed]
            refine .alone ?_
            rw [runGenerative_session]
            exact asked
          · dsimp only
            rw [if_neg streamed, if_neg streamed]
            exact runner.runPlain_takes nested false choice rfl rfl asked

end Runner

end Orchestra
