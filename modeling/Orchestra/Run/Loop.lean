import Orchestra.Run.Session

namespace Orchestra

variable {σ : Type}

/-- Runs a pattern by id, with inputs, one level below. -/
abbrev Nested (σ : Type) := String → Dict Json → Session σ → Envelope × Session σ

/-- What ends the steps of a pattern early. -/
inductive Interruption where
  | error (error : RunError)
  | panic (panic : Panic)
deriving DecidableEq, Repr

/-- What an attempt to run a pattern comes to. -/
inductive Attempt where
  | done (envelope : Envelope)
  | failed (error : RunError)
  | panicked (panic : Panic)

/-- The failure of a step that runs another pattern. -/
def invokeFailure (reason : String) : CallError := .failed invokeCapability "PatternRunner" reason

/-- The inputs of a nested run: those of the run around it, with the entries of an `inputs` parameter
written over them. -/
def nestedInputs (run : Run) (params : Json) : Dict Json :=
  match params.field? "inputs" with
  | some (.object extra) => run.inputs.extend extra
  | _ => run.inputs

/-- The output of a nested run: its data, or its whole state if it has no data. -/
def nestedOutput (envelope : Envelope) : Except CallError (Dict Json) :=
  match envelope.error with
  | some error => .error (invokeFailure error.message)
  | none => .ok (if envelope.data.isEmpty then envelope.state else envelope.data)

def invokeNested (nested : Nested σ) (run : Run) (params : Json) (session : Session σ) :
    Except CallError (Dict Json) × Session σ :=
  match params.field? "pattern_id" with
  | some (.string id) =>
    let (envelope, session) := nested id (nestedInputs run params) session
    (nestedOutput envelope, session)
  | _ => (.error (invokeFailure "missing string parameter 'pattern_id'"), session)

namespace Runner

/-- Calls the capability of a prepared step, or runs another pattern. -/
def call (runner : Runner σ) (nested : Nested σ) (prepared : PreparedStep) (run : Run)
    (session : Session σ) : Except CallError (Dict Json) × Session σ :=
  if prepared.capability = invokeCapability then invokeNested nested run prepared.params session
  else
    let reply := prepared.dispatch runner.registry run session.handlers
    (reply.result, { session with handlers := reply.state })

/-- Tells how a step went, and what that means for the steps after it. -/
def finish (step : Step) (prepared : PreparedStep) (result : Except CallError (Dict Json)) (audible : Bool)
    (live : Live σ) : Option Interruption × Live σ :=
  let record := prepared.record step result 0
  match record.error? with
  | none =>
    match live.emitIf audible (.stepComplete record.index record.capability 0 record.producedKeys) with
    | (true, live) => (none, live)
    | (false, live) => (some (.error .cancelled), live)
  | some reason =>
    match live.emitIf audible (.stepError record.index record.capability reason step.halts) with
    | (true, live) =>
      (if step.halts then some (.error (.stepHalted record.index record.capability reason)) else none, live)
    | (false, live) => (some (.error .cancelled), live)

def runPlain (runner : Runner σ) (nested : Nested σ) (step : Step) (prepared : PreparedStep)
    (audible : Bool) (live : Live σ) : Option Interruption × Live σ :=
  match live.emitIf audible (.stepStart prepared.index prepared.capability step.description) with
  | (false, live) => (some (.error .cancelled), live)
  | (true, live) =>
    let (result, session) := runner.call nested prepared live.run live.session
    finish step prepared result audible ({ live with session }.apply step prepared result)

/-- What reading a stream to its end, or to its first error, comes to. -/
inductive Reading where
  | text (text : String)
  | error (reason : String)
  | refused

/-- Passes on the texts of a stream one by one and joins them to the text so far. -/
def readChunks (index : Nat) : List Chunk → String → Live σ → Reading × Live σ
  | [], text, live => (.text text, live)
  | .error reason :: _, _, live => (.error reason, live)
  | .text piece :: rest, text, live =>
    match live.emit (.textChunk index piece) with
    | (true, live) => readChunks index rest (text ++ piece) live
    | (false, live) => (.refused, live)

def identityOf (runner : Runner σ) (name : String) : String :=
  ((runner.registry.get? name).map Handler.identity).getD ""

/-- Runs a prepared step by its capability's stream. The joined text becomes the output; a step that is
refused in the middle leaves no trace. -/
def runGenerative (runner : Runner σ) (step : Step) (prepared : PreparedStep) (live : Live σ) :
    Option Interruption × Live σ :=
  let reply := runner.registry.stream prepared.capability prepared.params live.run.context
    live.session.handlers
  let live := { live with session := { live.session with handlers := reply.state } }
  let settle (result : Except CallError (Dict Json)) (live : Live σ) :=
    finish step prepared result true (live.apply step prepared result)
  match reply.result with
  | .error error => settle (.error error) live
  | .ok chunks =>
    match readChunks prepared.index chunks "" live with
    | (.text text, live) => settle (.ok (Dict.ofList [("text", .string text)])) live
    | (.error reason, live) =>
      settle (.error (.failed prepared.capability (runner.identityOf prepared.capability) reason)) live
    | (.refused, live) => (some (.error .cancelled), live)

/-- Runs one step, unless the reader has left or the flag gate panics. -/
def runStep (runner : Runner σ) (nested : Nested σ) (mode : StepMode) (step : Step) (index : Nat)
    (live : Live σ) : Option Interruption × Live σ :=
  match live.poll with
  | (true, live) => (some (.error .cancelled), live)
  | (false, live) =>
    let (prepared, gate) := step.prepare index live.run live.session.gate
    let live := { live with session := { live.session with gate } }
    match prepared, mode with
    | .error panic, _ => (some (.panic panic), live)
    | .ok prepared, .evented => runner.runPlain nested step prepared true live
    | .ok prepared, .tokens generative =>
      if prepared.capability = generative then runner.runGenerative step prepared live
      else runner.runPlain nested step prepared false live

/-- Runs steps, the first of which has this index, until one interrupts. -/
def runSteps (runner : Runner σ) (nested : Nested σ) (mode : StepMode) :
    List Step → Nat → Live σ → Option Interruption × Live σ
  | [], _, live => (none, live)
  | step :: rest, index, live =>
    match runner.runStep nested mode step index live with
    | (none, live) => runSteps runner nested mode rest (index + 1) live
    | (some interruption, live) => (some interruption, live)

/-- The envelope of a run that went through its steps, wholly or until an error. -/
def conclude (pattern : Pattern) (run : Run) (error : Option RunError) : Envelope :=
  let resolution := pattern.outputs.resolve run.state
  { patternId := pattern.id
    data := resolution.data
    state := run.state
    trace := run.trace
    warnings := resolution.warnings
    error := error }

/-- Announces a pattern that is at its first step, and answers whether its reader is there. -/
def enter (pattern : Pattern) (inputs : Dict Json) (depth : Nat) (session : Session σ)
    (sink : Option Sink) : Bool × Live σ :=
  Live.emit ⟨{ patternId := pattern.id, inputs, depth }, session, sink⟩
    (.patternStart pattern.id pattern.steps.length)

def runPattern (runner : Runner σ) (nested : Nested σ) (mode : StepMode) (pattern : Pattern)
    (inputs : Dict Json) (depth : Nat) (session : Session σ) (sink : Option Sink) :
    Attempt × Session σ × Option Sink :=
  match enter pattern inputs depth session sink with
  | (false, live) => (.failed .cancelled, live.session, live.sink)
  | (true, live) =>
    match runner.runSteps nested mode pattern.steps 0 live with
    | (some (.panic panic), live) => (.panicked panic, live.session, live.sink)
    | (some (.error error), live) =>
      (.done (conclude pattern live.run (some error)), live.session, live.sink)
    | (none, live) =>
      match live.emit (.patternComplete pattern.id) with
      | (true, live) => (.done (conclude pattern live.run none), live.session, live.sink)
      | (false, live) => (.done (conclude pattern live.run (some .cancelled)), live.session, live.sink)

/-- Looks up a pattern and runs it, unless it lies too deep. -/
def execute (runner : Runner σ) (nested : Nested σ) (mode : StepMode) (id : String) (inputs : Dict Json)
    (depth : Nat) (session : Session σ) (sink : Option Sink) : Attempt × Session σ × Option Sink :=
  if runner.options.maxDepth ≤ depth then
    (.failed (.depthExceeded depth runner.options.maxDepth), session, sink)
  else match runner.catalog.get? id with
    | none => (.failed (.patternNotFound id), session, sink)
    | some pattern => runner.runPattern nested mode pattern inputs depth session sink

/-- The inputs of a recovery pattern: those of the run that panicked, the text of the panic and the id. -/
def recoveryInputs (inputs : Dict Json) (panic : Panic) (id : String) : Dict Json :=
  (inputs.insert "error" (.string panic.text)).insert "failed_pattern" (.string id)

/-- Runs the recovery pattern after a panic, if there is one and it is not the pattern that panicked. -/
def recover (runner : Runner σ) (nested : Nested σ) (id : String) (inputs : Dict Json) (depth : Nat)
    (panic : Panic) (session : Session σ) : Envelope × Session σ :=
  match runner.options.recoveryPattern with
  | none => (.terminal id, session)
  | some recovery =>
    if recovery = id ∨ ¬ runner.catalog.contains recovery then (.terminal id, session)
    else
      match runner.execute nested .evented recovery (recoveryInputs inputs panic id) depth session none with
      | (.done envelope, session, _) =>
        (if envelope.success then { envelope with recovery := true } else .terminal id, session)
      | (_, session, _) => (.terminal id, session)

def contain (runner : Runner σ) (nested : Nested σ) (id : String) (inputs : Dict Json) (depth : Nat)
    (attempt : Attempt) (session : Session σ) : Envelope × Session σ :=
  match attempt with
  | .done envelope => (envelope, session)
  | .failed error => (.failure id error, session)
  | .panicked panic => runner.recover nested id inputs depth panic session

end Runner

end Orchestra
