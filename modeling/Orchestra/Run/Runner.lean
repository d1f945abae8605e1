import Orchestra.Run.Loop

namespace Orchestra

variable {σ : Type}

/-- Everything that a runner can be asked to send to a meta pattern. -/
structure RouteRequest where
  capability : String
  params : Json
  inputs : Dict Json

/-- Publishes the whole state of a run as its data. -/
def Attempt.publishState : Attempt → Attempt
  | .done envelope => .done { envelope with data := envelope.state }
  | other => other

namespace Runner

/-- Contains an attempt and records it. -/
def settle (runner : Runner σ) (nested : Nested σ) (id : String) (inputs : Dict Json) (depth : Nat)
    (attempt : Attempt) (session : Session σ) : Envelope × Session σ :=
  let (envelope, session) := runner.contain nested id inputs depth attempt session
  (envelope, session.account runner.audit envelope inputs depth)

/-- Runs a pattern at a depth, contains what comes of it and records it. -/
def guarded (runner : Runner σ) (nested : Nested σ) (mode : StepMode) (id : String) (inputs : Dict Json)
    (depth : Nat) (session : Session σ) (sink : Option Sink) : Envelope × Session σ × Option Sink :=
  let (attempt, session, sink) := runner.execute nested mode id inputs depth session sink
  let (envelope, session) := runner.settle nested id inputs depth attempt session
  (envelope, session, sink)

def guardedAt (runner : Runner σ) (nested : Nested σ) (depth : Nat) : Nested σ := fun id inputs session =>
  let (envelope, session, _) := runner.guarded nested .evented id inputs depth session none
  (envelope, session)

/-- Runs a pattern at a depth that has this many levels left, its own included. -/
def runLevel (runner : Runner σ) : Nat → Nat → Nested σ
  | 0, depth => fun id inputs session =>
    let envelope := Envelope.failure id (.depthExceeded depth runner.options.maxDepth)
    (envelope, session.account runner.audit envelope inputs depth)
  | level + 1, depth => runner.guardedAt (runLevel runner level (depth + 1)) depth

/-- How the steps of a run at this depth run patterns. -/
def nested (runner : Runner σ) (depth : Nat) : Nested σ :=
  runner.runLevel (runner.options.maxDepth - (depth + 1)) (depth + 1)

def runAtDepth (runner : Runner σ) (id : String) (inputs : Dict Json) (depth : Nat) (session : Session σ) :
    Envelope × Session σ :=
  runner.runLevel (runner.options.maxDepth - depth) depth id inputs session

def run (runner : Runner σ) (id : String) (inputs : Dict Json) (session : Session σ) :
    Envelope × Session σ :=
  runner.runAtDepth id inputs 0 session

/-- The state key by which a meta pattern declares that it cannot serve a request. -/
def unavailableKey : String := "execution_unavailable"

def signalsUnavailable (envelope : Envelope) : Bool :=
  match envelope.state.get? unavailableKey with
  | some (.bool b) => b
  | _ => false

/-- The pattern of one step that calls a capability directly. -/
def directPattern (request : RouteRequest) : Pattern where
  id := "direct:" ++ request.capability
  name := "direct:" ++ request.capability
  steps := [{ capability := request.capability, args := request.params, onError := .stop }]

/-- Calls the capability of a request without a meta pattern, whatever the depth limit. -/
def direct (runner : Runner σ) (request : RouteRequest) (session : Session σ) : Envelope × Session σ :=
  let pattern := directPattern request
  let (attempt, session, _) :=
    runner.runPattern (runner.nested 0) .evented pattern request.inputs 0 session none
  let (envelope, session) :=
    runner.contain (runner.nested 0) pattern.id request.inputs 0 attempt.publishState session
  let envelope := { envelope with fallback := true }
  (envelope, session.account runner.audit envelope request.inputs 0)

/-- The inputs of a meta pattern: those of the request, its capability and its parameters. -/
def metaInputs (request : RouteRequest) : Dict Json :=
  (request.inputs.insert "capability" (.string request.capability)).insert "params" request.params

/-- Serves a request by the meta pattern; directly if there is none, or if it declares that it cannot. -/
def route (runner : Runner σ) (request : RouteRequest) (session : Session σ) : Envelope × Session σ :=
  match runner.options.metaPattern with
  | none => runner.direct request session
  | some id =>
    if ¬ runner.catalog.contains id then runner.direct request session
    else
      let inputs := metaInputs request
      let (attempt, session, _) :=
        runner.execute (runner.nested 0) .evented id inputs 0 session none
      let (envelope, session) := runner.contain (runner.nested 0) id inputs 0 attempt session
      if signalsUnavailable envelope then runner.direct request session
      else (envelope, session.account runner.audit envelope inputs 0)

/-- Offers the last event of a stream, unless the reader has left; it does not matter whether it is taken. -/
def announce (envelope : Envelope) (sink : Sink) : Sink :=
  let (closed, sink) := sink.poll
  if closed then sink
  else (sink.emit (match envelope.error with
    | none => .finalResult envelope
    | some error => .executionError error.message)).2

/-- Runs a pattern at the top as a stream, and answers the events that were taken. -/
def stream (runner : Runner σ) (id : String) (inputs : Dict Json) (mode : StepMode) (departure : Departure)
    (session : Session σ) : Envelope × List Event × Session σ :=
  let (envelope, session, sink) :=
    runner.guarded (runner.nested 0) mode id inputs 0 session (some { departure })
  (envelope, (announce envelope (sink.getD {})).accepted, session)

end Runner

end Orchestra
