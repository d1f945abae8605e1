import Orchestra.Audit
import Orchestra.Catalog
import Orchestra.Run.Event
import Orchestra.Run.Step
import Orchestra.Telemetry

namespace Orchestra

structure RunnerOptions where
  maxDepth : Nat := 6
  metaPattern : Option String := none
  recoveryPattern : Option String := none
deriving DecidableEq, Repr

/-- Whether runs are recorded in an audit store, and whether that takes the records. -/
inductive AuditPolicy where
  | absent
  | working
  | failing
deriving DecidableEq, Repr

structure Runner (σ : Type) where
  registry : Registry σ
  catalog : Catalog
  options : RunnerOptions := {}
  audit : AuditPolicy := .absent

/-- The state of handlers and flags, and the records of the runs so far. -/
structure Session (σ : Type) where
  handlers : σ
  gate : Option Gate := none
  telemetry : Telemetry
  audit : AuditList := {}

/-- A pattern under way within its session, with the sink of its stream if there is one. -/
structure Live (σ : Type) where
  run : Run
  session : Session σ
  sink : Option Sink

/-- How much of a run is streamed: all steps, or only the text of one generative capability. -/
inductive StepMode where
  | evented
  | tokens (generative : String)
deriving DecidableEq, Repr

namespace Live

variable {σ : Type}

/-- Offers an event to the sink; without one, events are taken by nobody and nothing is refused. -/
def emit (live : Live σ) (event : Event) : Bool × Live σ :=
  match live.sink with
  | none => (true, live)
  | some sink =>
    let (taken, sink) := sink.emit event
    (taken, { live with sink := some sink })

/-- Offers an event if it is to be heard. -/
def emitIf (live : Live σ) (audible : Bool) (event : Event) : Bool × Live σ :=
  if audible then live.emit event else (true, live)

def poll (live : Live σ) : Bool × Live σ :=
  match live.sink with
  | none => (false, live)
  | some sink =>
    let (closed, sink) := sink.poll
    (closed, { live with sink := some sink })

def apply (live : Live σ) (step : Step) (prepared : PreparedStep)
    (result : Except CallError (Dict Json)) : Live σ :=
  { live with run := live.run.apply step prepared result 0 }

end Live

namespace Session

variable {σ : Type}

/-- The name that a run is counted under. -/
def agentOf (inputs : Dict Json) : String :=
  ((inputs.get? "agent_id").bind Json.string?).getD "pattern_runner"

def recordOf (envelope : Envelope) (inputs : Dict Json) : RunRecord where
  success := envelope.success
  durationMs := envelope.durationMs
  patternId := envelope.patternId
  agentId := agentOf inputs
  error := envelope.errorText

/-- What the audit store gets to know of a run. -/
def auditPayload (envelope : Envelope) : Json :=
  Json.canonical (.object [
    ("pattern_id", .string envelope.patternId),
    ("success", .bool envelope.success),
    ("error", .ofString? envelope.errorText),
    ("duration_ms", .ofNat envelope.durationMs),
    ("fallback_mode", .bool envelope.fallback),
    ("recovery_attempted", .bool envelope.recovery),
    ("steps", .array (envelope.trace.map StepRecord.toJson)),
    ("warnings", .ofNat envelope.warnings.length)])

/-- Records a run: telemetry at any depth, audit at the top only. -/
def account (session : Session σ) (policy : AuditPolicy) (envelope : Envelope) (inputs : Dict Json)
    (depth : Nat) : Session σ :=
  let session := { session with telemetry := session.telemetry.track (recordOf envelope inputs) }
  if depth = 0 ∧ policy = .working then
    { session with
      audit := session.audit.store session.audit.entries.length "pattern_run" (auditPayload envelope) }
  else session

end Session

end Orchestra
