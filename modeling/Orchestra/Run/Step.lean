import Orchestra.Capability.Registry
import Orchestra.Flag.Gate
import Orchestra.Pattern.Basic
import Orchestra.Run.Envelope
import Orchestra.Template.Resolve

namespace Orchestra

/-- A pattern under way. -/
structure Run where
  patternId : String
  inputs : Dict Json
  depth : Nat
  state : State := ∅
  trace : List StepRecord := []

namespace Run

def context (run : Run) : CallContext := ⟨run.patternId, run.depth, run.inputs⟩

def failedSteps (run : Run) : Nat := (run.trace.filter (!·.isOk)).length

end Run

/-- A step that is ready to be called. -/
structure PreparedStep where
  index : Nat
  capability : String
  params : Json

namespace Step

/-- The capability that serves a step: that of its reroute if the gate has the flag on, else its own. -/
def choose (step : Step) (run : Run) (gate : Option Gate) : Except Panic String × Option Gate :=
  match step.reroute, gate with
  | some reroute, some gate =>
    let (on, gate) := gate.isEnabled reroute.flag run.inputs
    (on.map fun on => if on then reroute.capability else step.capability, some gate)
  | _, gate => (.ok step.capability, gate)

/-- Chooses the capability and fills in the arguments. -/
def prepare (step : Step) (index : Nat) (run : Run) (gate : Option Gate) :
    Except Panic PreparedStep × Option Gate :=
  let (capability, gate) := step.choose run gate
  (capability.map fun capability => ⟨index, capability, Template.resolve run.inputs run.state step.args⟩, gate)

end Step

namespace PreparedStep

def dispatch {σ : Type} (prepared : PreparedStep) (registry : Registry σ) (run : Run) (s : σ) :
    Reply σ (Dict Json) :=
  registry.execute prepared.capability prepared.params run.context s

/-- The trace entry for a result. -/
def record (prepared : PreparedStep) (step : Step) (result : Except CallError (Dict Json))
    (durationMs : Nat) : StepRecord :=
  ⟨prepared.index, prepared.capability, durationMs, result.map (State.producedKeys · step.saveAs)⟩

end PreparedStep

/-- Takes a result into the state and the trace. A failure leaves the state alone. -/
def Run.apply (run : Run) (step : Step) (prepared : PreparedStep) (result : Except CallError (Dict Json))
    (durationMs : Nat) : Run :=
  { run with
    state := match result with
      | .ok output => run.state.merge output step.saveAs
      | .error _ => run.state
    trace := run.trace ++ [prepared.record step result durationMs] }

end Orchestra
