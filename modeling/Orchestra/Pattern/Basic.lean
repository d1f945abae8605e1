import Orchestra.Json.Basic

namespace Orchestra

/-- What a failed step means for the rest of its pattern. -/
inductive OnError where
  | proceed
  | stop
deriving DecidableEq, Repr

/-- A capability that takes over a step while a flag is on. -/
structure Reroute where
  flag : String
  capability : String
deriving DecidableEq, Repr

structure Step where
  description : String := ""
  capability : String
  args : Json := .object []
  saveAs : Option String := none
  onError : OnError := .proceed
  reroute : Option Reroute := none

/-- An output that is found by likeness of names, or at a path. -/
structure Panel where
  id : String
  dataPath : Option String := none
deriving DecidableEq, Repr

/-- The outputs that a pattern declares. The values of a mapping are only remarks. -/
inductive Outputs where
  | panels (declared : List Panel)
  | keys (declared : List String)
  | mapping (declared : Dict Json)

structure Pattern where
  id : String
  name : String := ""
  version : String := "1.0.0"
  description : Option String := none
  steps : List Step
  outputs : Outputs := .keys []

/-- The name under which a step runs another pattern. -/
def invokeCapability : String := "pattern.invoke"

/-- Whether a failure of this step ends the pattern. -/
def Step.halts (step : Step) : Bool := step.onError = .stop

end Orchestra
