import Orchestra.Pattern.Basic
import Orchestra.Json.Record

namespace Orchestra

open Document (string? nullable? array? required? optional?)

/-- The two words for what happens on failure. -/
def OnError.ofWord? : String → Option OnError
  | "continue" => some .proceed
  | "stop" => some .stop
  | _ => none

/-- A word, or an object with that word as its only key and no payload. -/
def OnError.read? (medium : Medium) : Document → Option OnError
  | .string word => word.bind ofWord?
  | .object [(word, payload)] => if medium.isUnit payload then word.bind ofWord? else none
  | _ => none

def Reroute.form : RecordForm := [["name"], ["capability"]]

def Reroute.read? (medium : Medium) (document : Document) : Option Reroute :=
  match form.slots? medium.surplus document with
  | some [flag, capability] => do
    let flag ← required? string? flag
    let capability ← required? string? capability
    return { flag, capability }
  | _ => none

def Step.form : RecordForm :=
  [["description"], ["capability"], ["args", "params"], ["as", "save_as"], ["error_handling"], ["flag"]]

/-- A step of a pattern; its arguments lie three levels below the root. -/
def Step.read? (medium : Medium) (document : Document) : Option Step :=
  match form.slots? medium.surplus document with
  | some [description, capability, args, saveAs, onError, reroute] => do
    let description ← optional? string? "" description
    let capability ← required? string? capability
    let args ← optional? (medium.free? 3) (.object []) args
    let saveAs ← optional? (nullable? string?) none saveAs
    let onError ← optional? (OnError.read? medium) .proceed onError
    let reroute ← optional? (nullable? (Reroute.read? medium)) none reroute
    return { description, capability, args, saveAs, onError, reroute }
  | _ => none

def Panel.form : RecordForm := [["id"], ["dataPath", "data_path"]]

def Panel.read? (document : Document) : Option Panel :=
  match form.slots? false document with
  | some [id, dataPath] => do
    let id ← required? string? id
    let dataPath ← optional? (nullable? string?) none dataPath
    return { id, dataPath }
  | _ => none

def Outputs.panelsForm : RecordForm := [["panels"]]

/-- Panels are an object with a list of panels, whatever else it holds. -/
def Outputs.panels? : Document → Option (List Panel)
  | .object members =>
    match panelsForm.slots? false (.object members) with
    | some [declared] => required? (array? Panel.read?) declared
    | _ => none
  | _ => none

/-- Declared outputs: panels, else a list of keys, else any object as a mapping. Every value inside has to be
readable, whichever form it takes. -/
def Outputs.read? (medium : Medium) (level : Nat) (document : Document) : Option Outputs :=
  match medium.free? level document with
  | none => none
  | some value =>
    match panels? document, array? string? document, value with
    | some declared, _, _ => some (.panels declared)
    | none, some declared, _ => some (.keys declared)
    | none, none, .object fields => some (.mapping (Dict.ofList fields))
    | none, none, _ => none

def Pattern.form : RecordForm :=
  [["id"], ["name"], ["version"], ["description"], ["steps"], ["outputs"]]

def Pattern.read? (medium : Medium) (document : Document) : Option Pattern :=
  match form.slots? medium.surplus document with
  | some [id, name, version, description, steps, outputs] => do
    let id ← required? string? id
    let name ← optional? string? "" name
    let version ← optional? string? "1.0.0" version
    let description ← optional? (nullable? string?) none description
    let steps ← required? (array? (Step.read? medium)) steps
    let outputs ← optional? (Outputs.read? medium 1) (.keys []) outputs
    return { id, name, version, description, steps, outputs }
  | _ => none

/-- The pattern that a value describes. -/
def Pattern.ofJson? (value : Json) : Option Pattern := Pattern.read? .memory (.ofJson value)

def Outputs.ofJson? (value : Json) : Option Outputs := Outputs.read? .memory 0 (.ofJson value)

def Step.ofJson? (value : Json) : Option Step := Step.read? .memory (.ofJson value)

/-- The pattern that a JSON text describes. -/
def Pattern.ofText? (text : String) : Option Pattern :=
  (Document.read? text).bind (Pattern.read? .text)

end Orchestra
