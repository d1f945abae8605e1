import Orchestra.Capability.Registry

namespace Orchestra

/-- A written behaviour. Those that count their calls differ from call to call. -/
inductive Script where
  | const (output : Dict Json)
  | params
  | fail (reasons : List String)
  | panic (payload : Option String)
  | counter (key : String)
  | flaky (times : Nat) (reasons : List String) (output : Dict Json)
  | context
  | chunks (items : List StreamItem) (output : Dict Json)
  | streamFail (reasons : List String) (output : Dict Json)
  | streamPanic (payload : Option String) (output : Dict Json)

/-- How often each scripted handler was called, by order of registration. -/
abbrev CallCounts := List Nat

namespace Script

/-- Where a call came from and what it carried, as an output. -/
def describeCall (params : Json) (context : CallContext) : Dict Json :=
  Dict.ofList [
    ("pattern_id", .string context.patternId),
    ("depth", .ofNat context.depth),
    ("inputs", .object context.inputs.entries),
    ("params", params)]

/-- How the call with this number, counted from one, ends. -/
def ending (script : Script) (number : Nat) (params : Json) (context : CallContext) : Ending (Dict Json) :=
  match script with
  | const output => .done output
  | Script.params =>
    match params with
    | .object fields => .done (Dict.ofList fields)
    | other => .done (Dict.ofList [("value", other)])
  | fail reasons => .failed reasons
  | panic payload => .panicked payload
  | counter key => .done (Dict.ofList [(key, .ofNat number)])
  | flaky times reasons output => if number ≤ times then .failed reasons else .done output
  | Script.context => .done (describeCall params context)
  | chunks _ output | streamFail _ output | streamPanic _ output => .done output

/-- Runs the script of the handler at this position, counting the call. -/
def execute (script : Script) (position : Nat) (params : Json) (context : CallContext)
    (counts : CallCounts) : Ending (Dict Json) × CallCounts :=
  let number := counts.getD position 0 + 1
  (script.ending number params context, counts.set position number)

/-- The stream of the handler at this position. -/
def stream (script : Script) (position : Nat) (params : Json) (context : CallContext)
    (counts : CallCounts) : Ending (List StreamItem) × CallCounts :=
  match script with
  | Script.context =>
    (.done [.text (Json.object (describeCall params context).entries).compact], counts)
  | chunks items _ => (.done items, counts)
  | streamFail reasons _ => (.failed reasons, counts)
  | streamPanic payload _ => (.panicked payload, counts)
  | _ => streamWhole (script.execute position) params context counts

/-- Whether the handler of this script describes itself. -/
def isDescribed : Script → Bool
  | const _ | Script.params | fail _ | panic _ | counter _ | flaky .. => false
  | Script.context | chunks .. | streamFail .. | streamPanic .. => true

/-- The handler of a script that is registered at this position. -/
def handler (script : Script) (name description : String) (position : Nat) : Handler CallCounts where
  description := if script.isDescribed then description else ""
  identity := (if script.isDescribed then "scripted:" else "fn:") ++ name
  execute := script.execute position
  stream := script.stream position

end Script

/-- Registers a script, with a call count of its own. -/
def Registry.registerScript (r : Registry CallCounts) (counts : CallCounts) (name description : String)
    (script : Script) : Registry CallCounts × CallCounts :=
  (r.register name (script.handler name description counts.length), counts ++ [0])

end Orchestra
