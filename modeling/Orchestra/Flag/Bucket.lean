import Orchestra.Flag.Config
import Orchestra.Json.Text
import Orchestra.Sha256

namespace Orchestra

/-- The inputs that identify a caller, in order of preference. -/
def identifierFields : List String := ["user_id", "portfolio_id", "request_id"]

/-- The text of an identifying value: a nonempty string, or a number. -/
def identifierText : Json → Option String
  | .string s => if s = "" then none else some s
  | .number n => some n.text
  | _ => none

/-- Who the caller is. -/
def identifier (context : Dict Json) : String :=
  (identifierFields.findSome? fun field => (context.get? field).bind identifierText).getD "anonymous"

/-- A number below 100 that a flag and an identifier fix once and for all. -/
def bucket (flag identifier : String) : Nat :=
  Sha256.head64 (flag ++ ":" ++ identifier).toUTF8.toList % 100

/-- Whether an enabled flag is on: for no bucket up to a percentage of 0, for every bucket from 100 on. -/
def FlagSpec.isOn (spec : FlagSpec) (flag identifier : String) : Bool :=
  if !spec.enabled || spec.rollout.le .zero then false
  else if (Double.ofNat 100).le spec.rollout then true
  else (Double.ofNat (bucket flag identifier)).lt spec.rollout

end Orchestra
