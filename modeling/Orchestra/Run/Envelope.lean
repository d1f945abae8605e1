import Orchestra.Capability.Error
import Orchestra.Outputs
import Orchestra.Text

namespace Orchestra

/-- Why a run has no success. -/
inductive RunError where
  | patternNotFound (id : String)
  | depthExceeded (depth max : Nat)
  | stepHalted (index : Nat) (capability reason : String)
  | cancelled
  | unexpected (id : String)
deriving DecidableEq, Repr

def RunError.message : RunError → String
  | patternNotFound id => "Pattern not found: " ++ id
  | depthExceeded depth max =>
    "Max recursion depth " ++ toString max ++ " exceeded (depth " ++ toString depth ++ ")"
  | stepHalted index capability reason =>
    "Step " ++ toString index ++ " (" ++ capability ++ ") failed and halted the pattern: " ++ reason
  | cancelled => "Execution cancelled"
  | unexpected id => "Pattern '" ++ id ++ "' failed unexpectedly"

/-- One executed step: the keys that it wrote, or its error. -/
structure StepRecord where
  index : Nat
  capability : String
  durationMs : Nat := 0
  result : Except CallError (List String)

namespace StepRecord

def isOk (record : StepRecord) : Bool := record.result.isOk

def producedKeys (record : StepRecord) : List String :=
  match record.result with
  | .ok keys => keys
  | .error _ => []

/-- The error in short, for people. -/
def error? (record : StepRecord) : Option String :=
  match record.result with
  | .ok _ => none
  | .error e => some (shorten 160 e.message)

def detail? (record : StepRecord) : Option Json :=
  match record.result with
  | .ok _ => none
  | .error e => some e.detail

def toJson (record : StepRecord) : Json :=
  .object ([
    ("index", .ofNat record.index),
    ("capability", .string record.capability),
    ("status", .string (if record.isOk then "ok" else "error")),
    ("duration_ms", .ofNat record.durationMs),
    ("produced_keys", .ofStrings record.producedKeys),
    ("error", .ofString? record.error?)] ++
    record.detail?.elim [] fun detail => [("error_detail", detail)])

end StepRecord

/-- The result of a run as its caller gets it. -/
structure Envelope where
  patternId : String
  data : Dict Json := ∅
  state : State := ∅
  trace : List StepRecord := []
  warnings : List Warning := []
  error : Option RunError := none
  fallback : Bool := false
  recovery : Bool := false
  durationMs : Nat := 0

namespace Envelope

/-- The envelope of a run that left nothing behind. -/
def failure (id : String) (error : RunError) : Envelope := { patternId := id, error := some error }

/-- The envelope of a run that broke down and was not recovered. -/
def terminal (id : String) : Envelope := { failure id (.unexpected id) with recovery := true }

def success (envelope : Envelope) : Bool := envelope.error.isNone

def errorText (envelope : Envelope) : Option String := envelope.error.map RunError.message

/-- Whether a step failed, which does not exclude success. -/
def hasStepErrors (envelope : Envelope) : Bool := envelope.trace.any (!·.isOk)

def toJson (envelope : Envelope) : Json :=
  .object ([
    ("success", .bool envelope.success),
    ("pattern_id", .string envelope.patternId),
    ("data", .object envelope.data.entries),
    ("state", .object envelope.state.entries),
    ("trace", .array (envelope.trace.map StepRecord.toJson)),
    ("warnings", .array (envelope.warnings.map Warning.toJson)),
    ("error", .ofString? envelope.errorText)] ++
    (if envelope.fallback then [("fallback_mode", .bool true)] else []) ++
    (if envelope.recovery then [("recovery_attempted", .bool true)] else []) ++
    [("duration_ms", .ofNat envelope.durationMs)])

end Envelope

end Orchestra
