import Orchestra.Json.Basic

namespace Orchestra

inductive CallError where
  | notFound (name : String) (available : List String)
  | failed (capability handler reason : String)
  | panicked (capability handler reason : String)
deriving DecidableEq, Repr

namespace CallError

/-- The capability that was called. -/
def capability : CallError → String
  | notFound name _ => name
  | failed capability .. | panicked capability .. => capability

def message : CallError → String
  | notFound name _ => "Capability not found: " ++ name
  | failed capability handler reason =>
    "Capability '" ++ capability ++ "' failed in " ++ handler ++ ": " ++ reason
  | panicked capability handler reason =>
    "Capability '" ++ capability ++ "' panicked in " ++ handler ++ ": " ++ reason

/-- The error as a value for the trace; keys ascend. -/
def detail (error : CallError) : Json :=
  match error with
  | notFound name available =>
    .object [
      ("available", .ofStrings available),
      ("capability", .string name),
      ("error", .string error.message)]
  | failed capability handler _ | panicked capability handler _ =>
    .object [
      ("capability", .string capability),
      ("error", .string error.message),
      ("handler", .string handler)]

/-- The error with all its parts. -/
def toJson : CallError → Json
  | notFound name available =>
    .object [("kind", .string "not_found"), ("name", .string name), ("available", .ofStrings available)]
  | failed capability handler reason => parts "handler_failed" capability handler reason
  | panicked capability handler reason => parts "panicked" capability handler reason
where
  parts (kind capability handler reason : String) : Json :=
    .object [
      ("kind", .string kind),
      ("capability", .string capability),
      ("handler", .string handler),
      ("message", .string reason)]

theorem field?_detail (error : CallError) :
    error.detail.field? "capability" = some (.string error.capability) := by
  cases error <;> rfl

end CallError

end Orchestra
