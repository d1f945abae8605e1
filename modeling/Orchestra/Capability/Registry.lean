import Orchestra.Capability.Error
import Orchestra.Capability.Handler
import Orchestra.Text

namespace Orchestra

/-- Handlers by capability name; a later registration of a name replaces an earlier one. -/
structure Registry (σ : Type) where
  handlers : Dict (Handler σ) := ∅

inductive CallOutcome where
  | ok
  | error
  | panic
deriving DecidableEq, Repr

/-- What the log says about a call. -/
structure AuditLine where
  capability : String
  outcome : CallOutcome
  preview : String
deriving DecidableEq, Repr

/-- What comes of a call: its result, the state of the handlers after it, and the lines that it logged. -/
structure Reply (σ α : Type) where
  result : Except CallError α
  state : σ
  log : List AuditLine

def CallOutcome.of {α : Type} : Except CallError α → CallOutcome
  | .ok _ => .ok
  | .error (.panicked ..) => .panic
  | .error _ => .error

/-- The parameters of a call as shown in the log. -/
def paramsPreview (params : Json) : String := shorten 200 params.compact

def AuditLine.toJson (line : AuditLine) : Json :=
  .object [
    ("event", .string "capability_audit"),
    ("capability", .string line.capability),
    ("ok", .bool (line.outcome = .ok)),
    ("outcome", .string (match line.outcome with
      | .ok => "ok"
      | .error => "error"
      | .panic => "panic")),
    ("duration_ms", .ofNat 0),
    ("params_preview", .string line.preview)]

namespace Registry

variable {σ : Type}

def register (r : Registry σ) (name : String) (handler : Handler σ) : Registry σ :=
  ⟨r.handlers.insert name handler⟩

def get? (r : Registry σ) (name : String) : Option (Handler σ) := r.handlers.get? name

def has (r : Registry σ) (name : String) : Bool := r.handlers.contains name

/-- The registered names, in ascending order. -/
def names (r : Registry σ) : List String := r.handlers.keys

def descriptions (r : Registry σ) : List (String × String) :=
  r.handlers.entries.map fun entry => (entry.1, entry.2.description)

/-- The result of a handler's work under the name it was called by. -/
def settle {α : Type} (name : String) (handler : Handler σ) : Ending α → Except CallError α
  | .done answer => .ok answer
  | .failed reasons => .error (.failed name handler.identity (": ".intercalate reasons))
  | .panicked payload => .error (.panicked name handler.identity (panicText payload))

/-- Calls a capability. Every call of a registered name is logged. -/
def execute (r : Registry σ) (name : String) (params : Json) (context : CallContext) (s : σ) :
    Reply σ (Dict Json) :=
  match r.get? name with
  | none => ⟨.error (.notFound name r.names), s, []⟩
  | some handler =>
    let (ending, s) := handler.execute params context s
    let result := settle name handler ending
    ⟨result, s, [⟨name, .of result, paramsPreview params⟩]⟩

/-- The items up to the first panic, which becomes an error that ends the stream. -/
def guardItems (name : String) : List StreamItem → List Chunk
  | [] => []
  | .text piece :: rest => .text piece :: guardItems name rest
  | .error reason :: rest => .error reason :: guardItems name rest
  | .panic payload :: _ =>
    [.error ("Capability '" ++ name ++ "' panicked while streaming: " ++ panicText payload)]

/-- Opens the stream of a capability. Streams are not logged. -/
def stream (r : Registry σ) (name : String) (params : Json) (context : CallContext) (s : σ) :
    Reply σ (List Chunk) :=
  match r.get? name with
  | none => ⟨.error (.notFound name r.names), s, []⟩
  | some handler =>
    let (ending, s) := handler.stream params context s
    ⟨(settle name handler ending).map (guardItems name), s, []⟩

theorem guardItems_texts (name : String) (pieces : List String) (rest : List StreamItem) :
    guardItems name (pieces.map .text ++ rest) =
      pieces.map .text ++ guardItems name rest := by
  induction pieces with
  | nil => rfl
  | cons piece pieces ih => exact congrArg (Chunk.text piece :: ·) ih

variable {registry : Registry σ} {name : String} {params : Json} {context : CallContext} {s : σ} {error : CallError}

theorem settle_error {α : Type} {handler : Handler σ} {ending : Ending α}
    (failure : settle name handler ending = .error error) : error.capability = name := by
  cases ending with
  | done => cases failure
  | failed => cases failure; rfl
  | panicked => cases failure; rfl

/-- A failed call names the capability that was called, whether or not it is registered. -/
theorem execute_error (failure : (registry.execute name params context s).result = .error error) :
    error.capability = name := by
  unfold execute at failure
  split at failure
  · cases failure; rfl
  · exact settle_error failure

theorem stream_error (failure : (registry.stream name params context s).result = .error error) :
    error.capability = name := by
  unfold stream at failure
  split at failure
  · cases failure; rfl
  next handler _ =>
    dsimp only at failure
    cases settled : settle name handler (handler.stream params context s).1 with
    | error => rw [settled] at failure; cases failure; exact settle_error settled
    | ok => rw [settled] at failure; cases failure

end Registry

end Orchestra
