import Orchestra.Json.Text

namespace Orchestra

/-- How a piece of work ends: with an answer, with a chain of reasons from the outermost inwards, or in a
panic, which may carry a text. -/
inductive Ending (α : Type) where
  | done (answer : α)
  | failed (reasons : List String)
  | panicked (payload : Option String)

/-- The text of a panic. -/
def panicText (payload : Option String) : String := payload.getD "unknown panic"

/-- A part of a stream as its handler yields it. -/
inductive StreamItem where
  | text (piece : String)
  | error (reason : String)
  | panic (payload : Option String)
deriving DecidableEq, Repr

/-- A part of a stream as its reader gets it. -/
inductive Chunk where
  | text (piece : String)
  | error (reason : String)
deriving DecidableEq, Repr

/-- Where a call comes from. -/
structure CallContext where
  patternId : String := ""
  depth : Nat := 0
  inputs : Dict Json := ∅

structure Handler (σ : Type) where
  description : String
  identity : String
  execute : Json → CallContext → σ → Ending (Dict Json) × σ
  stream : Json → CallContext → σ → Ending (List StreamItem) × σ

/-- The text of an output: its `text` entry if that is a string, else the whole as compact JSON. -/
def outputText (output : Dict Json) : String :=
  match output.get? "text" with
  | some (.string text) => text
  | _ => (Json.object output.entries).compact

/-- Streaming for handlers without a stream of their own: the text of the output in one piece. -/
def streamWhole {σ : Type} (execute : Json → CallContext → σ → Ending (Dict Json) × σ) (params : Json)
    (context : CallContext) (s : σ) : Ending (List StreamItem) × σ :=
  match execute params context s with
  | (.done output, s) => (.done [.text (outputText output)], s)
  | (.failed reasons, s) => (.failed reasons, s)
  | (.panicked payload, s) => (.panicked payload, s)

end Orchestra
