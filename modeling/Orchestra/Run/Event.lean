import Orchestra.Run.Envelope

namespace Orchestra

inductive Event where
  | patternStart (patternId : String) (totalSteps : Nat)
  | stepStart (index : Nat) (capability description : String)
  | stepComplete (index : Nat) (capability : String) (durationMs : Nat) (producedKeys : List String)
  | stepError (index : Nat) (capability error : String) (halted : Bool)
  | textChunk (index : Nat) (text : String)
  | patternComplete (patternId : String)
  | finalResult (envelope : Envelope)
  | executionError (error : String)

namespace Event

/-- Whether this is the last event of its stream. -/
def isTerminal : Event → Bool
  | finalResult _ | executionError _ => true
  | _ => false

def toJson : Event → Json
  | patternStart patternId totalSteps =>
    .object [("type", .string "pattern_start"), ("pattern_id", .string patternId),
      ("total_steps", .ofNat totalSteps)]
  | stepStart index capability description =>
    .object [("type", .string "step_start"), ("index", .ofNat index), ("capability", .string capability),
      ("description", .string description)]
  | stepComplete index capability durationMs producedKeys =>
    .object [("type", .string "step_complete"), ("index", .ofNat index), ("capability", .string capability),
      ("duration_ms", .ofNat durationMs), ("produced_keys", .ofStrings producedKeys)]
  | stepError index capability error halted =>
    .object [("type", .string "step_error"), ("index", .ofNat index), ("capability", .string capability),
      ("error", .string error), ("halted", .bool halted)]
  | textChunk index text =>
    .object [("type", .string "text_chunk"), ("index", .ofNat index), ("text", .string text)]
  | patternComplete patternId =>
    .object [("type", .string "pattern_complete"), ("pattern_id", .string patternId),
      ("duration_ms", .ofNat 0)]
  | finalResult envelope => .object [("type", .string "final_result"), ("result", envelope.toJson)]
  | executionError error => .object [("type", .string "execution_error"), ("error", .string error)]

end Event

/-- When the reader of a stream leaves: never, at the check of this number, or when this many events have been
taken and another one comes. -/
inductive Departure where
  | never
  | atCheck (n : Nat)
  | afterEvents (n : Nat)
deriving DecidableEq, Repr

/-- The events taken so far, and how often the producer checked whether its reader is still there. -/
structure Sink where
  departure : Departure := .never
  accepted : List Event := []
  checks : Nat := 0
  closed : Bool := false

namespace Sink

/-- Checks without an event whether the reader has left. -/
def poll (sink : Sink) : Bool × Sink :=
  let left := match sink.departure with
    | .atCheck n => n ≤ sink.checks
    | _ => false
  let closed := sink.closed || left
  (closed, { sink with checks := sink.checks + 1, closed })

/-- Offers an event, and answers whether it was taken. -/
def emit (sink : Sink) (event : Event) : Bool × Sink :=
  let left := match sink.departure with
    | .never => false
    | .atCheck n => n ≤ sink.checks
    | .afterEvents n => n ≤ sink.accepted.length
  if sink.closed || left then (false, { sink with checks := sink.checks + 1, closed := true })
  else (true, { sink with checks := sink.checks + 1, accepted := sink.accepted ++ [event] })

end Sink

end Orchestra
