import Mathlib.Data.List.Forall2
import Orchestra.Capability.Builtin
import Orchestra.Proofs.Registration

namespace Orchestra

variable {σ : Type}

/-- The text of an output: its entry `text` if that is a string, else all of it as compact JSON. -/
inductive TextOf (output : Dict Json) : String → Prop
  | entry {text : String} : output.get? "text" = some (.string text) → TextOf output text
  | whole : (∀ text, output.get? "text" ≠ some (.string text)) →
      TextOf output (Json.object output.entries).compact

/-- A text in pieces of a size, of which the last may be shorter, and none is empty. -/
structure InPieces (size : Nat) (text : String) (pieces : List String) : Prop where
  joined : String.join pieces = text
  bounded : ∀ piece ∈ pieces, 1 ≤ piece.length ∧ piece.length ≤ size
  full : ∀ piece ∈ pieces.dropLast, piece.length = size

/-- An item reaches the reader as it is. -/
inductive StreamItem.Passes : StreamItem → Chunk → Prop
  | text (piece : String) : Passes (.text piece) (.text piece)
  | error (reason : String) : Passes (.error reason) (.error reason)

/-- What reaches the reader of a stream: all items, or those before the first panic and an error that tells of it. -/
inductive Guarded (name : String) : List StreamItem → List Chunk → Prop
  | whole {items : List StreamItem} {chunks : List Chunk} : List.Forall₂ StreamItem.Passes items chunks →
      Guarded name items chunks
  | unwound {items rest : List StreamItem} {chunks : List Chunk} (payload : Option String) :
      List.Forall₂ StreamItem.Passes items chunks →
      Guarded name (items ++ .panic payload :: rest)
        (chunks ++ [.error ("Capability '" ++ name ++ "' panicked while streaming: " ++ panicText payload)])

/-- How the streams of a registry's capabilities go together with their outputs. -/
structure Registry.StreamsAgree (registry : Registry σ) : Prop where
  whole : ∀ name handler, registry.get? name = some handler → handler.stream = streamWhole handler.execute →
    ∀ params context s,
      (∀ output, (registry.execute name params context s).result = .ok output →
        ∃ text, TextOf output text ∧ (registry.stream name params context s).result = .ok [.text text]) ∧
      (∀ error, (registry.execute name params context s).result = .error error →
        (registry.stream name params context s).result = .error error) ∧
      (registry.stream name params context s).state = (registry.execute name params context s).state
  generated : ∀ name, registry.get? name = some Builtin.generateText → ∀ params context s, ∃ text pieces,
    (registry.execute name params context s).result = .ok (Dict.ofList [("text", .string text)]) ∧
      (registry.stream name params context s).result = .ok (pieces.map .text) ∧ InPieces 6 text pieces ∧
      ∀ prompt, params.field? "prompt" = some (.string prompt) → text = "Summary: " ++ prompt
  guarded : ∀ name handler, registry.get? name = some handler → ∀ params context s items after,
    handler.stream params context s = (.done items, after) → ∃ chunks,
      (registry.stream name params context s).result = .ok chunks ∧ Guarded name items chunks ∧
        (registry.stream name params context s).state = after

theorem textOf_outputText (output : Dict Json) : TextOf output (outputText output) := by
  unfold outputText
  split
  next text found => exact .entry found
  next other => exact .whole other

theorem Guarded.cons {name : String} {item : StreamItem} {chunk : Chunk} {items : List StreamItem}
    {chunks : List Chunk} (passes : item.Passes chunk) (guarded : Guarded name items chunks) :
    Guarded name (item :: items) (chunk :: chunks) := by
  cases guarded with
  | whole all => exact .whole (.cons passes all)
  | unwound payload before => exact .unwound payload (.cons passes before)

theorem guarded_guardItems (name : String) (items : List StreamItem) :
    Guarded name items (Registry.guardItems name items) := by
  induction items with
  | nil => exact .whole .nil
  | cons item rest ih =>
    cases item with
    | text piece => exact ih.cons (.text piece)
    | error reason => exact ih.cons (.error reason)
    | panic payload => exact .unwound payload .nil

theorem Builtin.inPieces (text : String) : InPieces 6 text (pieces text) where
  joined := join_pieces text
  bounded piece member := by
    obtain ⟨group, grouped, rfl⟩ := List.mem_map.mp member
    rw [String.length_ofList]
    exact length_of_mem_groups (by decide) grouped
  full piece member := by
    rw [pieces, ← List.map_dropLast] at member
    obtain ⟨group, grouped, rfl⟩ := List.mem_map.mp member
    rw [String.length_ofList]
    exact length_of_mem_dropLast_groups grouped

namespace Registry

variable {registry : Registry σ} {name : String} {handler : Handler σ}

theorem guardItems_whole (name : String) (pieces : List String) :
    guardItems name (pieces.map .text) = pieces.map .text := by
  have all := guardItems_texts name pieces []
  rwa [List.append_nil, guardItems, List.append_nil] at all

/-- Without a stream of its own, a handler streams the text of its output, and fails as its execution does. -/
theorem streams_whole (found : registry.get? name = some handler)
    (inherited : handler.stream = streamWhole handler.execute) (params : Json) (context : CallContext) (s : σ) :
    (registry.stream name params context s).result =
        (registry.execute name params context s).result.map (fun output => [.text (outputText output)]) ∧
      (registry.stream name params context s).state = (registry.execute name params context s).state := by
  cases executed : handler.execute params context s with
  | mk ending after =>
    cases ending <;>
      simp [stream, execute, found, inherited, streamWhole, executed, settle, Except.map, guardItems]

/-- The stream of a handler that has none of its own is its output in one piece, generated text comes in pieces of
six characters, and a stream that panics ends in one error. -/
theorem streams_agree (registry : Registry σ) : registry.StreamsAgree where
  whole name handler found inherited params context s := by
    obtain ⟨result, state⟩ := streams_whole found inherited params context s
    refine ⟨fun output executed => ⟨_, textOf_outputText output, ?_⟩, fun error failure => ?_, state⟩
    · rw [result, executed]
      rfl
    · rw [result, failure]
      rfl
  generated name found params context s := by
    refine ⟨_, _, ?_, ?_, Builtin.inPieces (Builtin.generated params), fun prompt given => ?_⟩
    · rw [execute, found]
      rfl
    · rw [stream, found]
      exact congrArg Except.ok (guardItems_whole name _)
    · simp [Builtin.generated, Builtin.textParam, given, Json.string?]
  guarded name handler found params context s items after streamed := by
    refine ⟨_, ?_, guarded_guardItems name items, ?_⟩
    · simp only [stream, found, streamed]
      rfl
    · simp only [stream, found, streamed]

end Registry

/-- Only the last piece is shorter. -/
example : Builtin.pieces "Summary: TWR up" = ["Summar", "y: TWR", " up"] := by decide

end Orchestra
