import Orchestra.Proofs.Check

namespace Orchestra

variable {σ : Type}

/-- What comes of calling a capability by its stream: the texts that are delivered, the result, and the state of
the handlers after it. -/
inductive Registry.Speaks (registry : Registry σ) (name : String) (params : Json) (context : CallContext) (s : σ) :
    List String → Except CallError (Dict Json) → σ → Prop
  | unknown : registry.get? name = none →
      Speaks registry name params context s [] (.error (.notFound name registry.names)) s
  | failed {handler reasons after} : registry.get? name = some handler →
      handler.stream params context s = (.failed reasons, after) →
      Speaks registry name params context s [] (.error (.failed name handler.identity (": ".intercalate reasons)))
        after
  | panicked {handler payload after} : registry.get? name = some handler →
      handler.stream params context s = (.panicked payload, after) →
      Speaks registry name params context s [] (.error (.panicked name handler.identity (panicText payload))) after
  | whole {handler pieces after} : registry.get? name = some handler →
      handler.stream params context s = (.done (pieces.map .text), after) →
      Speaks registry name params context s pieces (.ok (Dict.ofList [("text", .string (String.join pieces))])) after
  | brokenOff {handler pieces reason rest after} : registry.get? name = some handler →
      handler.stream params context s = (.done (pieces.map .text ++ .error reason :: rest), after) →
      Speaks registry name params context s pieces (.error (.failed name handler.identity reason)) after
  | unwound {handler pieces payload rest after} : registry.get? name = some handler →
      handler.stream params context s = (.done (pieces.map .text ++ .panic payload :: rest), after) →
      Speaks registry name params context s pieces (.error (.failed name handler.identity
        ("Capability '" ++ name ++ "' panicked while streaming: " ++ panicText payload))) after

/-- Items are texts up to their end, or up to an error or a panic. -/
theorem StreamItem.split (items : List StreamItem) :
    ∃ pieces : List String, items = pieces.map .text ∨
      (∃ reason rest, items = pieces.map .text ++ .error reason :: rest) ∨
      ∃ payload rest, items = pieces.map .text ++ .panic payload :: rest := by
  induction items with
  | nil => exact ⟨[], .inl rfl⟩
  | cons item rest ih =>
    cases item with
    | text piece =>
      obtain ⟨pieces, rfl | ⟨reason, rest, rfl⟩ | ⟨payload, rest, rfl⟩⟩ := ih
      · exact ⟨piece :: pieces, .inl rfl⟩
      · exact ⟨piece :: pieces, .inr (.inl ⟨reason, rest, rfl⟩)⟩
      · exact ⟨piece :: pieces, .inr (.inr ⟨payload, rest, rfl⟩)⟩
    | error reason => exact ⟨[], .inr (.inl ⟨reason, rest, rfl⟩)⟩
    | panic payload => exact ⟨[], .inr (.inr ⟨payload, rest, rfl⟩)⟩

theorem Registry.exists_speaks (registry : Registry σ) (name : String) (params : Json) (context : CallContext)
    (s : σ) : ∃ pieces result after, registry.Speaks name params context s pieces result after := by
  cases found : registry.get? name with
  | none => exact ⟨_, _, _, .unknown found⟩
  | some handler =>
    cases ended : handler.stream params context s with
    | mk ending after =>
      cases ending with
      | failed reasons => exact ⟨_, _, _, .failed found ended⟩
      | panicked payload => exact ⟨_, _, _, .panicked found ended⟩
      | done items =>
        obtain ⟨pieces, rfl | ⟨reason, rest, rfl⟩ | ⟨payload, rest, rfl⟩⟩ := StreamItem.split items
        · exact ⟨_, _, _, .whole found ended⟩
        · exact ⟨_, _, _, .brokenOff found ended⟩
        · exact ⟨_, _, _, .unwound found ended⟩

theorem leadingTexts_texts (pieces : List String) (rest : List Chunk) :
    leadingTexts (pieces.map .text ++ rest) = pieces ++ leadingTexts rest := by
  induction pieces with
  | nil => rfl
  | cons piece pieces ih => exact congrArg (piece :: ·) ih

theorem joinChunks_texts (pieces : List String) (rest : List Chunk) :
    joinChunks (pieces.map .text ++ rest) = (joinChunks rest).map (String.join pieces ++ ·) := by
  induction pieces with
  | nil => cases joined : joinChunks rest <;> simp [joined, Except.map]
  | cons piece pieces ih =>
    rw [List.map_cons, List.cons_append, joinChunks, ih, String.join_cons]
    cases joinChunks rest <;> simp [Except.map, String.append_assoc]

namespace Runner

variable {runner : Runner σ} {prepared : PreparedStep} {run : Run} {session : Session σ} {pieces : List String}
  {result : Except CallError (Dict Json)} {after : σ}

theorem streamed_of_opened {rest : List Chunk}
    (opened : runner.registry.stream prepared.capability prepared.params run.context session.handlers =
      ⟨.ok (pieces.map .text ++ rest), after, []⟩) (ended : leadingTexts rest = []) :
    runner.streamed prepared run session =
      (match joinChunks rest with
        | .ok text => .ok (Dict.ofList [("text", .string (String.join pieces ++ text))])
        | .error reason => .error (.failed prepared.capability (runner.identityOf prepared.capability) reason),
        { session with handlers := after }) ∧
      runner.spoken prepared run session = pieces := by
  simp only [streamed, spoken, opened, Except.bind, joinChunks_texts, leadingTexts_texts, ended, List.append_nil,
    and_true]
  cases joinChunks rest <;> rfl

/-- A step that is streamed delivers what its capability's stream comes to. -/
theorem streamed_of_speaks
    (speaks : runner.registry.Speaks prepared.capability prepared.params run.context session.handlers pieces result
      after) :
    runner.streamed prepared run session = (result, { session with handlers := after }) ∧
      runner.spoken prepared run session = pieces := by
  have opened {handler : Handler σ} {items : List StreamItem}
      (found : runner.registry.get? prepared.capability = some handler)
      (ended : handler.stream prepared.params run.context session.handlers = (.done items, after)) :
      runner.registry.stream prepared.capability prepared.params run.context session.handlers =
        ⟨.ok (Registry.guardItems prepared.capability items), after, []⟩ := by
    simp [Registry.stream, found, ended, Registry.settle, Except.map]
  have identity {handler : Handler σ} (found : runner.registry.get? prepared.capability = some handler) :
      runner.identityOf prepared.capability = handler.identity := by
    simp [identityOf, found]
  cases speaks with
  | unknown missing => simp [streamed, spoken, Registry.stream, missing, Except.bind]
  | failed found ended =>
    simp [streamed, spoken, Registry.stream, found, ended, Registry.settle, Except.map, Except.bind]
  | panicked found ended =>
    simp [streamed, spoken, Registry.stream, found, ended, Registry.settle, Except.map, Except.bind]
  | whole found ended =>
    have opened := opened found ended
    rw [← List.append_nil (pieces.map StreamItem.text), Registry.guardItems_texts] at opened
    simpa [joinChunks, Registry.guardItems] using streamed_of_opened opened rfl
  | brokenOff found ended =>
    have opened := opened found ended
    rw [Registry.guardItems_texts] at opened
    rw [← identity found]
    exact streamed_of_opened opened rfl
  | unwound found ended =>
    have opened := opened found ended
    rw [Registry.guardItems_texts] at opened
    rw [← identity found]
    exact streamed_of_opened opened rfl

end Runner

end Orchestra
