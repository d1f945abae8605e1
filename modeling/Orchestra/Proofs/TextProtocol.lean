import Orchestra.Proofs.Protocol

namespace Orchestra

variable {σ : Type}

/-- What a stream of texts tells of the entry of this number: nothing of other capabilities; of the generative one,
the texts that its stream delivers before an error, and how the step went. What the stream comes to is what the entry
tells and what the state takes in. -/
inductive Runner.Voices (runner : Runner σ) (generative : String) (pattern : Pattern) (inputs : Dict Json)
    (session : Session σ) (i : Nat) : StepRecord → List Event → Prop
  | silent {record} : record.capability ≠ generative → Voices runner generative pattern inputs session i record []
  | spoken {step before prepared gate pieces result after} : pattern.steps[i]? = some step →
      runner.ComesTo (runner.nested 0) (.tokens generative) pattern.steps 0 (fresh pattern inputs 0 session) i
        before →
      step.prepare i before.run before.session.gate = (.ok prepared, gate) → prepared.capability = generative →
      runner.registry.Speaks generative prepared.params before.run.context before.session.handlers pieces result
        after →
      (runner.playedTo (.tokens generative) pattern inputs session (i + 1)).2.run =
        before.run.apply step prepared result 0 →
      (prepared.record step result 0).Reports step result →
      State.Takes step result before.run.state
        (runner.playedTo (.tokens generative) pattern inputs session (i + 1)).2.run.state →
      Voices runner generative pattern inputs session i (prepared.record step result 0)
        (pieces.map (.textChunk i) ++ [(prepared.record step result 0).telling step.halts])

/-- What a stream of texts of a known pattern tells, if it ends in this envelope. -/
structure Runner.TextsTold (runner : Runner σ) (generative id : String) (pattern : Pattern) (inputs : Dict Json)
    (session : Session σ) (envelope : Envelope) (events : List Event) : Prop where
  listed : ∃ parts : List (List Event), parts.length = envelope.trace.length ∧
    events = .patternStart id pattern.steps.length :: parts.flatten ++
      (if envelope.success = true then [.patternComplete id] else []) ++ [envelope.closing] ∧
    ∀ (i : Nat) (record : StepRecord) (part : List Event), envelope.trace[i]? = some record →
      parts[i]? = some part → record.index = i ∧ runner.Voices generative pattern inputs session i record part
  closing : envelope.success = true ∧ envelope.closing = .finalResult envelope ∨
    envelope.success = false ∧ ∃ text, envelope.errorText = some text ∧ envelope.closing = .executionError text
  unannounced : ∀ index capability description, .stepStart index capability description ∉ events
  state : envelope.state =
    (runner.playedTo (.tokens generative) pattern inputs session envelope.trace.length).2.run.state

theorem StepRecord.telling_ne_stepStart (record : StepRecord) (halted : Bool) (index : Nat)
    (capability description : String) : record.telling halted ≠ .stepStart index capability description := by
  unfold StepRecord.telling
  cases record.error? <;> nofun

theorem Envelope.closing_ne_stepStart (envelope : Envelope) (index : Nat) (capability description : String) :
    envelope.closing ≠ .stepStart index capability description := by
  unfold Envelope.closing
  cases envelope.error <;> nofun

theorem offered_pieces (i : Nat) (pieces : List String) (run : Run) (session : Session σ) :
    offered (pieces.map fun piece => ⟨some (.textChunk i piece), run, session⟩) = pieces.map (.textChunk i) := by
  rw [offered, List.filterMap_map]
  exact congrFun List.filterMap_eq_map pieces

namespace Runner

variable {runner : Runner σ} {generative : String} {pattern : Pattern} {inputs : Dict Json} {session : Session σ}
  {i : Nat} {record : StepRecord} {part : List Event}

theorem Tells.voices
    (tells : runner.Tells (runner.nested 0) (.tokens generative) pattern.steps 0 (fresh pattern inputs 0 session) i
      record part) :
    runner.Voices generative pattern inputs session i record part := by
  cases tells with
  | @served step before prepared gate result after atStep reached chosen served went =>
    rw [Nat.zero_add] at chosen
    -- In a stream of texts a step is streamed exactly if it goes to the generative capability.
    by_cases same : prepared.capability = generative
    · subst same
      obtain ⟨pieces, answer, last, speaks⟩ := runner.registry.exists_speaks prepared.capability prepared.params
        before.run.context before.session.handlers
      have place : prepared.index = i := (Step.prepare_ok (congrArg Prod.fst chosen)).1
      obtain ⟨streamed, spoken⟩ : runner.streamed prepared before.run { before.session with gate } =
            (answer, { before.session with gate, handlers := last }) ∧
          runner.spoken prepared before.run { before.session with gate } = pieces := streamed_of_speaks speaks
      have answered := served
      rw [serve, if_pos rfl, streamed] at answered
      cases answered
      rw [offers, served]
      dsimp only
      rw [if_pos rfl, offered_append, spoken, place, offered_pieces]
      have takes := (Outcome.mk step prepared result).takes before.run
      rw [← congrArg Run.state went] at takes
      exact .spoken atStep reached chosen rfl speaks went (Outcome.mk step prepared result).reports takes
    · have silent : offered (runner.offers (runner.nested 0) (.tokens generative) step prepared before.run
          { before.session with gate }) = [] := by
        rw [offers]
        dsimp only
        rw [if_neg same]
        rfl
      rw [silent]
      exact .silent same

theorem Voices.not_mem_stepStart (voices : runner.Voices generative pattern inputs session i record part)
    (index : Nat) (capability description : String) : .stepStart index capability description ∉ part := by
  cases voices with
  | silent => exact List.not_mem_nil
  | spoken =>
    intro member
    rcases List.mem_append.mp member with chunk | told
    · obtain ⟨_, _, same⟩ := List.mem_map.mp chunk
      cases same
    · exact StepRecord.telling_ne_stepStart _ _ _ _ _ (List.mem_singleton.mp told).symm

/-- A stream of texts that is read to its end tells of the generative steps alone, by what they leave. -/
theorem stream_texts_protocol (runner : Runner σ) (generative id : String) (pattern : Pattern) (inputs : Dict Json)
    (session : Session σ) (below : 0 < runner.options.maxDepth) (known : runner.catalog.get? id = some pattern)
    (calm : ∀ panic, ¬ runner.Breaks (.tokens generative) id inputs 0 session none panic) :
    runner.TextsTold generative id pattern inputs session
      (runner.stream id inputs (.tokens generative) .never session).1
      (runner.stream id inputs (.tokens generative) .never session).2.1 := by
  obtain ⟨parts, events, length, tells⟩ := runner.played_tells (.tokens generative) pattern inputs session
  obtain ⟨error, ended⟩ := exists_error_of_calm known calm
  have listed := offered_checks below known (.tokens generative) inputs session
  have complete : ((runner.played (.tokens generative) pattern inputs session).1 = none) =
      ((conclude pattern (runner.played (.tokens generative) pattern inputs session).2.run error).success = true) := by
    rw [ended]
    cases error <;> simp [conclude, Envelope.success]
  have voices (i : Nat) (record : StepRecord) (part : List Event)
      (atRecord : (runner.played (.tokens generative) pattern inputs session).2.run.trace[i]? = some record)
      (atPart : parts[i]? = some part) :
      record.index = i ∧ runner.Voices generative pattern inputs session i record part := by
    have told := tells i record part atRecord atPart
    exact ⟨told.entry.1.trans (Nat.zero_add i), told.voices⟩
  have count : (runner.played (.tokens generative) pattern inputs session).2.run =
      (runner.playedTo (.tokens generative) pattern inputs session
        (runner.played (.tokens generative) pattern inputs session).2.run.trace.length).2.run := by
    rw [playedTo_length known calm]
  rw [stream_never, contained_of_played below known ended]
  dsimp only
  rw [listed, events]
  simp only [complete]
  refine ⟨⟨parts, length, rfl, voices⟩, Envelope.closing_cases _, fun index capability description member => ?_,
    congrArg Run.state count⟩
  rcases List.mem_append.mp member with offered | closing
  · rcases List.mem_append.mp offered with told | last
    · rcases List.mem_cons.mp told with start | within
      · cases start
      · obtain ⟨part, inParts, inPart⟩ := List.mem_flatten.mp within
        obtain ⟨i, atPart⟩ := List.mem_iff_getElem?.mp inParts
        have within : i < (runner.played (.tokens generative) pattern inputs session).2.run.trace.length :=
          length ▸ (List.getElem?_eq_some_iff.mp atPart).1
        exact (voices i _ part (List.getElem?_eq_getElem within) atPart).2.not_mem_stepStart _ _ _ inPart
    · split at last
      · cases List.mem_singleton.mp last
      · cases last
  · exact Envelope.closing_ne_stepStart _ _ _ _ (List.mem_singleton.mp closing).symm

/-- A text that is generated behind a flag, another one, and a silent failure that halts. -/
def letterPattern : Pattern where
  id := "letter"
  steps := [
    { capability := "text.generate", reroute := some ⟨"beta", "echo"⟩ },
    { capability := "text.generate", saveAs := some "again" },
    { capability := "absent", onError := .stop }]

theorem stream_texts_protocol_letter :
    let runner : Runner Unit := { bare with catalog := .ofList [letterPattern] }
    0 < runner.options.maxDepth ∧ runner.catalog.get? "letter" = some letterPattern ∧
      (∀ panic, ¬ runner.Breaks (.tokens "text.generate") "letter" ∅ 0 gatedSession none panic) ∧
      runner.TextsTold "text.generate" "letter" letterPattern ∅ gatedSession
        (runner.stream "letter" ∅ (.tokens "text.generate") .never gatedSession).1
        (runner.stream "letter" ∅ (.tokens "text.generate") .never gatedSession).2.1 := by
  have known : (Catalog.ofList [letterPattern]).get? "letter" = some letterPattern := rfl
  have calm (panic : Panic) : ¬ Runner.Breaks { bare with catalog := .ofList [letterPattern] }
      (.tokens "text.generate") "letter" ∅ 0 gatedSession none panic := by
    have ended : (Runner.played { bare with catalog := .ofList [letterPattern] } (.tokens "text.generate")
        letterPattern ∅ gatedSession).1 =
          some (.error (.stepHalted 2 "absent" "Capability not found: absent")) := by decide
    rw [breaks_iff known, ended]
    nofun
  exact ⟨by decide, known, calm, stream_texts_protocol _ "text.generate" "letter" letterPattern ∅ gatedSession
    (by decide) known calm⟩

end Runner

end Orchestra
