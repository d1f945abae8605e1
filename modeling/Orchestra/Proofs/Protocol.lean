import Orchestra.Proofs.Played
import Orchestra.Proofs.Speech
import Orchestra.Proofs.Telling

namespace Orchestra

variable {σ : Type}

/-- What a stream of steps tells of a step with this entry: that it starts, and how it went. -/
def Step.told (step : Step) (record : StepRecord) : List Event :=
  [.stepStart record.index record.capability step.description, record.telling step.halts]

/-- What a stream of steps of a known pattern tells, if this ends its steps early and these are their records. -/
structure Runner.StepsTold (runner : Runner σ) (id : String) (pattern : Pattern) (inputs : Dict Json)
    (session : Session σ) (stop : Option Interruption) (records : List StepRecord) (envelope : Envelope)
    (events : List Event) : Prop where
  listed : events = .patternStart id pattern.steps.length ::
    (List.zipWith Step.told pattern.steps records).flatten ++
    (if stop = none then [.patternComplete id] else []) ++ [envelope.closing]
  /-- The steps with an entry are those that the pattern comes to and whose flag's load does not panic. -/
  executed : ∀ i, i < records.length ↔ ∃ step before, pattern.steps[i]? = some step ∧
    runner.ComesTo (runner.nested 0) .evented pattern.steps 0 (fresh pattern inputs 0 session) i before ∧
    ∀ panic, ¬ step.FlagPanics before.session.gate panic
  entry : ∀ (i : Nat) (record : StepRecord), records[i]? = some record → record.index = i ∧
    ∃ step result, runner.ServedBy (runner.nested 0) .evented pattern.steps 0 (fresh pattern inputs 0 session) i step
      record.capability result ∧ record.Reports step result
  /-- A pattern is complete exactly if no step that halts failed and no flag's load panicked. -/
  complete_iff : stop = none ↔
    (∀ (i : Nat) (record : StepRecord) (step : Step), records[i]? = some record → pattern.steps[i]? = some step →
      step.halts = true → record.isOk = true) ∧
    ∀ panic, ¬ runner.Breaks .evented id inputs 0 session none panic
  /-- Without a panic these are the entries of the envelope. -/
  calm : (∀ panic, ¬ runner.Breaks .evented id inputs 0 session none panic) →
    envelope.patternId = id ∧ envelope.trace = records
  /-- A panic at a step leaves the entries of the steps before it. -/
  broken : ∀ i step before panic, pattern.steps[i]? = some step →
    runner.ComesTo (runner.nested 0) .evented pattern.steps 0 (fresh pattern inputs 0 session) i before →
    step.FlagPanics before.session.gate panic → records = before.run.trace ∧ records.length = i
  recovery_iff : envelope.recovery = true ↔ ∃ panic, runner.Breaks .evented id inputs 0 session none panic
  closing : envelope.success = true ∧ envelope.closing = .finalResult envelope ∨
    envelope.success = false ∧ ∃ text, envelope.errorText = some text ∧ envelope.closing = .executionError text
  once : events.filter Event.isTerminal = [envelope.closing]

/-- What a stream of steps that is read to its end tells. -/
structure Runner.StepsProtocol (runner : Runner σ) (id : String) (inputs : Dict Json) (session : Session σ)
    (envelope : Envelope) (events : List Event) : Prop where
  refused : runner.options.maxDepth = 0 ∨ runner.catalog.get? id = none →
    ∃ text, envelope.errorText = some text ∧ events = [.executionError text]
  told : ∀ pattern, 0 < runner.options.maxDepth → runner.catalog.get? id = some pattern →
    runner.StepsTold id pattern inputs session (runner.played .evented pattern inputs session).1
      (runner.played .evented pattern inputs session).2.run.trace envelope events

theorem Envelope.closing_cases (envelope : Envelope) :
    envelope.success = true ∧ envelope.closing = .finalResult envelope ∨
      envelope.success = false ∧ ∃ text, envelope.errorText = some text ∧
        envelope.closing = .executionError text := by
  unfold Envelope.closing Envelope.success Envelope.errorText
  cases envelope.error with
  | none => exact .inl ⟨rfl, rfl⟩
  | some error => exact .inr ⟨rfl, error.message, rfl, rfl⟩

theorem Envelope.isTerminal_closing (envelope : Envelope) : envelope.closing.isTerminal = true := by
  unfold Envelope.closing
  cases envelope.error <;> rfl

theorem StepRecord.isTerminal_telling (record : StepRecord) (halted : Bool) :
    (record.telling halted).isTerminal = false := by
  unfold StepRecord.telling
  cases record.error? <;> rfl

namespace Runner

variable {runner : Runner σ} {nested : Nested σ} {mode : StepMode} {steps : List Step} {index i : Nat}
  {live : Live σ} {id : String} {pattern : Pattern} {inputs : Dict Json} {session : Session σ}
  {record : StepRecord} {part : List Event}

theorem Tells.entry (tells : runner.Tells nested mode steps index live i record part) :
    record.index = index + i ∧ ∃ step result,
      runner.ServedBy nested mode steps index live i step record.capability result ∧ record.Reports step result := by
  cases tells with
  | @served step before prepared gate result after atStep reached chosen answer =>
    have place : prepared.index = index + i := (Step.prepare_ok (congrArg Prod.fst chosen)).1
    exact ⟨place, step, result, reached.servedBy atStep chosen answer, (Outcome.mk step prepared result).reports⟩

theorem Tells.told (tells : runner.Tells nested .evented steps index live i record part) :
    ∃ step, steps[i]? = some step ∧ part = step.told record := by
  cases tells with
  | served atStep _ _ served =>
    refine ⟨_, atStep, ?_⟩
    rw [offers, served]
    rfl

/-- The parts of a stream of steps are told of the steps and their entries, in order. -/
theorem parts_eq_zipWith {records : List StepRecord} {parts : List (List Event)}
    (length : parts.length = records.length)
    (tells : ∀ (i : Nat) (record : StepRecord) (part : List Event), records[i]? = some record →
      parts[i]? = some part → runner.Tells nested .evented steps index live i record part) :
    parts = List.zipWith Step.told steps records := by
  refine List.ext_getElem? fun i => ?_
  rw [List.getElem?_zipWith]
  cases atRecord : records[i]? with
  | none =>
    rw [List.getElem?_eq_none (length ▸ List.getElem?_eq_none_iff.mp atRecord)]
    cases steps[i]? <;> rfl
  | some record =>
    have within : i < parts.length := length ▸ (List.getElem?_eq_some_iff.mp atRecord).1
    have atPart : parts[i]? = some parts[i] := List.getElem?_eq_getElem within
    obtain ⟨step, atStep, same⟩ := (tells i record parts[i] atRecord atPart).told
    rw [atPart, atStep, same]

theorem offered_checks (below : 0 < runner.options.maxDepth) (known : runner.catalog.get? id = some pattern)
    (mode : StepMode) (inputs : Dict Json) (session : Session σ) :
    offered (runner.checks mode id inputs 0 session) = .patternStart id pattern.steps.length ::
      offered (runner.checksFrom (runner.nested 0) mode pattern.steps 0 (fresh pattern inputs 0 session).run
        session) ++
      if (runner.played mode pattern inputs session).1 = none then [.patternComplete id] else [] := by
  have own : pattern.id = id := runner.catalog.keyed known
  rw [checks_of_known below known, offered_cons, firstCheck, offered_append, own]
  split <;> rfl

theorem played_tells (runner : Runner σ) (mode : StepMode) (pattern : Pattern) (inputs : Dict Json)
    (session : Session σ) :
    ∃ parts : List (List Event),
      offered (runner.checksFrom (runner.nested 0) mode pattern.steps 0 (fresh pattern inputs 0 session).run
        session) = parts.flatten ∧
      parts.length = (runner.played mode pattern inputs session).2.run.trace.length ∧
      ∀ (i : Nat) (record : StepRecord) (part : List Event),
        (runner.played mode pattern inputs session).2.run.trace[i]? = some record → parts[i]? = some part →
        runner.Tells (runner.nested 0) mode pattern.steps 0 (fresh pattern inputs 0 session) i record part := by
  obtain ⟨records, parts, trace, events, length, tells⟩ := runner.runSteps_tells (runner.nested 0) mode
    pattern.steps 0 (fresh pattern inputs 0 session).run session
  have same : (runner.played mode pattern inputs session).2.run.trace = records := trace
  rw [same]
  exact ⟨parts, events, length, tells⟩

theorem once_terminal (id : String) (steps : List Step) (records : List StepRecord) (stop : Option Interruption)
    (envelope : Envelope) :
    (Event.patternStart id steps.length :: (List.zipWith Step.told steps records).flatten ++
      (if stop = none then [Event.patternComplete id] else []) ++ [envelope.closing]).filter Event.isTerminal =
      [envelope.closing] := by
  have silent : (List.zipWith Step.told steps records).flatten.filter Event.isTerminal = [] := by
    rw [List.filter_eq_nil_iff]
    intro event member
    obtain ⟨part, inParts, inPart⟩ := List.mem_flatten.mp member
    obtain ⟨i, atPart⟩ := List.mem_iff_getElem?.mp inParts
    obtain ⟨step, record, _, _, rfl⟩ := List.getElem?_zipWith_eq_some.mp atPart
    simp only [Step.told, List.mem_cons, List.not_mem_nil, or_false] at inPart
    rcases inPart with rfl | rfl
    · nofun
    · rw [record.isTerminal_telling]
      nofun
  have closes : [envelope.closing].filter Event.isTerminal = [envelope.closing] :=
    List.filter_cons_of_pos envelope.isTerminal_closing
  rw [List.filter_append, List.filter_append, closes, List.filter_cons, silent]
  by_cases complete : stop = none
  · rw [if_pos complete]
    rfl
  · rw [if_neg complete]
    rfl

/-- A stream of steps that is read to its end tells of the steps one by one, and then closes. -/
theorem stream_steps_protocol (runner : Runner σ) (id : String) (inputs : Dict Json) (session : Session σ) :
    runner.StepsProtocol id inputs session (runner.stream id inputs .evented .never session).1
      (runner.stream id inputs .evented .never session).2.1 := by
  rw [stream_never]
  refine ⟨fun refused => ?_, fun pattern below known => ?_⟩
  · obtain ⟨silent, error, failed⟩ := runner.contained_of_refused .evented inputs session
      (refused.imp_left Nat.le_of_eq)
    rw [silent, failed]
    exact ⟨error.message, rfl, rfl⟩
  · obtain ⟨parts, events, length, tells⟩ := runner.played_tells .evented pattern inputs session
    have contained := contained_contained below .evented id inputs session none
    have entry (i : Nat) (record : StepRecord)
        (atRecord : (runner.played .evented pattern inputs session).2.run.trace[i]? = some record) :
        record.index = 0 + i ∧ ∃ step result, runner.ServedBy (runner.nested 0) .evented pattern.steps 0
          (fresh pattern inputs 0 session) i step record.capability result ∧ record.Reports step result := by
      have within : i < parts.length := length ▸ (List.getElem?_eq_some_iff.mp atRecord).1
      exact (tells i record parts[i] atRecord (List.getElem?_eq_getElem within)).entry
    have listed := offered_checks below known .evented inputs session
    rw [events, parts_eq_zipWith length tells] at listed
    refine ⟨congrArg (· ++ _) listed, fun i => ⟨fun within => ?_, ?_⟩, fun i record atRecord => ?_,
      played_none_iff known, fun calm => ?_, fun i step before panic => played_broken, contained.recovery_iff,
      Envelope.closing_cases _, ?_⟩
    · obtain ⟨_, step, result, served, _⟩ := entry i _ (List.getElem?_eq_getElem within)
      obtain ⟨before, gate, after, atStep, reached, chosen, _⟩ := served
      refine ⟨step, before, atStep, reached, fun panic panics => ?_⟩
      have broken : (step.choose before.run before.session.gate).1 = .error panic := Step.choose_error_iff.mpr panics
      rw [chosen] at broken
      cases broken
    · rintro ⟨step, before, atStep, reached, calm⟩
      exact lt_length_of_comesTo atStep reached calm
    · have told := entry i record atRecord
      rwa [Nat.zero_add] at told
    · obtain ⟨error, ended⟩ := exists_error_of_calm known calm
      rw [contained_of_played below known ended]
      exact ⟨runner.catalog.keyed known, rfl⟩
    · dsimp only
      rw [listed]
      exact once_terminal ..

end Runner

end Orchestra
