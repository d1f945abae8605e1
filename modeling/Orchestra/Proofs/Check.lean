import Orchestra.Proofs.Serving

namespace Orchestra

variable {σ : Type}

/-- A look at the reader, or the offer of an event, with the run and the session at that time. -/
structure Check (σ : Type) where
  event : Option Event := none
  run : Run
  session : Session σ

def Sink.answer (sink : Sink) : Option Event → Bool × Sink
  | none => (!sink.poll.1, sink.poll.2)
  | some event => sink.emit event

/-- Goes through checks to the first that finds the reader gone. Where nobody reads, nobody is gone. -/
def hear : List (Check σ) → Option Sink → Option (Check σ) × Option Sink
  | check :: rest, some sink =>
    match sink.answer check.event with
    | (true, sink) => hear rest (some sink)
    | (false, sink) => (some check, some sink)
  | _, sink => (none, sink)

/-- What becomes of work that would end like this alone, if it is cut off where its reader is gone. -/
def heed (checks : List (Check σ)) (ended : Option Interruption × Live σ) (sink : Option Sink) :
    Option Interruption × Live σ :=
  match hear checks sink with
  | (none, sink) => (ended.1, { ended.2 with sink })
  | (some check, sink) => (some (.error .cancelled), ⟨check.run, check.session, sink⟩)

/-- The events that are offered by checks, in order. -/
def offered (checks : List (Check σ)) : List Event := checks.filterMap Check.event

theorem offered_cons (check : Check σ) (rest : List (Check σ)) :
    offered (check :: rest) = check.event.toList ++ offered rest := by
  obtain ⟨_ | event, run, session⟩ := check <;> rfl

theorem offered_append (first second : List (Check σ)) :
    offered (first ++ second) = offered first ++ offered second :=
  List.filterMap_append ..

/-- The event that tells how a step went. -/
def StepRecord.telling (record : StepRecord) (halted : Bool) : Event :=
  match record.error? with
  | none => .stepComplete record.index record.capability record.durationMs record.producedKeys
  | some reason => .stepError record.index record.capability reason halted

/-- The texts that a stream yields before its first error. -/
def leadingTexts : List Chunk → List String
  | .text piece :: rest => piece :: leadingTexts rest
  | _ => []

@[simp] theorem hear_nil (sink : Option Sink) : hear ([] : List (Check σ)) sink = (none, sink) := by
  cases sink <;> rfl

@[simp] theorem hear_alone (checks : List (Check σ)) : hear checks none = (none, none) := by
  cases checks <;> rfl

theorem hear_append (first second : List (Check σ)) (sink : Option Sink) :
    hear (first ++ second) sink = match hear first sink with
      | (none, sink) => hear second sink
      | (some check, sink) => (some check, sink) := by
  induction first generalizing sink with
  | nil => rw [hear_nil, List.nil_append]
  | cons check rest ih =>
    cases sink with
    | none =>
      rw [hear_alone, hear_alone]
      exact (hear_alone second).symm
    | some sink =>
      rw [List.cons_append, hear, hear]
      cases sink.answer check.event with
      | mk there sink =>
        cases there with
        | true => exact ih (some sink)
        | false => rfl

theorem hear_cons (check : Check σ) (rest : List (Check σ)) (sink : Option Sink) :
    hear (check :: rest) sink = match hear [check] sink with
      | (none, sink) => hear rest sink
      | (some check, sink) => (some check, sink) :=
  hear_append [check] rest sink

theorem heed_append (first second : List (Check σ)) (ended : Option Interruption × Live σ)
    (sink : Option Sink) :
    heed (first ++ second) ended sink = match hear first sink with
      | (none, sink) => heed second ended sink
      | (some check, sink) => (some (.error .cancelled), ⟨check.run, check.session, sink⟩) := by
  rw [heed, hear_append]
  cases hear first sink with
  | mk gone sink => cases gone <;> rfl

@[simp] theorem heed_alone (checks : List (Check σ)) (ended : Option Interruption × Live σ) :
    heed checks ended none = (ended.1, { ended.2 with sink := none }) := by
  rw [heed, hear_alone]

theorem Live.emit_eq_hear (live : Live σ) (event : Event) :
    live.emit event = match hear [⟨some event, live.run, live.session⟩] live.sink with
      | (none, sink) => (true, { live with sink })
      | (some check, sink) => (false, ⟨check.run, check.session, sink⟩) := by
  obtain ⟨run, session, _ | sink⟩ := live
  · rfl
  · simp only [Live.emit, hear, Sink.answer]
    cases sink.emit event with
    | mk taken sink => cases taken <;> rfl

theorem Live.poll_eq_hear (live : Live σ) :
    live.poll = match hear [⟨none, live.run, live.session⟩] live.sink with
      | (none, sink) => (false, { live with sink })
      | (some check, sink) => (true, ⟨check.run, check.session, sink⟩) := by
  obtain ⟨run, session, _ | sink⟩ := live
  · rfl
  · simp only [Live.poll, hear, Sink.answer]
    cases sink.poll with
    | mk closed sink => cases closed <;> rfl

namespace Runner

theorem finish_eq_heed (outcome : Outcome) (audible : Bool) (live : Live σ) :
    finish outcome.step outcome.prepared outcome.result audible live =
      heed (if audible then [⟨some (outcome.record.telling outcome.step.halts), live.run, live.session⟩] else [])
        (outcome.halt?, live) live.sink := by
  have same : outcome.prepared.record outcome.step outcome.result 0 = outcome.record := rfl
  have duration : outcome.record.durationMs = 0 := rfl
  simp only [finish, Outcome.halt?, StepRecord.telling, same, duration]
  cases audible with
  | false => cases outcome.record.error? <;> rfl
  | true =>
    -- Both kinds of telling are offered alike, and a refusal outweighs what the step itself would do.
    cases outcome.record.error? <;>
      simp only [heed, Live.emitIf, Live.emit_eq_hear, if_true] <;>
      generalize hear _ live.sink = heard <;>
      obtain ⟨_ | check, sink⟩ := heard <;> rfl

/-- The texts that a prepared step's stream yields before its first error. -/
def spoken (runner : Runner σ) (prepared : PreparedStep) (run : Run) (session : Session σ) : List String :=
  match (runner.registry.stream prepared.capability prepared.params run.context session.handlers).result with
  | .ok chunks => leadingTexts chunks
  | .error _ => []

/-- The checks of serving a prepared step. -/
def offers (runner : Runner σ) (nested : Nested σ) (mode : StepMode) (step : Step) (prepared : PreparedStep)
    (run : Run) (session : Session σ) : List (Check σ) :=
  let (result, after) := runner.serve nested mode prepared run session
  let outcome : Outcome := ⟨step, prepared, result⟩
  let told : Check σ := ⟨some (outcome.record.telling step.halts), outcome.apply run, after⟩
  match mode with
  | .evented =>
    [⟨some (.stepStart prepared.index prepared.capability step.description), run, session⟩, told]
  | .tokens generative =>
    if prepared.capability = generative then
      (runner.spoken prepared run session).map
        (fun piece => ⟨some (.textChunk prepared.index piece), run, after⟩) ++ [told]
    else []

/-- The checks of one step: a look before it, and those of serving it. -/
def stepChecks (runner : Runner σ) (nested : Nested σ) (mode : StepMode) (step : Step) (index : Nat)
    (run : Run) (session : Session σ) : List (Check σ) :=
  ⟨none, run, session⟩ ::
    match step.prepare index run session.gate with
    | (.error _, _) => []
    | (.ok prepared, gate) => runner.offers nested mode step prepared run { session with gate }

/-- What one step does where nobody reads: it breaks off by a panic, or it is served. -/
def advance (runner : Runner σ) (nested : Nested σ) (mode : StepMode) (step : Step) (index : Nat)
    (run : Run) (session : Session σ) : Option Interruption × Live σ :=
  match step.prepare index run session.gate with
  | (.error panic, gate) => (some (.panic panic), ⟨run, { session with gate }, none⟩)
  | (.ok prepared, gate) =>
    let (result, after) := runner.serve nested mode prepared run { session with gate }
    let outcome : Outcome := ⟨step, prepared, result⟩
    (outcome.halt?, ⟨outcome.apply run, after, none⟩)

variable {runner : Runner σ} {nested : Nested σ} {mode : StepMode} {step : Step} {prepared : PreparedStep}
  {live : Live σ} {result : Except CallError (Dict Json)} {after : Session σ}

theorem runPlain_eq_heed (audible : Bool)
    (called : runner.call nested prepared live.run live.session = (result, after)) :
    runner.runPlain nested step prepared audible live =
      heed (if audible then
          [⟨some (.stepStart prepared.index prepared.capability step.description), live.run, live.session⟩,
            ⟨some ((Outcome.mk step prepared result).record.telling step.halts),
              (Outcome.mk step prepared result).apply live.run, after⟩]
        else [])
        ((Outcome.mk step prepared result).halt?, ⟨(Outcome.mk step prepared result).apply live.run, after, none⟩)
        live.sink := by
  have finished (sink : Option Sink) := finish_eq_heed (Outcome.mk step prepared result) audible
    ⟨(Outcome.mk step prepared result).apply live.run, after, sink⟩
  have applied (sink : Option Sink) :
      Live.apply ⟨live.run, after, sink⟩ step prepared result =
        ⟨(Outcome.mk step prepared result).apply live.run, after, sink⟩ := rfl
  cases audible with
  | false =>
    simp only [runPlain, Live.emitIf, Bool.false_eq_true, if_false, called, applied]
    exact finished live.sink
  | true =>
    rw [if_pos rfl, heed, hear_cons]
    simp only [runPlain, Live.emitIf, if_true, Live.emit_eq_hear]
    generalize hear [_] live.sink = heard
    obtain ⟨_ | check, sink⟩ := heard
    · simp only [called, applied]
      exact finished sink
    · rfl

theorem readChunks_eq_hear (index : Nat) (chunks : List Chunk) (text : String) (live : Live σ) :
    readChunks index chunks text live =
      match hear ((leadingTexts chunks).map fun piece => ⟨some (.textChunk index piece), live.run, live.session⟩)
        live.sink with
      | (none, sink) =>
        (match joinChunks chunks with
          | .ok more => .text (text ++ more)
          | .error reason => .error reason, { live with sink })
      | (some check, sink) => (.refused, ⟨check.run, check.session, sink⟩) := by
  induction chunks generalizing text live with
  | nil => simp [readChunks, joinChunks, leadingTexts]
  | cons chunk rest ih =>
    cases chunk with
    | error reason => simp [readChunks, joinChunks, leadingTexts]
    | text piece =>
      rw [leadingTexts, List.map_cons, hear_cons, readChunks, Live.emit_eq_hear]
      generalize hear [_] live.sink = heard
      obtain ⟨_ | check, sink⟩ := heard
      · -- The pieces read so far stand before the rest, so the rest is joined on its own.
        dsimp only
        rw [ih]
        cases joined : joinChunks rest <;> simp [joinChunks, joined, Except.map, String.append_assoc]
      · rfl

theorem runGenerative_eq_heed (answer : runner.streamed prepared live.run live.session = (result, after)) :
    runner.runGenerative step prepared live =
      heed ((runner.spoken prepared live.run live.session).map
          (fun piece => ⟨some (.textChunk prepared.index piece), live.run, after⟩) ++
          [⟨some ((Outcome.mk step prepared result).record.telling step.halts),
            (Outcome.mk step prepared result).apply live.run, after⟩])
        ((Outcome.mk step prepared result).halt?, ⟨(Outcome.mk step prepared result).apply live.run, after, none⟩)
        live.sink := by
  have settled (sink : Option Sink) :
      finish step prepared result true (Live.apply ⟨live.run, after, sink⟩ step prepared result) = _ :=
    finish_eq_heed (Outcome.mk step prepared result) true
      ⟨(Outcome.mk step prepared result).apply live.run, after, sink⟩
  dsimp only [runGenerative, spoken]
  dsimp only [streamed] at answer
  generalize runner.registry.stream prepared.capability prepared.params live.run.context live.session.handlers =
    reply at answer
  obtain ⟨opened, handlers, log⟩ := reply
  cases opened with
  | error error =>
    cases answer
    exact settled live.sink
  | ok chunks =>
    dsimp only [Except.bind] at answer ⊢
    rw [readChunks_eq_hear, heed_append]
    cases joined : joinChunks chunks with
    | ok text =>
      rw [joined] at answer
      cases answer
      dsimp only
      generalize hear _ live.sink = heard
      obtain ⟨_ | check, sink⟩ := heard
      · rw [String.empty_append]
        exact settled sink
      · rfl
    | error reason =>
      rw [joined] at answer
      cases answer
      dsimp only
      generalize hear _ live.sink = heard
      obtain ⟨_ | check, sink⟩ := heard
      · exact settled sink
      · rfl

/-- A step does for a reader what it does alone, up to the first of its checks that finds the reader gone. -/
theorem runStep_eq_heed (runner : Runner σ) (nested : Nested σ) (mode : StepMode) (step : Step) (index : Nat)
    (live : Live σ) :
    runner.runStep nested mode step index live =
      heed (runner.stepChecks nested mode step index live.run live.session)
        (runner.advance nested mode step index live.run live.session) live.sink := by
  rw [stepChecks, heed, hear_cons, runStep, Live.poll_eq_hear]
  generalize hear [_] live.sink = heard
  obtain ⟨_ | check, sink⟩ := heard
  · dsimp only [advance]
    cases chosen : step.prepare index live.run live.session.gate with
    | mk choice gate =>
      cases choice with
      | error panic => rfl
      | ok prepared =>
        cases mode with
        | evented => exact runPlain_eq_heed true rfl
        | tokens generative =>
          dsimp only [offers, serve]
          by_cases same : prepared.capability = generative
          · rw [if_pos same, if_pos same, if_pos (by rw [same])]
            exact runGenerative_eq_heed rfl
          · rw [if_neg same, if_neg same, if_neg fun mode => same (StepMode.tokens.inj mode).symm]
            exact runPlain_eq_heed false rfl
  · rfl

theorem advance_sink (runner : Runner σ) (nested : Nested σ) (mode : StepMode) (step : Step) (index : Nat)
    (run : Run) (session : Session σ) : (runner.advance nested mode step index run session).2.sink = none := by
  unfold advance
  split <;> rfl

theorem runStep_alone (runner : Runner σ) (nested : Nested σ) (mode : StepMode) (step : Step) (index : Nat)
    (run : Run) (session : Session σ) :
    runner.runStep nested mode step index ⟨run, session, none⟩ =
      runner.advance nested mode step index run session := by
  rw [runStep_eq_heed, heed_alone, ← runner.advance_sink nested mode step index run session]

/-- A step breaks off by a panic after one look, or it is served. -/
theorem advance_cases (runner : Runner σ) (nested : Nested σ) (mode : StepMode) (step : Step) (index : Nat)
    (run : Run) (session : Session σ) :
    (∃ panic gate, step.prepare index run session.gate = (.error panic, gate) ∧
      runner.advance nested mode step index run session =
        (some (.panic panic), ⟨run, { session with gate }, none⟩) ∧
      runner.stepChecks nested mode step index run session = [⟨none, run, session⟩]) ∨
    ∃ prepared gate result after, step.prepare index run session.gate = (.ok prepared, gate) ∧
      runner.serve nested mode prepared run { session with gate } = (result, after) ∧
      runner.advance nested mode step index run session =
        ((Outcome.mk step prepared result).halt?, ⟨(Outcome.mk step prepared result).apply run, after, none⟩) ∧
      runner.stepChecks nested mode step index run session =
        ⟨none, run, session⟩ :: runner.offers nested mode step prepared run { session with gate } := by
  rw [advance, stepChecks]
  cases chosen : step.prepare index run session.gate with
  | mk choice gate =>
    cases choice with
    | error panic => exact .inl ⟨panic, gate, rfl, rfl, rfl⟩
    | ok prepared => exact .inr ⟨prepared, gate, _, _, rfl, rfl, rfl, rfl⟩

/-- The checks of steps, the first of which has this index. -/
def checksFrom (runner : Runner σ) (nested : Nested σ) (mode : StepMode) :
    List Step → Nat → Run → Session σ → List (Check σ)
  | [], _, _, _ => []
  | step :: rest, index, run, session =>
    runner.stepChecks nested mode step index run session ++
      match runner.runStep nested mode step index ⟨run, session, none⟩ with
      | (none, live) => checksFrom runner nested mode rest (index + 1) live.run live.session
      | (some _, _) => []

theorem runSteps_eq_heed (runner : Runner σ) (nested : Nested σ) (mode : StepMode) (steps : List Step)
    (index : Nat) (live : Live σ) :
    runner.runSteps nested mode steps index live =
      heed (runner.checksFrom nested mode steps index live.run live.session)
        (runner.runSteps nested mode steps index ⟨live.run, live.session, none⟩) live.sink := by
  induction steps generalizing index live with
  | nil => simp [runSteps, checksFrom, heed]
  | cons step rest ih =>
    have alone := runner.advance_sink nested mode step index live.run live.session
    rw [runSteps, runSteps, checksFrom, heed_append, runStep_eq_heed, runStep_alone, heed]
    generalize hear _ live.sink = heard
    generalize runner.advance nested mode step index live.run live.session = ended at alone
    obtain ⟨_ | check, sink⟩ := heard
    · obtain ⟨_ | interruption, run, session, last⟩ := ended
      · cases alone
        exact ih (index + 1) ⟨run, session, sink⟩
      · simp [heed]
    · rfl

theorem runSteps_sink (runner : Runner σ) (nested : Nested σ) (mode : StepMode) (steps : List Step)
    (index : Nat) (run : Run) (session : Session σ) :
    (runner.runSteps nested mode steps index ⟨run, session, none⟩).2.sink = none := by
  rw [runSteps_eq_heed, heed_alone]

/-- A pattern at its first step, and nobody reads. -/
def fresh (pattern : Pattern) (inputs : Dict Json) (depth : Nat) (session : Session σ) : Live σ :=
  ⟨{ patternId := pattern.id, inputs, depth }, session, none⟩

/-- The checks of a pattern after it was announced. -/
def laterChecks (runner : Runner σ) (nested : Nested σ) (mode : StepMode) (pattern : Pattern)
    (inputs : Dict Json) (depth : Nat) (session : Session σ) : List (Check σ) :=
  let start := fresh pattern inputs depth session
  runner.checksFrom nested mode pattern.steps 0 start.run start.session ++
    match runner.runSteps nested mode pattern.steps 0 start with
    | (none, live) => [⟨some (.patternComplete pattern.id), live.run, live.session⟩]
    | (some _, _) => []

def firstCheck (pattern : Pattern) (inputs : Dict Json) (depth : Nat) (session : Session σ) : Check σ :=
  ⟨some (.patternStart pattern.id pattern.steps.length), (fresh pattern inputs depth session).run, session⟩

theorem runPattern_eq_hear (runner : Runner σ) (nested : Nested σ) (mode : StepMode) (pattern : Pattern)
    (inputs : Dict Json) (depth : Nat) (session : Session σ) (sink : Option Sink) :
    runner.runPattern nested mode pattern inputs depth session sink =
      match hear [firstCheck pattern inputs depth session] sink with
      | (some check, sink) => (.failed .cancelled, check.session, sink)
      | (none, sink) =>
        match hear (runner.laterChecks nested mode pattern inputs depth session) sink with
        | (some check, sink) => (.done (conclude pattern check.run (some .cancelled)), check.session, sink)
        | (none, sink) =>
          ((runner.runPattern nested mode pattern inputs depth session none).1,
            (runner.runPattern nested mode pattern inputs depth session none).2.1, sink) := by
  have alone := runner.runSteps_sink nested mode pattern.steps 0 (fresh pattern inputs depth session).run session
  dsimp only [runPattern, enter, laterChecks, firstCheck, fresh] at alone ⊢
  simp only [Live.emit_eq_hear, hear_alone]
  generalize hear [_] sink = heard
  obtain ⟨_ | check, sink⟩ := heard
  · dsimp only
    rw [runSteps_eq_heed, heed, hear_append]
    generalize hear _ sink = heard
    obtain ⟨_ | check, sink⟩ := heard
    · dsimp only
      generalize runner.runSteps nested mode pattern.steps 0 _ = ended at alone ⊢
      obtain ⟨_ | _ | panic, run, session, last⟩ := ended
      · cases alone
        dsimp only
        generalize hear [_] sink = heard
        obtain ⟨_ | check, sink⟩ := heard <;> rfl
      · simp
      · simp
    · rfl
  · rfl

end Runner

end Orchestra
