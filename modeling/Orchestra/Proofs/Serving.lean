import Orchestra.Proofs.Outcome
import Orchestra.Proofs.Reader

namespace Orchestra

variable {σ : Type}

/-- The text that a stream comes to, or its first error. -/
def joinChunks : List Chunk → Except String String
  | [] => .ok ""
  | .error reason :: _ => .error reason
  | .text piece :: rest => (joinChunks rest).map (piece ++ ·)

namespace Runner

/-- Calls a prepared step's capability by its stream, and reads that to its end or its first error. -/
def streamed (runner : Runner σ) (prepared : PreparedStep) (run : Run) (session : Session σ) :
    Except CallError (Dict Json) × Session σ :=
  let reply := runner.registry.stream prepared.capability prepared.params run.context session.handlers
  let result := reply.result.bind fun chunks =>
    match joinChunks chunks with
    | .ok text => .ok (Dict.ofList [("text", .string text)])
    | .error reason => .error (.failed prepared.capability (runner.identityOf prepared.capability) reason)
  (result, { session with handlers := reply.state })

/-- What comes of a prepared step when nobody cuts it short. -/
def serve (runner : Runner σ) (nested : Nested σ) (mode : StepMode) (prepared : PreparedStep) (run : Run)
    (session : Session σ) : Except CallError (Dict Json) × Session σ :=
  if mode = .tokens prepared.capability then runner.streamed prepared run session
  else runner.call nested prepared run session

/-- What one step can do to a live run: its outcome if it was served, the interruption that it causes, and
the run after it. Only a reader who left cuts a run short without a panic or a halting failure. -/
inductive Stepped (runner : Runner σ) (nested : Nested σ) (mode : StepMode) (step : Step) (index : Nat)
    (live : Live σ) : Option Outcome → Option Interruption → Live σ → Prop
  | left {after} : ¬ Attended after.sink → after.run = live.run → after.session = live.session →
      Stepped runner nested mode step index live none (some (.error .cancelled)) after
  | panicked {panic gate after} : live.poll.1 = false →
      step.prepare index live.run live.session.gate = (.error panic, gate) →
      after.run = live.run → after.session = { live.session with gate } →
      Stepped runner nested mode step index live none (some (.panic panic)) after
  | refused {prepared gate after} : ¬ Attended after.sink →
      step.prepare index live.run live.session.gate = (.ok prepared, gate) → after.run = live.run →
      after.session = { live.session with gate } ∨
        after.session = (runner.serve nested mode prepared live.run { live.session with gate }).2 →
      Stepped runner nested mode step index live none (some (.error .cancelled)) after
  | served {prepared gate outcome taken stop after} :
      step.prepare index live.run live.session.gate = (.ok prepared, gate) →
      outcome = ⟨step, prepared, (runner.serve nested mode prepared live.run { live.session with gate }).1⟩ →
      stop = (if taken then outcome.halt? else some (.error .cancelled)) →
      after.run = outcome.apply live.run →
      after.session = (runner.serve nested mode prepared live.run { live.session with gate }).2 →
      (Attended after.sink → taken = true ∧ Attended live.sink) →
      Stepped runner nested mode step index live (some outcome) stop after

/-- Telling how a step went changes nothing but the sink. Only a refusal or a halting failure interrupts. -/
theorem finish_heard (outcome : Outcome) (audible : Bool) (live : Live σ) :
    ∃ taken, live.Heard taken (finish outcome.step outcome.prepared outcome.result audible live).2 ∧
      (finish outcome.step outcome.prepared outcome.result audible live).1 =
        if taken then outcome.halt? else some (.error .cancelled) := by
  cases told : (outcome.prepared.record outcome.step outcome.result 0).error? <;>
    simp only [finish, told, Outcome.halt?, Outcome.record] <;> split
  all_goals
    rename_i after offer
    exact ⟨_, Live.emitIf_heard offer, rfl⟩

/-- Chunks that are all taken come to their joined text or their first error. -/
theorem readChunks_heard (index : Nat) (chunks : List Chunk) (text : String) (live : Live σ) :
    ∃ taken, live.Heard taken (readChunks index chunks text live).2 ∧
      (readChunks index chunks text live).1 =
        if taken then
          match joinChunks chunks with
          | .ok more => .text (text ++ more)
          | .error reason => .error reason
        else .refused := by
  induction chunks generalizing text live with
  | nil => exact ⟨true, live.heard_self, by simp [readChunks, joinChunks]⟩
  | cons chunk rest ih =>
    cases chunk with
    | error reason => exact ⟨true, live.heard_self, rfl⟩
    | text piece =>
      simp only [readChunks]
      split
      · rename_i next offer
        -- The pieces read so far stand before the rest, so the rest is joined on its own.
        obtain ⟨taken, heard, reading⟩ := ih (text ++ piece) next
        refine ⟨taken, (Live.emit_heard offer).trans heard, ?_⟩
        rw [reading]
        cases joined : joinChunks rest <;> simp [joinChunks, joined, Except.map, String.append_assoc]
      · rename_i next offer
        exact ⟨false, Live.emit_heard offer, rfl⟩

section Step

variable {runner : Runner σ} {nested : Nested σ} {mode : StepMode} {step : Step} {index : Nat}
  {live middle : Live σ} {prepared : PreparedStep} {gate : Option Gate}

theorem finish_stepped {result : Except CallError (Dict Json)} {session : Session σ} (audible : Bool)
    (chosen : step.prepare index live.run live.session.gate = (.ok prepared, gate))
    (answer : runner.serve nested mode prepared live.run { live.session with gate } = (result, session))
    (run : middle.run = (Outcome.mk step prepared result).apply live.run) (same : middle.session = session)
    (kept : Attended middle.sink → Attended live.sink) :
    runner.Stepped nested mode step index live (some ⟨step, prepared, result⟩)
      (finish step prepared result audible middle).1 (finish step prepared result audible middle).2 := by
  obtain ⟨taken, heard, stop⟩ := finish_heard ⟨step, prepared, result⟩ audible middle
  exact .served chosen (by rw [answer]) stop (heard.run.trans run) (by rw [answer, heard.session, same])
    (fun attended => ⟨(heard.kept attended).1, kept (heard.kept attended).2⟩)

/-- A step that is called in plain form, from a run that differs from the step's own by the sink only. -/
theorem runPlain_stepped (audible : Bool)
    (chosen : step.prepare index live.run live.session.gate = (.ok prepared, gate))
    (plain : mode ≠ .tokens prepared.capability) (run : middle.run = live.run)
    (session : middle.session = { live.session with gate })
    (kept : Attended middle.sink → Attended live.sink) :
    ∃ outcome, runner.Stepped nested mode step index live outcome
      (runner.runPlain nested step prepared audible middle).1
      (runner.runPlain nested step prepared audible middle).2 := by
  unfold runPlain
  split
  next after offer =>
    have heard := Live.emitIf_heard offer
    exact ⟨none, .refused heard.unattended chosen (heard.run.trans run) (.inl (heard.session.trans session))⟩
  next after offer =>
    have heard := Live.emitIf_heard offer
    have answer : runner.serve nested mode prepared live.run { live.session with gate } =
        runner.call nested prepared after.run after.session := by
      rw [serve, if_neg plain, heard.run, heard.session, run, session]
    refine ⟨_, finish_stepped audible chosen answer ?_ rfl fun attended => kept (heard.kept attended).2⟩
    simp only [Live.apply, heard.run, run]
    rfl

theorem runGenerative_stepped
    (chosen : step.prepare index live.run live.session.gate = (.ok prepared, gate))
    (streams : mode = .tokens prepared.capability) (run : middle.run = live.run)
    (session : middle.session = { live.session with gate })
    (kept : Attended middle.sink → Attended live.sink) :
    ∃ outcome, runner.Stepped nested mode step index live outcome
      (runner.runGenerative step prepared middle).1 (runner.runGenerative step prepared middle).2 := by
  have answer : runner.serve nested mode prepared live.run { live.session with gate } =
      runner.streamed prepared middle.run middle.session := by
    rw [serve, if_pos streams, run, session]
  dsimp only [runGenerative]
  dsimp only [streamed] at answer
  generalize runner.registry.stream prepared.capability prepared.params middle.run.context
    middle.session.handlers = reply at answer
  obtain ⟨opened, handlers, log⟩ := reply
  cases opened with
  | error error =>
    refine ⟨_, finish_stepped true chosen answer ?_ rfl kept⟩
    simp only [Live.apply, run]
    rfl
  | ok chunks =>
    dsimp only [Except.bind] at answer ⊢
    obtain ⟨taken, heard, reading⟩ := readChunks_heard prepared.index chunks ""
      ⟨middle.run, { middle.session with handlers }, middle.sink⟩
    generalize joinChunks chunks = joined at answer reading
    generalize readChunks prepared.index chunks ""
      ⟨middle.run, { middle.session with handlers }, middle.sink⟩ = ended at heard reading ⊢
    obtain ⟨ending, after⟩ := ended
    have later (run' : after.run = middle.run) (result : Except CallError (Dict Json)) :
        (after.apply step prepared result).run = (Outcome.mk step prepared result).apply live.run := by
      simp only [Live.apply, run', run]
      rfl
    cases taken with
    | false =>
      cases reading
      exact ⟨none, .refused heard.unattended chosen (heard.run.trans run)
        (.inr (by rw [answer, heard.session]))⟩
    | true =>
      have attended (still : Attended after.sink) : Attended live.sink := kept (heard.kept still).2
      cases joined with
      | ok text =>
        cases reading
        exact ⟨_, finish_stepped true chosen answer (later heard.run _) heard.session attended⟩
      | error reason =>
        cases reading
        exact ⟨_, finish_stepped true chosen answer (later heard.run _) heard.session attended⟩

end Step

/-- Everything that a step does is one of the things that `Stepped` lists. -/
theorem runStep_stepped (runner : Runner σ) (nested : Nested σ) (mode : StepMode) (step : Step) (index : Nat)
    (live : Live σ) :
    ∃ outcome, runner.Stepped nested mode step index live outcome
      (runner.runStep nested mode step index live).1 (runner.runStep nested mode step index live).2 := by
  unfold runStep
  split
  next after look =>
    have heard := Live.poll_heard look
    exact ⟨none, .left heard.unattended heard.run heard.session⟩
  next after look =>
    have heard := Live.poll_heard look
    have kept (attended : Attended after.sink) : Attended live.sink := (heard.kept attended).2
    have here : live.poll.1 = false := by rw [look]
    dsimp only
    cases chosen : step.prepare index after.run after.session.gate with
    | mk choice gate =>
      rw [heard.run, heard.session] at chosen
      cases choice with
      | error panic => exact ⟨none, .panicked here chosen heard.run (by rw [heard.session])⟩
      | ok prepared =>
        have session : { after.session with gate } = { live.session with gate } := by rw [heard.session]
        cases mode with
        | evented => exact runPlain_stepped true chosen nofun heard.run session kept
        | tokens generative =>
          dsimp only
          split
          next same => exact runGenerative_stepped chosen (by rw [same]) heard.run session kept
          next other =>
            exact runPlain_stepped false chosen (fun same => other (StepMode.tokens.inj same).symm) heard.run
              session kept

end Runner

end Orchestra
