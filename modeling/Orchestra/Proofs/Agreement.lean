import Orchestra.Capability.Builtin
import Orchestra.Proofs.Played
import Orchestra.Proofs.Speech

namespace Orchestra

variable {σ : Type}

/-- The streamed form of some work comes to what its plain form comes to: on success one text, which is streamed
in pieces, and else the same failure. -/
inductive Ending.Recited : Ending (Dict Json) → Ending (List StreamItem) → Prop
  | done (pieces : List String) :
      Recited (.done (Dict.ofList [("text", .string (String.join pieces))])) (.done (pieces.map .text))
  | failed (reasons : List String) : Recited (.failed reasons) (.failed reasons)
  | brokenOff (reasons pieces : List String) (rest : List StreamItem) :
      Recited (.failed reasons) (.done (pieces.map .text ++ .error (": ".intercalate reasons) :: rest))
  | panicked (payload : Option String) : Recited (.panicked payload) (.panicked payload)

/-- The handler's stream recites the text that the handler answers, and leaves the state that it leaves. -/
structure Handler.Recites (handler : Handler σ) : Prop where
  ending : ∀ params context s,
    Ending.Recited (handler.execute params context s).1 (handler.stream params context s).1
  state : ∀ params context s, (handler.stream params context s).2 = (handler.execute params context s).2

/-- On success the handler answers one text and nothing else. -/
def Handler.AnswersText (handler : Handler σ) : Prop :=
  ∀ params context s output, (handler.execute params context s).1 = .done output →
    ∃ text, output = Dict.ofList [("text", .string text)]

/-- Streams in this mode go as the run: they are streams of steps, or no step goes to their generative capability,
or that is unknown, or it answers texts and streams them as they are. -/
inductive Runner.Alike (runner : Runner σ) (id : String) (inputs : Dict Json) (session : Session σ) :
    StepMode → Prop
  | steps : Alike runner id inputs session .evented
  | untouched {generative} :
      (∀ pattern i step before, runner.catalog.get? id = some pattern → pattern.steps[i]? = some step →
        runner.ComesTo (runner.nested 0) .evented pattern.steps 0 (fresh pattern inputs 0 session) i before →
        (step.choose before.run before.session.gate).1 ≠ .ok generative) →
      Alike runner id inputs session (.tokens generative)
  | unknown {generative} : generative ≠ invokeCapability → runner.registry.get? generative = none →
      Alike runner id inputs session (.tokens generative)
  | whole {generative handler} : generative ≠ invokeCapability →
      runner.registry.get? generative = some handler → handler.AnswersText →
      handler.stream = streamWhole handler.execute → Alike runner id inputs session (.tokens generative)
  | recited {generative handler} : generative ≠ invokeCapability →
      runner.registry.get? generative = some handler → handler.Recites →
      Alike runner id inputs session (.tokens generative)

theorem Handler.recites_of_streamWhole {handler : Handler σ} (text : handler.AnswersText)
    (whole : handler.stream = streamWhole handler.execute) : handler.Recites := by
  have same (params : Json) (context : CallContext) (s : σ) :
      Ending.Recited (handler.execute params context s).1 (handler.stream params context s).1 ∧
        (handler.stream params context s).2 = (handler.execute params context s).2 := by
    have answers := text params context s
    simp only [whole, streamWhole]
    generalize handler.execute params context s = ended at answers
    obtain ⟨output | reasons | payload, after⟩ := ended
    · obtain ⟨text, rfl⟩ := answers output rfl
      have piece : outputText (Dict.ofList [("text", .string text)]) = text := rfl
      have joined : String.join [text] = text := by rw [String.join_cons, String.join_nil, String.append_empty]
      have recited := Ending.Recited.done [text]
      rw [joined] at recited
      dsimp only
      rw [piece]
      exact ⟨recited, rfl⟩
    · exact ⟨.failed reasons, rfl⟩
    · exact ⟨.panicked payload, rfl⟩
  exact ⟨fun params context s => (same params context s).1, fun params context s => (same params context s).2⟩

theorem Builtin.recites_generateText : (generateText : Handler σ).Recites where
  ending params context s := by
    have recited := Ending.Recited.done (pieces (generated params))
    rwa [join_pieces] at recited
  state _ _ _ := rfl

namespace Runner

variable {runner : Runner σ} {nested : Nested σ} {mode : StepMode} {steps : List Step} {index : Nat}
  {prepared : PreparedStep} {run : Run} {session : Session σ}

theorem streamed_eq_call_of_recites {handler : Handler σ} (other : prepared.capability ≠ invokeCapability)
    (found : runner.registry.get? prepared.capability = some handler) (recites : handler.Recites) :
    runner.streamed prepared run session = runner.call nested prepared run session := by
  have ending := recites.ending prepared.params run.context session.handlers
  have state := recites.state prepared.params run.context session.handlers
  cases executed : handler.execute prepared.params run.context session.handlers with
  | mk plain after =>
    cases read : handler.stream prepared.params run.context session.handlers with
    | mk items last =>
      rw [executed, read] at ending state
      cases state
      have called : runner.call nested prepared run session =
          (Registry.settle prepared.capability handler plain, { session with handlers := after }) := by
        simp [call, other, PreparedStep.dispatch, Registry.execute, found, executed]
      rw [called]
      cases ending with
      | done pieces => exact (streamed_of_speaks (.whole found read)).1
      | failed reasons => exact (streamed_of_speaks (.failed found read)).1
      | brokenOff reasons pieces rest => exact (streamed_of_speaks (.brokenOff found read)).1
      | panicked payload => exact (streamed_of_speaks (.panicked found read)).1

theorem streamed_eq_call_of_unknown (other : prepared.capability ≠ invokeCapability)
    (missing : runner.registry.get? prepared.capability = none) :
    runner.streamed prepared run session = runner.call nested prepared run session := by
  rw [(streamed_of_speaks (.unknown missing)).1, call, if_neg other]
  simp only [PreparedStep.dispatch, Registry.execute, missing]

/-- Steps that are served alike wherever they are come to go alike. -/
theorem runSteps_eq_of_serve_eq
    (alike : ∀ i step before prepared gate, steps[i]? = some step →
      runner.ComesTo nested .evented steps index ⟨run, session, none⟩ i before →
      step.prepare (index + i) before.run before.session.gate = (.ok prepared, gate) →
      runner.serve nested mode prepared before.run { before.session with gate } =
        runner.serve nested .evented prepared before.run { before.session with gate }) :
    runner.runSteps nested mode steps index ⟨run, session, none⟩ =
      runner.runSteps nested .evented steps index ⟨run, session, none⟩ := by
  induction steps generalizing index run session with
  | nil => rfl
  | cons step rest ih =>
    have first : runner.advance nested mode step index run session =
        runner.advance nested .evented step index run session := by
      unfold advance
      cases chosen : step.prepare index run session.gate with
      | mk choice gate =>
        cases choice with
        | error => rfl
        | ok prepared =>
          have served := alike 0 step ⟨run, session, none⟩ prepared gate rfl (comesTo_zero ..) chosen
          dsimp only at served ⊢
          rw [served]
    have alone := runner.advance_sink nested .evented step index run session
    rw [runSteps, runSteps, runStep_alone, runStep_alone, first]
    cases ended : runner.advance nested .evented step index run session with
    | mk interruption middle =>
      rw [ended] at alone
      cases interruption with
      | some => rfl
      | none =>
        obtain ⟨run', session', sink⟩ := middle
        cases alone
        refine ih fun i found before prepared gate atStep reached chosen => ?_
        rw [Nat.add_right_comm] at chosen
        exact alike (i + 1) found before prepared gate atStep
          (comesTo_succ_iff.mpr ⟨_, (runner.runStep_alone ..).trans ended, reached⟩) chosen

variable {pattern : Pattern} {id : String} {inputs : Dict Json} {i : Nat} {step : Step} {before : Live σ}
  {gate : Option Gate}

theorem Alike.serve_eq (alike : runner.Alike id inputs session mode) (known : runner.catalog.get? id = some pattern)
    (atStep : pattern.steps[i]? = some step)
    (reached : runner.ComesTo (runner.nested 0) .evented pattern.steps 0 (fresh pattern inputs 0 session) i before)
    (chosen : step.prepare index before.run before.session.gate = (.ok prepared, gate)) :
    runner.serve nested mode prepared before.run { before.session with gate } =
      runner.serve nested .evented prepared before.run { before.session with gate } := by
  have distinct : StepMode.evented ≠ .tokens prepared.capability := fun same => by cases same
  by_cases generative : mode = .tokens prepared.capability
  · subst generative
    rw [serve, serve, if_pos rfl, if_neg distinct]
    cases alike with
    | untouched elsewhere =>
      have choice := (Step.prepare_ok (congrArg Prod.fst chosen)).2
      exact absurd choice (elsewhere pattern i step before known atStep reached)
    | unknown other missing => exact streamed_eq_call_of_unknown other missing
    | whole other found text whole =>
      exact streamed_eq_call_of_recites other found (Handler.recites_of_streamWhole text whole)
    | recited other found recites => exact streamed_eq_call_of_recites other found recites
  · rw [serve, serve, if_neg generative, if_neg distinct]

theorem Alike.played_eq (alike : runner.Alike id inputs session mode)
    (known : runner.catalog.get? id = some pattern) :
    runner.played mode pattern inputs session = runner.played .evented pattern inputs session :=
  runSteps_eq_of_serve_eq fun _ _ _ _ _ atStep reached chosen =>
    alike.serve_eq known atStep reached chosen

theorem Alike.contained_eq (alike : runner.Alike id inputs session mode) :
    runner.contained mode id inputs 0 session none = runner.contained .evented id inputs 0 session none := by
  have same : runner.execute (runner.nested 0) mode id inputs 0 session none =
      runner.execute (runner.nested 0) .evented id inputs 0 session none := by
    unfold execute
    split
    · rfl
    · split
      · rfl
      next pattern known =>
        have begun : enter pattern inputs 0 session none = (true, fresh pattern inputs 0 session) := rfl
        have played : runner.runSteps (runner.nested 0) mode pattern.steps 0 (fresh pattern inputs 0 session) =
          runner.runSteps (runner.nested 0) .evented pattern.steps 0 (fresh pattern inputs 0 session) :=
          alike.played_eq known
        rw [runPattern, runPattern, begun]
        dsimp only
        rw [played]
  rw [contained, contained, same]

/-- A stream that goes as the run answers the run's envelope and leaves the run's session: the state of the
handlers and of the flags, the telemetry and the audit. -/
theorem stream_eq_run (runner : Runner σ) (id : String) (inputs : Dict Json) (mode : StepMode) (session : Session σ)
    (alike : runner.Alike id inputs session mode) :
    (runner.stream id inputs mode .never session).1 = (runner.run id inputs session).1 ∧
      (runner.stream id inputs mode .never session).2.2 = (runner.run id inputs session).2 := by
  rw [stream_never, run, runAtDepth_eq_contained, alike.contained_eq]
  exact ⟨rfl, rfl⟩

/-- A text that is generated, and a step behind a flag that may generate one. -/
def writingPattern : Pattern where
  id := "writing"
  steps := [
    { capability := "text.generate", args := .object [("prompt", .string "the quarterly report")] },
    { capability := "echo", reroute := some ⟨"beta", "text.generate"⟩, saveAs := some "again" }]

theorem stream_eq_run_writing :
    let runner : Runner Unit := { bare with catalog := .ofList [writingPattern] }
    runner.Alike "writing" ∅ gatedSession (.tokens "text.generate") ∧
      (runner.stream "writing" ∅ (.tokens "text.generate") .never gatedSession).1 =
        (runner.run "writing" ∅ gatedSession).1 ∧
      (runner.stream "writing" ∅ (.tokens "text.generate") .never gatedSession).2.2 =
        (runner.run "writing" ∅ gatedSession).2 := by
  have alike : Runner.Alike { bare with catalog := .ofList [writingPattern] } "writing" ∅ gatedSession
      (.tokens "text.generate") := .recited (by decide) rfl Builtin.recites_generateText
  exact ⟨alike, stream_eq_run _ "writing" ∅ (.tokens "text.generate") gatedSession alike⟩

end Runner

end Orchestra
