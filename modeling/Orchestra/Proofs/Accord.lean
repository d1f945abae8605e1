import Orchestra.Proofs.Recursion
import Orchestra.Run.Request

namespace Orchestra

variable {σ : Type}

/-- Equal answers, with what is left in a relation. -/
inductive Agree {α τ : Type} (related : τ → τ → Prop) : α × τ → α × τ → Prop
  | intro (answer : α) {left right : τ} : related left right → Agree related (answer, left) (answer, right)

theorem agree_iff {α τ : Type} {related : τ → τ → Prop} {left right : α × τ} :
    Agree related left right ↔ left.1 = right.1 ∧ related left.2 right.2 := by
  constructor
  · rintro ⟨answer, rel⟩
    exact ⟨rfl, rel⟩
  · obtain ⟨answer, before⟩ := left
    rintro ⟨rfl, rel⟩
    exact .intro _ rel

/-- Live runs that differ in nothing but their sessions, which are in a relation. -/
inductive Live.Beside (related : Session σ → Session σ → Prop) : Live σ → Live σ → Prop
  | intro (run : Run) (sink : Option Sink) {left right : Session σ} : related left right →
      Beside related ⟨run, left, sink⟩ ⟨run, right, sink⟩

/-- Two ways to run patterns by id come to equal envelopes from related sessions. -/
def NestedAgree (related : Session σ → Session σ → Prop) (nested other : Nested σ) : Prop :=
  ∀ id inputs {left right : Session σ}, related left right →
    Agree related (nested id inputs left) (other id inputs right)

/-- Two runners with the same handlers and patterns, for which related sessions choose, call and stay related
alike. Neither their meta patterns nor their audits need be the same. -/
structure Runner.Accord (first second : Runner σ) (related : Session σ → Session σ → Prop) : Prop where
  registry : first.registry = second.registry
  catalog : first.catalog = second.catalog
  maxDepth : first.options.maxDepth = second.options.maxDepth
  recovery : first.options.recoveryPattern = second.options.recoveryPattern
  chosen : ∀ (step : Step) (run : Run) {left right : Session σ}, related left right →
    Agree (fun gate other => related { left with gate } { right with gate := other })
      (step.choose run left.gate) (step.choose run right.gate)
  executed : ∀ name params context {left right : Session σ}, related left right →
    (first.registry.execute name params context left.handlers).result =
        (first.registry.execute name params context right.handlers).result ∧
      related { left with handlers := (first.registry.execute name params context left.handlers).state }
        { right with handlers := (first.registry.execute name params context right.handlers).state }
  streamed : ∀ name params context {left right : Session σ}, related left right →
    (first.registry.stream name params context left.handlers).result =
        (first.registry.stream name params context right.handlers).result ∧
      related { left with handlers := (first.registry.stream name params context left.handlers).state }
        { right with handlers := (first.registry.stream name params context right.handlers).state }
  recorded : ∀ envelope inputs depth {left right : Session σ}, related left right →
    related (left.account first.audit envelope inputs depth) (right.account second.audit envelope inputs depth)

section Reader

variable {related : Session σ → Session σ → Prop} {live other : Live σ}

theorem Live.Beside.emit (beside : Live.Beside related live other) (event : Event) :
    Agree (Live.Beside related) (live.emit event) (other.emit event) := by
  obtain ⟨run, _ | sink, rel⟩ := beside
  · exact .intro true (.intro run none rel)
  · exact .intro (sink.emit event).1 (.intro run (some (sink.emit event).2) rel)

theorem Live.Beside.emitIf (beside : Live.Beside related live other) (audible : Bool) (event : Event) :
    Agree (Live.Beside related) (live.emitIf audible event) (other.emitIf audible event) := by
  cases audible with
  | false => exact .intro true beside
  | true => exact beside.emit event

theorem Live.Beside.poll (beside : Live.Beside related live other) :
    Agree (Live.Beside related) live.poll other.poll := by
  obtain ⟨run, _ | sink, rel⟩ := beside
  · exact .intro false (.intro run none rel)
  · exact .intro sink.poll.1 (.intro run (some sink.poll.2) rel)

theorem Live.Beside.finish (beside : Live.Beside related live other) (step : Step) (prepared : PreparedStep)
    (result : Except CallError (Dict Json)) (audible : Bool) :
    Agree (Live.Beside related) (Runner.finish step prepared result audible live)
      (Runner.finish step prepared result audible other) := by
  cases failed : (prepared.record step result 0).error? with
  | none =>
    have told := beside.emitIf audible (.stepComplete (prepared.record step result 0).index
      (prepared.record step result 0).capability 0 (prepared.record step result 0).producedKeys)
    simp only [Runner.finish, failed]
    generalize live.emitIf audible _ = answer at told
    generalize other.emitIf audible _ = answer' at told
    obtain ⟨taken, after⟩ := told
    cases taken <;> exact .intro _ after
  | some reason =>
    have told := beside.emitIf audible (.stepError (prepared.record step result 0).index
      (prepared.record step result 0).capability reason step.halts)
    simp only [Runner.finish, failed]
    generalize live.emitIf audible _ = answer at told
    generalize other.emitIf audible _ = answer' at told
    obtain ⟨taken, after⟩ := told
    cases taken <;> exact .intro _ after

theorem Live.Beside.readChunks (beside : Live.Beside related live other) (index : Nat) (chunks : List Chunk)
    (text : String) :
    Agree (Live.Beside related) (Runner.readChunks index chunks text live)
      (Runner.readChunks index chunks text other) := by
  induction chunks generalizing text live other with
  | nil => exact .intro _ beside
  | cons chunk rest ih =>
    cases chunk with
    | error reason => exact .intro _ beside
    | text piece =>
      have told := beside.emit (.textChunk index piece)
      unfold Runner.readChunks
      generalize live.emit _ = left at told
      generalize other.emit _ = right at told
      obtain ⟨taken, after⟩ := told
      cases taken with
      | true => exact ih after (text ++ piece)
      | false => exact .intro _ after

end Reader

namespace Runner.Accord

variable {first second : Runner σ} {related : Session σ → Session σ → Prop} {nested inner : Nested σ}
  {live other : Live σ} {left right : Session σ}

theorem prepare (accord : first.Accord second related) (step : Step) (index : Nat) (run : Run)
    (rel : related left right) :
    Agree (fun gate other => related { left with gate } { right with gate := other })
      (step.prepare index run left.gate) (step.prepare index run right.gate) := by
  have choice := accord.chosen step run rel
  unfold Step.prepare
  generalize step.choose run left.gate = answer at choice
  generalize step.choose run right.gate = answer' at choice
  obtain ⟨chosen, after⟩ := choice
  exact .intro _ after

theorem identityOf (accord : first.Accord second related) (name : String) :
    first.identityOf name = second.identityOf name := by
  rw [Runner.identityOf, Runner.identityOf, accord.registry]

theorem call (accord : first.Accord second related) (agree : NestedAgree related nested inner)
    (prepared : PreparedStep) (run : Run) (rel : related left right) :
    Agree related (first.call nested prepared run left) (second.call inner prepared run right) := by
  unfold Runner.call
  split
  · unfold invokeNested
    split
    next id _ =>
      have ran := agree id (nestedInputs run prepared.params) rel
      dsimp only
      generalize nested id _ left = answer at ran
      generalize inner id _ right = answer' at ran
      obtain ⟨envelope, after⟩ := ran
      exact .intro _ after
    · exact .intro _ rel
  · obtain ⟨same, after⟩ := accord.executed prepared.capability prepared.params run.context rel
    simp only [PreparedStep.dispatch, ← accord.registry, ← same]
    exact .intro _ after

theorem runPlain (accord : first.Accord second related) (agree : NestedAgree related nested inner)
    (step : Step) (prepared : PreparedStep) (audible : Bool) (beside : Live.Beside related live other) :
    Agree (Live.Beside related) (first.runPlain nested step prepared audible live)
      (second.runPlain inner step prepared audible other) := by
  have told := beside.emitIf audible (.stepStart prepared.index prepared.capability step.description)
  unfold Runner.runPlain
  generalize live.emitIf audible _ = answer at told
  generalize other.emitIf audible _ = answer' at told
  obtain ⟨taken, run, sink, rel⟩ := told
  cases taken with
  | false => exact .intro _ (.intro run sink rel)
  | true =>
    have called := accord.call agree prepared run rel
    dsimp only
    generalize first.call nested prepared run _ = answer at called
    generalize second.call inner prepared run _ = answer' at called
    obtain ⟨result, after⟩ := called
    exact Live.Beside.finish (.intro _ sink after) step prepared result audible

theorem runGenerative (accord : first.Accord second related) (step : Step) (prepared : PreparedStep)
    (beside : Live.Beside related live other) :
    Agree (Live.Beside related) (first.runGenerative step prepared live)
      (second.runGenerative step prepared other) := by
  obtain ⟨run, sink, rel⟩ := beside
  obtain ⟨same, after⟩ := accord.streamed prepared.capability prepared.params run.context rel
  simp only [Runner.runGenerative, ← accord.registry, ← same, ← accord.identityOf]
  cases (first.registry.stream prepared.capability prepared.params run.context _).result with
  | error error => exact Live.Beside.finish (.intro _ sink after) step prepared (.error error) true
  | ok chunks =>
    have heard := Live.Beside.readChunks (.intro run sink after) prepared.index chunks ""
    dsimp only
    generalize readChunks prepared.index chunks "" _ = answer at heard
    generalize readChunks prepared.index chunks "" _ = answer' at heard
    obtain ⟨reading, run, sink, after⟩ := heard
    cases reading with
    | text text => exact Live.Beside.finish (.intro _ sink after) step prepared _ true
    | error reason => exact Live.Beside.finish (.intro _ sink after) step prepared _ true
    | refused => exact .intro _ (.intro run sink after)

theorem runStep (accord : first.Accord second related) (agree : NestedAgree related nested inner)
    (mode : StepMode) (step : Step) (index : Nat) (beside : Live.Beside related live other) :
    Agree (Live.Beside related) (first.runStep nested mode step index live)
      (second.runStep inner mode step index other) := by
  have look := beside.poll
  unfold Runner.runStep
  generalize live.poll = answer at look
  generalize other.poll = answer' at look
  obtain ⟨closed, run, sink, rel⟩ := look
  cases closed with
  | true => exact .intro _ (.intro run sink rel)
  | false =>
    have ready := accord.prepare step index run rel
    dsimp only
    generalize step.prepare index run _ = answer at ready
    generalize step.prepare index run _ = answer' at ready
    obtain ⟨choice, after⟩ := ready
    have beside := Live.Beside.intro run sink after
    cases choice with
    | error panic => exact .intro _ beside
    | ok prepared =>
      cases mode with
      | evented => exact accord.runPlain agree step prepared true beside
      | tokens generative =>
        dsimp only
        split
        · exact accord.runGenerative step prepared beside
        · exact accord.runPlain agree step prepared false beside

theorem runSteps (accord : first.Accord second related) (agree : NestedAgree related nested inner)
    (mode : StepMode) (steps : List Step) (index : Nat) (beside : Live.Beside related live other) :
    Agree (Live.Beside related) (first.runSteps nested mode steps index live)
      (second.runSteps inner mode steps index other) := by
  induction steps generalizing index live other with
  | nil => exact .intro none beside
  | cons step rest ih =>
    have ran := accord.runStep agree mode step index beside
    unfold Runner.runSteps
    generalize first.runStep nested mode step index live = answer at ran
    generalize second.runStep inner mode step index other = answer' at ran
    obtain ⟨_ | interruption, beside⟩ := ran
    · exact ih (index + 1) beside
    · exact .intro _ beside

/-- What an attempt leaves: related sessions, and one sink. -/
abbrev Left (related : Session σ → Session σ → Prop) (left right : Session σ × Option Sink) : Prop :=
  related left.1 right.1 ∧ left.2 = right.2

theorem runPattern (accord : first.Accord second related) (agree : NestedAgree related nested inner)
    (mode : StepMode) (pattern : Pattern) (inputs : Dict Json) (depth : Nat) (rel : related left right)
    (sink : Option Sink) :
    Agree (Left related) (first.runPattern nested mode pattern inputs depth left sink)
      (second.runPattern inner mode pattern inputs depth right sink) := by
  have begun : Agree (Live.Beside related) (enter pattern inputs depth left sink)
      (enter pattern inputs depth right sink) := Live.Beside.emit (.intro _ sink rel) _
  unfold Runner.runPattern
  generalize enter pattern inputs depth left sink = answer at begun
  generalize enter pattern inputs depth right sink = answer' at begun
  obtain ⟨_ | _, beside⟩ := begun
  · obtain ⟨run, sink, rel⟩ := beside
    exact .intro _ ⟨rel, rfl⟩
  · have ran := accord.runSteps agree mode pattern.steps 0 beside
    dsimp only
    generalize first.runSteps nested mode pattern.steps 0 _ = answer at ran
    generalize second.runSteps inner mode pattern.steps 0 _ = answer' at ran
    obtain ⟨stop, beside⟩ := ran
    obtain ⟨run, sink, rel⟩ := beside
    rcases stop with _ | _ | panic
    · have told := Live.Beside.emit (.intro run sink rel) (.patternComplete pattern.id)
      dsimp only
      generalize Live.emit _ _ = answer at told
      generalize Live.emit _ _ = answer' at told
      obtain ⟨_ | _, run, sink, rel⟩ := told <;> exact .intro _ ⟨rel, rfl⟩
    · exact .intro _ ⟨rel, rfl⟩
    · exact .intro _ ⟨rel, rfl⟩

theorem execute (accord : first.Accord second related) (agree : NestedAgree related nested inner)
    (mode : StepMode) (id : String) (inputs : Dict Json) (depth : Nat) (rel : related left right)
    (sink : Option Sink) :
    Agree (Left related) (first.execute nested mode id inputs depth left sink)
      (second.execute inner mode id inputs depth right sink) := by
  unfold Runner.execute
  rw [← accord.maxDepth, ← accord.catalog]
  split
  · exact .intro _ ⟨rel, rfl⟩
  · split
    · exact .intro _ ⟨rel, rfl⟩
    · exact accord.runPattern agree mode _ inputs depth rel sink

theorem contain (accord : first.Accord second related) (agree : NestedAgree related nested inner)
    (id : String) (inputs : Dict Json) (depth : Nat) (attempt : Attempt) (rel : related left right) :
    Agree related (first.contain nested id inputs depth attempt left)
      (second.contain inner id inputs depth attempt right) := by
  cases attempt with
  | done envelope => exact .intro _ rel
  | failed error => exact .intro _ rel
  | panicked panic =>
    simp only [Runner.contain, Runner.recover, ← accord.recovery, ← accord.catalog]
    split
    · exact .intro _ rel
    next recovery _ =>
      split
      · exact .intro _ rel
      · have ran := accord.execute agree .evented recovery (recoveryInputs inputs panic id) depth rel none
        generalize first.execute nested .evented recovery _ depth left none = answer at ran
        generalize second.execute inner .evented recovery _ depth right none = answer' at ran
        obtain ⟨attempt, rel, _⟩ := ran
        cases attempt <;> exact .intro _ rel

theorem guarded (accord : first.Accord second related) (agree : NestedAgree related nested inner)
    (mode : StepMode) (id : String) (inputs : Dict Json) (depth : Nat) (rel : related left right)
    (sink : Option Sink) :
    Agree (Left related) (first.guarded nested mode id inputs depth left sink)
      (second.guarded inner mode id inputs depth right sink) := by
  have ran := accord.execute agree mode id inputs depth rel sink
  unfold Runner.guarded Runner.settle
  generalize first.execute nested mode id inputs depth left sink = answer at ran
  generalize second.execute inner mode id inputs depth right sink = answer' at ran
  obtain ⟨attempt, rel, same⟩ := ran
  have contained := accord.contain agree id inputs depth attempt rel
  dsimp only
  generalize first.contain nested id inputs depth attempt _ = answer at contained
  generalize second.contain inner id inputs depth attempt _ = answer' at contained
  obtain ⟨envelope, rel⟩ := contained
  exact .intro _ ⟨accord.recorded envelope inputs depth rel, same⟩

theorem runLevel (accord : first.Accord second related) (level depth : Nat) :
    NestedAgree related (first.runLevel level depth) (second.runLevel level depth) := by
  induction level generalizing depth with
  | zero =>
    intro id inputs left right rel
    unfold Runner.runLevel
    rw [← accord.maxDepth]
    exact .intro _ (accord.recorded _ inputs depth rel)
  | succ level ih =>
    intro id inputs left right rel
    have ran := accord.guarded (ih (depth + 1)) .evented id inputs depth rel none
    unfold Runner.runLevel Runner.guardedAt
    generalize first.guarded _ .evented id inputs depth left none = answer at ran
    generalize second.guarded _ .evented id inputs depth right none = answer' at ran
    obtain ⟨envelope, rel, _⟩ := ran
    exact .intro _ rel

theorem nested_agree (accord : first.Accord second related) (depth : Nat) :
    NestedAgree related (first.nested depth) (second.nested depth) := by
  unfold Runner.nested
  rw [← accord.maxDepth]
  exact accord.runLevel _ _

theorem runAtDepth (accord : first.Accord second related) (id : String) (inputs : Dict Json) (depth : Nat)
    (rel : related left right) :
    Agree related (first.runAtDepth id inputs depth left) (second.runAtDepth id inputs depth right) := by
  unfold Runner.runAtDepth
  rw [← accord.maxDepth]
  exact accord.runLevel _ _ id inputs rel

theorem contained (accord : first.Accord second related) (mode : StepMode) (id : String) (inputs : Dict Json)
    (depth : Nat) (rel : related left right) (sink : Option Sink) :
    Agree related (first.contained mode id inputs depth left sink)
      (second.contained mode id inputs depth right sink) := by
  have ran := accord.execute (accord.nested_agree depth) mode id inputs depth rel sink
  unfold Runner.contained
  generalize first.execute (first.nested depth) mode id inputs depth left sink = answer at ran
  generalize second.execute (second.nested depth) mode id inputs depth right sink = answer' at ran
  obtain ⟨attempt, rel, _⟩ := ran
  exact accord.contain (accord.nested_agree depth) id inputs depth attempt rel

theorem direct (accord : first.Accord second related) (request : RouteRequest) (rel : related left right) :
    Agree related (first.direct request left) (second.direct request right) := by
  have ran := accord.runPattern (accord.nested_agree 0) .evented (directPattern request) request.inputs 0 rel none
  unfold Runner.direct
  dsimp only
  generalize first.runPattern _ .evented _ request.inputs 0 left none = answer at ran
  generalize second.runPattern _ .evented _ request.inputs 0 right none = answer' at ran
  obtain ⟨attempt, rel, _⟩ := ran
  have contained := accord.contain (accord.nested_agree 0) (directPattern request).id request.inputs 0
    attempt.publishState rel
  dsimp only
  generalize first.contain _ _ request.inputs 0 attempt.publishState _ = answer at contained
  generalize second.contain _ _ request.inputs 0 attempt.publishState _ = answer' at contained
  obtain ⟨envelope, rel⟩ := contained
  exact .intro _ (accord.recorded _ request.inputs 0 rel)

theorem route (accord : first.Accord second related)
    (routed : first.options.metaPattern = second.options.metaPattern) (request : RouteRequest)
    (rel : related left right) :
    Agree related (first.route request left) (second.route request right) := by
  unfold Runner.route
  rw [← routed, ← accord.catalog]
  split
  · exact accord.direct request rel
  next id _ =>
    split
    · exact accord.direct request rel
    · have attempted := accord.contained .evented id (metaInputs request) 0 rel none
      unfold Runner.contained at attempted
      dsimp only
      generalize first.contain _ id (metaInputs request) 0 _ _ = answer at attempted
      generalize second.contain _ id (metaInputs request) 0 _ _ = answer' at attempted
      obtain ⟨envelope, rel⟩ := attempted
      dsimp only
      split
      · exact accord.direct request rel
      · exact .intro _ (accord.recorded envelope (metaInputs request) 0 rel)

/-- Runners in accord, meta patterns included, answer related sessions by equal envelopes and events. -/
theorem answer (accord : first.Accord second related)
    (routed : first.options.metaPattern = second.options.metaPattern) (request : Request)
    (rel : related left right) :
    Agree (fun left right => left.1 = right.1 ∧ related left.2 right.2) (first.answer request left)
      (second.answer request right) := by
  cases request with
  | run id inputs =>
    have ran := accord.runAtDepth id inputs 0 rel
    simp only [Runner.answer, Runner.run]
    generalize first.runAtDepth id inputs 0 left = answer at ran
    generalize second.runAtDepth id inputs 0 right = answer' at ran
    obtain ⟨envelope, rel⟩ := ran
    exact .intro envelope ⟨rfl, rel⟩
  | runAtDepth id inputs depth =>
    have ran := accord.runAtDepth id inputs depth rel
    simp only [Runner.answer]
    generalize first.runAtDepth id inputs depth left = answer at ran
    generalize second.runAtDepth id inputs depth right = answer' at ran
    obtain ⟨envelope, rel⟩ := ran
    exact .intro envelope ⟨rfl, rel⟩
  | route request =>
    have ran := accord.route routed request rel
    simp only [Runner.answer]
    generalize first.route request left = answer at ran
    generalize second.route request right = answer' at ran
    obtain ⟨envelope, rel⟩ := ran
    exact .intro envelope ⟨rfl, rel⟩
  | stream id inputs mode departure =>
    have ran := accord.guarded (accord.nested_agree 0) mode id inputs 0 rel (some { departure })
    simp only [Runner.answer, Runner.stream]
    generalize first.guarded _ mode id inputs 0 left _ = answer at ran
    generalize second.guarded _ mode id inputs 0 right _ = answer' at ran
    obtain ⟨envelope, rel, same⟩ := ran
    exact .intro envelope ⟨by rw [same], rel⟩

end Runner.Accord

end Orchestra
