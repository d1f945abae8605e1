import Orchestra.Proofs.Invocation
import Orchestra.Proofs.Offer

namespace Orchestra

variable {σ : Type}

/-- What a step takes in from a run that ended in a state and whose pattern declares these outputs. -/
structure Encapsulated (step : Step) (outputs : Outputs) (inner before after : State) (output : Dict Json) :
    Prop where
  taken : after = before.merge output step.saveAs
  /-- If a declared output was found, nothing but declared outputs comes through. -/
  offered : (∃ key value, outputs.Offers inner key value) → output = (outputs.resolve inner).data ∧
    ∀ key value, output.get? key = some value → key ∈ outputs.declared ∧ outputs.Offers inner key value
  /-- If none was found, everything comes through. -/
  whole : (∀ key value, ¬ outputs.Offers inner key value) → output = inner
  resolved_iff : output = (outputs.resolve inner).data ↔
    (∃ key value, outputs.Offers inner key value) ∨ inner = ∅

namespace Runner

variable {runner : Runner σ} {mode : StepMode} {step : Step} {index : Nat} {live : Live σ}
  {invocation : Invocation σ}

theorem runStep_of_invoked (runner : Runner σ) (invokes : step.invoked? mode index live = some invocation) :
    ∃ prepared, (runner.runStep (runner.nested live.run.depth) mode step index live).2.run =
      live.run.apply step prepared (nestedOutput (runner.envelopeOf invocation)) 0 := by
  have came := runner.runStep_invokes (runner.nested live.run.depth) mode step index live
  rw [invokes] at came
  cases came with
  | run deeper _ _ took =>
    have inner : (runner.nested live.run.depth invocation.id invocation.inputs invocation.session).1 =
        runner.envelopeOf invocation := by
      rw [nested_eq, ← deeper]
      rfl
    rw [inner] at took
    exact ⟨_, took⟩

theorem recover_recovery (runner : Runner σ) (id : String) (inputs : Dict Json) (depth : Nat) (panic : Panic)
    (session : Session σ) :
    (runner.recover (runner.nested depth) id inputs depth panic session).1.recovery = true := by
  rcases Classical.em (∃ recovery, runner.Recovers id recovery) with ⟨recovery, recovers⟩ | alone
  · rw [recover_eq_of_recovers recovers]
    exact replacement_recovery id _
  · rw [recover_eq_of_not_recovers (not_exists.mp alone)]
    rfl

/-- A success without recovery is that of the pattern itself, so its data are its outputs. -/
theorem runAtDepth_data {id : String} {inputs : Dict Json} {depth : Nat} {session : Session σ}
    (succeeds : (runner.runAtDepth id inputs depth session).1.success = true)
    (unrecovered : (runner.runAtDepth id inputs depth session).1.recovery = false) :
    ∃ pattern, runner.catalog.get? id = some pattern ∧ (runner.runAtDepth id inputs depth session).1.data =
      (pattern.outputs.resolve (runner.runAtDepth id inputs depth session).1.state).data := by
  rw [runAtDepth_eq_contained] at succeeds unrecovered ⊢
  unfold contained at succeeds unrecovered ⊢
  cases came : (runner.execute (runner.nested depth) .evented id inputs depth session none).1 with
  | done envelope =>
    obtain ⟨pattern, run, error, found, rfl⟩ := execute_conclude came
    exact ⟨pattern, found, rfl⟩
  | failed error =>
    rw [came] at succeeds
    cases succeeds
  | panicked panic =>
    rw [came] at unrecovered
    exact absurd unrecovered (by simp [contain, recover_recovery])

theorem nestedOutput_encapsulated {envelope : Envelope} {outputs : Outputs} (succeeds : envelope.success = true)
    (data : envelope.data = (outputs.resolve envelope.state).data) (step : Step) (before : State) :
    ∃ output, nestedOutput envelope = .ok output ∧
      Encapsulated step outputs envelope.state before (before.merge output step.saveAs) output := by
  have noError : envelope.error = none := Option.isNone_iff_eq_none.mp succeeds
  refine ⟨_, by rw [nestedOutput, noError], ?_⟩
  rw [data]
  -- Empty data do not tell declared outputs that were not found from no declared outputs.
  by_cases nothing : (outputs.resolve envelope.state).data.isEmpty = true
  · have none := Outputs.isEmpty_resolve_iff.mp nothing
    have some : ¬ ∃ key value, outputs.Offers envelope.state key value :=
      fun ⟨key, value, offers⟩ => none key value offers
    rw [if_pos nothing]
    refine ⟨rfl, fun offers => absurd offers some, fun _ => rfl, ?_⟩
    rw [Dict.isEmpty_iff.mp nothing, or_iff_right some]
  · have some : ∃ key value, outputs.Offers envelope.state key value := by
      rw [Outputs.isEmpty_resolve_iff] at nothing
      simpa using nothing
    rw [if_neg nothing]
    refine ⟨rfl, fun _ => ⟨rfl, fun key value resolved => ?_⟩, fun none => ?_, iff_of_true rfl (.inl some)⟩
    · have offers := Outputs.offers_of_resolve resolved
      exact ⟨offers.declared, offers⟩
    · exact absurd (Outputs.isEmpty_resolve_iff.mpr none) nothing

/-- A step that invokes a run, which succeeds without recovery, takes in its outputs, or all of its state. -/
theorem runStep_encapsulated (runner : Runner σ) (mode : StepMode) (step : Step) (index : Nat) (live : Live σ)
    (invocation : Invocation σ) (invokes : step.invoked? mode index live = some invocation)
    (succeeds : (runner.envelopeOf invocation).success = true)
    (unrecovered : (runner.envelopeOf invocation).recovery = false) :
    ∃ pattern output, runner.catalog.get? invocation.id = some pattern ∧
      Encapsulated step pattern.outputs (runner.envelopeOf invocation).state live.run.state
        (runner.runStep (runner.nested live.run.depth) mode step index live).2.run.state output := by
  obtain ⟨pattern, known, data⟩ := runAtDepth_data succeeds unrecovered
  obtain ⟨prepared, ran⟩ := runner.runStep_of_invoked invokes
  obtain ⟨output, result, encapsulated⟩ := nestedOutput_encapsulated succeeds data step live.run.state
  refine ⟨pattern, output, known, ?_⟩
  rw [ran, result]
  exact encapsulated

/-- A pattern that writes a text, and declares these keys as its outputs. -/
def childPattern (declared : List String) : Pattern where
  id := "child"
  steps := [{ capability := "echo", args := .object [("text", .string "secret")] }]
  outputs := .keys declared

def invokingStep : Step where
  capability := "pattern.invoke"
  args := .object [("pattern_id", .string "child")]
  saveAs := some "perf"

def parentPattern : Pattern where
  id := "parent"
  steps := [invokingStep]
  outputs := .keys ["perf"]

def familyRunner (declared : List String) : Runner Unit :=
  { bare with catalog := .ofList [childPattern declared, parentPattern] }

def parentLive : Live Unit := ⟨{ patternId := "parent", inputs := ∅, depth := 0 }, gatedSession, none⟩

def childInvocation : Invocation Unit := ⟨"child", ∅, 1, gatedSession⟩

theorem runStep_encapsulated_child :
    let runner := familyRunner ["text", "twr"]
    invokingStep.invoked? .evented 0 parentLive = some childInvocation ∧
      (runner.envelopeOf childInvocation).success = true ∧ (runner.envelopeOf childInvocation).recovery = false ∧
      ∃ pattern output, runner.catalog.get? "child" = some pattern ∧
        Encapsulated invokingStep pattern.outputs (runner.envelopeOf childInvocation).state ∅
          (runner.runStep (runner.nested 0) .evented invokingStep 0 parentLive).2.run.state output :=
  ⟨by rfl, by rfl, by rfl, runStep_encapsulated _ .evented invokingStep 0 parentLive childInvocation (by rfl)
    (by rfl) (by rfl)⟩

/-- If the declared output is not found, the text comes through, though it is not declared. -/
theorem runStep_discloses :
    let runner := familyRunner ["twr"]
    invokingStep.invoked? .evented 0 parentLive = some childInvocation ∧
      (runner.envelopeOf childInvocation).success = true ∧ (runner.envelopeOf childInvocation).recovery = false ∧
      (childPattern ["twr"]).outputs.declared = ["twr"] ∧
      (runner.runStep (runner.nested 0) .evented invokingStep 0 parentLive).2.run.state.get? "perf" =
        some (.object [("text", .string "secret")]) ∧
      (runner.run "parent" ∅ gatedSession).1.data.get? "perf" = some (.object [("text", .string "secret")]) := by
  refine ⟨by rfl, by rfl, by rfl, by rfl, by rfl, by rfl⟩

end Runner

end Orchestra
