import Orchestra.Proofs.Containment
import Orchestra.Proofs.Steady

namespace Orchestra

variable {σ : Type}

namespace Runner

/-- The meta pattern that requests are sent to: the one configured, if it is known. -/
def knownMeta? (runner : Runner σ) : Option String := runner.options.metaPattern.filter runner.catalog.contains

/-- The attempt of a meta pattern to serve a request, which is not recorded. -/
def metaAttempt (runner : Runner σ) (id : String) (request : RouteRequest) (session : Session σ) :
    Envelope × Session σ :=
  runner.contained .evented id (metaInputs request) 0 session none

/-- The meta pattern declared that it cannot serve. -/
def Declines (envelope : Envelope) : Prop := envelope.state.get? "execution_unavailable" = some (.bool true)

/-- A request is not served by a meta pattern: there is none, or it is unknown, or it declines. -/
def FallsBack (runner : Runner σ) (request : RouteRequest) (session : Session σ) : Prop :=
  runner.options.metaPattern = none ∨ ∃ id, runner.options.metaPattern = some id ∧
    (runner.catalog.contains id = false ∨ Declines (runner.run id (metaInputs request) session).1)

/-- The session in which a direct call starts, which is that after the meta attempt if there was one. -/
def beforeDirect (runner : Runner σ) (request : RouteRequest) (session : Session σ) : Session σ :=
  match runner.knownMeta? with
  | none => session
  | some id => (runner.metaAttempt id request session).2

/-- An envelope tells of a direct call with this result. -/
structure ToldDirectly (request : RouteRequest) (result : Except CallError (Dict Json)) (envelope : Envelope) :
    Prop where
  patternId : envelope.patternId = "direct:" ++ request.capability
  trace : envelope.trace = [⟨0, request.capability, 0, result.map (State.producedKeys · none)⟩]
  success_iff : envelope.success = true ↔ ∀ record ∈ envelope.trace, record.isOk = true
  state : envelope.state = (result.toOption.elim ∅ fun output => State.merge ∅ output none)
  data : envelope.data = envelope.state
  recovery : envelope.recovery = false

/-- How a request is served. -/
structure Routed (runner : Runner σ) (request : RouteRequest) (session : Session σ) (envelope : Envelope)
    (after : Session σ) : Prop where
  /-- A meta pattern is given the inputs of the request, its capability and its parameters. -/
  inputs : ∀ key, (metaInputs request).get? key =
    if key = "params" then some request.params
    else if key = "capability" then some (.string request.capability)
    else request.inputs.get? key
  fallback_iff : envelope.fallback = true ↔ runner.FallsBack request session
  /-- A meta pattern that does not decline has the last word, whatever comes of its run. -/
  attempted : ¬ runner.FallsBack request session → ∃ id, runner.options.metaPattern = some id ∧
    runner.catalog.contains id = true ∧ (envelope, after) = runner.run id (metaInputs request) session
  /-- A direct call is one call of the capability with the parameters filled in from the inputs alone. -/
  direct : runner.FallsBack request session → ∃ result called,
    runner.call (runner.nested 0) ⟨0, request.capability, Template.resolve request.inputs ∅ request.params⟩
        { patternId := "direct:" ++ request.capability, inputs := request.inputs, depth := 0 }
        (runner.beforeDirect request session) = (result, called) ∧
      ToldDirectly request result envelope ∧ after = called.account runner.audit envelope request.inputs 0
  /-- Without a memory, a runner answers by a direct call as it does without a meta pattern. -/
  independent : runner.FallsBack request session → runner.registry.Stateless →
    ∀ source, session.Steady source → ∀ other : Session σ, other.Steady source →
      (Runner.route { runner with options := { runner.options with metaPattern := none } } request other).1 =
        envelope

variable {runner : Runner σ} {request : RouteRequest} {session : Session σ}

theorem signalsUnavailable_iff (envelope : Envelope) : signalsUnavailable envelope = true ↔ Declines envelope := by
  unfold signalsUnavailable Declines unavailableKey
  split
  next b found => simp [found]
  next other => simpa using fun found => other true found

theorem run_eq_metaAttempt (runner : Runner σ) (id : String) (request : RouteRequest) (session : Session σ) :
    runner.run id (metaInputs request) session = ((runner.metaAttempt id request session).1,
      (runner.metaAttempt id request session).2.account runner.audit
        (runner.metaAttempt id request session).1 (metaInputs request) 0) :=
  runner.runAtDepth_eq_contained id (metaInputs request) 0 session

theorem route_eq (runner : Runner σ) (request : RouteRequest) (session : Session σ) :
    runner.route request session = match runner.knownMeta? with
      | none => runner.direct request session
      | some id =>
        if signalsUnavailable (runner.metaAttempt id request session).1 then
          runner.direct request (runner.metaAttempt id request session).2
        else runner.run id (metaInputs request) session := by
  unfold route knownMeta?
  cases runner.options.metaPattern with
  | none => rfl
  | some id =>
    cases known : runner.catalog.contains id with
    | false => simp [Option.filter, known]
    | true =>
      simp only [Option.filter_some, known, not_true_eq_false, if_false, if_true, run_eq_metaAttempt]
      rfl

theorem knownMeta?_eq_some_iff {id : String} :
    runner.knownMeta? = some id ↔ runner.options.metaPattern = some id ∧ runner.catalog.contains id = true := by
  simp [knownMeta?, Option.filter_eq_some_iff]

theorem fallsBack_iff : runner.FallsBack request session ↔
    ∀ id, runner.knownMeta? = some id → Declines (runner.metaAttempt id request session).1 := by
  simp only [FallsBack, knownMeta?_eq_some_iff, run_eq_metaAttempt]
  cases runner.options.metaPattern with
  | none => simp
  | some id => cases known : runner.catalog.contains id <;> simp [known]

theorem route_of_fallsBack (back : runner.FallsBack request session) :
    runner.route request session = runner.direct request (runner.beforeDirect request session) := by
  rw [route_eq, beforeDirect]
  cases known : runner.knownMeta? with
  | none => rfl
  | some id => exact if_pos ((signalsUnavailable_iff _).mpr (fallsBack_iff.mp back id known))

theorem route_of_not_fallsBack (serves : ¬ runner.FallsBack request session) :
    ∃ id, runner.knownMeta? = some id ∧
      runner.route request session = runner.run id (metaInputs request) session := by
  rw [fallsBack_iff] at serves
  obtain ⟨id, serves⟩ := Classical.not_forall.mp serves
  obtain ⟨known, accepts⟩ := Classical.not_imp.mp serves
  refine ⟨id, known, ?_⟩
  rw [route_eq, known]
  exact if_neg fun declines => accepts ((signalsUnavailable_iff _).mp declines)

def directEnvelope (request : RouteRequest) (result : Except CallError (Dict Json)) : Envelope where
  patternId := "direct:" ++ request.capability
  data := result.toOption.elim ∅ fun output => State.merge ∅ output none
  state := result.toOption.elim ∅ fun output => State.merge ∅ output none
  trace := [⟨0, request.capability, 0, result.map (State.producedKeys · none)⟩]
  error := directError request result
  fallback := true

theorem direct_eq {result : Except CallError (Dict Json)} {after : Session σ}
    (called : runner.call (runner.nested 0) (directStep request) (directRun request) session = (result, after)) :
    runner.direct request session = (directEnvelope request result,
      after.account runner.audit (directEnvelope request result) request.inputs 0) := by
  simp only [direct, runPattern_direct called, Attempt.publishState, contain]
  cases result <;> rfl

theorem toldDirectly_directEnvelope (request : RouteRequest) (result : Except CallError (Dict Json)) :
    ToldDirectly request result (directEnvelope request result) where
  patternId := rfl
  trace := rfl
  success_iff := by
    cases result <;> simp [directEnvelope, Envelope.success, directError, StepRecord.isOk, Except.map, Except.isOk,
      Except.toBool]
  state := rfl
  data := rfl
  recovery := rfl

theorem execute_fallback {nested : Nested σ} {mode : StepMode} {id : String} {inputs : Dict Json} {depth : Nat}
    {sink : Option Sink} {envelope : Envelope}
    (done : (runner.execute nested mode id inputs depth session sink).1 = .done envelope) :
    envelope.fallback = false := by
  obtain ⟨pattern, run, error, _, rfl⟩ := execute_conclude done
  rfl

/-- Only a direct call says that it is a fallback. -/
theorem contained_fallback (runner : Runner σ) (mode : StepMode) (id : String) (inputs : Dict Json) (depth : Nat)
    (session : Session σ) (sink : Option Sink) :
    (runner.contained mode id inputs depth session sink).1.fallback = false := by
  have own (envelope : Envelope)
      (done : (runner.execute (runner.nested depth) mode id inputs depth session sink).1 = .done envelope) :
      envelope.fallback = false := execute_fallback done
  unfold contained
  generalize runner.execute (runner.nested depth) mode id inputs depth session sink = ended at own ⊢
  obtain ⟨attempt, middle, last⟩ := ended
  cases attempt with
  | done envelope => exact own envelope rfl
  | failed error => rfl
  | panicked panic =>
    dsimp only [contain]
    -- A panic ends in the envelope of a recovery, or in one of its own.
    rcases Classical.em (∃ recovery, runner.Recovers id recovery) with ⟨recovery, recovers⟩ | alone
    · rw [recover_eq_of_recovers recovers]
      cases came : (runner.recovering recovery id inputs depth panic middle).1 with
      | done envelope =>
        have clean := execute_fallback came
        dsimp only [replacement]
        split
        · exact clean
        · rfl
      | failed => rfl
      | panicked => rfl
    · rw [recover_eq_of_not_recovers (not_exists.mp alone)]
      rfl

/-- Without a memory, a direct call does not depend on the session, nor on the meta pattern. -/
theorem direct_of_stateless {other : Runner σ} {source : Option FlagLoad} {before after : Session σ}
    (same : other = { runner with options := { runner.options with metaPattern := none } })
    (stateless : runner.registry.Stateless) (steady : before.Steady source) (steady' : after.Steady source) :
    (runner.direct request before).1 = (other.direct request after).1 := by
  subst same
  have accord : runner.Accord { runner with options := { runner.options with metaPattern := none } }
      (Session.SteadyPair source fun _ _ => True) :=
    accord_of_stateless rfl rfl rfl rfl stateless fun _ _ _ _ => trivial
  exact (agree_iff.mp (accord.direct request ⟨steady, steady', trivial⟩)).1

theorem beforeDirect_steady {source : Option FlagLoad} (stateless : runner.registry.Stateless)
    (steady : session.Steady source) : (runner.beforeDirect request session).Steady source := by
  have accord : runner.Accord runner (Session.SteadyPair source fun _ _ => True) :=
    accord_of_stateless rfl rfl rfl rfl stateless fun _ _ _ _ => trivial
  unfold beforeDirect
  cases runner.knownMeta? with
  | none => exact steady
  | some id =>
    have attempts := accord.contained .evented id (metaInputs request) 0 ⟨steady, steady, trivial⟩ none
    exact (agree_iff.mp attempts).2.steadyLeft

/-- A request goes to the meta pattern, and to its capability directly if there is no meta pattern or if that
declares that it cannot serve; what the meta pattern did then leaves no mark on the answer. -/
theorem route_routed (runner : Runner σ) (request : RouteRequest) (session : Session σ) :
    runner.Routed request session (runner.route request session).1 (runner.route request session).2 where
  inputs key := by simp only [metaInputs, Dict.get?_insert, eq_comm]
  fallback_iff := by
    by_cases back : runner.FallsBack request session
    · rw [route_of_fallsBack back, direct_eq rfl]
      exact iff_of_true rfl back
    · obtain ⟨id, _, served⟩ := route_of_not_fallsBack back
      rw [served, run_eq_metaAttempt]
      exact iff_of_false (ne_true_of_eq_false (runner.contained_fallback ..)) back
  attempted serves := by
    obtain ⟨id, known, served⟩ := route_of_not_fallsBack serves
    rw [served]
    exact ⟨id, (knownMeta?_eq_some_iff.mp known).1, (knownMeta?_eq_some_iff.mp known).2, rfl⟩
  direct back := by
    rw [route_of_fallsBack back, direct_eq rfl]
    exact ⟨_, _, rfl, toldDirectly_directEnvelope request _, rfl⟩
  independent back stateless source steady other steady' := by
    rw [route_of_fallsBack back]
    exact (direct_of_stateless rfl stateless (beforeDirect_steady stateless steady) steady').symm

def decliningHandler : Handler Unit where
  description := "Declares that nothing can be served."
  identity := "declining"
  execute _ _ s := (.done (.ofList [("execution_unavailable", .bool true)]), s)
  stream := streamWhole fun _ _ s => (.done (.ofList [("execution_unavailable", .bool true)]), s)

/-- A runner whose meta pattern declines and then fails. -/
def decliningRunner : Runner Unit where
  registry := Builtin.registry.register "decline" decliningHandler
  catalog := .ofList [{
    id := "meta"
    steps := [{ capability := "decline" }, { capability := "absent", onError := .stop }] }]
  options := { metaPattern := some "meta" }

theorem route_routed_declining :
    let request : RouteRequest := ⟨"echo", .object [("text", .string "\x7bword\x7d")],
      .ofList [("word", .string "hello")]⟩
    decliningRunner.FallsBack request gatedSession ∧ decliningRunner.registry.Stateless ∧
      gatedSession.Steady (some (.config ∅)) ∧
      (Runner.route { decliningRunner with options := { decliningRunner.options with metaPattern := none } } request
        gatedSession).1 = (decliningRunner.route request gatedSession).1 := by
  intro request
  have back : decliningRunner.FallsBack request gatedSession := .inr ⟨"meta", rfl, .inr (by rfl)⟩
  have stateless : decliningRunner.registry.Stateless :=
    Builtin.registry_stateless.register ⟨fun _ _ _ _ => rfl, fun _ _ _ _ => rfl⟩ "decline"
  have steady : gatedSession.Steady (some (.config ∅)) := .gated rfl ⟨fun _ => rfl, nofun⟩
  exact ⟨back, stateless, steady, (route_routed decliningRunner request gatedSession).independent back stateless _
    steady gatedSession steady⟩

end Runner

end Orchestra
