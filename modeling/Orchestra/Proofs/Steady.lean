import Orchestra.Proofs.Accord
import Orchestra.Proofs.Departure

namespace Orchestra

variable {σ : Type}

/-- The results of a handler depend on parameters and context only. -/
structure Handler.Stateless (handler : Handler σ) : Prop where
  execute : ∀ params context s s', (handler.execute params context s).1 = (handler.execute params context s').1
  stream : ∀ params context s s', (handler.stream params context s).1 = (handler.stream params context s').1

def Registry.Stateless (registry : Registry σ) : Prop :=
  ∀ name handler, registry.get? name = some handler → handler.Stateless

/-- The source comes to this load every time, and the cache, if there is one, comes from it. -/
structure Gate.Steady (load : FlagLoad) (gate : Gate) : Prop where
  answer : ∀ n, gate.source.answer n = load
  cache : ∀ config, gate.cache = some config → load.settled = .ok config

/-- A session without a gate, or with a steady one. -/
inductive Session.Steady : Option FlagLoad → Session σ → Prop
  | ungated {session} : session.gate = none → Steady none session
  | gated {session load gate} : session.gate = some gate → gate.Steady load → Steady (some load) session

/-- The capability of a step as far as this source decides it. -/
def Step.decided (step : Step) (source : Option FlagLoad) (run : Run) : Except Panic String :=
  match step.reroute, source with
  | some reroute, some load => load.settled.map fun config =>
      if (config.decision reroute.flag run.inputs).enabled then reroute.capability else step.capability
  | _, _ => .ok step.capability

/-- Two sessions of a runner without a memory, with telemetries in a relation. -/
structure Session.SteadyPair (source : Option FlagLoad) (counted : Telemetry → Telemetry → Prop)
    (left right : Session σ) : Prop where
  steadyLeft : left.Steady source
  steadyRight : right.Steady source
  counted : counted left.telemetry right.telemetry

section Gate

variable {load : FlagLoad} {gate : Gate}

theorem Gate.Steady.loaded (steady : gate.Steady load) :
    gate.load.1 = load.settled ∧ gate.load.2.Steady load := by
  unfold Gate.load
  rw [steady.answer]
  cases load with
  | config config => exact ⟨rfl, steady.answer, fun _ cached => congrArg Except.ok (Option.some.inj cached)⟩
  | error error => exact ⟨rfl, steady.answer, fun _ cached => congrArg Except.ok (Option.some.inj cached)⟩
  -- A load that panics leaves the cache as it was.
  | panic text => exact ⟨rfl, steady.answer, steady.cache⟩

/-- Whether it decides by its cache or loads anew, a steady gate decides by the same configuration. -/
theorem Gate.Steady.snapshot (steady : gate.Steady load) :
    gate.snapshot.1 = load.settled ∧ gate.snapshot.2.Steady load := by
  unfold Gate.snapshot
  split
  next config _ cached => exact ⟨(steady.cache config cached).symm, steady⟩
  · exact steady.loaded

theorem Gate.Steady.isEnabled (steady : gate.Steady load) (flag : String) (context : Dict Json) :
    (gate.isEnabled flag context).1 = load.settled.map (fun config => (config.decision flag context).enabled) ∧
      (gate.isEnabled flag context).2.Steady load := by
  obtain ⟨decided, after⟩ := steady.snapshot
  refine ⟨?_, after⟩
  simp only [Gate.isEnabled, Gate.decision, decided]
  cases load.settled <;> rfl

end Gate

variable {source : Option FlagLoad} {counted : Telemetry → Telemetry → Prop}

theorem Session.Steady.congr {left right : Session σ} (steady : left.Steady source) (gate : right.gate = left.gate) :
    right.Steady source := by
  cases steady with
  | ungated absent => exact .ungated (gate.trans absent)
  | gated present steady => exact .gated (gate.trans present) steady

theorem Session.Steady.choose {session : Session σ} (steady : session.Steady source) (step : Step) (run : Run) :
    (step.choose run session.gate).1 = step.decided source run ∧
      ({ session with gate := (step.choose run session.gate).2 } : Session σ).Steady source := by
  obtain ⟨absent⟩ | ⟨present, steady⟩ := steady
  · rw [absent]
    unfold Step.choose Step.decided
    cases step.reroute <;> exact ⟨rfl, .ungated rfl⟩
  · rw [present]
    unfold Step.choose Step.decided
    cases step.reroute with
    | none => exact ⟨rfl, .gated rfl steady⟩
    | some reroute =>
      obtain ⟨decided, after⟩ := steady.isEnabled reroute.flag run.inputs
      refine ⟨?_, .gated rfl after⟩
      dsimp only
      rw [decided]
      cases FlagLoad.settled _ <;> rfl

section Registry

variable {registry : Registry σ}

theorem Registry.Stateless.execute (stateless : registry.Stateless) (name : String) (params : Json)
    (context : CallContext) (s s' : σ) :
    (registry.execute name params context s).result = (registry.execute name params context s').result := by
  unfold Registry.execute
  cases found : registry.get? name with
  | none => rfl
  | some handler =>
    dsimp only
    rw [(stateless name handler found).execute params context s s']

theorem Registry.Stateless.stream (stateless : registry.Stateless) (name : String) (params : Json)
    (context : CallContext) (s s' : σ) :
    (registry.stream name params context s).result = (registry.stream name params context s').result := by
  unfold Registry.stream
  cases found : registry.get? name with
  | none => rfl
  | some handler =>
    dsimp only
    rw [(stateless name handler found).stream params context s s']

theorem Registry.Stateless.register {handler : Handler σ} (stateless : registry.Stateless) (own : handler.Stateless)
    (name : String) : (registry.register name handler).Stateless := by
  intro other found lookup
  have entry : (registry.handlers.insert name handler).get? other = some found := lookup
  rw [Dict.get?_insert] at entry
  split at entry
  · cases entry
    exact own
  · exact stateless other found entry

theorem Builtin.registry_stateless : (Builtin.registry : Registry σ).Stateless :=
  have empty : (Registry.mk ∅ : Registry σ).Stateless := fun _ _ found => by cases found
  (empty.register ⟨fun _ _ _ _ => rfl, fun _ _ _ _ => rfl⟩ "echo").register
    ⟨fun _ _ _ _ => rfl, fun _ _ _ _ => rfl⟩ "text.generate"

end Registry

/-- Runners that differ at most in their meta patterns and audits do the same in steady sessions. -/
theorem Runner.accord_of_stateless {first second : Runner σ} (registry : first.registry = second.registry)
    (catalog : first.catalog = second.catalog) (maxDepth : first.options.maxDepth = second.options.maxDepth)
    (recovery : first.options.recoveryPattern = second.options.recoveryPattern)
    (stateless : first.registry.Stateless)
    (counts : ∀ record left right, counted left right → counted (left.track record) (right.track record)) :
    first.Accord second (Session.SteadyPair source counted) where
  registry := registry
  catalog := catalog
  maxDepth := maxDepth
  recovery := recovery
  chosen step run left right pair := by
    obtain ⟨decided, after⟩ := pair.steadyLeft.choose step run
    obtain ⟨decided', after'⟩ := pair.steadyRight.choose step run
    exact agree_iff.mpr ⟨decided.trans decided'.symm, after, after', pair.counted⟩
  executed name params context left right pair :=
    ⟨stateless.execute name params context _ _, pair.steadyLeft.congr rfl, pair.steadyRight.congr rfl, pair.counted⟩
  streamed name params context left right pair :=
    ⟨stateless.stream name params context _ _, pair.steadyLeft.congr rfl, pair.steadyRight.congr rfl, pair.counted⟩
  recorded envelope inputs depth left right pair := by
    refine ⟨pair.steadyLeft.congr (Session.account_gate ..), pair.steadyRight.congr (Session.account_gate ..), ?_⟩
    rw [Session.account_telemetry, Session.account_telemetry]
    exact counts _ _ _ pair.counted

end Orchestra
