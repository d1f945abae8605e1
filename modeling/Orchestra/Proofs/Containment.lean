import Orchestra.Proofs.Attempt
import Orchestra.Proofs.Recursion

namespace Orchestra

variable {σ : Type}

theorem Envelope.success_iff (envelope : Envelope) : envelope.success = true ↔ envelope.errorText = none := by
  simp [Envelope.success, Envelope.errorText]

namespace Runner

/-- The pattern gets to its steps, and the load for the flag of one of them panics. -/
def Breaks (runner : Runner σ) (mode : StepMode) (id : String) (inputs : Dict Json) (depth : Nat)
    (session : Session σ) (sink : Option Sink) (panic : Panic) : Prop :=
  ∃ pattern, runner.catalog.get? id = some pattern ∧ (enter pattern inputs depth session sink).1 = true ∧
    runner.BreaksBy (runner.nested depth) mode pattern.steps 0 (enter pattern inputs depth session sink).2 panic

/-- The pattern that may recover runs of a pattern: the one configured, if it is another one and known. -/
def Recovers (runner : Runner σ) (id recovery : String) : Prop :=
  runner.options.recoveryPattern = some recovery ∧ recovery ≠ id ∧ runner.catalog.contains recovery = true

/-- The attempt of a recovery pattern, at the depth of the run that panicked and in the session that it left. -/
def recovering (runner : Runner σ) (recovery id : String) (inputs : Dict Json) (depth : Nat) (panic : Panic)
    (middle : Session σ) : Attempt × Session σ × Option Sink :=
  runner.execute (runner.nested depth) .evented recovery (recoveryInputs inputs panic id) depth middle none

/-- An envelope, and the session before it is recorded, contain a run that left its session like this. -/
structure Contained (runner : Runner σ) (id : String) (inputs : Dict Json) (depth : Nat)
    (breaks : Panic → Prop) (middle : Session σ) (envelope : Envelope) (after : Session σ) : Prop where
  success_iff : envelope.success = true ↔ envelope.errorText = none
  /-- Recovery is attempted exactly if a step's own flag load panicked. -/
  recovery_iff : envelope.recovery = true ↔ ∃ panic, breaks panic
  /-- A recovery that succeeds takes the place of the run. -/
  recovered : ∀ panic recovery recovering, breaks panic → runner.Recovers id recovery →
    (runner.recovering recovery id inputs depth panic middle).1 = .done recovering →
    recovering.success = true →
    envelope = { recovering with recovery := true } ∧ envelope.patternId = recovery
  /-- Without one, there is nothing but an error that tells the id. -/
  terminal : ∀ panic, breaks panic →
    (∀ recovery recovering, runner.Recovers id recovery →
      (runner.recovering recovery id inputs depth panic middle).1 = .done recovering →
      recovering.success = false) →
    envelope.success = false ∧ envelope.patternId = id ∧ envelope.data = ∅ ∧ envelope.state = ∅ ∧
      envelope.trace = [] ∧ envelope.warnings = [] ∧
      envelope.errorText = some ("Pattern '" ++ id ++ "' failed unexpectedly")
  /-- The recovery pattern is tried once, even if it panics. -/
  once : ∀ panic recovery, breaks panic → runner.Recovers id recovery →
    after = (runner.recovering recovery id inputs depth panic middle).2.1
  /-- Nothing is tried without one, or without a panic. -/
  never : (∀ panic, ¬ breaks panic) ∨ (∀ recovery, ¬ runner.Recovers id recovery) → after = middle

variable {runner : Runner σ} {mode : StepMode} {id : String} {inputs : Dict Json} {depth : Nat}
  {session : Session σ} {sink : Option Sink} {panic : Panic}

theorem runPattern_panicked_iff {nested : Nested σ} {pattern : Pattern} :
    (runner.runPattern nested mode pattern inputs depth session sink).1 = .panicked panic ↔
      (enter pattern inputs depth session sink).1 = true ∧
        runner.BreaksBy nested mode pattern.steps 0 (enter pattern inputs depth session sink).2 panic := by
  have attempted := runner.runPattern_attempted nested mode pattern inputs depth session sink
  generalize runner.runPattern nested mode pattern inputs depth session sink = ended at attempted ⊢
  obtain ⟨attempt, final, last⟩ := ended
  rw [← runSteps_panic_iff]
  cases attempted with
  | refused absent => simp [absent]
  | panicked present ran =>
    rw [ran]
    simp [present]
  | done present ran ended =>
    rw [ran]
    rcases ended with rfl | ⟨rfl, _⟩
    · cases ‹Option RunError› <;> simp
    · simp

/-- Below the limit an attempt panics exactly if its pattern breaks off. -/
theorem execute_panicked_iff (below : depth < runner.options.maxDepth) :
    (runner.execute (runner.nested depth) mode id inputs depth session sink).1 = .panicked panic ↔
      runner.Breaks mode id inputs depth session sink panic := by
  rw [execute, if_neg (Nat.not_le.mpr below), Breaks]
  cases runner.catalog.get? id with
  | none => simp
  | some pattern => simp [runPattern_panicked_iff]

theorem execute_done {nested : Nested σ} {envelope : Envelope}
    (done : (runner.execute nested mode id inputs depth session sink).1 = .done envelope) :
    envelope.patternId = id ∧ envelope.recovery = false := by
  obtain ⟨pattern, run, error, found, rfl⟩ := execute_conclude done
  exact ⟨runner.catalog.keyed found, rfl⟩

/-- The envelope that takes the place of a run whose recovery came to this. -/
def replacement (id : String) : Attempt → Envelope
  | .done envelope => if envelope.success then { envelope with recovery := true } else .terminal id
  | _ => .terminal id

theorem replacement_recovery (id : String) (attempt : Attempt) : (replacement id attempt).recovery = true := by
  cases attempt with
  | done envelope =>
    dsimp only [replacement]
    split <;> rfl
  | failed => rfl
  | panicked => rfl

theorem replacement_terminal {attempt : Attempt}
    (fails : ∀ envelope, attempt = .done envelope → envelope.success = false) :
    replacement id attempt = .terminal id := by
  cases attempt with
  | done envelope => rw [replacement, fails envelope rfl]; rfl
  | failed => rfl
  | panicked => rfl

theorem Recovers.eq {recovery other : String} (recovers : runner.Recovers id recovery)
    (others : runner.Recovers id other) : other = recovery :=
  Option.some.inj (others.1.symm.trans recovers.1)

/-- What becomes of a panic: the recovery's envelope if that succeeds, else the terminal one. -/
theorem recover_eq_of_recovers {recovery : String} (recovers : runner.Recovers id recovery)
    (inputs : Dict Json) (depth : Nat) (panic : Panic) (middle : Session σ) :
    runner.recover (runner.nested depth) id inputs depth panic middle =
      (replacement id (runner.recovering recovery id inputs depth panic middle).1,
        (runner.recovering recovery id inputs depth panic middle).2.1) := by
  obtain ⟨configured, other, known⟩ := recovers
  rw [recover, configured]
  dsimp only
  rw [if_neg (by simp [other, known]), recovering]
  generalize runner.execute (runner.nested depth) .evented recovery (recoveryInputs inputs panic id) depth middle
    none = ended
  obtain ⟨_ | _ | _, final, last⟩ := ended <;> rfl

theorem recover_eq_of_not_recovers (alone : ∀ recovery, ¬ runner.Recovers id recovery) (nested : Nested σ)
    (inputs : Dict Json) (depth : Nat) (panic : Panic) (middle : Session σ) :
    runner.recover nested id inputs depth panic middle = (.terminal id, middle) := by
  unfold recover
  split
  · rfl
  next recovery configured =>
    split
    · rfl
    next eligible =>
      have recovers : runner.Recovers id recovery :=
        ⟨configured, fun same => eligible (.inl same), by
          simpa using fun unknown => eligible (.inr unknown)⟩
      exact absurd recovers (alone recovery)

theorem contained_of_calm {breaks : Panic → Prop} (calm : ∀ panic, ¬ breaks panic) {envelope : Envelope}
    (clean : envelope.recovery = false) (middle : Session σ) :
    runner.Contained id inputs depth breaks middle envelope middle where
  success_iff := Envelope.success_iff envelope
  recovery_iff := by simp [clean, calm]
  recovered panic _ _ broken := absurd broken (calm panic)
  terminal panic broken := absurd broken (calm panic)
  once panic _ broken := absurd broken (calm panic)
  never _ := rfl

theorem contained_of_recovers {breaks : Panic → Prop} (panics : ∀ other, breaks other ↔ other = panic)
    {recovery : String} (recovers : runner.Recovers id recovery) (middle : Session σ) :
    runner.Contained id inputs depth breaks middle
      (replacement id (runner.recovering recovery id inputs depth panic middle).1)
      (runner.recovering recovery id inputs depth panic middle).2.1 where
  success_iff := Envelope.success_iff _
  recovery_iff := ⟨fun _ => ⟨panic, (panics panic).mpr rfl⟩, fun _ => replacement_recovery id _⟩
  recovered other others envelope broken eligible done succeeds := by
    cases (panics other).mp broken
    cases recovers.eq eligible
    rw [done, replacement, if_pos succeeds]
    exact ⟨rfl, (execute_done done).1⟩
  terminal other broken fails := by
    cases (panics other).mp broken
    -- Whether the recovery failed or panicked itself, its attempt is not recovered again.
    rw [replacement_terminal fun envelope done => fails recovery envelope recovers done]
    exact ⟨rfl, rfl, rfl, rfl, rfl, rfl, rfl⟩
  once other others broken eligible := by
    cases (panics other).mp broken
    cases recovers.eq eligible
    rfl
  never calm := by
    rcases calm with calm | alone
    · exact absurd ((panics panic).mpr rfl) (calm panic)
    · exact absurd recovers (alone recovery)

theorem contained_of_not_recovers {breaks : Panic → Prop} (broken : breaks panic)
    (alone : ∀ recovery, ¬ runner.Recovers id recovery) (middle : Session σ) :
    runner.Contained id inputs depth breaks middle (.terminal id) middle where
  success_iff := Envelope.success_iff _
  recovery_iff := ⟨fun _ => ⟨panic, broken⟩, fun _ => rfl⟩
  recovered _ recovery _ _ eligible := absurd eligible (alone recovery)
  terminal _ _ _ := ⟨rfl, rfl, rfl, rfl, rfl, rfl, rfl⟩
  once _ recovery _ eligible := absurd eligible (alone recovery)
  never _ := rfl

theorem contained_contained (below : depth < runner.options.maxDepth) (mode : StepMode) (id : String)
    (inputs : Dict Json) (session : Session σ) (sink : Option Sink) :
    runner.Contained id inputs depth (runner.Breaks mode id inputs depth session sink)
      (runner.execute (runner.nested depth) mode id inputs depth session sink).2.1
      (runner.contained mode id inputs depth session sink).1
      (runner.contained mode id inputs depth session sink).2 := by
  rw [contained]
  have panics (panic : Panic) :
      (runner.execute (runner.nested depth) mode id inputs depth session sink).1 = .panicked panic ↔
        runner.Breaks mode id inputs depth session sink panic := execute_panicked_iff below
  have clean (envelope : Envelope)
      (done : (runner.execute (runner.nested depth) mode id inputs depth session sink).1 = .done envelope) :
      envelope.recovery = false := (execute_done done).2
  generalize runner.execute (runner.nested depth) mode id inputs depth session sink = ended at panics clean ⊢
  obtain ⟨attempt, middle, last⟩ := ended
  cases attempt with
  | done envelope =>
    exact contained_of_calm (fun panic broken => by cases (panics panic).mpr broken) (clean envelope rfl) middle
  | failed error =>
    exact contained_of_calm (fun panic broken => by cases (panics panic).mpr broken) rfl middle
  | panicked panic =>
    have only (other : Panic) : runner.Breaks mode id inputs depth session sink other ↔ other = panic := by
      rw [← panics other]
      exact ⟨fun same => (Attempt.panicked.inj same).symm, fun same => congrArg Attempt.panicked same.symm⟩
    dsimp only [contain]
    rcases Classical.em (∃ recovery, runner.Recovers id recovery) with ⟨recovery, recovers⟩ | alone
    · rw [recover_eq_of_recovers recovers]
      exact contained_of_recovers only recovers middle
    · rw [recover_eq_of_not_recovers (not_exists.mp alone)]
      exact contained_of_not_recovers ((only panic).mpr rfl) (not_exists.mp alone) middle

theorem get?_recoveryInputs (inputs : Dict Json) (panic : Panic) (id key : String) :
    (recoveryInputs inputs panic id).get? key =
      if key = "failed_pattern" then some (.string id)
      else if key = "error" then some (.string panic.text)
      else inputs.get? key := by
  simp only [recoveryInputs, Dict.get?_insert, eq_comm]

/-- How a runner contains panics, whatever the flag source does on each load. -/
structure Containment (runner : Runner σ) : Prop where
  /-- A recovery is given the text of the panic and the id, and else the inputs of the run. -/
  inputs : ∀ inputs panic id key, (recoveryInputs inputs panic id).get? key =
    if key = "failed_pattern" then some (.string id)
    else if key = "error" then some (.string panic.text)
    else inputs.get? key
  run : ∀ id inputs depth session, depth < runner.options.maxDepth →
    ∃ after, runner.Contained id inputs depth (runner.Breaks .evented id inputs depth session none)
        (runner.execute (runner.nested depth) .evented id inputs depth session none).2.1
        (runner.runAtDepth id inputs depth session).1 after ∧
      (runner.runAtDepth id inputs depth session).2 =
        after.account runner.audit (runner.runAtDepth id inputs depth session).1 inputs depth
  stream : ∀ id inputs mode departure session, 0 < runner.options.maxDepth →
    ∃ after, runner.Contained id inputs 0 (runner.Breaks mode id inputs 0 session (some { departure }))
        (runner.execute (runner.nested 0) mode id inputs 0 session (some { departure })).2.1
        (runner.stream id inputs mode departure session).1 after ∧
      (runner.stream id inputs mode departure session).2.2 =
        after.account runner.audit (runner.stream id inputs mode departure session).1 inputs 0
  /-- A routed request is a contained run of the meta pattern, or it ends in a direct call. -/
  route : ∀ request session, 0 < runner.options.maxDepth →
    (∃ id after, runner.options.metaPattern = some id ∧
      runner.Contained id (metaInputs request) 0 (runner.Breaks .evented id (metaInputs request) 0 session none)
        (runner.execute (runner.nested 0) .evented id (metaInputs request) 0 session none).2.1
        (runner.route request session).1 after ∧
      (runner.route request session).2 =
        after.account runner.audit (runner.route request session).1 (metaInputs request) 0) ∨
    ∃ before, runner.route request session = runner.direct request before
  /-- A direct call asks for no flag, so there is nothing to recover. -/
  direct : ∀ request session, (runner.direct request session).1.recovery = false ∧
    ((runner.direct request session).1.success = true ↔ (runner.direct request session).1.errorText = none)

theorem direct_recovery (runner : Runner σ) (request : RouteRequest) (session : Session σ) :
    (runner.direct request session).1.recovery = false := by
  cases called : runner.call (runner.nested 0) (directStep request) (directRun request) session with
  | mk result after =>
    simp only [direct, runPattern_direct called, Attempt.publishState, contain, conclude]

theorem route_contained (below : 0 < runner.options.maxDepth) (request : RouteRequest) (session : Session σ) :
    (∃ id after, runner.options.metaPattern = some id ∧
      runner.Contained id (metaInputs request) 0 (runner.Breaks .evented id (metaInputs request) 0 session none)
        (runner.execute (runner.nested 0) .evented id (metaInputs request) 0 session none).2.1
        (runner.route request session).1 after ∧
      (runner.route request session).2 =
        after.account runner.audit (runner.route request session).1 (metaInputs request) 0) ∨
    ∃ before, runner.route request session = runner.direct request before := by
  unfold route
  split
  · exact .inr ⟨session, rfl⟩
  next id configured =>
    split
    · exact .inr ⟨session, rfl⟩
    · dsimp only
      split
      · exact .inr ⟨_, rfl⟩
      · have contained := contained_contained below .evented id (metaInputs request) session none
        exact .inl ⟨id, _, configured, contained, rfl⟩

/-- No panic of the flag source gets out of a runner, or changes more than its own run. -/
theorem panics_contained (runner : Runner σ) : runner.Containment where
  inputs := get?_recoveryInputs
  run id inputs depth session below := by
    rw [runAtDepth_eq_contained]
    exact ⟨_, contained_contained below .evented id inputs session none, rfl⟩
  stream id inputs mode departure session below :=
    ⟨_, contained_contained below mode id inputs session (some { departure }), rfl⟩
  route request session below := route_contained below request session
  direct request session := ⟨runner.direct_recovery request session, Envelope.success_iff _⟩

end Runner

end Orchestra
