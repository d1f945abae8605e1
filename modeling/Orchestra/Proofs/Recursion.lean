import Orchestra.Run.Runner

namespace Orchestra

variable {σ : Type}

namespace Runner

theorem execute_of_limit_le {runner : Runner σ} {depth : Nat} (limit : runner.options.maxDepth ≤ depth)
    (nested : Nested σ) (mode : StepMode) (id : String) (inputs : Dict Json) (session : Session σ)
    (sink : Option Sink) :
    runner.execute nested mode id inputs depth session sink =
      (.failed (.depthExceeded depth runner.options.maxDepth), session, sink) := by
  rw [execute, if_pos limit]

/-- At the limit a run is recorded and does nothing else, whatever its steps would run. -/
theorem guardedAt_of_limit_le {runner : Runner σ} {depth : Nat} (limit : runner.options.maxDepth ≤ depth)
    (nested : Nested σ) :
    runner.guardedAt nested depth = fun id inputs session =>
      (.failure id (.depthExceeded depth runner.options.maxDepth),
        session.account runner.audit (.failure id (.depthExceeded depth runner.options.maxDepth)) inputs
          depth) := by
  funext id inputs session
  simp only [guardedAt, guarded, execute_of_limit_le limit, settle, contain]

theorem nested_eq (runner : Runner σ) (depth : Nat) :
    runner.nested depth = fun id inputs session => runner.runAtDepth id inputs (depth + 1) session := rfl

/-- A run at a depth is a guarded run whose steps run patterns one level below. -/
theorem runAtDepth_eq (runner : Runner σ) (depth : Nat) :
    (fun id inputs session => runner.runAtDepth id inputs depth session) =
      runner.guardedAt (runner.nested depth) depth := by
  change runner.runLevel (runner.options.maxDepth - depth) depth = _
  by_cases limit : runner.options.maxDepth ≤ depth
  · rw [Nat.sub_eq_zero_of_le limit, guardedAt_of_limit_le limit]
    rfl
  · have levels : runner.options.maxDepth - depth = runner.options.maxDepth - (depth + 1) + 1 := by omega
    rw [levels]
    rfl

/-- A run that is contained and not yet recorded. -/
def contained (runner : Runner σ) (mode : StepMode) (id : String) (inputs : Dict Json) (depth : Nat)
    (session : Session σ) (sink : Option Sink) : Envelope × Session σ :=
  runner.contain (runner.nested depth) id inputs depth
    (runner.execute (runner.nested depth) mode id inputs depth session sink).1
    (runner.execute (runner.nested depth) mode id inputs depth session sink).2.1

theorem runAtDepth_eq_contained (runner : Runner σ) (id : String) (inputs : Dict Json) (depth : Nat)
    (session : Session σ) :
    runner.runAtDepth id inputs depth session =
      ((runner.contained .evented id inputs depth session none).1,
        (runner.contained .evented id inputs depth session none).2.account runner.audit
          (runner.contained .evented id inputs depth session none).1 inputs depth) :=
  congrFun (congrFun (congrFun (runner.runAtDepth_eq depth) id) inputs) session

theorem contained_of_limit_le {runner : Runner σ} {depth : Nat} (limit : runner.options.maxDepth ≤ depth)
    (mode : StepMode) (id : String) (inputs : Dict Json) (session : Session σ) (sink : Option Sink) :
    runner.contained mode id inputs depth session sink =
      (.failure id (.depthExceeded depth runner.options.maxDepth), session) := by
  rw [contained, execute_of_limit_le limit]
  rfl

/-- Levels that reach the limit are enough, however many there are. -/
theorem runLevel_eq_runAtDepth {runner : Runner σ} {level depth : Nat}
    (enough : runner.options.maxDepth ≤ depth + level) :
    runner.runLevel level depth = fun id inputs session => runner.runAtDepth id inputs depth session := by
  induction level generalizing depth with
  | zero =>
    have limit : runner.options.maxDepth ≤ depth := enough
    rw [runAtDepth_eq, guardedAt_of_limit_le limit]
    rfl
  | succ level ih => rw [runLevel, runAtDepth_eq, nested_eq, ih (by omega)]

/-- Nothing but the runs at all depths follows their recursion. -/
theorem eq_runAtDepth {runner : Runner σ} {runs : Nat → Nested σ}
    (recursion : ∀ depth, runs depth = runner.guardedAt (runs (depth + 1)) depth) (depth : Nat) :
    runs depth = fun id inputs session => runner.runAtDepth id inputs depth session := by
  -- At the limit the level below is not asked, so both sides agree there, and then at every level above.
  by_cases limit : runner.options.maxDepth ≤ depth
  · rw [recursion, runAtDepth_eq, guardedAt_of_limit_le limit, guardedAt_of_limit_le limit]
  · rw [recursion, runAtDepth_eq, eq_runAtDepth recursion (depth + 1), nested_eq]
termination_by runner.options.maxDepth - depth

end Runner

end Orchestra
