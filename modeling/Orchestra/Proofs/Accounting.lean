import Mathlib.Data.List.Forall2
import Orchestra.Proofs.Accord
import Orchestra.Proofs.Invocation

namespace Orchestra

variable {σ : Type}

def Request.inputs : Request → Dict Json
  | .run _ inputs => inputs
  | .runAtDepth _ inputs _ => inputs
  | .route request => request.inputs
  | .stream _ inputs _ _ => inputs

/-- What serving a request to this envelope adds to the books. -/
structure Runner.Accounted (runner : Runner σ) (request : Request) (session : Session σ) (envelope : Envelope)
    (events : List Event) (after : Session σ) : Prop where
  audited : request.depth = 0 → runner.audit = .working →
    ∃ entry, after.audit.entries = session.audit.entries ++ [entry] ∧ entry.Tells envelope
  unaudited : ¬ (request.depth = 0 ∧ runner.audit = .working) → after.audit = session.audit
  /-- The records are those of all runs that were invoked, each of which tells the envelope of its own run, and at last
  that of the request. -/
  tracked : ∃ (records : List RunRecord) (own : RunRecord),
    List.Forall₂ (fun invocation record => record.Tells (runner.envelopeOf invocation) invocation.inputs)
      (runner.allInvocations request session) records ∧
    own.Tells envelope request.inputs ∧ session.telemetry.Gains after.telemetry (records ++ [own]) ∧
    Session.Tracks (records ++ [own]) session after
  /-- However many levels are looked through, there are no more invocations. -/
  all : ∀ more, runner.unfolded (runner.options.maxDepth + more) (runner.requestInvocations request session) =
    runner.allInvocations request session
  total : after.telemetry.total = session.telemetry.total + (runner.allInvocations request session).length + 1
  /-- No other audit policy and no other audit so far leads to another answer, or to other books but the audit. -/
  unaware : ∀ policy audit, ∃ other : Session σ,
    Runner.answer { runner with audit := policy } request { session with audit } = (envelope, events, other) ∧
      after = { other with audit := after.audit }

/-- Sessions that differ in nothing but their audits. -/
structure Session.SameButAudit (left right : Session σ) : Prop where
  handlers : left.handlers = right.handlers
  gate : left.gate = right.gate
  telemetry : left.telemetry = right.telemetry

theorem Session.SameButAudit.eq {left right : Session σ} (same : left.SameButAudit right) :
    left = { right with audit := left.audit } := by
  obtain ⟨handlers, gate, telemetry, audit⟩ := left
  obtain ⟨rfl, rfl, rfl⟩ := same
  rfl

namespace Runner

/-- What serving a request does to the books before the request itself is recorded. -/
structure Books (runner : Runner σ) (invocations : List (Invocation σ)) (before after : Session σ) : Prop where
  tracked : Session.Tracks (runner.recordsOf runner.options.maxDepth invocations) before after
  audit : after.audit = before.audit

variable {runner : Runner σ} {id : String} {inputs : Dict Json} {depth : Nat}

theorem Books.trans {first middle last : Session σ} {invocations more : List (Invocation σ)}
    (before : runner.Books invocations first middle) (later : runner.Books more middle last) :
    runner.Books (invocations ++ more) first last := by
  refine ⟨?_, later.audit.trans before.audit⟩
  have both : runner.recordsOf runner.options.maxDepth (invocations ++ more) =
      runner.recordsOf runner.options.maxDepth invocations ++ runner.recordsOf runner.options.maxDepth more := by
    rw [recordsOf_eq_flatMap, List.flatMap_append, ← recordsOf_eq_flatMap, ← recordsOf_eq_flatMap]
  rw [both]
  exact before.tracked.trans later.tracked

theorem Runs.audit_eq {before after : Session σ} (runs : runner.Runs id inputs depth before after) :
    after.audit = before.audit := by
  have deeper (id : String) (inputs : Dict Json) (session : Session σ) :
      (runner.runAtDepth id inputs (depth + 1) session).2.audit = session.audit :=
    runner.runAtDepth_audit id inputs (Nat.succ_pos depth) session
  obtain ⟨middle, acts, rfl | ⟨recovery, panic, _, recovered⟩⟩ := runs
  · exact acts.audit_eq deeper
  · exact (recovered.audit_eq deeper).trans (acts.audit_eq deeper)

def loopPattern : Pattern where
  id := "loop"
  steps := [{ capability := "pattern.invoke", args := .object [("pattern_id", .string "loop")] }]

/-- The run that the limit refuses is recorded first, and that at the top last. -/
example :
    let runner : Runner Unit := { bare with catalog := .ofList [loopPattern], options := { maxDepth := 2 } }
    (runner.allInvocations (.run "loop" ∅) gatedSession).map Invocation.depth = [2, 1] := by decide

end Runner

end Orchestra
