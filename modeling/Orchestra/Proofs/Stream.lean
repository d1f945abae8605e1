import Orchestra.Proofs.Check
import Orchestra.Proofs.Recursion

namespace Orchestra

variable {σ : Type}

theorem hear_never (accepted : List Event) (count : Nat) (checks : List (Check σ)) :
    hear checks (some ⟨.never, accepted, count, false⟩) =
      (none, some ⟨.never, accepted ++ offered checks, count + checks.length, false⟩) := by
  induction checks generalizing accepted count with
  | nil => simp [offered]
  | cons check rest ih =>
    have answer : (Sink.mk .never accepted count false).answer check.event =
        (true, ⟨.never, accepted ++ check.event.toList, count + 1, false⟩) := by
      cases check.event <;> simp [Sink.answer, Sink.poll, Sink.emit]
    rw [hear, answer, offered_cons, List.length_cons, ← List.append_assoc, Nat.add_comm rest.length,
      ← Nat.add_assoc]
    exact ih ..

/-- A reader who leaves at a check hears those before it. -/
theorem hear_atCheck (accepted : List Event) (count m : Nat) (checks : List (Check σ)) :
    hear checks (some ⟨.atCheck (count + m), accepted, count, false⟩) =
      (checks[m]?, some ⟨.atCheck (count + m), accepted ++ offered (checks.take m),
        count + min (m + 1) checks.length, decide (m < checks.length)⟩) := by
  -- A check that is heard moves the sink's count one up and the check to leave at one nearer.
  induction checks generalizing accepted count m with
  | nil => simp [offered]
  | cons check rest ih =>
    cases m with
    | zero =>
      have answer : (Sink.mk (.atCheck (count + 0)) accepted count false).answer check.event =
          (false, ⟨.atCheck (count + 0), accepted, count + 1, true⟩) := by
        cases check.event <;> simp [Sink.answer, Sink.poll, Sink.emit]
      rw [hear, answer]
      simp [offered]
    | succ m =>
      have place : count + (m + 1) = count + 1 + m := by omega
      have length : count + 1 + min (m + 1) rest.length = count + min (m + 1 + 1) (rest.length + 1) := by omega
      have answer : (Sink.mk (.atCheck (count + 1 + m)) accepted count false).answer check.event =
          (true, ⟨.atCheck (count + 1 + m), accepted ++ check.event.toList, count + 1, false⟩) := by
        cases check.event <;> simp [Sink.answer, Sink.poll, Sink.emit] <;> omega
      rw [place, hear, answer]
      dsimp only
      rw [ih, List.take_succ_cons, offered_cons, List.length_cons, length, List.append_assoc]
      simp

theorem mem_of_hear {checks : List (Check σ)} {sink last : Option Sink} {check : Check σ}
    (gone : hear checks sink = (some check, last)) : check ∈ checks := by
  induction checks generalizing sink with
  | nil => rw [hear_nil] at gone; cases gone
  | cons first rest ih =>
    cases sink with
    | none => rw [hear_alone] at gone; cases gone
    | some sink =>
      rw [hear] at gone
      split at gone
      · exact List.mem_cons_of_mem _ (ih gone)
      · cases gone
        exact List.mem_cons_self ..

/-- The last event of a stream: the envelope of a success, or else its error. -/
def Envelope.closing (envelope : Envelope) : Event :=
  match envelope.error with
  | none => .finalResult envelope
  | some error => .executionError error.message

namespace Runner

variable {runner : Runner σ} {mode : StepMode} {id : String} {inputs : Dict Json} {depth : Nat}
  {session : Session σ}

/-- The checks of a run at a depth; a run that does not get to a pattern has none. -/
def checks (runner : Runner σ) (mode : StepMode) (id : String) (inputs : Dict Json) (depth : Nat)
    (session : Session σ) : List (Check σ) :=
  if runner.options.maxDepth ≤ depth then []
  else match runner.catalog.get? id with
    | none => []
    | some pattern =>
      firstCheck pattern inputs depth session ::
        runner.laterChecks (runner.nested depth) mode pattern inputs depth session

/-- An envelope of a run of this pattern that was cut off at a check: all that it has is from before the check. -/
structure CutOff (id : String) (check : Check σ) (envelope : Envelope) : Prop where
  patternId : envelope.patternId = id
  error : envelope.error = some .cancelled
  trace : envelope.trace = check.run.trace
  state : envelope.state = check.run.state

section Hearing

variable {sink last : Option Sink} {check : Check σ}

theorem execute_of_heard (heard : hear (runner.checks mode id inputs depth session) sink = (none, last)) :
    runner.execute (runner.nested depth) mode id inputs depth session sink =
      ((runner.execute (runner.nested depth) mode id inputs depth session none).1,
        (runner.execute (runner.nested depth) mode id inputs depth session none).2.1, last) := by
  by_cases limit : runner.options.maxDepth ≤ depth
  · rw [checks, if_pos limit, hear_nil] at heard
    cases heard
    rw [execute, execute, if_pos limit, if_pos limit]
  · rw [checks, if_neg limit] at heard
    rw [execute, execute, if_neg limit, if_neg limit]
    cases found : runner.catalog.get? id with
    | none =>
      rw [found, hear_nil] at heard
      cases heard
      rfl
    | some pattern =>
      rw [found, hear_cons] at heard
      dsimp only
      rw [runPattern_eq_hear]
      generalize hear [_] sink = start at heard
      obtain ⟨_ | gone, middle⟩ := start
      · dsimp only at heard ⊢
        rw [heard]
      · cases heard

/-- A run whose reader is gone at a check is cut off there. -/
theorem execute_of_gone (heard : hear (runner.checks mode id inputs depth session) sink = (some check, last)) :
    ∃ attempt envelope,
      runner.execute (runner.nested depth) mode id inputs depth session sink = (attempt, check.session, last) ∧
        runner.contain (runner.nested depth) id inputs depth attempt check.session = (envelope, check.session) ∧
        CutOff id check envelope := by
  by_cases limit : runner.options.maxDepth ≤ depth
  · rw [checks, if_pos limit, hear_nil] at heard
    cases heard
  · rw [checks, if_neg limit] at heard
    rw [execute, if_neg limit]
    cases found : runner.catalog.get? id with
    | none =>
      rw [found, hear_nil] at heard
      cases heard
    | some pattern =>
      have own : pattern.id = id := runner.catalog.keyed found
      rw [found, hear_cons] at heard
      dsimp only
      rw [runPattern_eq_hear]
      cases start : hear [firstCheck pattern inputs depth session] sink with
      | mk gone middle =>
        rw [start] at heard
        cases gone with
        | none =>
          dsimp only at heard ⊢
          rw [heard]
          exact ⟨_, conclude pattern check.run (some .cancelled), rfl, rfl, own, rfl, rfl, rfl⟩
        | some first =>
          cases heard
          cases List.mem_singleton.mp (mem_of_hear start)
          exact ⟨_, .failure id .cancelled, rfl, rfl, rfl, rfl, rfl, rfl⟩

theorem guarded_of_heard (heard : hear (runner.checks mode id inputs depth session) sink = (none, last)) :
    runner.guarded (runner.nested depth) mode id inputs depth session sink =
      ((runner.contained mode id inputs depth session none).1,
        (runner.contained mode id inputs depth session none).2.account runner.audit
          (runner.contained mode id inputs depth session none).1 inputs depth, last) := by
  rw [guarded, execute_of_heard heard]
  rfl

theorem guarded_of_gone (heard : hear (runner.checks mode id inputs depth session) sink = (some check, last)) :
    ∃ envelope, CutOff id check envelope ∧
      runner.guarded (runner.nested depth) mode id inputs depth session sink =
        (envelope, check.session.account runner.audit envelope inputs depth, last) := by
  obtain ⟨attempt, envelope, ran, contained, cut⟩ := execute_of_gone heard
  refine ⟨envelope, cut, ?_⟩
  simp only [guarded, settle, ran, contained]

end Hearing

/-- A run that does not get to a pattern checks nothing, and fails. -/
theorem contained_of_refused (runner : Runner σ) (mode : StepMode) (inputs : Dict Json) (session : Session σ)
    (refused : runner.options.maxDepth ≤ depth ∨ runner.catalog.get? id = none) :
    runner.checks mode id inputs depth session = [] ∧
      ∃ error, runner.contained mode id inputs depth session none = (.failure id error, session) := by
  by_cases limit : runner.options.maxDepth ≤ depth
  · exact ⟨if_pos limit, _, contained_of_limit_le limit ..⟩
  · have missing := refused.resolve_left limit
    rw [checks, contained, execute, if_neg limit, if_neg limit, missing]
    exact ⟨rfl, .patternNotFound id, rfl⟩

theorem announce_eq (envelope : Envelope) (sink : Sink) :
    announce envelope sink = if sink.poll.1 then sink.poll.2 else (sink.poll.2.emit envelope.closing).2 := by
  unfold announce Envelope.closing
  cases envelope.error <;> rfl

/-- A stream that is read to its end: the envelope and the session are those of the run that nobody reads, and
the events are all that are offered, and the closing one. -/
theorem stream_never (runner : Runner σ) (id : String) (inputs : Dict Json) (mode : StepMode)
    (session : Session σ) :
    runner.stream id inputs mode .never session =
      ((runner.contained mode id inputs 0 session none).1,
        offered (runner.checks mode id inputs 0 session) ++
          [(runner.contained mode id inputs 0 session none).1.closing],
        (runner.contained mode id inputs 0 session none).2.account runner.audit
          (runner.contained mode id inputs 0 session none).1 inputs 0) := by
  rw [stream, guarded_of_heard (hear_never [] 0 _)]
  simp [announce_eq, Sink.poll, Sink.emit]

theorem stream_of_gone {n : Nat} {check : Check σ}
    (atCheck : (runner.checks mode id inputs 0 session)[n]? = some check) :
    ∃ envelope, CutOff id check envelope ∧
      runner.stream id inputs mode (.atCheck n) session =
        (envelope, offered ((runner.checks mode id inputs 0 session).take n),
          check.session.account runner.audit envelope inputs 0) := by
  have heard := hear_atCheck [] 0 n (runner.checks mode id inputs 0 session)
  rw [atCheck, Nat.zero_add] at heard
  obtain ⟨envelope, cut, ran⟩ := guarded_of_gone heard
  have within : n < (runner.checks mode id inputs 0 session).length := (List.getElem?_eq_some_iff.mp atCheck).1
  refine ⟨envelope, cut, ?_⟩
  rw [stream, ran]
  simp [announce_eq, Sink.poll, within]

/-- A stream whose reader leaves after its last check, or at one of the two for the closing event. -/
theorem stream_of_late {n : Nat} (late : (runner.checks mode id inputs 0 session).length ≤ n) :
    runner.stream id inputs mode (.atCheck n) session =
      ((runner.stream id inputs mode .never session).1,
        offered (runner.checks mode id inputs 0 session) ++
          (if n ≤ (runner.checks mode id inputs 0 session).length + 1 then []
            else [(runner.stream id inputs mode .never session).1.closing]),
        (runner.stream id inputs mode .never session).2.2) := by
  have heard := hear_atCheck [] 0 n (runner.checks mode id inputs 0 session)
  rw [List.getElem?_eq_none late, List.take_of_length_le late, Nat.zero_add, Nat.zero_add,
    Nat.min_eq_right (Nat.le_succ_of_le late), decide_eq_false (Nat.not_lt.mpr late)] at heard
  rw [stream_never, stream, guarded_of_heard heard]
  simp only [announce_eq, Sink.poll, Sink.emit, Option.getD_some, List.nil_append]
  by_cases atLook : n ≤ (runner.checks mode id inputs 0 session).length
  · simp [atLook, Nat.le_succ_of_le atLook]
  · by_cases atOffer : n ≤ (runner.checks mode id inputs 0 session).length + 1 <;> simp [atLook, atOffer]

end Runner

end Orchestra
