import Orchestra.Proofs.Descent
import Orchestra.Proofs.Moment
import Orchestra.Proofs.Played

namespace Orchestra

variable {σ : Type}

/-- A run at the top that acted up to this session is recorded there once, and leaves all else as it is. -/
structure Runner.RecordedOnce (runner : Runner σ) (inputs : Dict Json) (start before : Session σ)
    (envelope : Envelope) (after : Session σ) : Prop where
  handlers : after.handlers = before.handlers
  gate : after.gate = before.gate
  telemetry : after.telemetry = before.telemetry.track (Session.recordOf envelope inputs)
  /-- Telemetry has one record more, and that tells the envelope. -/
  counted : ∃ record : RunRecord, record.Tells envelope inputs ∧ before.telemetry.Gains after.telemetry [record]
  audit : after.audit = if runner.audit = .working then
    start.audit.store start.audit.entries.length "pattern_run" (Session.auditPayload envelope) else start.audit
  /-- The audit has one entry more than at the start, and that tells the envelope. -/
  audited : runner.audit = .working →
    ∃ entry, after.audit.entries = start.audit.entries ++ [entry] ∧ entry.Tells envelope

/-- What a stream comes to whose reader is gone at this check, and that would come to this envelope. -/
structure Runner.CutShort (runner : Runner σ) (mode : StepMode) (id : String) (inputs : Dict Json)
    (session : Session σ) (check : Check σ) (whole envelope : Envelope) (after : Session σ) : Prop where
  success : envelope.success = false
  errorText : envelope.errorText = some "Execution cancelled"
  trace : envelope.trace = check.run.trace
  state : envelope.state = check.run.state
  /-- The step that is told of last has its entry if it was over, and else it has none. -/
  entries : ∀ event n, check.event = some event → event.entries? = some n → envelope.trace.length = n
  complete : ∀ own, check.event = some (.patternComplete own) →
    envelope.trace = whole.trace ∧ envelope.state = whole.state
  /-- The check lies within what the run does if it is read to its end. -/
  earlier : runner.Acts ⟨id, 0, inputs⟩ session check.session
  later : runner.Acts ⟨id, 0, inputs⟩ check.session (runner.contained mode id inputs 0 session none).2
  recorded : runner.RecordedOnce inputs session check.session envelope after

/-- What a stream comes to whose reader is gone from the check of this number on. -/
structure Runner.Departed (runner : Runner σ) (mode : StepMode) (id : String) (inputs : Dict Json)
    (session : Session σ) (n : Nat) (envelope : Envelope) (events : List Event) (after : Session σ) : Prop where
  events_prefix : events <+: (runner.stream id inputs mode .never session).2.1
  trace_prefix : envelope.trace <+: (runner.stream id inputs mode .never session).1.trace
  /-- The state is that after the steps with an entry. -/
  state : ∀ pattern, 0 < runner.options.maxDepth → runner.catalog.get? id = some pattern →
    envelope.state = (runner.playedTo mode pattern inputs session envelope.trace.length).2.run.state
  /-- These are the checks of the run: all that a sink counts before the closing event. -/
  counted : (runner.guarded (runner.nested 0) mode id inputs 0 session (some {})).2.2.map Sink.checks =
    some (runner.checks mode id inputs 0 session).length
  gone : ∀ check, (runner.checks mode id inputs 0 session)[n]? = some check →
    events = offered ((runner.checks mode id inputs 0 session).take n) ∧
      (runner.guarded (runner.nested 0) mode id inputs 0 session (some { departure := .atCheck n })).2.2.map
        Sink.checks = some (n + 1) ∧
      runner.CutShort mode id inputs session check (runner.stream id inputs mode .never session).1 envelope after
  /-- A reader who is gone only at the closing event misses nothing else. -/
  late : (runner.checks mode id inputs 0 session).length ≤ n →
    envelope = (runner.stream id inputs mode .never session).1 ∧
      after = (runner.stream id inputs mode .never session).2.2 ∧
      runner.RecordedOnce inputs session (runner.contained mode id inputs 0 session none).2 envelope after

namespace Runner

variable {runner : Runner σ} {mode : StepMode} {id : String} {inputs : Dict Json} {session : Session σ}
  {pattern : Pattern} {check : Check σ} {context : CallContext}

theorem Acts.audit_eq {before after : Session σ} (acts : runner.Acts context before after)
    (deeper : ∀ id inputs (session : Session σ),
      (runner.runAtDepth id inputs (context.depth + 1) session).2.audit = session.audit) :
    after.audit = before.audit := by
  induction acts with
  | start => rfl
  | next _ act ih =>
    refine Eq.trans ?_ ih
    cases act with
    | ask => rfl
    | call => rfl
    | run id extra => exact deeper id _ _

/-- Runs below the top are not audited. -/
theorem runAtDepth_audit (runner : Runner σ) (id : String) (inputs : Dict Json) {depth : Nat} (below : 0 < depth)
    (session : Session σ) : (runner.runAtDepth id inputs depth session).2.audit = session.audit := by
  rw [runAtDepth_eq_contained, Session.account_audit, if_neg fun top => Nat.ne_of_gt below top.1]
  by_cases limit : runner.options.maxDepth ≤ depth
  · rw [contained_of_limit_le limit]
  · have deeper (id : String) (inputs : Dict Json) (session : Session σ) :
        (runner.runAtDepth id inputs (depth + 1) session).2.audit = session.audit :=
      runAtDepth_audit runner id inputs (Nat.succ_pos depth) session
    obtain ⟨middle, acts, same | ⟨recovery, panic, _, recovered⟩⟩ :=
      runner.contained_runs .evented id inputs depth session none
    · rw [same]
      exact acts.audit_eq deeper
    · exact (recovered.audit_eq deeper).trans (acts.audit_eq deeper)
termination_by runner.options.maxDepth - depth

theorem recordedOnce_of_acts {before : Session σ} (acts : runner.Acts ⟨id, 0, inputs⟩ session before)
    (envelope : Envelope) :
    runner.RecordedOnce inputs session before envelope (before.account runner.audit envelope inputs 0) := by
  have kept : before.audit = session.audit :=
    acts.audit_eq fun id inputs session => runner.runAtDepth_audit id inputs Nat.one_pos session
  have gained := before.telemetry.gains_nil.track (Session.recordOf envelope inputs)
  refine ⟨Session.account_handlers .., Session.account_gate .., Session.account_telemetry .., ?_, ?_,
    fun working => ?_⟩
  · rw [Session.account_telemetry]
    exact ⟨_, RunRecord.tells_recordOf envelope inputs, gained⟩
  · rw [Session.account_audit, kept]
    simp
  · rw [Session.account_audit, if_pos ⟨rfl, working⟩, kept]
    exact ⟨_, rfl, AuditEntry.tells_auditPayload envelope session.audit.entries.length⟩

theorem check_cases (below : 0 < runner.options.maxDepth) (known : runner.catalog.get? id = some pattern)
    (member : check ∈ runner.checks mode id inputs 0 session) :
    check = firstCheck pattern inputs 0 session ∨
      check ∈ runner.checksFrom (runner.nested 0) mode pattern.steps 0 (fresh pattern inputs 0 session).run
        session ∨
      check = ⟨some (.patternComplete id), (runner.played mode pattern inputs session).2.run,
        (runner.played mode pattern inputs session).2.session⟩ := by
  rw [checks_of_known below known] at member
  rcases List.mem_cons.mp member with first | later
  · exact .inl first
  · rcases List.mem_append.mp later with within | last
    · exact .inr (.inl within)
    · split at last
      · exact .inr (.inr (List.mem_singleton.mp last))
      · cases last

/-- The run at a check is that after the first steps, as many as the check's event tells. -/
theorem exists_playedTo (below : 0 < runner.options.maxDepth) (known : runner.catalog.get? id = some pattern)
    (calm : ∀ panic, ¬ runner.Breaks mode id inputs 0 session none panic)
    (member : check ∈ runner.checks mode id inputs 0 session) :
    check.run = (runner.playedTo mode pattern inputs session check.run.trace.length).2.run ∧
      (∀ event n, check.event = some event → event.entries? = some n → check.run.trace.length = n) ∧
      ∀ own, check.event = some (.patternComplete own) →
        check.run = (runner.played mode pattern inputs session).2.run := by
  rcases check_cases below known member with rfl | within | rfl
  · refine ⟨rfl, fun event n offer told => ?_, nofun⟩
    cases offer
    exact Option.some.inj told
  · obtain ⟨k, same, length, told⟩ := exists_take_of_mem within
    have count : check.run.trace.length = k := length.trans (Nat.zero_add k)
    refine ⟨count ▸ same, fun event n offer tells => ?_, fun own offer => ?_⟩
    · rw [told event offer, Nat.zero_add] at tells
      exact count.trans (Option.some.inj tells)
    · cases told _ offer
  · refine ⟨?_, fun event n offer told => ?_, fun _ _ => rfl⟩
    · rw [playedTo_length known calm]
    · cases offer
      cases told

theorem acts_of_check (below : 0 < runner.options.maxDepth) (known : runner.catalog.get? id = some pattern)
    (member : check ∈ runner.checks mode id inputs 0 session) :
    runner.Acts ⟨id, 0, inputs⟩ session check.session ∧
      runner.Acts ⟨id, 0, inputs⟩ check.session (runner.played mode pattern inputs session).2.session := by
  have here : (fresh pattern inputs 0 session).run.context = ⟨id, 0, inputs⟩ := by
    rw [← runner.catalog.keyed known]
    rfl
  have whole := runner.runSteps_acts mode pattern.steps 0 here
  rcases check_cases below known member with rfl | within | rfl
  · exact ⟨.start, whole⟩
  · exact acts_of_mem here within
  · exact ⟨whole, .start⟩

theorem CutOff.errorText {envelope : Envelope} (cut : CutOff id check envelope) :
    envelope.success = false ∧ envelope.errorText = some "Execution cancelled" := by
  rw [Envelope.success, Envelope.errorText, cut.error]
  exact ⟨rfl, rfl⟩

theorem known_of_check (member : check ∈ runner.checks mode id inputs 0 session) :
    0 < runner.options.maxDepth ∧ ∃ pattern, runner.catalog.get? id = some pattern := by
  unfold checks at member
  split at member
  · cases member
  next below =>
    split at member
    · cases member
    next pattern known => exact ⟨Nat.not_le.mp below, pattern, known⟩

theorem counted_never (runner : Runner σ) (mode : StepMode) (id : String) (inputs : Dict Json)
    (session : Session σ) :
    (runner.guarded (runner.nested 0) mode id inputs 0 session (some {})).2.2.map Sink.checks =
      some (runner.checks mode id inputs 0 session).length := by
  rw [guarded_of_heard (hear_never [] 0 _), Option.map_some, Nat.zero_add]

theorem counted_atCheck {n : Nat} (atCheck : (runner.checks mode id inputs 0 session)[n]? = some check) :
    (runner.guarded (runner.nested 0) mode id inputs 0 session (some { departure := .atCheck n })).2.2.map
      Sink.checks = some (n + 1) := by
  have heard := hear_atCheck [] 0 n (runner.checks mode id inputs 0 session)
  have within : n < (runner.checks mode id inputs 0 session).length := (List.getElem?_eq_some_iff.mp atCheck).1
  rw [atCheck, Nat.zero_add, Nat.zero_add, Nat.min_eq_left within] at heard
  obtain ⟨envelope, _, ran⟩ := guarded_of_gone heard
  rw [ran]
  rfl

theorem offered_take_isPrefix (checks : List (Check σ)) (n : Nat) (closing : List Event) :
    offered (checks.take n) <+: offered checks ++ closing :=
  ((List.take_prefix n checks).filterMap Check.event).trans (List.prefix_append ..)

theorem contained_of_calm_run (below : 0 < runner.options.maxDepth) (known : runner.catalog.get? id = some pattern)
    (calm : ∀ panic, ¬ runner.Breaks mode id inputs 0 session none panic) :
    (runner.contained mode id inputs 0 session none).1.trace =
        (runner.played mode pattern inputs session).2.run.trace ∧
      (runner.contained mode id inputs 0 session none).1.state =
        (runner.played mode pattern inputs session).2.run.state ∧
      (runner.contained mode id inputs 0 session none).2 = (runner.played mode pattern inputs session).2.session := by
  obtain ⟨error, ended⟩ := exists_error_of_calm known calm
  rw [contained_of_played below known ended]
  exact ⟨rfl, rfl, rfl⟩

theorem cutShort_of_cutOff {envelope : Envelope}
    (calm : ∀ panic, ¬ runner.Breaks mode id inputs 0 session none panic)
    (member : check ∈ runner.checks mode id inputs 0 session) (cut : CutOff id check envelope) :
    runner.CutShort mode id inputs session check (runner.contained mode id inputs 0 session none).1 envelope
      (check.session.account runner.audit envelope inputs 0) := by
  obtain ⟨below, pattern, known⟩ := known_of_check member
  obtain ⟨_, entries, complete⟩ := exists_playedTo below known calm member
  obtain ⟨trace, state, last⟩ := contained_of_calm_run below known calm
  obtain ⟨earlier, later⟩ := acts_of_check below known member
  obtain ⟨success, errorText⟩ := cut.errorText
  refine ⟨success, errorText, cut.trace, cut.state, fun event n offer told => ?_, fun own offer => ?_, earlier, ?_,
    recordedOnce_of_acts earlier envelope⟩
  · rw [cut.trace]
    exact entries event n offer told
  · rw [cut.trace, cut.state, complete own offer, trace, state]
    exact ⟨rfl, rfl⟩
  · rw [last]
    exact later

/-- Without a panic there is no recovery, so all that is done is done by the pattern itself. -/
theorem contained_acts_of_calm (calm : ∀ panic, ¬ runner.Breaks mode id inputs 0 session none panic) :
    runner.Acts ⟨id, 0, inputs⟩ session (runner.contained mode id inputs 0 session none).2 := by
  rcases runner.contain_acts id inputs 0 (runner.execute (runner.nested 0) mode id inputs 0 session none).1
      (runner.execute (runner.nested 0) mode id inputs 0 session none).2.1 with same | ⟨_, panic, _, panicked, _⟩
  · rw [contained, same]
    exact runner.execute_acts mode id inputs 0 session none
  · by_cases limit : runner.options.maxDepth ≤ 0
    · rw [execute_of_limit_le limit] at panicked
      cases panicked
    · exact absurd ((execute_panicked_iff (Nat.not_le.mp limit)).mp panicked) (calm panic)

/-- A stream whose reader is gone from some check on comes to what it would come to, as far as it got. -/
theorem stream_departed (runner : Runner σ) (id : String) (inputs : Dict Json) (mode : StepMode)
    (session : Session σ) (n : Nat) (calm : ∀ panic, ¬ runner.Breaks mode id inputs 0 session none panic) :
    runner.Departed mode id inputs session n (runner.stream id inputs mode (.atCheck n) session).1
      (runner.stream id inputs mode (.atCheck n) session).2.1
      (runner.stream id inputs mode (.atCheck n) session).2.2 := by
  cases atCheck : (runner.checks mode id inputs 0 session)[n]? with
  | none =>
    -- The reader is there until the run is over, so only the closing event can be missed.
    have late : (runner.checks mode id inputs 0 session).length ≤ n := List.getElem?_eq_none_iff.mp atCheck
    rw [stream_of_late late]
    refine ⟨?_, List.prefix_rfl, fun pattern below known => ?_, runner.counted_never mode id inputs session,
      fun check found => ?_, fun _ => ⟨rfl, rfl, ?_⟩⟩
    · rw [stream_never]
      refine (List.prefix_append_right_inj _).mpr ?_
      split
      · exact List.nil_prefix
      · exact List.prefix_rfl
    · obtain ⟨trace, state, _⟩ := contained_of_calm_run below known calm
      rw [stream_never]
      dsimp only
      rw [trace, state, playedTo_length known calm]
    · rw [atCheck] at found
      cases found
    · rw [stream_never]
      exact recordedOnce_of_acts (contained_acts_of_calm calm) _
  | some check =>
    obtain ⟨envelope, cut, ran⟩ := stream_of_gone atCheck
    have member : check ∈ runner.checks mode id inputs 0 session := List.mem_of_getElem? atCheck
    have within : n < (runner.checks mode id inputs 0 session).length := (List.getElem?_eq_some_iff.mp atCheck).1
    -- Whatever the check is, the run at that time is the one after the first steps.
    rw [ran]
    refine ⟨?_, ?_, fun pattern below known => ?_, runner.counted_never mode id inputs session, fun other found => ?_,
      fun late => absurd within (Nat.not_lt.mpr late)⟩
    · rw [stream_never]
      exact offered_take_isPrefix ..
    · obtain ⟨below, pattern, known⟩ := known_of_check member
      rw [stream_never, (contained_of_calm_run below known calm).1]
      dsimp only
      rw [cut.trace, (exists_playedTo below known calm member).1]
      exact runner.trace_take_isPrefix (runner.nested 0) mode pattern.steps 0 _ _
    · dsimp only
      rw [cut.state, cut.trace]
      exact congrArg Run.state (exists_playedTo below known calm member).1
    · cases atCheck.symm.trans found
      rw [stream_never]
      exact ⟨rfl, counted_atCheck atCheck, cutShort_of_cutOff calm member cut⟩

theorem stream_departed_halting :
    let runner : Runner Unit := { bare with catalog := .ofList [haltingPattern] }
    (∀ panic, ¬ runner.Breaks .evented "halting" ∅ 0 gatedSession none panic) ∧
      (runner.checks .evented "halting" ∅ 0 gatedSession).length = 10 ∧
      runner.Departed .evented "halting" ∅ gatedSession 9
        (runner.stream "halting" ∅ .evented (.atCheck 9) gatedSession).1
        (runner.stream "halting" ∅ .evented (.atCheck 9) gatedSession).2.1
        (runner.stream "halting" ∅ .evented (.atCheck 9) gatedSession).2.2 := by
  have calm (panic : Panic) : ¬ Runner.Breaks { bare with catalog := .ofList [haltingPattern] } .evented "halting"
      ∅ 0 gatedSession none panic := by
    have ended : (Runner.played { bare with catalog := .ofList [haltingPattern] } .evented haltingPattern ∅
        gatedSession).1 = some (.error (.stepHalted 2 "absent" "Capability not found: absent")) := by decide
    have known : (Catalog.ofList [haltingPattern]).get? "halting" = some haltingPattern := rfl
    rw [breaks_iff known, ended]
    nofun
  exact ⟨calm, by decide, stream_departed _ "halting" ∅ .evented gatedSession 9 calm⟩

end Runner

end Orchestra
