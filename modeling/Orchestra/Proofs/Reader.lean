import Orchestra.Run.Loop

namespace Orchestra

variable {σ : Type}

/-- Nobody was found to have left: there is no reader, or one who was there at every check. -/
def Attended (sink : Option Sink) : Prop := ∀ present, sink = some present → present.closed = false

theorem Sink.poll_open {sink : Sink} (still : sink.poll.2.closed = false) :
    sink.poll.1 = false ∧ sink.closed = false :=
  ⟨still, (Bool.or_eq_false_iff.mp still).1⟩

/-- An offer that leaves the sink open has found it open, and is taken. -/
theorem Sink.emit_open {sink : Sink} {event : Event} (still : (sink.emit event).2.closed = false) :
    (sink.emit event).1 = true ∧ sink.closed = false := by
  obtain ⟨departure, accepted, checks, closed⟩ := sink
  cases closed with
  | true => simp [Sink.emit] at still
  | false =>
    refine ⟨?_, rfl⟩
    unfold Sink.emit at still ⊢
    cases departure <;> grind

/-- What remains of a live run after a look at its reader, or after an offer that was taken or not. -/
structure Live.Heard (live : Live σ) (taken : Bool) (after : Live σ) : Prop where
  run : after.run = live.run
  session : after.session = live.session
  kept : Attended after.sink → taken = true ∧ Attended live.sink

theorem Live.Heard.trans {live middle after : Live σ} {first taken : Bool}
    (before : live.Heard first middle) (later : middle.Heard taken after) : live.Heard taken after where
  run := later.run.trans before.run
  session := later.session.trans before.session
  kept attended := ⟨(later.kept attended).1, (before.kept (later.kept attended).2).2⟩

theorem Live.Heard.unattended {live after : Live σ} (heard : live.Heard false after) : ¬ Attended after.sink :=
  fun attended => Bool.false_ne_true (heard.kept attended).1

theorem Live.heard_self (live : Live σ) : live.Heard true live := ⟨rfl, rfl, fun attended => ⟨rfl, attended⟩⟩

theorem Live.emit_heard {live after : Live σ} {event : Event} {taken : Bool}
    (offer : live.emit event = (taken, after)) : live.Heard taken after := by
  obtain ⟨run, session, _ | sink⟩ := live
  · cases offer
    exact Live.heard_self _
  · cases offer
    refine ⟨rfl, rfl, fun attended => ?_⟩
    obtain ⟨taken, still⟩ := Sink.emit_open (attended _ rfl)
    refine ⟨taken, fun _ same => ?_⟩
    cases same
    exact still

theorem Live.emitIf_heard {live after : Live σ} {audible : Bool} {event : Event} {taken : Bool}
    (offer : live.emitIf audible event = (taken, after)) : live.Heard taken after := by
  cases audible with
  | false =>
    cases offer
    exact live.heard_self
  | true => exact Live.emit_heard offer

theorem Live.poll_heard {live after : Live σ} {closed : Bool} (look : live.poll = (closed, after)) :
    live.Heard (!closed) after := by
  obtain ⟨run, session, _ | sink⟩ := live
  · cases look
    exact Live.heard_self _
  · cases look
    refine ⟨rfl, rfl, fun attended => ?_⟩
    obtain ⟨there, still⟩ := Sink.poll_open (attended _ rfl)
    refine ⟨congrArg (!·) there, fun _ same => ?_⟩
    cases same
    exact still

end Orchestra
