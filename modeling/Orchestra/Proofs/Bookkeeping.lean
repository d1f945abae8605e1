import Orchestra.Run.Session

namespace Orchestra

variable {σ : Type}

/-- What an audit entry tells of a run is what its envelope tells. -/
structure AuditEntry.Tells (entry : AuditEntry) (envelope : Envelope) : Prop where
  kind : entry.kind = "pattern_run"
  patternId : entry.payload.field? "pattern_id" = some (.string envelope.patternId)
  success : entry.payload.field? "success" = some (.bool envelope.success)
  error : entry.payload.field? "error" = some (.ofString? envelope.errorText)
  fallback : entry.payload.field? "fallback_mode" = some (.bool envelope.fallback)
  recovery : entry.payload.field? "recovery_attempted" = some (.bool envelope.recovery)
  steps : entry.payload.field? "steps" =
    some (.array (envelope.trace.map fun record => record.toJson.canonical))
  warnings : entry.payload.field? "warnings" = some (.ofNat envelope.warnings.length)

/-- What a record of telemetry tells of a run is what its envelope tells. The run counts under the agent that its inputs
name, and under a fixed name if they name none. -/
structure RunRecord.Tells (record : RunRecord) (envelope : Envelope) (inputs : Dict Json) : Prop where
  patternId : record.patternId = envelope.patternId
  success : record.success = envelope.success
  error : record.error = envelope.errorText
  durationMs : record.durationMs = envelope.durationMs
  named : ∀ agent, inputs.get? "agent_id" = some (.string agent) → record.agentId = agent
  unnamed : (∀ agent, inputs.get? "agent_id" ≠ some (.string agent)) → record.agentId = "pattern_runner"

/-- What telemetry gains by records that come one after another. -/
structure Telemetry.Gains (before after : Telemetry) (records : List RunRecord) : Prop where
  capacity : after.capacity = before.capacity
  total : after.total = before.total + records.length
  /-- The buffer holds the latest records in their order; all of them, if there is room. -/
  buffer : after.buffer <:+ before.buffer ++ records
  room : before.buffer.length + records.length ≤ before.capacity → after.buffer = before.buffer ++ records
  last : ∀ record, records.getLast? = some record → after.buffer.getLast? = some record

theorem AuditEntry.tells_auditPayload (envelope : Envelope) (id : Nat) (now : Int := 0) :
    (AuditEntry.mk id "pattern_run" (Session.auditPayload envelope) now).Tells envelope := by
  have field (fields : Dict Json) (key : String) : (Json.object fields.entries).field? key = fields.get? key := rfl
  have error : (Json.ofString? envelope.errorText).canonical = .ofString? envelope.errorText := by
    cases envelope.errorText <;> simp [Json.ofString?, Json.canonical]
  have number (n : Nat) : (Json.ofNat n).canonical = .ofNat n := by simp [Json.ofNat, Json.canonical]
  constructor
  · rfl
  all_goals
    simp [Session.auditPayload, field, Json.canonicalFields, Json.canonical, Json.canonicalItems_eq_map, error,
      number, Dict.ofList, Dict.extend, Dict.get?_insert]

theorem RunRecord.tells_recordOf (envelope : Envelope) (inputs : Dict Json) :
    (Session.recordOf envelope inputs).Tells envelope inputs where
  patternId := rfl
  success := rfl
  error := rfl
  durationMs := rfl
  named agent given := by
    change Session.agentOf inputs = agent
    rw [Session.agentOf, given]
    rfl
  unnamed absent := by
    change Session.agentOf inputs = "pattern_runner"
    rw [Session.agentOf]
    cases given : inputs.get? "agent_id" with
    | none => rfl
    | some value =>
      cases value with
      | string agent => exact absurd given (absent agent)
      | _ => rfl

theorem Telemetry.Gains.track {before after : Telemetry} {records : List RunRecord}
    (gains : before.Gains after records) (record : RunRecord) :
    before.Gains (after.track record) (records ++ [record]) where
  capacity := gains.capacity
  total := by
    have one : (after.track record).total = after.total + 1 := rfl
    rw [one, gains.total, List.length_append, List.length_singleton, Nat.add_assoc]
  buffer := by
    have kept : (if after.capacity ≤ after.buffer.length then after.buffer.drop 1 else after.buffer) <:+
        before.buffer ++ records := by
      split
      · exact (List.drop_suffix 1 after.buffer).trans gains.buffer
      · exact gains.buffer
    rw [← List.append_assoc]
    exact List.suffix_append_inj_of_length_eq rfl |>.mpr ⟨kept, rfl⟩
  room fits := by
    rw [List.length_append, List.length_singleton] at fits
    have whole := gains.room (by omega)
    have space : ¬ after.capacity ≤ after.buffer.length := by
      rw [gains.capacity, whole, List.length_append]
      omega
    rw [Telemetry.track, if_neg space, whole, List.append_assoc]
  last other atLast := by
    rw [List.getLast?_concat] at atLast
    rw [← atLast]
    exact List.getLast?_concat ..

theorem Telemetry.gains_nil (telemetry : Telemetry) : telemetry.Gains telemetry [] where
  capacity := rfl
  total := rfl
  buffer := ⟨[], (List.append_nil _).symm⟩
  room _ := (List.append_nil _).symm
  last := nofun

namespace Session

variable (session : Session σ) (policy : AuditPolicy) (envelope : Envelope) (inputs : Dict Json) (depth : Nat)

@[simp] theorem account_handlers : (session.account policy envelope inputs depth).handlers = session.handlers := by
  unfold account
  split <;> rfl

@[simp] theorem account_gate : (session.account policy envelope inputs depth).gate = session.gate := by
  unfold account
  split <;> rfl

theorem account_telemetry : (session.account policy envelope inputs depth).telemetry =
    session.telemetry.track (recordOf envelope inputs) := by
  unfold account
  split <;> rfl

theorem account_audit : (session.account policy envelope inputs depth).audit =
    if depth = 0 ∧ policy = .working then
      session.audit.store session.audit.entries.length "pattern_run" (auditPayload envelope)
    else session.audit := by
  unfold account
  split <;> rfl

end Session

end Orchestra
