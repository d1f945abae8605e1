import Orchestra.Capability.Scripted
import Orchestra.Proofs.Act

namespace Orchestra

variable {σ : Type}

/-- What a call answers if it does not fail. -/
inductive CapabilityAnswer where
  | output (entries : Dict Json)
  | stream (chunks : List Chunk)

abbrev CallResult := Except CallError CapabilityAnswer

/-- What is known of some calls after them: each with its result, and all that was logged. -/
structure CallHistory where
  results : List (Call × CallResult)
  log : List AuditLine

/-- The result of a call, and the lines that it logs. -/
def Registry.reply (registry : Registry σ) (s : σ) (call : Call) : CallResult × List AuditLine :=
  if call.streamed then
    let reply := registry.stream call.capability call.params call.context s
    (reply.result.map .stream, reply.log)
  else
    let reply := registry.execute call.capability call.params call.context s
    (reply.result.map .output, reply.log)

/-- Makes calls one after another, each in the state in which those before it leave the handlers. -/
def Registry.history (registry : Registry σ) : List Call → σ → CallHistory
  | [], _ => ⟨[], []⟩
  | call :: rest, s =>
    let later := registry.history rest (registry.perform s call)
    ⟨(call, (registry.reply s call).1) :: later.results, (registry.reply s call).2 ++ later.log⟩

/-- A text is shown as it is if it has at most this many characters, else by so many from its beginning, and dots. -/
inductive Shows (limit : Nat) : String → String → Prop
  | whole {text : String} : text.length ≤ limit → Shows limit text text
  | cut {beginning rest : String} : beginning.length = limit → rest ≠ "" →
      Shows limit (beginning ++ rest) (beginning ++ "...")

/-- A result in short: whether it is an answer, and a word for it. -/
inductive InShort : CallResult → Bool → String → Prop
  | ok (answer : CapabilityAnswer) : InShort (.ok answer) true "ok"
  | failed (capability handler reason : String) : InShort (.error (.failed capability handler reason)) false "error"
  | panicked (capability handler reason : String) :
      InShort (.error (.panicked capability handler reason)) false "panic"

/-- A line tells of a call and of its result. -/
structure AuditLine.Reports (line : AuditLine) (call : Call) (result : CallResult) : Prop where
  event : line.toJson.field? "event" = some (.string "capability_audit")
  capability : line.toJson.field? "capability" = some (.string call.capability)
  outcome : ∃ ok word, InShort result ok word ∧ line.toJson.field? "ok" = some (.bool ok) ∧
    line.toJson.field? "outcome" = some (.string word)
  preview : ∃ preview, Shows 200 call.params.compact preview ∧
    line.toJson.field? "params_preview" = some (.string preview)

/-- The log has one line for each call that is to be logged, in the order of the calls, and no others. -/
inductive Trail (logs : Call → Bool) : List (Call × CallResult) → List AuditLine → Prop
  | nil : Trail logs [] []
  | reported {call result line results lines} : logs call = true → line.Reports call result →
      Trail logs results lines → Trail logs ((call, result) :: results) (line :: lines)
  | silent {call result results lines} : logs call = false → Trail logs results lines →
      Trail logs ((call, result) :: results) lines

/-- What a registry logs of calls, and what it leaves out. -/
structure Registry.Audited (registry : Registry σ) (calls : List Call) (history : CallHistory) : Prop where
  answered : history.results.map Prod.fst = calls
  logged : Trail (fun call => registry.has call.capability && !call.streamed) history.results history.log
  /-- Every call of a registered name is logged if and only if none of them is for a stream. -/
  complete_iff : Trail (fun call => registry.has call.capability) history.results history.log ↔
    ∀ call ∈ calls, registry.has call.capability = true → call.streamed = false

theorem shows_shorten (limit : Nat) (text : String) : Shows limit text (shorten limit text) := by
  unfold shorten
  split
  next long =>
    have whole : String.ofList (text.toList.take limit) ++ String.ofList (text.toList.drop limit) = text := by
      rw [← String.ofList_append, List.take_append_drop, String.ofList_toList]
    have more : text.toList.drop limit ≠ [] := by
      rw [ne_eq, List.drop_eq_nil_iff, String.length_toList]
      omega
    have cut : Shows limit (String.ofList (text.toList.take limit) ++ String.ofList (text.toList.drop limit))
        (String.ofList (text.toList.take limit) ++ "...") := by
      refine .cut ?_ fun none => more (by simpa using none)
      rw [String.length_ofList, List.length_take, String.length_toList]
      omega
    rwa [whole] at cut
  next short => exact .whole (Nat.le_of_not_lt short)

section Trail

variable {logs others : Call → Bool} {results : List (Call × CallResult)} {lines : List AuditLine}

theorem Trail.length_eq (trail : Trail logs results lines) : lines.length = (results.map Prod.fst).countP logs := by
  induction trail with
  | nil => rfl
  | reported logged _ _ ih => rw [List.length_cons, List.map_cons, List.countP_cons_of_pos logged, ih]
  | silent unlogged _ ih => rw [List.map_cons, List.countP_cons_of_neg (Bool.eq_false_iff.mp unlogged), ih]

theorem Trail.congr (trail : Trail logs results lines)
    (same : ∀ call ∈ results.map Prod.fst, logs call = others call) : Trail others results lines := by
  induction trail with
  | nil => exact .nil
  | reported logged reports _ ih =>
    obtain ⟨here, later⟩ := List.forall_mem_cons.mp same
    exact .reported (here ▸ logged) reports (ih later)
  | silent unlogged _ ih =>
    obtain ⟨here, later⟩ := List.forall_mem_cons.mp same
    exact .silent (here ▸ unlogged) (ih later)

end Trail

namespace Registry

variable {registry : Registry σ} {call : Call} {s : σ}

theorem has_eq (registry : Registry σ) (name : String) : registry.has name = (registry.get? name).isSome := rfl

/-- However the work of a handler ends, the line of the call tells of it. -/
theorem reports_settle (call : Call) (handler : Handler σ) (ending : Ending (Dict Json)) :
    AuditLine.Reports ⟨call.capability, .of (settle call.capability handler ending), paramsPreview call.params⟩ call
      ((settle call.capability handler ending).map .output) where
  event := rfl
  capability := rfl
  outcome := by
    cases ending with
    | done answer => exact ⟨true, "ok", .ok (.output answer), rfl, rfl⟩
    | failed => exact ⟨false, "error", .failed .., rfl, rfl⟩
    | panicked => exact ⟨false, "panic", .panicked .., rfl, rfl⟩
  preview := ⟨_, shows_shorten 200 call.params.compact, rfl⟩

/-- Streams are not logged, and neither are calls of unknown names. -/
theorem reply_silent (unlogged : (registry.has call.capability && !call.streamed) = false) :
    (registry.reply s call).2 = [] := by
  unfold reply
  split
  next =>
    unfold stream
    split <;> rfl
  next plain =>
    have unknown : registry.get? call.capability = none := by
      simpa [has_eq, plain] using unlogged
    rw [execute, unknown]

theorem reply_reported (logged : (registry.has call.capability && !call.streamed) = true) :
    ∃ line, (registry.reply s call).2 = [line] ∧ line.Reports call (registry.reply s call).1 := by
  rw [Bool.and_eq_true, Bool.not_eq_true', has_eq, Option.isSome_iff_exists] at logged
  obtain ⟨⟨handler, found⟩, plain⟩ := logged
  rw [reply, if_neg (by simp [plain]), execute, found]
  exact ⟨_, rfl, reports_settle call handler _⟩

theorem answered_history (registry : Registry σ) (calls : List Call) (s : σ) :
    (registry.history calls s).results.map Prod.fst = calls := by
  induction calls generalizing s with
  | nil => rfl
  | cons call rest ih => rw [history, List.map_cons, ih]

/-- The log is the lines of the single calls, one after another. -/
theorem trail_history (registry : Registry σ) (calls : List Call) (s : σ) :
    Trail (fun call => registry.has call.capability && !call.streamed) (registry.history calls s).results
      (registry.history calls s).log := by
  induction calls generalizing s with
  | nil => exact .nil
  | cons call rest ih =>
    rw [history]
    cases logged : registry.has call.capability && !call.streamed with
    | true =>
      obtain ⟨line, told, reports⟩ := reply_reported logged
      rw [told]
      exact .reported logged reports (ih _)
    | false =>
      rw [reply_silent logged]
      exact .silent logged (ih _)

/-- As many lines as registered calls leave no room for a stream. -/
theorem not_streamed_of_complete {calls : List Call}
    (complete : Trail (fun call => registry.has call.capability) (registry.history calls s).results
      (registry.history calls s).log) (member : call ∈ calls) (known : registry.has call.capability = true) :
    call.streamed = false := by
  have counts := (registry.trail_history calls s).length_eq.symm.trans complete.length_eq
  rw [answered_history] at counts
  have all : (calls.filter fun call => registry.has call.capability).countP (fun call => !call.streamed) =
      (calls.filter fun call => registry.has call.capability).length := by
    rw [List.countP_filter, ← List.countP_eq_length_filter]
    simpa only [Bool.and_comm] using counts
  have plain := List.countP_eq_length.mp all call (List.mem_filter.mpr ⟨member, known⟩)
  rwa [Bool.not_eq_true'] at plain

/-- A call for an output leaves one line if its capability is registered, a call for a stream leaves none; so the log
misses nothing just as long as no registered capability is streamed. -/
theorem history_audited (registry : Registry σ) (calls : List Call) (s : σ) :
    registry.Audited calls (registry.history calls s) where
  answered := registry.answered_history calls s
  logged := registry.trail_history calls s
  complete_iff := by
    refine ⟨fun complete call member known => not_streamed_of_complete complete member known, fun plain => ?_⟩
    refine (registry.trail_history calls s).congr fun call member => ?_
    rw [answered_history] at member
    cases known : registry.has call.capability with
    | true => rw [plain call member known]; rfl
    | false => rfl

/-- A capability that always fails. -/
def quotes : Registry CallCounts :=
  (Registry.mk ∅).register "quotes" ((Script.fail ["quote service down"]).handler "quotes" "" 0)

def quoteCall (streamed : Bool) : Call := ⟨"quotes", .object [], {}, streamed⟩

/-- A call and a stream of one capability fail alike, and one line is logged. -/
theorem history_incomplete :
    let history := quotes.history [quoteCall false, quoteCall true] [0]
    quotes.has "quotes" = true ∧
      history.results = [quoteCall false, quoteCall true].map
        (·, .error (.failed "quotes" "fn:quotes" "quote service down")) ∧
      history.log = [⟨"quotes", .error, "\x7b\x7d"⟩] ∧
      ¬ Trail (fun call => quotes.has call.capability) history.results history.log := by
  refine ⟨by rfl, by rfl, by rfl, fun trail => ?_⟩
  have lengths : 1 = 2 := trail.length_eq
  contradiction

end Registry

end Orchestra
