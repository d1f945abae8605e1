import Mathlib.Data.List.DropRight
import Orchestra.Proofs.Tally

namespace Orchestra

/-- The records of a history with this name are counted under it, and there are no other counts. -/
def Counts.Count (counts : Counts) (name : RunRecord → String) (history : List RunRecord) : Prop :=
  ∀ id, counts.get? id =
    if history.countP (name · = id) = 0 then none else some (history.countP (name · = id))

theorem Counts.Count.bump {counts : Counts} {name : RunRecord → String} {history : List RunRecord}
    (exact : counts.Count name history) (record : RunRecord) :
    (counts.bump (name record)).Count name (history ++ [record]) := by
  intro id
  rw [Counts.bump, Dict.get?_insert, List.countP_append, List.countP_singleton]
  by_cases same : name record = id
  · subst same
    rw [if_pos rfl, exact]
    by_cases none : history.countP (name · = name record) = 0
    · simp [none]
    · simp [none]
  · simp [same, exact id]

/-- The sum of all counts. -/
def Counts.sum (counts : Counts) : Nat := counts.values.foldr (· + ·) 0

theorem Counts.sum_bump (counts : Counts) (name : String) : (counts.bump name).sum = counts.sum + 1 := by
  obtain ⟨entries, ascending⟩ := counts
  change ((Fields.insert entries name ((Fields.get? entries name).getD 0 + 1)).map Prod.snd).foldr (· + ·) 0 =
    (entries.map Prod.snd).foldr (· + ·) 0 + 1
  induction entries with
  | nil => rfl
  | cons entry rest ih =>
    obtain ⟨k, v⟩ := entry
    have later := ih (List.pairwise_cons.mp ascending).2
    by_cases same : k = name
    · subst same
      simp only [Fields.insert, Fields.get?, String.lt_irrefl, if_true, if_false, Option.getD_some, List.map_cons,
        List.foldr_cons]
      omega
    · by_cases lower : name < k
      · have absent : Fields.get? rest name = none :=
          Fields.get?_of_ascending ascending fun upper => String.lt_irrefl k (String.lt_trans upper lower)
        simp only [Fields.insert, Fields.get?, lower, same, absent, if_true, if_false, Option.getD_none, List.map_cons,
          List.foldr_cons]
        omega
      · simp only [Fields.insert, Fields.get?, lower, same, Ne.symm same, if_false, List.map_cons, List.foldr_cons]
        omega

namespace Telemetry

/-- What a telemetry holds of a history. -/
structure Holds (t : Telemetry) (history : List RunRecord) : Prop where
  buffer : t.buffer = history.rtake t.capacity
  total : t.total = history.length
  successes : t.successes = history.countP (·.success)
  durationSum : t.durationSum = history.foldl (fun sum record => sum + record.durationMs) 0
  byAgent : t.byAgent.Count (·.agentId) history
  byPattern : t.byPattern.Count (·.patternId) history
  agents : t.byAgent.sum = history.length
  patterns : t.byPattern.sum = history.length
  lastTimestamp : t.lastTimestamp = history.getLast?.map (·.timestamp)

variable {t : Telemetry} {history : List RunRecord}

theorem holds_empty (capacity : Nat) : (empty capacity).Holds [] where
  buffer := by rw [List.rtake_nil]; rfl
  total := rfl
  successes := rfl
  durationSum := rfl
  byAgent _ := rfl
  byPattern _ := rfl
  agents := rfl
  patterns := rfl
  lastTimestamp := rfl

theorem Holds.length_buffer (holds : t.Holds history) : t.buffer.length = min history.length t.capacity := by
  rw [holds.buffer, List.rtake, List.length_drop]
  omega

/-- The oldest record makes room for the newest one. -/
theorem Holds.buffer_track (holds : t.Holds history) (room : 0 < t.capacity) (record : RunRecord) :
    (t.track record).buffer = (history ++ [record]).rtake t.capacity := by
  obtain ⟨capacity, equal⟩ := Nat.exists_eq_succ_of_ne_zero (Nat.ne_of_gt room)
  have length := holds.length_buffer
  have kept : (if t.capacity ≤ t.buffer.length then t.buffer.drop 1 else t.buffer) = history.rtake capacity := by
    rw [equal] at length ⊢
    split
    next full =>
      have place : history.length - (capacity + 1) + 1 = history.length - capacity := by omega
      rw [holds.buffer, equal, List.rtake, List.drop_drop, place, List.rtake]
    next space =>
      have place : history.length - (capacity + 1) = history.length - capacity := by omega
      rw [holds.buffer, equal, List.rtake, place, List.rtake]
  rw [track, kept, equal, List.rtake_concat_succ]

theorem Holds.track (holds : t.Holds history) (room : 0 < t.capacity) (record : RunRecord) :
    (t.track record).Holds (history ++ [record]) where
  buffer := holds.buffer_track room record
  total := by
    rw [List.length_append, ← holds.total]
    rfl
  successes := by
    rw [List.countP_append, List.countP_singleton, ← holds.successes]
    simp only [Telemetry.track]
    split <;> rfl
  durationSum := by
    rw [List.foldl_append, ← holds.durationSum]
    rfl
  byAgent := holds.byAgent.bump record
  byPattern := holds.byPattern.bump record
  agents := by
    rw [List.length_append, ← holds.agents]
    exact Counts.sum_bump ..
  patterns := by
    rw [List.length_append, ← holds.patterns]
    exact Counts.sum_bump ..
  lastTimestamp := by
    rw [List.getLast?_concat]
    rfl

/-- The telemetry of a whole history. -/
def ofHistory (capacity : Nat) (history : List RunRecord) : Telemetry := history.foldl Telemetry.track (empty capacity)

theorem Holds.foldl (holds : t.Holds history) (room : 0 < t.capacity) (later : List RunRecord) :
    (later.foldl Telemetry.track t).Holds (history ++ later) ∧
      (later.foldl Telemetry.track t).capacity = t.capacity := by
  induction later generalizing t history with
  | nil => exact ⟨by rwa [List.append_nil], rfl⟩
  | cons record rest ih =>
    have next := ih (holds.track room record) room
    rwa [List.append_assoc] at next

/-- Telemetries with the same sums have the same summary, but for the last moment. -/
theorem SameSums.summary {left right : Telemetry} (same : left.SameSums right) :
    left.summary = { right.summary with lastExecution := left.summary.lastExecution } := by
  obtain ⟨total, successes, durationSum, byAgent, byPattern⟩ := same
  simp only [Telemetry.summary, Telemetry.successRate, Telemetry.averageMs, total, successes, durationSum, byAgent,
    byPattern]

/-- What telemetry tells is exact for the history that was tracked, whatever has left the buffer. -/
structure ExactFor (capacity : Nat) (history : List RunRecord) : Prop where
  buffer : (ofHistory capacity history).buffer = history.rtake (min history.length (max capacity 1))
  buffered : (ofHistory capacity history).buffered = min history.length (max capacity 1)
  recent : ∀ n, (ofHistory capacity history).recent n = history.rtake (min n (ofHistory capacity history).buffered)
  total : (ofHistory capacity history).summary.total = history.length
  byAgent : (ofHistory capacity history).summary.byAgent.Count (·.agentId) history
  byPattern : (ofHistory capacity history).summary.byPattern.Count (·.patternId) history
  agents : (ofHistory capacity history).summary.byAgent.sum = history.length
  patterns : (ofHistory capacity history).summary.byPattern.sum = history.length
  successRate : (ofHistory capacity history).summary.successRate =
    if history = [] then .zero else (Double.ofNat (history.countP (·.success))).div (Double.ofNat history.length)
  averageMs : (ofHistory capacity history).summary.averageMs =
    if history = [] then 0
    else min ((Double.ofNat (history.foldl (fun sum record => sum + record.durationMs) 0)).div
      (Double.ofNat history.length)).roundNat (Nat.pow 2 64 - 1)
  lastExecution : (ofHistory capacity history).summary.lastExecution =
    history.getLast?.bind fun record => Calendar.text? record.timestamp
  /-- In another order, the records come to the same summary but for the last moment. -/
  permuted : ∀ permuted, history.Perm permuted → (ofHistory capacity permuted).summary =
    { (ofHistory capacity history).summary with
      lastExecution := (ofHistory capacity permuted).summary.lastExecution }
  /-- The size of the buffer makes no difference to the summary. -/
  uncapped : ∀ other, (ofHistory other history).summary = (ofHistory capacity history).summary

theorem ofHistory_holds (capacity : Nat) (history : List RunRecord) : (ofHistory capacity history).Holds history ∧
    (ofHistory capacity history).capacity = max capacity 1 :=
  (holds_empty capacity).foldl (Nat.lt_of_lt_of_le Nat.one_pos (Nat.le_max_right ..)) history

theorem lastExecution_ofHistory (capacity : Nat) (history : List RunRecord) :
    (ofHistory capacity history).summary.lastExecution =
      history.getLast?.bind fun record => Calendar.text? record.timestamp := by
  rw [summary, (ofHistory_holds capacity history).1.lastTimestamp, Option.bind_map]
  rfl

theorem empty_sameSums (capacity other : Nat) : (empty capacity).SameSums (empty other) := ⟨rfl, rfl, rfl, rfl, rfl⟩

/-- The buffer retains the latest records only, while counts, sums and the last moment are those of all records that
were ever tracked. -/
theorem exact_under_eviction (capacity : Nat) (history : List RunRecord) : ExactFor capacity history := by
  obtain ⟨holds, width⟩ := ofHistory_holds capacity history
  have buffered : (ofHistory capacity history).buffered = min history.length (max capacity 1) := by
    rw [← width]
    exact holds.length_buffer
  constructor
  · rw [holds.buffer, width, List.rtake, List.rtake]
    congr 1
    omega
  · exact buffered
  · intro n
    have length : (ofHistory capacity history).buffer.length = min history.length (max capacity 1) := buffered
    rw [recent, buffered, length, holds.buffer, width, List.rtake, List.rtake, List.drop_drop]
    congr 1
    omega
  · exact holds.total
  · exact holds.byAgent
  · exact holds.byPattern
  · exact holds.agents
  · exact holds.patterns
  · simp only [summary, successRate, holds.total, holds.successes, List.length_eq_zero_iff]
  · simp only [summary, Telemetry.averageMs, holds.total, holds.durationSum, List.length_eq_zero_iff]
  · exact lastExecution_ofHistory capacity history
  · intro permuted perm
    exact ((empty_sameSums capacity capacity).foldl_perm perm.symm).summary
  · intro other
    have sums : (ofHistory other history).SameSums (ofHistory capacity history) :=
      (empty_sameSums other capacity).foldl history
    rw [sums.summary, lastExecution_ofHistory, ← lastExecution_ofHistory capacity]

end Telemetry

end Orchestra
