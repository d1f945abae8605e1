import Orchestra.Telemetry

namespace Orchestra

theorem Counts.bump_comm (counts : Counts) (name other : String) :
    (counts.bump name).bump other = (counts.bump other).bump name := by
  refine Dict.eq_of_get?_eq fun key => ?_
  by_cases same : name = other
  · rw [same]
  · simp only [Counts.bump, Dict.get?_insert]
    grind

/-- Two telemetries with the same sums over all their records. -/
structure Telemetry.SameSums (left right : Telemetry) : Prop where
  total : left.total = right.total
  successes : left.successes = right.successes
  durationSum : left.durationSum = right.durationSum
  byAgent : left.byAgent = right.byAgent
  byPattern : left.byPattern = right.byPattern

namespace Telemetry

variable {left right : Telemetry}

theorem SameSums.trans {middle : Telemetry} (first : left.SameSums middle) (second : middle.SameSums right) :
    left.SameSums right where
  total := first.total.trans second.total
  successes := first.successes.trans second.successes
  durationSum := first.durationSum.trans second.durationSum
  byAgent := first.byAgent.trans second.byAgent
  byPattern := first.byPattern.trans second.byPattern

theorem SameSums.track (same : left.SameSums right) (record : RunRecord) :
    (left.track record).SameSums (right.track record) := by
  obtain ⟨total, successes, durationSum, byAgent, byPattern⟩ := same
  constructor <;> simp only [Telemetry.track, *]

theorem sameSums_track_comm (telemetry : Telemetry) (record other : RunRecord) :
    ((telemetry.track record).track other).SameSums ((telemetry.track other).track record) where
  total := rfl
  successes := by
    simp only [Telemetry.track]
    split <;> split <;> rfl
  durationSum := Nat.add_right_comm ..
  byAgent := Counts.bump_comm ..
  byPattern := Counts.bump_comm ..

theorem SameSums.foldl (same : left.SameSums right) (records : List RunRecord) :
    (records.foldl Telemetry.track left).SameSums (records.foldl Telemetry.track right) := by
  induction records generalizing left right with
  | nil => exact same
  | cons record rest ih => exact ih (same.track record)

/-- Records in any order come to the same sums. -/
theorem SameSums.foldl_perm {records others : List RunRecord} (perm : records.Perm others)
    (same : left.SameSums right) :
    (records.foldl Telemetry.track left).SameSums (others.foldl Telemetry.track right) := by
  induction perm generalizing left right with
  | nil => exact same
  | cons record _ ih => exact ih (same.track record)
  | swap record other rest =>
    have swapped := (sameSums_track_comm left other record).trans ((same.track record).track other)
    exact swapped.foldl rest
  | trans _ _ ih ih' => exact (ih same).trans (ih' ⟨rfl, rfl, rfl, rfl, rfl⟩)

end Telemetry

end Orchestra
