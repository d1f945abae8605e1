import Orchestra.Json.Basic
import Orchestra.Calendar
import Orchestra.Room

namespace Orchestra

/-- What is remembered of one run. -/
structure RunRecord where
  timestamp : Int := 0
  success : Bool
  durationMs : Nat := 0
  patternId : String
  agentId : String
  error : Option String := none
deriving DecidableEq, Repr

def RunRecord.toJson (record : RunRecord) : Json :=
  .object [
    ("timestamp", .number (.int record.timestamp)),
    ("success", .bool record.success),
    ("duration_ms", .ofNat record.durationMs),
    ("pattern_id", .string record.patternId),
    ("agent_id", .string record.agentId),
    ("error", .ofString? record.error)]

/-- Counts by name. -/
abbrev Counts := Dict Nat

def Counts.bump (counts : Counts) (name : String) : Counts :=
  counts.insert name ((counts.get? name).getD 0 + 1)

/-- A buffer for the latest records, which holds at least one, and the sums over all records. -/
structure Telemetry where
  capacity : Nat
  buffer : List RunRecord := []
  total : Nat := 0
  successes : Nat := 0
  durationSum : Nat := 0
  byAgent : Counts := ∅
  byPattern : Counts := ∅
  lastTimestamp : Option Int := none

/-- The sums in presentable form. -/
structure TelemetrySummary where
  total : Nat
  successRate : Double
  averageMs : Nat
  byAgent : Counts
  byPattern : Counts
  lastExecution : Option String

namespace Telemetry

/-- The room in bytes that is set aside for each record of a buffer. -/
def recordRoom : Nat := 96

/-- Sets room aside for a buffer with this many records. -/
def reserve (capacity : Nat) : Except RoomError Unit := Room.reserve (max capacity 1) recordRoom

def empty (capacity : Nat) : Telemetry := { capacity := max capacity 1 }

/-- Adds a record to the sums and to the buffer, from which the oldest record goes when it is full. -/
def track (t : Telemetry) (record : RunRecord) : Telemetry where
  capacity := t.capacity
  buffer := (if t.capacity ≤ t.buffer.length then t.buffer.drop 1 else t.buffer) ++ [record]
  total := t.total + 1
  successes := if record.success then t.successes + 1 else t.successes
  durationSum := t.durationSum + record.durationMs
  byAgent := t.byAgent.bump record.agentId
  byPattern := t.byPattern.bump record.patternId
  lastTimestamp := some record.timestamp

/-- The share of successes, as the nearest double; zero if there is no record. -/
def successRate (t : Telemetry) : Double :=
  if t.total = 0 then .zero else (Double.ofNat t.successes).div (Double.ofNat t.total)

/-- The mean duration, rounded half away from zero; at most the greatest 64-bit number. -/
def averageMs (t : Telemetry) : Nat :=
  if t.total = 0 then 0
  else min ((Double.ofNat t.durationSum).div (Double.ofNat t.total)).roundNat (Nat.pow 2 64 - 1)

def summary (t : Telemetry) : TelemetrySummary where
  total := t.total
  successRate := t.successRate
  averageMs := t.averageMs
  byAgent := t.byAgent
  byPattern := t.byPattern
  lastExecution := t.lastTimestamp.bind Calendar.text?

/-- The latest records, at most this many, oldest first. -/
def recent (t : Telemetry) (n : Nat) : List RunRecord := t.buffer.drop (t.buffer.length - n)

def buffered (t : Telemetry) : Nat := t.buffer.length

end Telemetry

def Counts.toJson (counts : Counts) : Json := .object (counts.map Json.ofNat).entries

def TelemetrySummary.toJson (summary : TelemetrySummary) : Json :=
  .object [
    ("total_executions", .ofNat summary.total),
    ("success_rate", .number (.real summary.successRate)),
    ("avg_duration_ms", .ofNat summary.averageMs),
    ("by_agent", summary.byAgent.toJson),
    ("by_pattern", summary.byPattern.toJson),
    ("last_execution", .ofString? summary.lastExecution)]

end Orchestra
