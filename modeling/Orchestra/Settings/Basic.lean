import Orchestra.Json.Record
import Orchestra.Run.Session

namespace Orchestra

structure OrchestratorSettings where
  maxDepth : Nat := 6
  metaPattern : Option String := some "meta"
  recoveryPattern : Option String := some "recovery"
  patternsDir : String := "patterns"
  runTimeoutSecs : Nat := 0
deriving DecidableEq, Repr

structure FlagSettings where
  path : String := "config/feature_flags.json"
  reloadIntervalSecs : Nat := 60
deriving DecidableEq, Repr

structure Settings where
  orchestrator : OrchestratorSettings := {}
  telemetryCapacity : Nat := 1000
  flags : FlagSettings := {}
  auditPath : Option String := none
deriving DecidableEq, Repr

namespace OrchestratorSettings

/-- The options of a runner; an empty id stands for none. -/
def options (settings : OrchestratorSettings) : RunnerOptions where
  maxDepth := settings.maxDepth
  metaPattern := settings.metaPattern.filter (· ≠ "")
  recoveryPattern := settings.recoveryPattern.filter (· ≠ "")

def form : RecordForm :=
  [["max_recursion_depth"], ["meta_pattern"], ["recovery_pattern"], ["patterns_dir"], ["run_timeout_secs"]]

/-- A natural number below `2 ^ 64`. -/
def count? : Document → Option Nat
  | .number (some (.int n)) => if 0 ≤ n then some n.toNat else none
  | _ => none

def read? (document : Document) : Option OrchestratorSettings :=
  open Document in
  match form.slots? false document with
  | some [maxDepth, metaPattern, recoveryPattern, patternsDir, runTimeoutSecs] => do
    let maxDepth ← optional? count? 6 maxDepth
    let metaPattern ← optional? (nullable? string?) (some "meta") metaPattern
    let recoveryPattern ← optional? (nullable? string?) (some "recovery") recoveryPattern
    let patternsDir ← optional? string? "patterns" patternsDir
    let runTimeoutSecs ← optional? count? 0 runTimeoutSecs
    return { maxDepth, metaPattern, recoveryPattern, patternsDir, runTimeoutSecs }
  | _ => none

/-- The settings that a value describes. -/
def ofJson? (value : Json) : Option OrchestratorSettings := read? (.ofJson value)

end OrchestratorSettings

end Orchestra
