import Orchestra.Settings.Basic
import Orchestra.Settings.Layer

namespace Orchestra

/-- Why there are no settings: a file that does not read, a list that gets too long, a value of the wrong type,
or something else in the place of a section. -/
inductive SettingsError where
  | malformedFile (path : String)
  | room (error : RoomError)
  | mistyped
  | noSection
deriving DecidableEq, Repr

namespace SettingValue

def readCount : SettingValue → Except SettingsError Nat
  | value => value.count?.elim (.error .mistyped) .ok

def readText : SettingValue → Except SettingsError String
  | value => value.text?.elim (.error .mistyped) .ok

/-- A text that may be missing. -/
def readOptionalText : SettingValue → Except SettingsError (Option String)
  | .nil => .ok none
  | value => value.readText.map some

end SettingValue

/-- Reads a value if there is one. -/
def SettingTable.orDefault {α : Type} (read : SettingValue → Except SettingsError α) (fallback : α) :
    Option SettingValue → Except SettingsError α
  | none => .ok fallback
  | some value => read value

/-- The values of named settings in a section, which is a table, a list of them in order, or left out. -/
def SettingTable.slots (names : List String) : Option SettingValue →
    Except SettingsError (List (Option SettingValue))
  | none => .ok (names.map fun _ => none)
  | some (.table entries) => .ok (names.map (Fields.get? entries))
  | some (.list items) => .ok ((List.range names.length).map (items[·]?))
  | some _ => .error .noSection

open SettingTable (orDefault)

def OrchestratorSettings.ofSection (found : Option SettingValue) :
    Except SettingsError OrchestratorSettings := do
  match ← SettingTable.slots OrchestratorSettings.form.flatten found with
  | [maxDepth, metaPattern, recoveryPattern, patternsDir, runTimeoutSecs] =>
    let defaults : OrchestratorSettings := {}
    let maxDepth ← orDefault SettingValue.readCount defaults.maxDepth maxDepth
    let metaPattern ← orDefault SettingValue.readOptionalText defaults.metaPattern metaPattern
    let recoveryPattern ← orDefault SettingValue.readOptionalText defaults.recoveryPattern recoveryPattern
    let patternsDir ← orDefault SettingValue.readText defaults.patternsDir patternsDir
    let runTimeoutSecs ← orDefault SettingValue.readCount defaults.runTimeoutSecs runTimeoutSecs
    return { maxDepth, metaPattern, recoveryPattern, patternsDir, runTimeoutSecs }
  | _ => .error .noSection

def FlagSettings.ofSection (found : Option SettingValue) : Except SettingsError FlagSettings := do
  match ← SettingTable.slots ["path", "reload_interval_secs"] found with
  | [path, reloadIntervalSecs] =>
    let defaults : FlagSettings := {}
    let path ← orDefault SettingValue.readText defaults.path path
    let reloadIntervalSecs ← orDefault SettingValue.readCount defaults.reloadIntervalSecs reloadIntervalSecs
    return { path, reloadIntervalSecs }
  | _ => .error .noSection

namespace Settings

def capacityOf (found : Option SettingValue) : Except SettingsError Nat := do
  match ← SettingTable.slots ["capacity"] found with
  | [capacity] => orDefault SettingValue.readCount ({} : Settings).telemetryCapacity capacity
  | _ => .error .noSection

/-- The path of the audit file. A list has to hold it. -/
def auditPathOf (found : Option SettingValue) : Except SettingsError (Option String) := do
  match found, ← SettingTable.slots ["sqlite_path"] found with
  | some (.list _), [none] => .error .noSection
  | _, [path] => orDefault SettingValue.readOptionalText none path
  | _, _ => .error .noSection

/-- The settings that a table spells; what it leaves out has its default. -/
def ofTable (table : SettingTable) : Except SettingsError Settings := do
  let orchestrator ← OrchestratorSettings.ofSection (Fields.get? table "orchestrator")
  let telemetryCapacity ← capacityOf (Fields.get? table "telemetry")
  let flags ← FlagSettings.ofSection (Fields.get? table "flags")
  let auditPath ← auditPathOf (Fields.get? table "audit")
  return { orchestrator, telemetryCapacity, flags, auditPath }

end Settings

end Orchestra
