import Orchestra.Audit.Database
import Orchestra.Capability.Builtin
import Orchestra.Catalog.Directory
import Orchestra.Json.Text
import Orchestra.Run.Runner
import Orchestra.Settings.Loading

namespace Orchestra

/-- What a call of the program leaves its caller with. There is no exit code if the program is aborted. -/
structure CliOutcome where
  exitCode : Option Nat := some 0
  stdout : String := ""
  stderr : String := ""
deriving DecidableEq, Repr

/-- Why a call ends before its pattern is run. -/
inductive CliError where
  | inputs
  | settings (error : SettingsError)
  | patternsDirectory
  | pattern (error : PatternFileError)
  | telemetryRoom (error : RoomError)
  | auditDatabase
deriving DecidableEq, Repr

namespace CliError

def message : CliError → String
  | inputs => "Inputs must be a JSON object"
  | settings _ => "Failed to load config"
  | patternsDirectory => "Failed to load patterns directory"
  | pattern error => error.message
  | telemetryRoom error => error.message
  | auditDatabase => "Failed to open audit database"

/-- Room that cannot be had, if that is the cause. -/
def room? : CliError → Option RoomError
  | settings (.room error) => some error
  | telemetryRoom error => some error
  | _ => none

/-- Room that cannot be told in a number is a fault of the program, which has an exit code and a message form
of its own. Without memory the program is aborted. -/
def outcome (error : CliError) : CliOutcome :=
  match error.room? with
  | some .beyondNumbers => { exitCode := some 101, stderr := "\n" ++ RoomError.message .beyondNumbers ++ "\n" }
  | some (.beyondMemory bytes) => { exitCode := none, stderr := RoomError.message (.beyondMemory bytes) ++ "\n" }
  | none => { exitCode := some 1, stderr := "Error: " ++ error.message ++ "\n" }

end CliError

namespace Cli

/-- The capabilities that the program has, which keep no state. -/
def registry : Registry Unit := Builtin.registry

/-- A text filled up with blanks to a width. -/
def padded (width : Nat) (text : String) : String :=
  text ++ String.ofList (List.replicate (width - text.length) ' ')

/-- What the program says when it is called without a pattern. -/
def usage : String :=
  "usage: capflow <pattern-file> [inputs-json]\n\ncapabilities:\n" ++
    String.join (registry.descriptions.map fun (name, description) =>
      "  " ++ padded 16 name ++ " " ++ description ++ "\n")

/-- The variable that names a further file of settings. -/
def settingsVariable : String := "CAPFLOW_CONFIG"

/-- The inputs that an argument spells; without an argument there are none. -/
def inputsOf : Option String → Except CliError (Dict Json)
  | none => .ok ∅
  | some text =>
    match Json.read? text with
    | some (.object fields) => .ok (Dict.ofList fields)
    | _ => .error .inputs

/-- The gate that decides by the flags in what lies at a path. -/
def gateOf (flags : FlagSettings) (node : Option FileNode) : Gate :=
  let answer := FlagSource.fileAnswer flags.path (node.bind FileNode.text?)
  { source := ⟨fun _ => answer, 0⟩
    reload := if flags.reloadIntervalSecs = 0 then .always else .once }

/-- Everything that a run needs. -/
structure Job where
  runner : Runner Unit
  session : Session Unit
  patternId : String
  inputs : Dict Json
  audit : Option AuditDatabase

/-- Runs a job, and answers the envelope and the records for the audit database. -/
def Job.run (job : Job) : Envelope × List AuditEntry :=
  let (envelope, session) := job.runner.run job.patternId job.inputs job.session
  (envelope, session.audit.entries)

variable {m : Type → Type} [Monad m]

/-- Gets everything ready: inputs, settings, patterns, telemetry, flags and the audit database, in this
order. -/
def prepare (host : Host m) (patternPath : String) (inputs : Option String)
    (environment : List (String × String)) : ExceptT CliError m Job := do
  let inputs ← inputsOf inputs
  let settings ← ExceptT.mk do
    return (← Settings.load host (environment.lookup settingsVariable) environment).mapError .settings
  let (catalog, _) ← ExceptT.mk do
    return (← Catalog.loadFrom? .empty host settings.orchestrator.patternsDir).elim
      (.error .patternsDirectory) .ok
  let pattern ← ExceptT.mk do
    return (Pattern.ofNode patternPath (← host.look patternPath)).mapError .pattern
  ExceptT.mk (pure ((Telemetry.reserve settings.telemetryCapacity).mapError .telemetryRoom))
  let gate := gateOf settings.flags (← host.look settings.flags.path)
  let audit ← settings.auditPath.mapM fun path => ExceptT.mk do
    return (← AuditDatabase.open? host path).elim (.error .auditDatabase) .ok
  return {
    runner := {
      registry
      catalog := catalog.insert pattern
      options := settings.orchestrator.options
      audit := .working }
    session := { handlers := (), gate, telemetry := Telemetry.empty settings.telemetryCapacity }
    patternId := pattern.id
    inputs
    audit }

/-- What is printed of an envelope, and the exit code that tells its success. -/
def outcomeOf (envelope : Envelope) : CliOutcome where
  exitCode := some (if envelope.success then 0 else 1)
  stdout := envelope.toJson.pretty ++ "\n"

/-- Answers a call with these arguments in this environment. -/
def call (host : Host m) (arguments : List String) (environment : List (String × String)) :
    m CliOutcome := do
  match arguments with
  | [] => return { exitCode := some 2, stderr := usage }
  | patternPath :: rest =>
    match ← (prepare host patternPath rest.head? environment).run with
    | .error error => return error.outcome
    | .ok job =>
      let (envelope, records) := job.run
      if let some database := job.audit then
        database.add host records
        if envelope.success then database.close host
      return outcomeOf envelope

end Cli

end Orchestra
