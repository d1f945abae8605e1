import Orchestra.File.Host
import Orchestra.File.Name
import Orchestra.Json.Reader
import Orchestra.Settings.Reading
import Orchestra.Toml.Reader

namespace Orchestra

namespace SettingTable

/-- The layer that a text in a format spells. -/
def ofFormat? : FileFormat → String → Option SettingTable
  | .json, text =>
    match (Json.read? text).map SettingValue.ofJson with
    | some (.table entries) => some entries
    | _ => none
  | .toml, text =>
    match (Toml.read? text).bind fun entries => SettingValue.ofToml? (.table entries) with
    | some (.table entries) => some entries
    | _ => none

def variableStart : String := "capflow__"

/-- A name with a dot for each double underscore. -/
def dotted : List Char → List Char
  | '_' :: '_' :: rest => '.' :: dotted rest
  | c :: rest => c :: dotted rest
  | [] => []

/-- The entry that a variable stands for, if it is one of ours. -/
def ofVariable? (entry : String × String) : Option (String × SettingValue) :=
  let name := SettingValue.lowercase entry.1
  if name.startsWith variableStart then
    some (String.ofList (dotted (name.toList.drop variableStart.length)), .ofText entry.2)
  else none

/-- The layer of the environment. -/
def ofEnvironment (environment : List (String × String)) : SettingTable := environment.filterMap ofVariable?

end SettingTable

namespace Settings

/-- The file that is always looked for. -/
def defaultPath : String := "config/default.toml"

/-- The paths under which a file is looked for if it is not at its very path. -/
def otherPaths (path : String) : List String :=
  if (FileName.last? path).isNone then []
  else [FileName.bare path ++ ".toml", FileName.bare path ++ ".json"]

variable {m : Type → Type} [Monad m]

/-- The first of some paths where there is a file, with that file. Paths are looked up from the root of the
system on, and have to be short enough for that. -/
def firstFile? (host : Host m) : List String → m (Option (String × FileNode))
  | [] => return none
  | path :: rest => do
    let root ← host.rootLength
    if FileTree.pathBound ≤ (if path.startsWith "/" then 0 else root + 1) + path.utf8ByteSize then
      firstFile? host rest
    else match ← host.look path with
      | some (.file content) => return some (path, .file content)
      | _ => firstFile? host rest

/-- The layer of a file. It is empty if there is no file, one whose name tells no format, or one that holds no
text. -/
def layer (host : Host m) (path : String) : m (Except SettingsError SettingTable) := do
  match ← firstFile? host (path :: otherPaths path) with
  | none => return .ok []
  | some (found, node) =>
    match FileFormat.ofPath? found, node.text? with
    | some format, some text =>
      return (SettingTable.ofFormat? format text).elim (.error (.malformedFile found)) .ok
    | _, _ => return .ok []

/-- Loads the settings. Each layer is read when those before it are in place. -/
def load (host : Host m) (further : Option String) (environment : List (String × String)) :
    m (Except SettingsError Settings) := do
  let layers ← (defaultPath :: further.toList).mapM (layer host)
  let layers := layers ++ [.ok (SettingTable.ofEnvironment environment)]
  return do
    ofTable (← layers.foldlM (fun table layer => do (table.assign (← layer)).mapError .room) [])

end Settings

end Orchestra
