import Orchestra.Pattern.Basic
import Orchestra.Path
import Orchestra.State

namespace Orchestra

/-- How a state key is like the id of a panel. -/
inductive Likeness where
  | exact
  | trailing
  | leading
deriving DecidableEq, Repr

/-- The likeness of a key to an id: the id itself, or the id set off by an underscore at the end or at the
start, tried in this order. -/
def Likeness.of? (id key : String) : Option Likeness :=
  if key = id then some .exact
  else if ('_' :: id.toList).isSuffixOf key.toList then some .trailing
  else if (id.toList ++ ['_']).isPrefixOf key.toList then some .leading
  else none

/-- The keys that are like an id, in the order given. -/
def panelMatches (id : String) (keys : List String) : List (String × Likeness) :=
  keys.filterMap fun key => (Likeness.of? id key).map (key, ·)

/-- A finding about declared outputs. -/
inductive Warning where
  | missingKey (key : String) (available : List String)
  | orphanedPanel (panel : String) (available : List String)
  | ambiguousPanel (panel : String) (candidates : List String)
  | rootMissing (panel path root : String) (available : List String)
  | rootNotObject (panel path root : String)
deriving DecidableEq, Repr

namespace Warning

def kind : Warning → String
  | missingKey .. => "missing_key"
  | orphanedPanel .. => "orphaned_panel"
  | ambiguousPanel .. => "ambiguous_panel"
  | rootMissing .. | rootNotObject .. => "invalid_data_path"

/-- The declared key or the id of the panel. -/
def subject : Warning → String
  | missingKey key _ => key
  | orphanedPanel panel _ | ambiguousPanel panel _ | rootMissing panel .. | rootNotObject panel .. => panel

/-- The state keys that the finding is about. -/
def keys : Warning → List String
  | missingKey _ available | orphanedPanel _ available | rootMissing _ _ _ available => available
  | ambiguousPanel _ candidates => candidates
  | rootNotObject _ _ root => [root]

def listed (keys : List String) : String := "[" ++ ", ".intercalate keys ++ "]"

def message : Warning → String
  | missingKey key available =>
    "Declared output '" ++ key ++ "' not found in state; available keys: " ++ listed available
  | orphanedPanel panel available =>
    "Orphaned panel '" ++ panel ++ "': no state key matches; available keys: " ++ listed available
  | ambiguousPanel panel candidates =>
    "Ambiguous panel '" ++ panel ++ "': " ++ toString candidates.length ++ " state keys match " ++
      listed candidates ++ "; none selected"
  | rootMissing panel path root _ =>
    "Panel '" ++ panel ++ "' dataPath '" ++ path ++ "': root '" ++ root ++ "' not found in state"
  | rootNotObject panel path root =>
    "Panel '" ++ panel ++ "' dataPath '" ++ path ++ "': root '" ++ root ++ "' is not an object"

def toJson (warning : Warning) : Json :=
  .object [
    ("kind", .string warning.kind),
    ("subject", .string warning.subject),
    ("message", .string warning.message),
    ("keys", .ofStrings warning.keys)]

end Warning

/-- Follows segments through objects only. -/
def descendFields? : Json → List String → Option Json
  | value, [] => some value
  | value, segment :: rest => (value.field? segment).bind (descendFields? · rest)

namespace Panel

/-- The state keys that are like the panel's id. -/
def candidates (panel : Panel) (state : State) : List String :=
  (panelMatches panel.id state.keys).map Prod.fst

/-- What is wrong with the candidates of a panel. -/
def matchWarnings (panel : Panel) (state : State) : List Warning :=
  match panel.candidates state with
  | [] => [.orphanedPanel panel.id state.keys]
  | [_] => []
  | several => [.ambiguousPanel panel.id several]

/-- The first segment of a path and the others. -/
def splitPath (path : String) : String × List String :=
  match Path.segments path with
  | [] => ("", [])
  | root :: rest => (root, rest)

/-- What is wrong with a path: its root is no key of the state, or has segments below it and is no object. -/
def pathWarnings (panel : Panel) (path : String) (state : State) : List Warning :=
  let (root, rest) := splitPath path
  match state.get? root with
  | none => [.rootMissing panel.id path root state.keys]
  | some value =>
    if rest.isEmpty ∨ value.object?.isSome then [] else [.rootNotObject panel.id path root]

/-- The value at a path that goes through objects only. -/
def valueAt? (path : String) (state : State) : Option Json :=
  let (root, rest) := splitPath path
  (state.get? root).bind (descendFields? · rest)

def warnings (panel : Panel) (state : State) : List Warning :=
  panel.matchWarnings state ++ panel.dataPath.elim [] (panel.pathWarnings · state)

/-- The value of a panel: at its path if it has one, else under its only candidate. -/
def value? (panel : Panel) (state : State) : Option Json :=
  match panel.dataPath with
  | some path => valueAt? path state
  | none =>
    match panel.candidates state with
    | [key] => state.get? key
    | _ => none

end Panel

/-- Resolved outputs and what was found on the way. -/
structure Resolution where
  data : Dict Json
  warnings : List Warning

namespace Outputs

/-- The entries of the state under the declared keys, and a warning for each key that has none. -/
def resolveKeys (declared : List String) (state : State) : Resolution where
  data := .ofList (declared.filterMap fun key => (state.get? key).map (key, ·))
  warnings := (declared.filter (!state.contains ·)).map (.missingKey · state.keys)

/-- The values of the panels under their ids, the last one standing, and the warnings of all panels. -/
def resolvePanels (declared : List Panel) (state : State) : Resolution where
  data := .ofList (declared.filterMap fun panel => (panel.value? state).map (panel.id, ·))
  warnings := declared.flatMap (·.warnings state)

def resolve (outputs : Outputs) (state : State) : Resolution :=
  match outputs with
  | .panels declared => resolvePanels declared state
  | .keys declared => resolveKeys declared state
  | .mapping declared => resolveKeys declared.keys state

end Outputs

end Orchestra
