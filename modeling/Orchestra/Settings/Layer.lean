import Orchestra.Room
import Orchestra.Settings.Value

namespace Orchestra

namespace SettingValue

/-- The entries of a table; other values have none. -/
def entries : SettingValue → SettingTable
  | .table entries => entries
  | _ => []

/-- The items of a list; other values have none. -/
def items : SettingValue → List SettingValue
  | .list items => items
  | _ => []

end SettingValue

namespace SettingTable

mutual

/-- Writes a value under a name, in lower case. A table is merged into what is there, anything else takes its
place. -/
def put (table : SettingTable) (name : String) : SettingValue → SettingTable
  | .table inner =>
    let name := SettingValue.lowercase name
    Fields.insert table name (merge ((Fields.get? table name).getD (.table [])) inner)
  | value => Fields.insert table (SettingValue.lowercase name) value

/-- Merges entries into a value, which becomes a table with the first of them. -/
def merge (target : SettingValue) : List (String × SettingValue) → SettingValue
  | [] => target
  | (name, value) :: rest => merge (.table (put target.entries name value)) rest

end

end SettingTable

/-- A step down: an entry of a table, or an item of a list, counted from its end if negative. -/
inductive SettingStep where
  | entry (name : String)
  | item (index : Int)
deriving DecidableEq, Repr

/-- A way through tables and lists. -/
structure SettingPath where
  root : String
  steps : List SettingStep
deriving DecidableEq, Repr

namespace SettingStep

/-- The position in a list of this length. One before its start is out of reach. -/
def position (index : Int) (length : Nat) : Except RoomError Nat :=
  if 0 ≤ index then .ok index.toNat
  else if index.natAbs ≤ length then .ok (length - index.natAbs)
  else .error .beyondNumbers

/-- The room in bytes that each item of a list takes. -/
def itemRoom : Nat := 96

/-- Lengthens a list as far as it has to be for a position. -/
def lengthen (items : List SettingValue) (position : Nat) : Except RoomError (List SettingValue) := do
  if items.length ≤ position then
    Room.reserve (position + 1) itemRoom
    return items ++ List.replicate (position + 1 - items.length) .nil
  else return items

/-- Sets a value some steps below another, which becomes what the first step needs. -/
def set (value : SettingValue) : List SettingStep → SettingValue → Except RoomError SettingValue
  | [], _ => .ok value
  | [.entry name], target => .ok (.table (SettingTable.put target.entries name value))
  | .entry name :: rest, target => do
    let inner ← set value rest ((Fields.get? target.entries name).getD .nil)
    return .table (Fields.insert target.entries name inner)
  | .item index :: rest, target => do
    let position ← position index target.items.length
    let items ← lengthen target.items position
    let inner ← set value rest (items[position]?.getD .nil)
    return .list (items.set position inner)

end SettingStep

namespace SettingPath

def isNameChar (c : Char) : Bool := c.isAlphanum || c = '_' || c = '-' || c = ' '

def isBlank (c : Char) : Bool := c = ' ' || c = '\t'

/-- A name at the front of a text, in lower case, and the rest. -/
def name? (cs : List Char) : Option (String × List Char) :=
  let found := cs.takeWhile isNameChar
  if found.isEmpty then none
  else some (SettingValue.lowercase (String.ofList found), cs.dropWhile isNameChar)

/-- An index at the front of a text, with blanks around it, and the rest. -/
def index? (cs : List Char) : Option (Int × List Char) :=
  let cs := cs.dropWhile isBlank
  let (negative, cs) := match cs with
    | '-' :: rest => (true, rest)
    | cs => (false, cs)
  let digits := cs.takeWhile Char.isDigit
  (Literal.integer? (String.ofList (if negative then '-' :: digits else digits))).map fun n =>
    (n, (cs.dropWhile Char.isDigit).dropWhile isBlank)

/-- Steps up to the end of a text, which are at most as many as the fuel. -/
def steps? : Nat → List Char → Option (List SettingStep)
  | _, [] => some []
  | fuel + 1, '.' :: rest =>
    (name? rest).bind fun (name, rest) => (steps? fuel rest).map (.entry name :: ·)
  | fuel + 1, '[' :: rest =>
    match index? rest with
    | some (index, ']' :: rest) => (steps? fuel rest).map (.item index :: ·)
    | _ => none
  | _, _ => none

/-- The path that a name in a layer spells, if it spells one. -/
def read? (text : String) : Option SettingPath :=
  (name? text.toList).bind fun (root, rest) => (steps? rest.length rest).map (⟨root, ·⟩)

/-- Sets the value at a path. -/
def set (path : SettingPath) (value : SettingValue) (table : SettingTable) : Except RoomError SettingTable :=
  if path.steps.isEmpty then .ok (SettingTable.put table path.root value)
  else do
    let inner ← SettingStep.set value path.steps ((Fields.get? table path.root).getD .nil)
    return Fields.insert table path.root inner

end SettingPath

namespace SettingTable

/-- Sets the entries of a layer one after another, each at the path that its name spells. -/
def assign (table layer : SettingTable) : Except RoomError SettingTable :=
  layer.foldlM (fun table (name, value) =>
    match SettingPath.read? name with
    | some path => path.set value table
    | none => .ok (put table name value)) table

end SettingTable

end Orchestra
