import Orchestra.Toml.Value

namespace Orchestra

/-- A part of a document under construction. A table is implicit until a header names it, and dotted if the
dots of a key made it. -/
inductive TomlNode where
  | leaf (value : Toml)
  | table (implicit dotted : Bool) (entries : List (String × TomlNode))
  | tables (rows : List (List (String × TomlNode)))

/-- The entries of a table under construction. -/
abbrev TomlEntries := List (String × TomlNode)

/-- A dotted key and its value. -/
structure TomlPair where
  path : List String
  key : String
  value : Toml

namespace TomlNode

mutual

def finished : TomlNode → Toml
  | .leaf value => value
  | .table _ _ entries => .table (finishedEntries entries)
  | .tables rows => .array (finishedRows rows)

def finishedEntries : List (String × TomlNode) → List (String × Toml)
  | [] => []
  | (key, node) :: rest => (key, finished node) :: finishedEntries rest

def finishedRows : List (List (String × TomlNode)) → List Toml
  | [] => []
  | row :: rest => .table (finishedEntries row) :: finishedRows rest

end

/-- Replaces the value of a key. -/
def replace (entries : TomlEntries) (key : String) (node : TomlNode) : TomlEntries :=
  entries.map fun entry => if entry.1 = key then (key, node) else entry

/-- Changes the table at a path, making what is missing on the way. A value is in the way of a path, and the
dots of a key do not lead into a table that was defined otherwise. Of a list of tables the last one counts.
The change is told whether the table is dotted. -/
def atPath (viaDots : Bool) (change : Bool → TomlEntries → Option TomlEntries) :
    List String → Bool → TomlEntries → Option TomlEntries
  | [], dotted, entries => change dotted entries
  | key :: rest, _, entries =>
    match Fields.get? entries key with
    | none =>
      (atPath viaDots change rest viaDots []).map fun inner => entries ++ [(key, .table true viaDots inner)]
    | some (.leaf _) => none
    | some (.table implicit dotted inner) =>
      if viaDots ∧ ¬ implicit then none
      else (atPath viaDots change rest dotted inner).map fun inner =>
        replace entries key (.table implicit dotted inner)
    | some (.tables rows) =>
      match rows.getLast? with
      | none => none
      | some last => (atPath viaDots change rest false last).map fun last =>
        replace entries key (.tables (rows.dropLast ++ [last]))

/-- Adds a pair. Its key has to be new, in a table that the dots of its path made or in the very table. -/
def addPair (entries : TomlEntries) (pair : TomlPair) : Option TomlEntries :=
  atPath true (fun dotted inner =>
    if dotted = pair.path.isEmpty then none
    else match Fields.get? inner pair.key with
      | some _ => none
      | none => some (inner ++ [(pair.key, .leaf pair.value)])) pair.path false entries

def addPairs (entries : TomlEntries) (pairs : List TomlPair) : Option TomlEntries :=
  pairs.foldlM addPair entries

/-- Defines the table of a header; so far it may be implicit, but not dotted. The table comes after what its
parent holds already. -/
def addTable (root : TomlEntries) (path : List String) (key : String) (pairs : List TomlPair) :
    Option TomlEntries :=
  atPath false (fun _ parent =>
    match Fields.get? parent key with
    | none => (addPairs [] pairs).map fun inner => parent ++ [(key, .table false false inner)]
    | some (.table true false inner) =>
      (addPairs inner pairs).map fun inner =>
        parent.filter (·.1 ≠ key) ++ [(key, .table false false inner)]
    | some _ => none) path false root

/-- Adds a table to the list that a doubled header names. -/
def addRow (root : TomlEntries) (path : List String) (key : String) (pairs : List TomlPair) :
    Option TomlEntries :=
  atPath false (fun _ parent =>
    match Fields.get? parent key with
    | none => (addPairs [] pairs).map fun row => parent ++ [(key, .tables [row])]
    | some (.tables rows) =>
      (addPairs [] pairs).map fun row => replace parent key (.tables (rows ++ [row]))
    | some _ => none) path false root

end TomlNode

end Orchestra
