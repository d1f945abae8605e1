import Orchestra.Sql.Declaration
import Orchestra.Sql.Scope

namespace Orchestra

structure TableColumn where
  name : String
  type : Option SqlType := none
  affinity : SqlAffinity := .none
  collation : String := "binary"
  /-- Whether there is a value for rows that have none. -/
  hasFallback : Bool := false
  isPrimary : Bool := false
  /-- What the column has as its value, if that is not its own. -/
  value : Option SqlExpr := none
  isStored : Bool := false

/-- A key of a table: columns with collations, and what is said to be done about a conflict. -/
structure TableKey where
  terms : List (String × String)
  conflict : Option String
  isPrimary : Bool

/-- A table with columns and with keys that have an index each. -/
structure SqlTable where
  name : String
  columns : List TableColumn
  keys : List TableKey := []
  /-- Whether rows have a number. If not, they are kept with the primary key. -/
  numbered : Bool := true
  /-- The column that is the number of the row. -/
  number : Option String := none

/-- A table whose declaration is read in part. -/
structure TableDraft where
  columns : List TableColumn := []
  keys : List TableKey := []
  hasPrimaryKey : Bool := false
  /-- The column that is the number of the row, and what is said to be done about a conflict. -/
  number : Option (String × Option String) := none
  /-- Whether numbers are never used again. -/
  counting : Bool := false
  checks : List SqlExpr := []

namespace TableDraft

def column? (draft : TableDraft) (name : String) : Option TableColumn :=
  draft.columns.find? (·.name = SqlToken.folded name)

/-- What is done about conflicts when that is said twice. -/
def bothConflicts? : Option String → Option String → Option (Option String)
  | none, other => some other
  | some first, none => some (some first)
  | some first, some second => if first = second then some (some first) else none

/-- Adds a key to some keys, unless there is one like it. -/
def withKey? (key : TableKey) : List TableKey → Option (List TableKey)
  | [] => some [key]
  | first :: rest =>
    if first.terms = key.terms then
      (bothConflicts? first.conflict key.conflict).map fun conflict =>
        { first with conflict, isPrimary := first.isPrimary || key.isPrimary } :: rest
    else (withKey? key rest).map (first :: ·)

def addKey? (draft : TableDraft) (key : TableKey) : Option TableDraft :=
  (withKey? key draft.keys).map fun keys => { draft with keys }

/-- The name that a term of a key is, its collation left out. -/
def termName? (e : SqlExpr) : Option String :=
  match e.asName.bare.asName with
  | .name text _ => some text
  | _ => none

/-- A term of a key as a column with a collation. -/
def keyTerm? (draft : TableDraft) (term : IndexTerm) : Option (String × String) := do
  guard (¬ term.placesNulls)
  let column ← (termName? term.expr).bind draft.column?
  match term.expr with
  | .collate _ collation => return (column.name, SqlToken.folded collation)
  | _ => return (column.name, column.collation)

def columnBound : Nat := 2000

def addTerms? (draft : TableDraft) (terms : List IndexTerm) (conflict : Option String) (isPrimary : Bool) :
    Option TableDraft := do
  guard (terms.length ≤ columnBound)
  draft.addKey? { terms := ← terms.mapM draft.keyTerm?, conflict, isPrimary }

/-- Makes a column that is being declared a key by itself. Its collation may change later. -/
def addColumnKey? (draft : TableDraft) (column : TableColumn) (conflict : Option String) (isPrimary : Bool) :
    Option TableDraft :=
  draft.addKey? { terms := [(column.name, "")], conflict, isPrimary }

/-- Makes a column that is being declared the primary key. A whole number is then the number of its row. -/
def addPrimaryColumn? (draft : TableDraft) (column : TableColumn) (descending : Bool) (conflict : Option String)
    (counting : Bool) : Option TableDraft := do
  guard (¬ draft.hasPrimaryKey ∧ column.value.isNone)
  let draft := { draft with hasPrimaryKey := true }
  if column.type = some .integer ∧ ¬ descending then
    return { draft with number := some (column.name, conflict), counting }
  guard (¬ counting)
  draft.addColumnKey? column conflict true

def columnRule? (draft : TableDraft) (column : TableColumn) : ColumnRule → Option (TableDraft × TableColumn)
  | .fallback value =>
    if value.isConstant ∧ column.value.isNone then some (draft, { column with hasFallback := true }) else none
  | .primaryKey descending conflict counting =>
    (draft.addPrimaryColumn? column descending conflict counting).map (·, { column with isPrimary := true })
  | .unique conflict => (draft.addColumnKey? column conflict false).map (·, column)
  | .check condition => some ({ draft with checks := condition :: draft.checks }, column)
  | .references width => if width.all (· = 1) then some (draft, column) else none
  | .collation name => some (draft, { column with collation := SqlToken.folded name })
  | .generated value storage =>
    if column.hasFallback ∨ column.value.isSome ∨ column.isPrimary ∨ ¬ storage.all ["virtual", "stored"].contains then
      none
    else some (draft, { column with value := some value, isStored := storage = some "stored" })
  | .notNull | .other => some (draft, column)

/-- Gives the keys of a column that was declared its collation. -/
def settleKeys (column : TableColumn) (keys : List TableKey) : List TableKey :=
  keys.map fun key =>
    if key.terms = [(column.name, "")] then { key with terms := [(column.name, column.collation)] } else key

def addColumn? (draft : TableDraft) (declaration : ColumnDeclaration) : Option TableDraft := do
  let column : TableColumn := 
    { name := SqlToken.folded declaration.name, type := declaration.type, affinity := declaration.affinity }
  guard ((draft.column? column.name).isNone ∧ draft.columns.length < columnBound)
  let (draft, column) ← declaration.rules.foldlM (fun (draft, column) rule => columnRule? draft column rule)
    (draft, column)
  return { draft with columns := draft.columns ++ [column], keys := settleKeys column draft.keys }

def addPrimaryKey? (draft : TableDraft) (terms : List IndexTerm) (conflict : Option String) (counting : Bool) :
    Option TableDraft := do
  let columns := terms.filterMap fun term => (termName? term.expr).bind draft.column?
  guard (¬ draft.hasPrimaryKey ∧ columns.all (·.value.isNone))
  let draft := { draft with hasPrimaryKey := true }
  match terms, columns with
  | [term], [column] =>
    if column.type = some .integer then
      guard (¬ term.placesNulls)
      return { draft with number := some (column.name, conflict), counting }
  | _, _ => pure ()
  guard (¬ counting)
  draft.addTerms? terms conflict true

def tableRule? (draft : TableDraft) : TableRule → Option TableDraft
  | .primaryKey terms conflict counting => draft.addPrimaryKey? terms conflict counting
  | .unique terms conflict => draft.addTerms? terms conflict false
  | .check condition => some { draft with checks := condition :: draft.checks }
  | .foreignKey columns width =>
    if columns.all (draft.column? · |>.isSome) ∧ width.all (· = columns.length) then some draft else none
  | .other => some draft

/-- Keeps rows with their primary key, which cannot be numbers of rows then. -/
def withoutNumbers? (draft : TableDraft) : Option TableDraft := do
  guard (draft.hasPrimaryKey ∧ ¬ draft.counting)
  match draft.number with
  | none => return draft
  | some (name, conflict) =>
    let column ← draft.column? name
    draft.addKey? { terms := [(name, column.collation)], conflict, isPrimary := true }

end TableDraft

namespace SqlTable

def scope (table : SqlTable) (place : ExprPlace) : ExprScope :=
  { place, table := table.name, columns := table.columns.map TableColumn.name, numbered := table.numbered }

/-- The table that a declaration is about. Conditions on rows may be left out of account. -/
def ofDeclaration? (name : String) (columns : List ColumnDeclaration) (rules : List TableRule)
    (options : List TableOption) (withChecks : Bool) : Option SqlTable := do
  let draft ← columns.foldlM TableDraft.addColumn? {}
  let draft ← rules.foldlM TableDraft.tableRule? draft
  guard (¬ options.contains .strict ∨ draft.columns.all (·.type.isSome))
  let numbered := !options.contains .withoutRowid
  let draft ← if numbered then some draft else draft.withoutNumbers?
  let number := if numbered then draft.number.map Prod.fst else none
  let table : SqlTable := { name, columns := draft.columns, keys := draft.keys, numbered, number }
  guard (¬ withChecks ∨ draft.checks.all (table.scope .check).allows)
  guard (draft.columns.all fun column => column.value.all (table.scope .generated).allows)
  guard (draft.columns.any (·.value.isNone))
  return table

/-- The name of the index that goes with a key, by its position. -/
def keyIndexName (table : SqlTable) (position : Nat) : String :=
  "sqlite_autoindex_" ++ table.name ++ "_" ++ toString (position + 1)

def column? (table : SqlTable) (name : String) : Option TableColumn := table.columns.find? (·.name = name)

/-- Whether the value of a column is not kept with a row, but made from others. -/
def isComputed (table : SqlTable) (name : String) : Bool :=
  (table.column? name).any fun column => column.value.isSome && !column.isStored

/-- The columns of the primary key with their collations, in a table whose rows have no number. -/
def rowKey (table : SqlTable) : List (String × String) :=
  if table.numbered then []
  else
    let terms := ((table.keys.find? TableKey.isPrimary).map TableKey.terms).getD []
    terms.zipIdx.filterMap fun (term, i) => if (terms.take i).contains term then none else some term

/-- The columns that are kept in a row, in order. Those of the primary key come first if rows have no number. -/
def storedNames (table : SqlTable) : List String :=
  let kept := (table.columns.filter fun column => column.value.isNone || column.isStored).map TableColumn.name
  let first := table.rowKey.map Prod.fst
  first ++ kept.filter fun name => !first.contains name

/-- Whether a table can have an index with some terms, for rows of which a condition holds. -/
def allowsIndex (table : SqlTable) (terms : List IndexTerm) (condition : Option SqlExpr) : Bool :=
  terms.length ≤ TableDraft.columnBound && condition.all (table.scope .selection).allows &&
    terms.all fun term => !term.placesNulls && (table.scope .indexTerm).allows term.expr.asName

end SqlTable

end Orchestra
