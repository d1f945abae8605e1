import Orchestra.Database.Row
import Orchestra.Sql.Create
import Orchestra.Sql.Table

namespace Orchestra

/-- What a schema knows under the name of a table. -/
inductive SchemaTable where
  | table (definition : SqlTable) (root : Nat)
  | view (name : String)
  /-- A table that is kept elsewhere. -/
  | virtualTable (name : String)

def SchemaTable.name : SchemaTable → String
  | table definition _ => definition.name
  | view name | virtualTable name => name

/-- An index on a table, with the page where its tree starts. There may be no page yet. -/
structure SchemaIndex where
  name : String
  table : String
  root : Nat
deriving DecidableEq, Repr

/-- The rows of a schema as texts: the kind of a declaration, its name, that of its table, a page, and the text. -/
structure SchemaRow where
  kind : Option String
  name : Option String
  table : Option String
  root : Option String
  text : Option String

/-- The declarations of a database. Names are in lower case. -/
structure DatabaseSchema where
  tables : List SchemaTable := []
  indexes : List SchemaIndex := []
  triggers : List String := []

namespace SchemaRow

/-- The row with some fields. There may be fewer than it takes. -/
def ofFields (encoding : TextEncoding) (fields : List DatabaseField) : SchemaRow :=
  let text (i : Nat) : Option String := fields[i]?.bind (DatabaseField.text? encoding)
  { kind := text 0, name := text 1, table := text 2, root := text 3, text := text 4 }

def isDeclaration (row : SchemaRow) : Bool := row.text.any fun text => (SqlToken.folded text).startsWith "cr"

def rootBound : Nat := Nat.pow 2 32

/-- The page where a tree is said to start. The greatest number stands for none. -/
def root? (row : SchemaRow) : Option Nat := do
  let text ← row.root
  guard (text ≠ "" ∧ text.toList.all Char.isDigit)
  let root := Literal.digitsValue text.toList
  guard (root ≤ rootBound)
  return root % rootBound

/-- Whether a row has the right names and kind beside its declaration. -/
def agrees (row : SchemaRow) (kind name table : String) : Bool :=
  row.kind.map SqlToken.folded = some kind && row.name.map SqlToken.folded = some name &&
    row.table.map SqlToken.folded = some table

end SchemaRow

namespace DatabaseSchema

/-- The name of the table of declarations, and another name of it. -/
def ownName : String := "sqlite_master"

def otherOwnName : String := "sqlite_schema"

/-- The names of tables that belong to the database itself start like this. -/
def ownStart : String := "sqlite_"

def blank : DatabaseSchema :=
  let columns := ["type", "name", "tbl_name", "rootpage", "sql"].map fun name => { name : TableColumn }
  { tables := [.table { name := ownName, columns } 1] }

/-- The table or view of a name, which is given in lower case. -/
def table? (schema : DatabaseSchema) (name : String) : Option SchemaTable :=
  (schema.tables.find? (·.name = name)).or
    (if name = otherOwnName then schema.tables.find? (·.name = ownName) else none)

def index? (schema : DatabaseSchema) (name : String) : Option SchemaIndex := schema.indexes.find? (·.name = name)

def hasIndexRoot (schema : DatabaseSchema) (table : String) (root : Nat) : Bool :=
  schema.indexes.any fun index => index.table = table && index.root = root

/-- Adds the index of a key of a table. That of the primary key is the table itself if rows have no numbers. -/
def addKey? (schema : DatabaseSchema) (table : SqlTable) (root : Nat) (entry : TableKey × Nat) :
    Option DatabaseSchema := do
  let name := table.keyIndexName entry.2
  guard (schema.index? name).isNone
  let index : SchemaIndex :=
    { name, table := table.name, root := if entry.1.isPrimary ∧ ¬ table.numbered then root else 0 }
  return { schema with indexes := schema.indexes ++ [index] }

/-- Adds a table or a view, unless it does not count beside what is there. The name of the table of declarations
is told by its page. -/
def addTable? (schema : DatabaseSchema) (row : SchemaRow) (head : DeclarationHead) (isView : Bool) (root : Nat)
    (make : String → Option (DatabaseSchema)) : Option DatabaseSchema := do
  guard (¬ head.qualified ∨ root = 1)
  let name := if root = 1 then ownName else SqlToken.folded head.name
  guard (row.agrees (if isView then "view" else "table") name name)
  if (schema.table? name).isSome then
    guard head.ifMissing
    return schema
  guard (schema.index? name).isNone
  make name

def addDefinition? (schema : DatabaseSchema) (definition : SqlTable) (root : Nat) : Option DatabaseSchema := do
  let schema ← definition.keys.zipIdx.foldlM (fun schema entry => schema.addKey? definition root entry) schema
  return { schema with tables := schema.tables ++ [.table definition root] }

/-- Adds an index, unless it does not count beside what is there. -/
def addIndex? (schema : DatabaseSchema) (row : SchemaRow) (head : DeclarationHead) (table : String)
    (terms : List IndexTerm) (condition : Option SqlExpr) (root : Nat) : Option DatabaseSchema := do
  guard (¬ head.qualified)
  match schema.table? (SqlToken.folded table) with
  | some (.table definition _) =>
    let name := SqlToken.folded head.name
    guard (row.agrees "index" name definition.name)
    if (schema.index? name).isSome then
      guard head.ifMissing
      return schema
    guard (definition.allowsIndex terms condition ∧ ¬ schema.hasIndexRoot definition.name root)
    return { schema with indexes := schema.indexes ++ [{ name, table := definition.name, root }] }
  | _ => none

/-- Whether a trigger can run at a time for a table. Only views have something done instead of a change. -/
def allowsTrigger (time : TriggerTime) : SchemaTable → Bool
  | .table _ _ => time ≠ .instead
  | .view _ => time = .instead
  | .virtualTable _ => false

/-- Adds a trigger, unless it does not count beside what is there. -/
def addTrigger? (schema : DatabaseSchema) (row : SchemaRow) (head : DeclarationHead) (time : TriggerTime)
    (table : String) (isWithin : Bool) : Option DatabaseSchema := do
  guard (¬ head.qualified)
  let table ← schema.table? (SqlToken.folded table)
  let name := SqlToken.folded head.name
  guard (row.agrees "trigger" name table.name)
  match table with
  | .virtualTable _ => none
  | _ =>
    if schema.triggers.contains name then
      guard head.ifMissing
      return schema
    guard (isWithin ∧ allowsTrigger time table ∧ ¬ table.name.startsWith ownStart)
    return { schema with triggers := schema.triggers ++ [name] }

/-- Whether a declaration names no other database. -/
def isWithin (declaration : Declaration) : Bool :=
  declaration.databases.all fun name => SqlToken.folded name = "main"

/-- Adds the declaration in a row. Conditions on rows may be left out of account. -/
def addDeclaration? (schema : DatabaseSchema) (row : SchemaRow) (declaration : Declaration) (root : Nat)
    (withChecks : Bool) : Option DatabaseSchema :=
  let head := declaration.head
  match declaration.body with
  | .table columns rules options =>
    schema.addTable? row head false root fun name =>
      (SqlTable.ofDeclaration? name columns rules options withChecks).bind (schema.addDefinition? · root)
  | .result => schema.addTable? row head false root fun _ => none
  | .virtualTable =>
    schema.addTable? row head false root fun name =>
      some { schema with tables := schema.tables ++ [.virtualTable name] }
  | .view parameters =>
    if parameters then none
    else schema.addTable? row head true root fun name =>
      if isWithin declaration ∧ root = 0 then some { schema with tables := schema.tables ++ [.view name] } else none
  | .index table terms condition => schema.addIndex? row head table terms condition root
  | .trigger time table => schema.addTrigger? row head time table (isWithin declaration)

/-- Tells where the tree of an index starts. Other indexes of its table start elsewhere. -/
def placeIndex? (schema : DatabaseSchema) (row : SchemaRow) (root : Nat) : Option DatabaseSchema := do
  let name ← row.name.map SqlToken.folded
  guard (row.text.all (· = "") ∧ 2 ≤ root)
  let index ← schema.index? name
  let others := schema.indexes.filter (·.name ≠ name)
  guard (others.all fun other => other.table ≠ index.table ∨ other.root ≠ root)
  return { schema with
    indexes := schema.indexes.map fun other => if other.name = name then { other with root } else other }

def addRow? (schema : DatabaseSchema) (row : SchemaRow) (pageCount : Nat) (withChecks : Bool) :
    Option DatabaseSchema := do
  let root ← row.root?
  guard (root ≤ pageCount)
  if row.isDeclaration then
    schema.addDeclaration? row (← row.text.bind Declaration.ofText?) root withChecks
  else schema.placeIndex? row root

/-- The schema of a database, if it is sound. Conditions on rows count where rows can be changed. -/
def ofImage? (image : DatabaseImage) (mayWrite : Bool) : Option DatabaseSchema := do
  let cells ← image.treeCells? true 1
  cells.foldlM (fun schema cell => do
    let fields ← image.fields? cell 5
    schema.addRow? (SchemaRow.ofFields (TextEncoding.ofImage image) fields) image.pageCount
      (mayWrite && image.isWritable)) blank

end DatabaseSchema

end Orchestra
