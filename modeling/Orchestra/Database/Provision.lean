import Orchestra.Database.Addition
import Orchestra.Database.Schema
import Orchestra.Sql.Evaluation

namespace Orchestra

open Octets

/-- A table with a key that has an index of its own, and an index on one of its columns. The texts declare them. -/
structure IndexedTable where
  table : String
  tableText : String
  index : String
  indexText : String
  column : String

namespace IndexedTable

/-- The name of the index that goes with the key. -/
def keyIndex (wanted : IndexedTable) : String := "sqlite_autoindex_" ++ wanted.table ++ "_1"

def definition? (wanted : IndexedTable) : Option SqlTable := do
  match (← Declaration.ofText? wanted.tableText).body with
  | .table columns rules options => SqlTable.ofDeclaration? wanted.table columns rules options true
  | _ => none

end IndexedTable

inductive Provision where
  | nothing
  | makeIndex (table : SqlTable) (root : Nat)
  | makeTable

namespace DatabaseSchema

/-- How a schema comes to have a table with an index. Other things may bear the names already, and a table that
is there may not have the column. An index counts by its name alone. -/
def provision? (schema : DatabaseSchema) (wanted : IndexedTable) : Option Provision :=
  if (schema.table? wanted.index).isSome then none
  else match schema.table? wanted.table with
    | none => if (schema.index? wanted.table).isSome then none else some .makeTable
    | some (.table definition root) =>
      if (schema.index? wanted.index).isSome then some .nothing
      else match definition.column? wanted.column with
        | some column => if definition.allowsIndexOn column then some (.makeIndex definition root) else none
        | none => none
    | some _ => none

/-- The page where the rows of a table are. If they have no numbers, that is where the index of the primary key is
said to start. -/
def rowRoot (schema : DatabaseSchema) (table : SqlTable) (root : Nat) : Nat :=
  let position := table.keys.findIdx TableKey.isPrimary
  if table.numbered then root else ((schema.index? (table.keyIndexName position)).map SchemaIndex.root).getD root

end DatabaseSchema

namespace DatabaseField

def value (encoding : TextEncoding) : DatabaseField → SqlValue
  | absent => .null
  | integer n => .integer n
  | real x => .real x
  | text content => .text (encoding.decode content)
  | blob content => .blob content

def ofValue (encoding : TextEncoding) : SqlValue → DatabaseField
  | .null => absent
  | .integer n => integer n
  | .real x => real x
  | .text content => text (encoding.encode content)
  | .blob content => blob content

end DatabaseField

namespace DatabaseImage

def keptField? (image : DatabaseImage) (table : SqlTable) (cell : TreeCell) (name : String) : Option DatabaseField :=
  if table.number = some name then some (.integer (signedKey cell))
  else image.field? cell (table.storedNames.idxOf name)

/-- The value that is kept of a column in a row. Whole numbers among others are kept as such. -/
def keptValue? (image : DatabaseImage) (table : SqlTable) (cell : TreeCell) (name : String) : Option SqlValue := do
  let value := (← image.keptField? table cell name).value (TextEncoding.ofImage image)
  match (table.column? name).map TableColumn.affinity with
  | some .real => return value.as .real
  | _ => return value

/-- The value of a column in a row, by its name. It may have to be computed. -/
def column? (image : DatabaseImage) (table : SqlTable) (cell : TreeCell) (name : String) : Option DatabaseField :=
  if table.isComputed name then
    (table.columnValue? (image.keptValue? table cell) (table.columns.length + 1) name).map
      (DatabaseField.ofValue (TextEncoding.ofImage image))
  else image.keptField? table cell name

/-- The entry of a row in the index on a column. What tells the row apart follows its value. -/
def indexEntry? (image : DatabaseImage) (table : SqlTable) (column : TableColumn) (cell : TreeCell) :
    Option ByteArray := do
  let value ← image.column? table cell column.name
  let others := table.rowKey.filter (· ≠ (column.name, column.collation))
  let key ← if table.numbered then some [.integer (signedKey cell)]
    else others.mapM fun term => image.column? table cell term.1
  return DatabaseField.row (value :: key)

end DatabaseImage

namespace DatabaseEdit

open DatabaseImage

def schemaRow (image : DatabaseImage) (kind name table : String) (root : Nat) (text : Option String) : ByteArray :=
  let encoding := TextEncoding.ofImage image
  let field (text : String) : DatabaseField := .text (encoding.encode text)
  DatabaseField.row [field kind, field name, field table, .integer root, text.elim .absent field]

def checkSchema (position : Nat) : DatabaseEdit Unit := do
  let image ← get
  let cells ← image.treeCells? true 1
  guard (cells.all fun cell => (image.field? cell position).isSome)

/-- Makes a table and answers where it starts, and where the index of its key does. A row is added to the schema
first, and filled in when that index has its own. -/
def makeTable (wanted : IndexedTable) : DatabaseEdit (Nat × Nat) := do
  let root ← addTree true
  let key ← addRow 1 (DatabaseField.row (List.replicate 5 .absent))
  let keyRoot ← addTree false
  discard (addRow 1 (schemaRow (← get) "index" wanted.keyIndex wanted.table keyRoot none))
  setRow 1 key (schemaRow (← get) "table" wanted.table wanted.table root (some wanted.tableText))
  checkSchema 2
  giveBack
  return (root, keyRoot)

/-- Makes an index on a table whose rows start in a page, and whose indexes start in some others. -/
def makeIndex (wanted : IndexedTable) (table : SqlTable) (rowRoot : Nat) (others : List Nat) : DatabaseEdit Unit := do
  let root ← addTree false
  discard (addRow 1 (schemaRow (← get) "index" wanted.index wanted.table root (some wanted.indexText)))
  let image ← get
  let column ← table.column? wanted.column
  let cells ← image.treeCells? table.numbered rowRoot
  let entries : Option (List ByteArray) := cells.mapM (image.indexEntry? table column)
  noteNodes (rowRoot :: cells.map TreeCell.page)
  addEntries root (← entries)
  checkSchema 1
  guard (¬ others.contains root)
  giveBack

def provide (schema : DatabaseSchema) (wanted : IndexedTable) : Provision → DatabaseEdit Unit
  | .nothing => return
  | .makeTable => do
    let (root, keyRoot) ← makeTable wanted
    makeIndex wanted (← wanted.definition?) root [keyRoot]
  | .makeIndex table root =>
    makeIndex wanted table (schema.rowRoot table root)
      ((schema.indexes.filter (·.table = table.name)).map SchemaIndex.root)

end DatabaseEdit

namespace DatabaseImage

def allows (image : DatabaseImage) (schema : DatabaseSchema) (wanted : IndexedTable) (provision : Provision) : Bool :=
  image.isWritable && ((DatabaseEdit.provide schema wanted provision).run image).isSome

end DatabaseImage

end Orchestra
