import Orchestra.Sql.Affinity
import Orchestra.Sql.Expr

namespace Orchestra

structure IndexTerm where
  expr : SqlExpr
  descending : Bool := false
  /-- Whether it is said where missing values go. -/
  placesNulls : Bool := false

/-- What is said about a column after its name and type. The conflict is what is said to be done about one. -/
inductive ColumnRule where
  | fallback (value : SqlExpr)
  | notNull
  | primaryKey (descending : Bool) (conflict : Option String) (counting : Bool)
  | unique (conflict : Option String)
  | check (condition : SqlExpr)
  /-- A reference to another table, with the number of its columns that are named. -/
  | references (width : Option Nat)
  | collation (name : String)
  | generated (value : SqlExpr) (storage : Option String)
  /-- Something that makes no difference here. -/
  | other

inductive SqlType where
  | any
  | blob
  | int
  | integer
  | real
  | text
deriving DecidableEq, Repr

namespace SqlType

/-- The type that a name stands for, in lower case. -/
def ofName? : String → Option SqlType
  | "any" => some any
  | "blob" => some blob
  | "int" => some int
  | "integer" => some integer
  | "real" => some real
  | "text" => some text
  | _ => none

/-- Leaves out the words for a generated column at the end of the words of a type. -/
def withoutGeneration (names : List SqlToken) : List SqlToken :=
  match names.reverse with
  | .word last :: .word first :: rest =>
    if SqlToken.folded last = "always" ∧ SqlToken.folded first = "generated" then rest.reverse else names
  | _ => names

/-- The type that names stand for, if it has a name of its own. A size does not go with it. -/
def ofNames? (names : List SqlToken) (sized : Bool) : Option SqlType :=
  match withoutGeneration names with
  | [.word name] | [.quoted name _] | [.string name] => if sized then none else ofName? (SqlToken.folded name)
  | _ => none

end SqlType

structure ColumnDeclaration where
  name : String
  type : Option SqlType
  affinity : SqlAffinity
  rules : List ColumnRule

inductive TableRule where
  | primaryKey (terms : List IndexTerm) (conflict : Option String) (counting : Bool)
  | unique (terms : List IndexTerm) (conflict : Option String)
  | check (condition : SqlExpr)
  | foreignKey (columns : List String) (width : Option Nat)
  | other

inductive TableOption where
  | withoutRowid
  | strict
deriving DecidableEq, Repr

/-- The front of a declaration. A qualified name has that of a database before it. -/
structure DeclarationHead where
  name : String
  qualified : Bool
  /-- Whether the declaration only counts if there is no such thing yet. -/
  ifMissing : Bool := false

inductive TriggerTime where
  | before
  | after
  | instead
deriving DecidableEq, Repr

inductive DeclarationBody where
  | table (columns : List ColumnDeclaration) (rules : List TableRule) (options : List TableOption)
  /-- A table with the result of a query in it. -/
  | result
  | virtualTable
  /-- A view, and whether there are parameters in its query. -/
  | view (parameters : Bool)
  | index (table : String) (terms : List IndexTerm) (condition : Option SqlExpr)
  | trigger (time : TriggerTime) (table : String)

structure Declaration where
  head : DeclarationHead
  body : DeclarationBody
  /-- The databases that queries inside name. -/
  databases : List String := []

end Orchestra
