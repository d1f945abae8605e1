import Orchestra.Sql.Table

namespace Orchestra

namespace SqlExpr

def isRow : SqlExpr → Bool
  | row _ => true
  | _ => false

mutual

/-- Whether it is said somewhere how texts are compared. -/
def isCollated : SqlExpr → Bool
  | collate _ _ => true
  | call _ arguments _ further => areCollated arguments || areCollated further
  | row items | operation _ items => areCollated items
  | _ => false

def areCollated : List SqlExpr → Bool
  | [] => false
  | e :: rest => isCollated e || areCollated rest

end

/-- The conditions and results of a distinction of cases. The last result stands alone. -/
def branches : List SqlExpr → List SqlExpr × List SqlExpr
  | condition :: result :: rest =>
    let (conditions, results) := branches rest
    (condition :: conditions, result :: results)
  | rest => ([], rest)

end SqlExpr

namespace SqlTable

def collations : List String := ["binary", "nocase", "rtrim"]

mutual

/-- The collation that an expression has. It comes from a column, or from the first part that has one said. -/
def collation? (table : SqlTable) : SqlExpr → Option String
  | .collate _ name => some (SqlToken.folded name)
  | .name text _ =>
    ((table.column? (SqlToken.folded text)).filter fun column => table.number ≠ some column.name).map
      TableColumn.collation
  | .operation "cast" (e :: _) | .operation "+" [e] | .row (e :: _) => collation? table e
  | .operation _ items | .call _ items _ _ => firstCollation? table items
  | _ => none

def firstCollation? (table : SqlTable) : List SqlExpr → Option String
  | [] => none
  | e :: rest => if e.isCollated then collation? table e else firstCollation? table rest

end

/-- The collation by which two expressions are compared. What is said goes before what columns have. -/
def comparison? (table : SqlTable) (left right : SqlExpr) : Option String :=
  if left.isCollated then table.collation? left
  else if right.isCollated then table.collation? right
  else (table.collation? left).or (table.collation? right)

/-- The expressions that an operator compares with each other. -/
def compared (table : SqlTable) (operator : String) (operands : List SqlExpr) : List (SqlExpr × SqlExpr) :=
  let scope := table.scope .generated
  match operands with
  | [] => []
  | left :: others =>
    if operator = "case" then (SqlExpr.branches others).1.map (left, ·)
    else if operator = "is" ∨ operator = "is not" then
      (others.filter fun right => !ExprScope.isNothing right && !scope.isTruth right.bare).map (left, ·)
    else if ExprScope.comparisons.contains operator then others.map (left, ·)
    else []

/-- The parts of expressions that are compared, one by one. -/
def comparedParts : SqlExpr × SqlExpr → List (SqlExpr × SqlExpr)
  | (.row lefts, .row rights) => lefts.zip rights
  | pair => [pair]

/-- Whether rows of values are only where they are compared with others of their width. -/
def hasFittingRows (table : SqlTable) (operator : String) (operands : List SqlExpr) : Bool :=
  let pairs := table.compared operator operands
  if operator = "case" then
    pairs.all (fun (left, right) => left.width? = right.width?) &&
      !(SqlExpr.branches operands.tail).2.any SqlExpr.isRow
  else if pairs.isEmpty then !operands.any SqlExpr.isRow
  else pairs.all fun (left, right) => left.width? = right.width?

def isKnownCollation (name : Option String) : Bool := name.all collations.contains

def hasCollations (table : SqlTable) (operator : String) (operands : List SqlExpr) : Bool :=
  ((table.compared operator operands).flatMap comparedParts).all (fun (left, right) =>
    isKnownCollation (table.comparison? left right)) &&
    (operator ≠ "in" || isKnownCollation (operands.head?.bind table.collation?))

def comparingFunctions : List String := ["max", "min", "nullif"]

def hasFunction (table : SqlTable) (name : String) (arguments : List SqlExpr) : Bool :=
  (SqlFunction.kind? name arguments.length).isSome &&
    (!comparingFunctions.contains name || isKnownCollation (arguments.findSome? table.collation?))

mutual

/-- Whether an expression can be computed, given which columns have values. -/
def computes (table : SqlTable) (hasValue : String → Bool) : SqlExpr → Bool
  | .constant _ => true
  | .name text _ =>
    let name := SqlToken.folded text
    (table.column? name).isNone || hasValue name
  | .dotted _ | .parameter _ | .query | .raise | .row _ => false
  | .collate inner _ => computes table hasValue inner
  | .call function arguments _ _ =>
    table.hasFunction (SqlToken.folded function) arguments && !arguments.any SqlExpr.isRow &&
      computesAll table hasValue arguments
  | .operation operator operands =>
    table.hasFittingRows operator operands && table.hasCollations operator operands &&
      computesAll table hasValue operands

def computesAll (table : SqlTable) (hasValue : String → Bool) : List SqlExpr → Bool
  | [] => true
  | .row items :: rest =>
    !items.any SqlExpr.isRow && computesAll table hasValue items && computesAll table hasValue rest
  | e :: rest => computes table hasValue e && computesAll table hasValue rest

end

/-- Whether a column has a value. One that is computed may depend on others, but on no more than there are. -/
def hasValue (table : SqlTable) : Nat → String → Bool
  | 0, _ => false
  | fuel + 1, name =>
    (table.column? name).all fun column =>
      column.isStored || column.value.all (table.computes (table.hasValue fuel))

def allowsIndexOn (table : SqlTable) (column : TableColumn) : Bool :=
  collations.contains column.collation && table.hasValue (table.columns.length + 1) column.name

end SqlTable

end Orchestra
