import Orchestra.Number.Literal
import Orchestra.Sql.Expr
import Orchestra.Sql.Function

namespace Orchestra

/-- The places of expressions in declarations. -/
inductive ExprPlace where
  /-- What has to hold of each row. -/
  | check
  /-- What has to hold of the rows in an index. -/
  | selection
  /-- What an index is sorted by. -/
  | indexTerm
  /-- What a column has as its value. -/
  | generated
deriving DecidableEq, Repr

/-- A place in a declaration of a table. Names of columns and tables are in lower case. -/
structure ExprScope where
  place : ExprPlace
  table : String
  columns : List String
  numbered : Bool

def rowNumberNames : List String := ["rowid", "oid", "_rowid_"]

namespace ExprScope

/-- Whether there may be conditions here, which can be about more than the named columns. -/
def isCondition (scope : ExprScope) : Bool := scope.place = .check || scope.place = .selection

/-- Whether a name, in lower case, is that of a column, or of what is like one. -/
def hasColumn (scope : ExprScope) (name : String) : Bool :=
  scope.columns.contains name || (scope.isCondition && scope.numbered && rowNumberNames.contains name)

def isTruth (scope : ExprScope) : SqlExpr → Bool
  | .name text .none => !scope.hasColumn (SqlToken.folded text) && ["true", "false"].contains (SqlToken.folded text)
  | _ => false

def isNothing : SqlExpr → Bool
  | .constant .null => true
  | _ => false

/-- Whether a name stands for something. One in double quotes is a text at least. -/
def hasName (scope : ExprScope) (text : String) (quoting : NameQuoting) : Bool :=
  scope.hasColumn (SqlToken.folded text) || quoting = .double || scope.isTruth (.name text quoting)

/-- Whether names one after another stand for a column. It does not matter which database is named. -/
def hasPath (scope : ExprScope) (parts : List String) : Bool :=
  match (parts.map SqlToken.folded).reverse with
  | column :: table :: _ => scope.isCondition && table = scope.table && scope.hasColumn column
  | _ => false

/-- Whether a number is a fraction of at most one. It is written with a point or an exponent. -/
def isProbability : SqlExpr → Bool
  | .constant (.number text) =>
    let cs := text.toList.filter (· ≠ '_')
    !text.toList.any (fun c => c = 'x' || c = 'X') && text.toList.any (fun c => c = '.' || c = 'e' || c = 'E') &&
      match (Literal.decimal? false cs).bind Decimal.nearestDouble? with
      | some x => x.le (.ofNat 1)
      | none => false
  | _ => false

/-- Whether a function can be called. One that is not known may become known later. -/
def allowsCall (scope : ExprScope) (name : String) (arguments : List SqlExpr) (form : CallForm) : Bool :=
  let count := arguments.length
  form = .plain && !SqlFunction.isMiscounted name count &&
    (name ≠ "likelihood" || (arguments[1]?).any isProbability) &&
    match SqlFunction.kind? name count with
    | some .grouping => false
    | some .changing => scope.place = .check
    | _ => true

def comparisons : List String := ["=", "!=", "<", "<=", ">", ">=", "is", "is not", "between"]

/-- Whether what is compared has the same number of values. It may be asked of any row whether it is missing or
true. -/
def allowsComparison (scope : ExprScope) (operator : String) (operands : List SqlExpr) : Bool :=
  !comparisons.contains operator ||
    match operands with
    | [left, right] =>
      left.width? = right.width? || ((operator = "is" || operator = "is not") &&
        (isNothing right || scope.isTruth right.bare))
    | operands => operands.all fun e => e.width? = (operands.head?.bind SqlExpr.width?)

mutual

/-- Whether an expression can stand in a place. Queries and parameters cannot. -/
def allows (scope : ExprScope) : SqlExpr → Bool
  | .constant _ | .raise => true
  | .name text quoting => scope.hasName text quoting
  | .dotted parts => scope.hasPath parts
  | .parameter _ | .query => false
  | .call function arguments form _ =>
    scope.allowsCall (SqlToken.folded function) arguments form && allowsAll scope arguments
  | .collate inner _ => allows scope inner
  | .row items => allowsAll scope items
  | .operation operator operands => scope.allowsComparison operator operands && allowsAll scope operands

def allowsAll (scope : ExprScope) : List SqlExpr → Bool
  | [] => true
  | e :: rest => allows scope e && allowsAll scope rest

end

end ExprScope

mutual

def SqlExpr.isConstant : SqlExpr → Bool
  | .constant _ | .parameter _ => true
  | .name text quoting => quoting = .none && ["true", "false"].contains (SqlToken.folded text)
  | .dotted _ | .query | .raise => false
  | .call _ arguments form further =>
    (form = .plain || form = .ordered) && SqlExpr.areConstant arguments && SqlExpr.areConstant further
  | .collate inner _ => SqlExpr.isConstant inner
  | .row items => SqlExpr.areConstant items
  | .operation _ operands => SqlExpr.areConstant operands

def SqlExpr.areConstant : List SqlExpr → Bool
  | [] => true
  | e :: rest => SqlExpr.isConstant e && SqlExpr.areConstant rest

end

end Orchestra
