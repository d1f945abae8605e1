import Orchestra.Sql.Token

namespace Orchestra

/-- How a name is quoted. One in double quotes may turn out to be a text. -/
inductive NameQuoting where
  | none
  | double
  | other
deriving DecidableEq, Repr

/-- A constant. Numbers and bytes are given as they are written. -/
inductive SqlConstant where
  | null
  | number (text : String)
  | string (text : String)
  | blob (digits : String)
deriving DecidableEq, Repr

inductive CallForm where
  | plain
  /-- The arguments are sorted. -/
  | ordered
  /-- Only some rows count. -/
  | filtered
  /-- The call is about a window of rows. -/
  | windowed
deriving DecidableEq, Repr

inductive SqlExpr where
  | constant (value : SqlConstant)
  | name (text : String) (quoting : NameQuoting)
  /-- A name after that of a table, and maybe that of a database. -/
  | dotted (parts : List String)
  | parameter (name : String)
  | query
  | raise
  | call (function : String) (arguments : List SqlExpr) (form : CallForm) (further : List SqlExpr)
  | collate (inner : SqlExpr) (collation : String)
  | row (items : List SqlExpr)
  /-- An operator; what it applies to is in order. -/
  | operation (operator : String) (operands : List SqlExpr)
deriving Inhabited

namespace SqlExpr

def bare : SqlExpr → SqlExpr
  | collate inner _ => bare inner
  | e => e

/-- A text stands for a name where columns are listed. -/
def asName : SqlExpr → SqlExpr
  | constant (.string text) => name text .other
  | collate (constant (.string text)) collation => collate (name text .other) collation
  | e => e

def isZero : SqlExpr → Bool
  | constant (.number text) =>
    match text.toList with
    | '0' :: x :: digits => if x = 'x' ∨ x = 'X' then digits.all (· = '0') else (x :: digits).all (· = '0')
    | digits => digits = ['0']
  | _ => false

/-- Two conditions at once. Beside a condition that never holds, the other one does not count. -/
def conjunction (left right : SqlExpr) : SqlExpr :=
  if left.isZero ∨ right.isZero then constant (.number "0") else operation "and" [left, right]

/-- The number of values that an expression has; the values of a query are not counted. -/
def width? : SqlExpr → Option Nat
  | row items => some items.length
  | query => none
  | _ => some 1

mutual

def isFixed : SqlExpr → Bool
  | constant _ | parameter _ => true
  | name text quoting => quoting = .none && ["true", "false"].contains (SqlToken.folded text)
  | dotted _ | query | raise | call _ _ _ _ => false
  | collate inner _ => isFixed inner
  | row items => areFixed items
  | operation _ operands => areFixed operands

def areFixed : List SqlExpr → Bool
  | [] => true
  | e :: rest => isFixed e && areFixed rest

end

/-- Whether a value is one of some others. Nothing is one of none, and one of a single constant is the same as it. A
row is looked for among rows of its width. -/
def membership? (left : SqlExpr) (items : List SqlExpr) : Option SqlExpr :=
  match left, items with
  | _, [] => some (constant (.number "0"))
  | row values, items =>
    let fits : SqlExpr → Bool
      | row others => others.length = values.length
      | _ => false
    if items.all fits then some (operation "in" [left, query]) else none
  | left, [item] => some (if item.isFixed then operation "=" [left, operation "+" [item]] else operation "in" [left, item])
  | left, items => some (operation "in" (left :: items))

mutual

def height : SqlExpr → Nat
  | call _ arguments _ further => max (heights arguments) (heights further) + 1
  | collate inner _ => height inner + 1
  | row items => heights items + 1
  | operation _ operands => heights operands + 1
  | _ => 1

def heights : List SqlExpr → Nat
  | [] => 0
  | e :: rest => max (height e) (heights rest)

end

def heightBound : Nat := 1000

end SqlExpr

end Orchestra
