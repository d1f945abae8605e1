import Orchestra.Sql.Builtin
import Orchestra.Sql.Computable

namespace Orchestra

namespace SqlValue

/-- What is true, false or neither. -/
def ofTruth : Option Bool → SqlValue
  | none => null
  | some b => ofBool b

def both : Option Bool → Option Bool → Option Bool
  | some false, _ | _, some false => some false
  | some true, some true => some true
  | _, _ => none

def either (a b : Option Bool) : Option Bool := (both (a.map not) (b.map not)).map not

def ofUnits (n : Int) : SqlValue :=
  let units := Double.nearest n.natAbs 1
  real (if units < Double.unitsBound then .finite ⟨n < 0, units⟩ else .infinite (n < 0))

/-- A double, or an infinity with its sign. -/
def orInfinite (negative : Bool) : Option Double → SqlValue
  | some x => real (.finite x)
  | none => real (.infinite negative)

def doubleResult (operator : String) (x y : Double) : SqlValue :=
  let negative := x.negative != y.negative
  match operator with
  | "+" => ofUnits (x.signed + y.signed)
  | "-" => ofUnits (x.signed - y.signed)
  | "*" => orInfinite negative (x.mul? y)
  | _ => if y.units = 0 then null else orInfinite negative (Double.ofRatio? negative x.units y.units)

def arithmetic (operator : String) (v w : SqlValue) : SqlValue :=
  match v.number, w.number with
  | null, _ | _, null => null
  | integer a, integer b =>
    match operator with
    | "+" => ofInt (a + b)
    | "-" => ofInt (a - b)
    | "*" => ofInt (a * b)
    | _ => if b = 0 then null else ofInt (a.tdiv b)
  | v, w =>
    match v.double, w.double with
    | .finite x, .finite y => doubleResult operator x y
    | _, _ => null

def remainder (v w : SqlValue) : SqlValue :=
  if v.isNull ∨ w.isNull ∨ w.whole = 0 then null
  else
    let rest := v.whole.tmod w.whole
    match v.number, w.number with
    | integer _, integer _ => integer rest
    | _, _ => real (.finite (Double.ofInt rest))

/-- The number with some 64 bits in two's complement. -/
def ofBits (bits : Nat) : SqlValue :=
  let n : Int := bits % Nat.pow 2 64
  integer (if n < Nat.pow 2 63 then n else n - Nat.pow 2 64)

def bits (n : Int) : Nat := (n % Nat.pow 2 64).toNat

/-- A number shifted to the left, or to the right by a negative count. -/
def shifted (n count : Int) : SqlValue :=
  if 0 ≤ count then (if count < 64 then ofBits (bits (n * Nat.pow 2 count.toNat)) else integer 0)
  else integer (n / Nat.pow 2 (min 64 (-count).toNat))

def bitwise (operator : String) (v w : SqlValue) : SqlValue :=
  if v.isNull ∨ w.isNull then null
  else match operator with
    | "&" => ofBits (bits v.whole &&& bits w.whole)
    | "|" => ofBits (bits v.whole ||| bits w.whole)
    | "<<" => shifted v.whole w.whole
    | _ => shifted v.whole (-w.whole)

def negated (v : SqlValue) : SqlValue := arithmetic "-" (integer 0) v

def joined (v w : SqlValue) : SqlValue :=
  match v.text?, w.text? with
  | some a, some b => text (a ++ b)
  | _, _ => null

def fits (operator : String) : Ordering → Bool
  | .lt => ["<", "<=", "!=", "is not"].contains operator
  | .eq => ["=", "<=", ">=", "is"].contains operator
  | .gt => [">", ">=", "!=", "is not"].contains operator

def bytes : List Char → List UInt8
  | a :: b :: rest =>
    UInt8.ofNat ((JsonReader.hexDigit? a).getD 0 * 16 + (JsonReader.hexDigit? b).getD 0) :: bytes rest
  | _ => []

/-- The value of a constant. Whole numbers in hexadecimal digits are 64 bits. -/
def ofConstant : SqlConstant → SqlValue
  | .null => null
  | .string content => text content
  | .blob digits => blob ⟨(bytes digits.toList).toArray⟩
  | .number written =>
    let cs := written.toList.filter (· ≠ '_')
    match cs with
    | '0' :: x :: digits =>
      if x = 'x' ∨ x = 'X' then ofBits (digits.foldl (fun n c => n * 16 + (JsonReader.hexDigit? c).getD 0) 0)
      else (numberOf (String.ofList cs)).1
    | cs => (numberOf (String.ofList cs)).1

end SqlValue

namespace SqlTable

variable (table : SqlTable)

/-- What an expression prefers its value to be. -/
def affinity : SqlExpr → SqlAffinity
  | .name text _ => ((table.column? (SqlToken.folded text)).map TableColumn.affinity).getD .none
  | .collate inner _ => affinity inner
  | .operation "cast" [_, .constant (.string type)] => .ofTypeName type
  | _ => .none

/-- How the values of two expressions are ordered. Missing values are only the same as each other, if that is asked
for. -/
def order? (missing : Bool) (left right : SqlExpr) (v w : SqlValue) : Option Ordering :=
  if v.isNull ∨ w.isNull then
    if missing then some (if v.isNull ∧ w.isNull then .eq else .lt) else none
  else
    let (v, w) := SqlValue.aligned ((table.affinity left).together (table.affinity right)) v w
    some (SqlValue.order ((table.comparison? left right).getD "binary") v w)

/-- How the values of expressions and of the parts of rows are ordered. The first difference counts. -/
def rowOrder? (missing : Bool) (left right : SqlExpr) (vs ws : List SqlValue) : Option Ordering :=
  let parts := (comparedParts (left, right)).zip (vs.zip ws)
  parts.foldr (fun ((left, right), v, w) rest =>
    match table.order? missing left right v w with
    | some .eq => rest
    | found => found) (some .eq)

/-- How rows are ordered, given the values of their parts as far as there is no failure. What follows the first
difference is not looked at. -/
def partsOrder? (missing : Bool) : List (SqlExpr × Option SqlValue) → List (SqlExpr × Option SqlValue) →
    Option (Option Ordering)
  | (left, v) :: lefts, (right, w) :: rights => do
    match table.order? missing left right (← v) (← w) with
    | some .eq => partsOrder? missing lefts rights
    | found => return found
  | _, _ => some (some .eq)

def compares (operator : String) (left right : SqlExpr) (vs ws : List SqlValue) : Option Bool :=
  (table.rowOrder? (operator = "is" || operator = "is not") left right vs ws).map (SqlValue.fits operator)

def isAmong (left : SqlExpr) (v : SqlValue) (ws : List SqlValue) : Option Bool :=
  let same (w : SqlValue) : Option Bool :=
    if v.isNull ∨ w.isNull then none
    else
      let (v, w) := SqlValue.aligned (table.affinity left) v w
      some (SqlValue.order ((table.collation? left).getD "binary") v w = .eq)
  ws.foldl (fun found w => SqlValue.either found (same w)) (some false)

/-- Whether a value is a truth value that is asked for by name. -/
def isTruth? (right : SqlExpr) (v : SqlValue) : Option Bool :=
  match right.bare with
  | .name text quoting =>
    if (table.scope .generated).isTruth (.name text quoting) then
      some (v.truth? == some (SqlToken.folded text == "true"))
    else none
  | _ => none

def operated (operator : String) (operands : List SqlExpr) (values : List (List SqlValue)) : SqlValue :=
  match operator, operands, values with
  | "isnull", _, [[v]] => .ofBool v.isNull
  | "notnull", _, [[v]] => .ofBool !v.isNull
  | "+", _, [[v]] => v
  | "-", [.constant (.number written)], [[v]] =>
    match v with
    | .real _ => (SqlValue.numberOf ("-" ++ written)).1
    | v => v.negated
  | "-", _, [[v]] => v.negated
  | "~", _, [[v]] => if v.isNull then .null else .integer (-v.whole - 1)
  | "cast", _, [[v], [.text type]] => v.cast type
  | "between", [left, low, high], [v, least, most] =>
    .ofTruth (SqlValue.both (table.compares ">=" left low v least) (table.compares "<=" left high v most))
  | "in", left :: _, [v] :: others => .ofTruth (table.isAmong left v others.flatten)
  | "is", [left, right], [v, w] =>
    .ofTruth (((v.head?.bind (table.isTruth? right))).or (table.compares "is" left right v w))
  | "is not", [left, right], [v, w] =>
    .ofTruth (((v.head?.bind (table.isTruth? right)).map not).or (table.compares "is not" left right v w))
  | "||", _, [[v], [w]] => v.joined w
  | "%", _, [[v], [w]] => v.remainder w
  | operator, [left, right], [v, w] =>
    if ExprScope.comparisons.contains operator then .ofTruth (table.compares operator left right v w)
    else match v, w with
      | [v], [w] =>
        if ["+", "-", "*", "/"].contains operator then .arithmetic operator v w else .bitwise operator v w
      | _, _ => .null
  | _, _, _ => .null

def called? (name : String) (arguments : List SqlExpr) (values : List (List SqlValue)) : Option SqlValue :=
  SqlFunction.value? name ((arguments.findSome? table.collation?).getD "binary") values.flatten

def connected (operator : String) (v w : SqlValue) : SqlValue :=
  .ofTruth (if operator = "and" then SqlValue.both v.truth? w.truth? else SqlValue.either v.truth? w.truth?)

/-- Whether the first of two connected conditions leaves the other one open. -/
def leavesOpen (operator : String) (v : SqlValue) : Bool :=
  if operator = "and" then v.truth? = some true else v.truth? ≠ some true

mutual

/-- The value of an expression in a row with some values, if there is no failure. In a condition, nothing is computed
that cannot change it. -/
def value? (column : String → Option SqlValue) (isCondition : Bool) : SqlExpr → Option SqlValue
  | .constant c => some (.ofConstant c)
  | .name text quoting =>
    let name := SqlToken.folded text
    if (table.column? name).isSome then column name
    else some (if quoting = .double then .text text else .ofBool (name = "true"))
  | .collate inner _ => value? column isCondition inner
  | .call function arguments _ _ =>
    let name := SqlToken.folded function
    if name = "iif" then branch? column arguments
    else if name = "coalesce" ∨ name = "ifnull" then firstValue? column arguments
    else (values? column arguments).bind (table.called? name arguments)
  | .operation "when" operands => branch? column operands
  | .operation "case" (.row items :: others) => do
    let vs ← values? column items
    match? column (.row items) vs.flatten others
  | .operation "case" (subject :: others) => do
    let v ← value? column false subject
    match? column subject [v] others
  | .operation operator [.row lefts, .row rights] => do
    let found ← table.partsOrder? (operator = "is" || operator = "is not") (lefts.zip (attempts column lefts))
      (rights.zip (attempts column rights))
    return .ofTruth (found.map (SqlValue.fits operator))
  | .operation "not" [inner] => do
    let v ← value? column isCondition inner
    return .ofTruth (v.truth?.map not)
  | .operation operator operands =>
    match operator, operands with
    | "and", [left, right] | "or", [left, right] => do
      let v ← value? column isCondition left
      if isCondition ∧ ¬ leavesOpen operator v then return .ofTruth v.truth?
      else return connected operator v (← value? column isCondition right)
    | operator, operands => (values? column operands).map (table.operated operator operands)
  | .dotted _ | .parameter _ | .query | .raise | .row _ => none

def values? (column : String → Option SqlValue) : List SqlExpr → Option (List (List SqlValue))
  | [] => some []
  | .row items :: rest => do
    let vs ← values? column items
    return vs.flatten :: (← values? column rest)
  | e :: rest => do
    let v ← value? column false e
    return [v] :: (← values? column rest)

def attempts (column : String → Option SqlValue) : List SqlExpr → List (Option SqlValue)
  | [] => []
  | e :: rest => value? column false e :: attempts column rest

/-- The result after the first condition that holds, else the last one. -/
def branch? (column : String → Option SqlValue) : List SqlExpr → Option SqlValue
  | condition :: result :: rest => do
    let v ← value? column true condition
    if v.truth? = some true then value? column false result else branch? column rest
  | [e] => value? column false e
  | [] => some .null

/-- The result after the first expression with the values of a subject, else the last one. -/
def match? (column : String → Option SqlValue) (subject : SqlExpr) (vs : List SqlValue) :
    List SqlExpr → Option SqlValue
  | .row items :: result :: rest => do
    let ws ← values? column items
    if table.rowOrder? false subject (.row items) vs ws.flatten = some .eq then value? column false result
    else match? column subject vs rest
  | e :: result :: rest => do
    let w ← value? column false e
    if table.rowOrder? false subject e vs [w] = some .eq then value? column false result
    else match? column subject vs rest
  | [e] => value? column false e
  | [] => some .null

def firstValue? (column : String → Option SqlValue) : List SqlExpr → Option SqlValue
  | [] => some .null
  | e :: rest => do
    let v ← value? column false e
    if v.isNull then firstValue? column rest else return v

end

/-- The value of a column in a row, if there is no failure, given those that are kept. -/
def columnValue? (kept : String → Option SqlValue) : Nat → String → Option SqlValue
  | 0, _ => none
  | fuel + 1, name => do
    let column ← table.column? name
    match column.value with
    | some e =>
      if column.isStored then kept name
      else return (← table.value? (columnValue? kept fuel) false e).as column.affinity
    | none => kept name

end SqlTable

end Orchestra
