import Orchestra.Sql.Expr
import Orchestra.Sql.Reader

namespace Orchestra

namespace SqlReader

/-- How strongly operators bind. The words that stand for more than one of them are not among them. -/
def level? : SqlToken → Option Nat
  | .symbol "=" | .symbol "!=" => some 4
  | .symbol "<" | .symbol "<=" | .symbol ">" | .symbol ">=" => some 5
  | .symbol "&" | .symbol "|" | .symbol "<<" | .symbol ">>" => some 7
  | .symbol "+" | .symbol "-" => some 8
  | .symbol "*" | .symbol "/" | .symbol "%" => some 9
  | .symbol "||" | .symbol "->" | .symbol "->>" => some 10
  | .word text =>
    match SqlToken.folded text with
    | "or" => some 1
    | "and" => some 2
    | "not" => some 3
    | "is" | "like" | "glob" | "regexp" | "match" | "between" | "in" | "isnull" | "notnull" => some 4
    | "collate" => some 11
    | _ => none
  | _ => none

def signLevel : Nat := 12

def likenessWords : List String := ["like", "glob", "regexp", "match"]

def argumentBound : Nat := 127

def columnBound : Nat := 2000

def unionBound : Nat := 500

/-- Whether a parameter's number, if it has one, is in range. -/
def isParameter (name : String) : Bool :=
  match name.toList with
  | '?' :: digits => digits.isEmpty || (1 ≤ (String.ofList digits).toNat?.getD 0 &&
      (String.ofList digits).toNat?.getD 0 ≤ 32766)
  | '#' :: c :: _ => !c.isDigit
  | _ => true

end SqlReader

structure SqlReaders where
  /-- An expression whose operators bind more strongly than a level. It may end before the next conjunction. -/
  expr : Nat → Bool → SqlReader SqlExpr
  query : SqlReader Unit
  /-- The tables that a query is about. -/
  tables : SqlReader Unit

namespace SqlReaders

open SqlReader

variable (inner : SqlReaders)

def anyExpr : SqlReader SqlExpr := inner.expr 0 false

def operand (level : Nat) : SqlReader SqlExpr := inner.expr level false

def exprList : SqlReader (List SqlExpr) := commaList inner.anyExpr

/-- Expressions up to a closing parenthesis, which stays. -/
def optionalList : SqlReader (List SqlExpr) := do
  if (← peek) = some (.symbol ")") then return [] else inner.exprList

def atQuery : SqlReader Bool := do return (← peek).any (isOneOf ["select", "values", "with"])

/-- An expression with an order, of which the order is dropped. -/
def sortTerm : SqlReader SqlExpr := do
  let e ← inner.anyExpr
  unless ← takeWord "asc" do discard (takeWord "desc")
  if ← takeWord "nulls" then discard (oneOf ["first", "last"])
  return e

def order : SqlReader (List SqlExpr) := do
  words ["order", "by"]
  commaList inner.sortTerm

def takeOrder : SqlReader Unit := do
  if (← peek).any (isWord "order") then discard inner.order

/-- The places where a frame of rows can end, in order. -/
inductive FrameEdge where
  | allBefore
  | before
  | current
  | after
  | allAfter
deriving DecidableEq, Repr

def frameEdge (unbounded : FrameEdge) : SqlReader FrameEdge := do
  if ← takeWord "unbounded" then
    word (if unbounded = .allBefore then "preceding" else "following")
    return unbounded
  else if ← takeWord "current" then
    word "row"
    return .current
  else
    discard inner.anyExpr
    return if (← oneOf ["preceding", "following"]) = "preceding" then .before else .after

def isFrame : FrameEdge → FrameEdge → Bool
  | .current, .before | .after, .before | .after, .current => false
  | _, _ => true

def frame : SqlReader Unit := do
  if ← takeIf (isOneOf ["range", "rows", "groups"]) then
    if ← takeWord "between" then
      let first ← inner.frameEdge .allBefore
      word "and"
      let last ← inner.frameEdge .allAfter
      guard (isFrame first last)
    else
      let first ← inner.frameEdge .allBefore
      guard (isFrame first .current)
    if ← takeWord "exclude" then
      match ← oneOf ["no", "current", "group", "ties"] with
      | "no" => word "others"
      | "current" => word "row"
      | _ => return

def window : SqlReader Unit := do
  unless (← peek).any (isOneOf ["partition", "order", "range", "rows", "groups"]) do
    discard (takeIf SqlToken.isName)
  if ← takeWords ["partition", "by"] then discard inner.exprList
  inner.takeOrder
  inner.frame

/-- What follows the arguments of a call. -/
def callForm (distinct : Bool) (sorted : Bool) : SqlReader (CallForm × List SqlExpr) := do
  let filter ← if ← takeWord "filter" then
    some <$> enclosed do
      word "where"
      inner.anyExpr
    else pure none
  if ← takeWord "over" then
    guard (¬ distinct ∧ ¬ sorted)
    if ← takeSymbol "(" then
      inner.window
      symbol ")"
    else discard name
    return (.windowed, filter.toList)
  else
    let form := if filter.isSome then .filtered else if sorted then .ordered else .plain
    return (form, filter.toList)

/-- A call, from its opening parenthesis on. -/
def call (function : String) : SqlReader SqlExpr := do
  symbol "("
  if ← takeSymbol "*" then
    symbol ")"
    let (form, further) ← inner.callForm false false
    return .call function [] form further
  let distinct ← takeWord "distinct"
  unless distinct do discard (takeWord "all")
  let arguments ← if (← peek).any (isWord "order") then pure [] else inner.optionalList
  guard (arguments.length ≤ argumentBound)
  let sorted ← if (← peek).any (isWord "order") then inner.order else pure []
  symbol ")"
  let (form, further) ← inner.callForm distinct (¬ sorted.isEmpty ∧ ¬ arguments.isEmpty)
  return .call function arguments form (sorted ++ further)

/-- An expression with more than one name, or just a name. -/
def named (token : SqlToken) : SqlReader SqlExpr := do
  if ← takeSymbol "." then
    let second ← name
    if ← takeSymbol "." then return .dotted [textOf token, second, ← name]
    else return .dotted [textOf token, second]
  else match token with
    | .string text => return .constant (.string text)
    | .quoted text double =>
      if (← peek) = some (.symbol "(") then inner.call text
      else return .name text (if double then .double else .other)
    | .word text => if (← peek) = some (.symbol "(") then inner.call text else return .name text .none
    | _ => failure

/-- What stands between the words of a distinction of cases: a subject, if there is one, then conditions and results
in turn, and the result if no condition holds. -/
def cases : SqlReader SqlExpr := do
  let subject ← if (← peek).any (isWord "when") then pure [] else List.singleton <$> inner.anyExpr
  let branch : SqlReader (List SqlExpr) := do
    word "when"
    let condition ← inner.anyExpr
    word "then"
    return [condition, ← inner.anyExpr]
  let first ← branch
  let others ← repeated (fun found => do
    if (← peek).any (isWord "when") then return some (found ++ (← branch)) else return none) []
  let fallback ← if ← takeWord "else" then inner.anyExpr else pure (.constant .null)
  word "end"
  return .operation (if subject.isEmpty then "when" else "case") (subject ++ first ++ others ++ [fallback])

def parenthesized : SqlReader SqlExpr := do
  if ← atQuery then
    inner.query
    symbol ")"
    return .query
  let items ← inner.exprList
  symbol ")"
  match items with
  | [e] => return e
  | items => return .row items

/-- What is cast to a type. The name of the type comes last. -/
def cast : SqlReader SqlExpr := do
  symbol "("
  let e ← inner.anyExpr
  word "as"
  let (names, _) ← typeNames
  symbol ")"
  return .operation "cast" [e, .constant (.string (typeText names))]

def raising : SqlReader SqlExpr := do
  symbol "("
  unless ← takeWord "ignore" do
    discard (oneOf ["rollback", "abort", "fail"])
    symbol ","
    discard name
  symbol ")"
  return .raise

/-- An expression up to its first operator that stands between others. -/
def start : SqlReader SqlExpr := do
  match ← next with
  | .number text _ => return .constant (.number text)
  | .blob digits => return .constant (.blob digits)
  | .parameter name =>
    guard (isParameter name)
    modify fun source => { source with parameters := true }
    return .parameter name
  | .symbol "(" => inner.parenthesized
  | .symbol sign =>
    guard (["+", "-", "~"].contains sign)
    return .operation sign [← inner.operand signLevel]
  | .word text =>
    match SqlToken.folded text with
    | "null" => return .constant .null
    | "not" => return .operation "not" [← inner.operand 2]
    | "cast" => inner.cast
    | "raise" => raising
    | "case" => inner.cases
    | "exists" =>
      enclosed inner.query
      return .query
    | "current_date" | "current_time" | "current_timestamp" => return .call text [] .plain []
    | folded =>
      guard (¬ SqlToken.reserved.contains folded)
      inner.named (.word text)
  | .quoted text double => inner.named (.quoted text double)
  | .string text => inner.named (.string text)
  | .illegal => failure

def members (left : SqlExpr) : SqlReader SqlExpr := do
  if ← takeSymbol "(" then
    if ← atQuery then
      inner.query
      symbol ")"
      return .operation "in" [left, .query]
    let items ← inner.optionalList
    symbol ")"
    SqlExpr.membership? left items
  else
    discard (afterDatabase (← name))
    if ← takeSymbol "(" then
      discard inner.optionalList
      symbol ")"
    return .operation "in" [left, .query]

/-- What follows a word that compares, stands for a range, or asks for membership. -/
def comparison (keyword : String) (left : SqlExpr) : SqlReader SqlExpr := do
  if likenessWords.contains keyword then
    let pattern ← inner.operand 4
    let escape ← if ← takeWord "escape" then List.singleton <$> inner.operand 4 else pure []
    return .call keyword (pattern :: left :: escape) .plain []
  else if keyword = "between" then
    let low ← inner.expr 0 true
    word "and"
    return .operation "between" [left, low, ← inner.operand 4]
  else
    guard (keyword = "in")
    inner.members left

def negated (left : SqlExpr) : SqlReader SqlExpr := do
  match ← oneOf ("null" :: "between" :: "in" :: likenessWords) with
  | "null" => return .operation "notnull" [left]
  | keyword => return .operation "not" [← inner.comparison keyword left]

def sameness (left : SqlExpr) : SqlReader SqlExpr := do
  let negative ← takeWord "not"
  discard (takeWords ["distinct", "from"])
  return .operation (if negative then "is not" else "is") [left, ← inner.operand 4]

/-- What an operator at a level makes of the expression before it. -/
def extended (token : SqlToken) (level : Nat) (left : SqlExpr) : SqlReader SqlExpr := do
  match token with
  | .symbol operator =>
    let right ← inner.operand level
    if operator = "->" ∨ operator = "->>" then return .call operator [left, right] .plain []
    else return .operation operator [left, right]
  | .word text =>
    match SqlToken.folded text with
    | "collate" => return .collate left (← plainName)
    | "isnull" => return .operation "isnull" [left]
    | "notnull" => return .operation "notnull" [left]
    | "not" => inner.negated left
    | "is" => inner.sameness left
    | "or" => return .operation "or" [left, ← inner.operand level]
    | "and" => return .conjunction left (← inner.operand level)
    | keyword => inner.comparison keyword left
  | _ => failure

def exprAbove (level : Nat) (stopsAtAnd : Bool) : SqlReader SqlExpr := do
  let first ← inner.start
  repeated (fun left => do
    match ← peek with
    | some token =>
      match level? token with
      | some found =>
        if found ≤ level ∨ (stopsAtAnd ∧ isWord "and" token) then return none
        skip
        some <$> inner.extended token found left
      | none => return none
    | none => return none) first

def boundedExpr (level : Nat) (stopsAtAnd : Bool) : SqlReader SqlExpr := do
  let e ← inner.exprAbove level stopsAtAnd
  guard (e.height ≤ SqlExpr.heightBound)
  return e

end SqlReaders

end Orchestra
