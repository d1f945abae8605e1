import Orchestra.Sql.Operator

namespace Orchestra

namespace SqlReaders

open SqlReader

variable (inner : SqlReaders)

def resultColumn : SqlReader Unit := do
  let tokens := (← get).tokens
  if ← takeSymbol "*" then return
  match tokens with
  | first :: .symbol "." :: .symbol "*" :: _ =>
    guard first.isName
    skip
    skip
    skip
  | _ =>
    discard inner.anyExpr
    if ← takeWord "as" then discard name else discard takePlainName

def resultColumns : SqlReader Unit := do
  let columns ← commaList inner.resultColumn
  guard (columns.length ≤ columnBound)

/-- The words of a way to join, which is one if an outer join tells its side. -/
def isJoin (keywords : List String) : Bool :=
  let has (keyword : String) : Bool := keywords.contains keyword
  let outer := ["left", "right", "full", "outer"].any has
  keywords.all SqlToken.joinWords.contains && !(outer && (has "inner" || has "cross")) &&
    (!has "outer" || has "left" || has "right" || has "full")

def takeJoin : SqlReader Bool := do
  if ← takeSymbol "," then return true
  else if ← takeWord "join" then return true
  else if (← peek).any (isOneOf SqlToken.joinWords) then
    let first ← name
    let others ← repeated (fun found => do
      if (← peek).any (isWord "join") then return none
      return some (found ++ [SqlToken.folded (← name)])) []
    word "join"
    guard (others.length ≤ 2 ∧ isJoin (SqlToken.folded first :: others))
    return true
  else return false

/-- Takes what a join is about, and answers whether it is there. -/
def takeJoinCondition : SqlReader Bool := do
  if ← takeWord "on" then
    discard inner.anyExpr
    return true
  else if ← takeWord "using" then
    discard (enclosed (commaList name))
    return true
  else return false

def takeAlias : SqlReader Unit := do
  if ← takeWord "as" then discard name else discard takePlainName

def takeIndexChoice : SqlReader Unit := do
  if ← takeWords ["indexed", "by"] then discard name
  else if (← peek).any (isWord "not") then words ["not", "indexed"]

/-- Something that a query is about, with what it is joined by. Answers whether that is there. -/
def table : SqlReader Bool := do
  if ← takeSymbol "(" then
    if ← atQuery then inner.query else inner.tables
    symbol ")"
    takeAlias
  else
    discard (afterDatabase (← name))
    if ← takeSymbol "(" then
      discard inner.optionalList
      symbol ")"
      takeAlias
    else
      takeAlias
      takeIndexChoice
  inner.takeJoinCondition

/-- The tables that a query is about. Nothing joins the first one. -/
def allTables : SqlReader Unit := do
  guard (¬ (← inner.table))
  repeated (fun _ => do
    if ← takeJoin then
      discard inner.table
      return some ()
    else return none) ()

def takeTables : SqlReader Unit := do
  if ← takeWord "from" then inner.tables

def takeCondition : SqlReader (Option SqlExpr) := do
  if ← takeWord "where" then some <$> inner.anyExpr else return none

/-- Takes an order and a limit, and answers whether there is one of them. -/
def takeEnd : SqlReader Bool := do
  let ordered := (← peek).any (isWord "order")
  inner.takeOrder
  if ← takeWord "limit" then
    discard inner.anyExpr
    if ← takeWord "offset" then discard inner.anyExpr
    else if ← takeSymbol "," then discard inner.anyExpr
    return true
  else return ordered

def namedWindow : SqlReader Unit := do
  discard name
  word "as"
  enclosed inner.window

/-- A query that is not put together from others. Answers whether it has an order or a limit. -/
def singleQuery : SqlReader Bool := do
  if ← takeWord "values" then
    discard (commaList (enclosed inner.exprList))
    return false
  word "select"
  unless ← takeWord "distinct" do discard (takeWord "all")
  inner.resultColumns
  inner.takeTables
  discard inner.takeCondition
  if ← takeWords ["group", "by"] then discard inner.exprList
  if ← takeWord "having" then discard inner.anyExpr
  if ← takeWord "window" then discard (commaList inner.namedWindow)
  inner.takeEnd

def takeUnion : SqlReader Bool := do
  if ← takeWord "union" then
    discard (takeWord "all")
    return true
  else takeIf (isOneOf ["except", "intersect"])

/-- A name in a list, which may have a collation and an order. -/
def listedName : SqlReader String := do
  let found ← name
  if ← takeWord "collate" then discard plainName
  unless ← takeWord "asc" do discard (takeWord "desc")
  return found

def takeNames : SqlReader (Option (List String)) := do
  if (← peek) = some (.symbol "(") then some <$> enclosed (commaList listedName) else return none

def commonTable : SqlReader String := do
  let found ← name
  discard takeNames
  word "as"
  if ← takeWord "not" then word "materialized" else discard (takeWord "materialized")
  enclosed inner.query
  return SqlToken.folded found

/-- A query. Only the last one of those that it is put together from has an order or a limit. -/
def wholeQuery : SqlReader Unit := do
  if ← takeWord "with" then
    discard (takeWord "recursive")
    let names ← commaList inner.commonTable
    guard (names.Nodup)
  let first ← inner.singleQuery
  let (_, count) ← repeated (fun (ended, count) => do
    if ← takeUnion then
      guard (¬ ended)
      return some ((← inner.singleQuery), count + 1)
    else return none) (first, 1)
  guard (count ≤ unionBound)

/-- Readers for expressions and queries that are nested at most this deep. -/
def ofDepth : Nat → SqlReaders
  | 0 => ⟨fun _ _ => failure, failure, failure⟩
  | depth + 1 =>
    let inner := ofDepth depth
    ⟨inner.boundedExpr, inner.wholeQuery, inner.allTables⟩

end SqlReaders

namespace SqlReader

/-- Readers for all that the tokens can be. -/
def readers : SqlReader SqlReaders := do return .ofDepth ((← get).tokens.length + 1)

end SqlReader

end Orchestra
