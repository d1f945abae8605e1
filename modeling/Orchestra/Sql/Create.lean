import Orchestra.Sql.Declaration
import Orchestra.Sql.Query

namespace Orchestra

namespace SqlReaders

open SqlReader

variable (inner : SqlReaders)

def conflict : SqlReader (Option String) := do
  if ← takeWords ["on", "conflict"] then
    some <$> oneOf ["rollback", "abort", "fail", "ignore", "replace"]
  else return none

def indexTerm : SqlReader IndexTerm := do
  let expr ← inner.anyExpr
  let descending ← if ← takeWord "asc" then pure false else takeWord "desc"
  let placesNulls ← takeWord "nulls"
  if placesNulls then discard (oneOf ["first", "last"])
  return { expr, descending, placesNulls }

def indexTerms : SqlReader (List IndexTerm) := enclosed (commaList inner.indexTerm)

def term : SqlReader SqlExpr := do
  match ← next with
  | .number text _ => return .constant (.number text)
  | .string text => return .constant (.string text)
  | .blob digits => return .constant (.blob digits)
  | .word text =>
    let folded := SqlToken.folded text
    if folded = "null" then return .constant .null
    guard (["current_date", "current_time", "current_timestamp"].contains folded)
    return .call text [] .plain []
  | _ => failure

/-- Whether a token is a name that stands for a text. -/
def isTextName : SqlToken → Bool
  | .word text =>
    (SqlToken.word text).isPlainName &&
      !(["current_date", "current_time", "current_timestamp"].contains (SqlToken.folded text)) ||
        SqlToken.folded text = "indexed"
  | .quoted _ _ => true
  | _ => false

/-- The value that a column has where none is given. -/
def fallback : SqlReader SqlExpr := do
  if (← peek) = some (.symbol "(") then enclosed inner.anyExpr
  else if ← takeSymbol "+" then term
  else if ← takeSymbol "-" then return .operation "-" [← term]
  else if (← peek).any isTextName then return .constant (.string (textOf (← next)))
  else term

/-- What is said about references, after the columns that are referred to. -/
def takeReferenceRules : SqlReader Unit :=
  repeated (fun _ => do
    if ← takeWord "match" then
      discard name
      return some ()
    else if (← peek).any (isWord "on") then
      skip
      discard (oneOf ["insert", "delete", "update"])
      match ← oneOf ["set", "cascade", "restrict", "no"] with
      | "set" => discard (oneOf ["null", "default"])
      | "no" => word "action"
      | _ => pure ()
      return some ()
    else return none) ()

/-- The columns of another table that a reference is about, and how many there are. -/
def reference : SqlReader (Option Nat) := do
  discard name
  let columns ← takeNames
  takeReferenceRules
  return columns.map List.length

/-- What follows the word for a rule that is looked after later. -/
def deferral : SqlReader Unit := do
  word "deferrable"
  if ← takeWord "initially" then discard (oneOf ["deferred", "immediate"])

/-- Whether a token can only say what kind of generated column there is. -/
def isStorage : SqlToken → Bool
  | .string _ => false
  | token => token.isPlainName

/-- The value of a generated column, after the word for it. -/
def generated : SqlReader ColumnRule := do
  let value ← enclosed inner.anyExpr
  if (← peek).any isStorage then
    match ← next with
    | .word text => return .generated value (some (SqlToken.folded text))
    | _ => return .generated value (some "")
  else return .generated value none

def columnRuleWords : List String :=
  ["constraint", "default", "null", "not", "primary", "unique", "check", "references", "deferrable", "collate",
    "generated", "as"]

def columnRule : SqlReader ColumnRule := do
  match ← oneOf columnRuleWords with
  | "constraint" =>
    discard name
    return .other
  | "default" => return .fallback (← inner.fallback)
  | "null" =>
    discard conflict
    return .other
  | "not" =>
    if ← takeWord "null" then
      discard conflict
      return .notNull
    deferral
    return .other
  | "primary" =>
    word "key"
    let descending ← if ← takeWord "asc" then pure false else takeWord "desc"
    let conflict ← conflict
    return .primaryKey descending conflict (← takeWord "autoincrement")
  | "unique" => return .unique (← conflict)
  | "check" => return .check (← enclosed inner.anyExpr)
  | "references" => return .references (← reference)
  | "deferrable" =>
    if ← takeWord "initially" then discard (oneOf ["deferred", "immediate"])
    return .other
  | "collate" => return .collation (← plainName)
  | "generated" =>
    words ["always", "as"]
    inner.generated
  | _ => inner.generated

def column : SqlReader ColumnDeclaration := do
  let name ← name
  let (names, sized) ← typeNames
  let rules ← repeated (fun found => do
    if (← peek).any (isOneOf columnRuleWords) then return some ((← inner.columnRule) :: found)
    else return none) []
  let type := SqlType.ofNames? names sized
  let named := typeText (SqlType.withoutGeneration names)
  let affinity := if named = "" then .none else SqlAffinity.ofTypeName named
  return { name, type, affinity, rules := rules.reverse }

def tableRuleWords : List String := ["constraint", "primary", "unique", "check", "foreign"]

def tableRule : SqlReader TableRule := do
  match ← oneOf tableRuleWords with
  | "constraint" =>
    discard name
    return .other
  | "primary" =>
    word "key"
    symbol "("
    let terms ← commaList inner.indexTerm
    let counting ← takeWord "autoincrement"
    symbol ")"
    return .primaryKey terms (← conflict) counting
  | "unique" =>
    let terms ← inner.indexTerms
    return .unique terms (← conflict)
  | "check" =>
    let condition ← enclosed inner.anyExpr
    discard conflict
    return .check condition
  | _ =>
    word "key"
    let columns ← enclosed (commaList listedName)
    word "references"
    let width ← reference
    if (← peek).any (isWord "not") then skip; deferral
    else if (← peek).any (isWord "deferrable") then deferral
    return .foreignKey columns width

def tableOption : SqlReader TableOption := do
  match ← oneOf ["without", "strict"] with
  | "without" =>
    word "rowid"
    return .withoutRowid
  | _ => return .strict

def tableBody : SqlReader DeclarationBody := do
  symbol "("
  let first ← inner.column
  let others ← repeated (fun found => do
    match (← get).tokens with
    | .symbol "," :: token :: _ =>
      if isOneOf tableRuleWords token then return none
      skip
      return some ((← inner.column) :: found)
    | _ => return none) []
  let rules ← if ← takeSymbol "," then do
      let first ← inner.tableRule
      let others ← repeated (fun found => do
        if (← peek) = some (.symbol ")") then return none
        discard (takeSymbol ",")
        return some ((← inner.tableRule) :: found)) []
      pure (first :: others.reverse)
    else pure []
  symbol ")"
  let options ← if (← peek).any (isOneOf ["without", "strict"]) then commaList tableOption else pure []
  return .table (first :: others.reverse) rules options

/-- Goes over anything up to the parenthesis that closes one before a number of open ones. -/
def skipEnclosed : Nat → List SqlToken → Option (List SqlToken)
  | _, [] => none
  | depth, .symbol "(" :: rest => skipEnclosed (depth + 1) rest
  | 0, .symbol ")" :: rest => some rest
  | depth + 1, .symbol ")" :: rest => skipEnclosed depth rest
  | _, .illegal :: _ => none
  | depth, _ :: rest => skipEnclosed depth rest

/-- The module of a table that is kept elsewhere, and its arguments. -/
def virtualBody : SqlReader DeclarationBody := do
  word "using"
  discard name
  if ← takeSymbol "(" then
    match skipEnclosed 0 (← get).tokens with
    | some rest => modify fun source => { source with tokens := rest }
    | none => failure
  return .virtualTable

def assignment : SqlReader Unit := do
  if (← peek) = some (.symbol "(") then
    let columns ← enclosed (commaList name)
    symbol "="
    let e ← inner.anyExpr
    guard (e.width?.all (· = columns.length))
  else
    discard name
    symbol "="
    discard inner.anyExpr

def assignments : SqlReader Unit := do
  word "set"
  discard (commaList inner.assignment)

/-- What is to be done instead of adding rows that are there already. -/
def takeConflictSteps : SqlReader Unit :=
  repeated (fun last => do
    if last then return none
    if ← takeWords ["on", "conflict"] then
      let targeted := (← peek) = some (.symbol "(")
      if targeted then
        discard inner.indexTerms
        discard inner.takeCondition
      word "do"
      if ← takeWord "update" then
        inner.assignments
        discard inner.takeCondition
      else word "nothing"
      return some (!targeted)
    else return none) false >>= fun _ => pure ()

/-- A choice of what is done about a conflict, after the word for a change. -/
def takeAlternative : SqlReader Unit := do
  if ← takeWord "or" then discard (oneOf ["rollback", "abort", "fail", "ignore", "replace"])

def insertion : SqlReader Unit := do
  word "into"
  discard name
  if (← peek) = some (.symbol "(") then discard (enclosed (commaList name))
  inner.query
  inner.takeConflictSteps

def triggerStep : SqlReader Unit := do
  if ← takeWord "update" then
    takeAlternative
    discard name
    inner.assignments
    inner.takeTables
    discard inner.takeCondition
  else if ← takeWord "insert" then
    takeAlternative
    inner.insertion
  else if ← takeWord "replace" then inner.insertion
  else if ← takeWord "delete" then
    word "from"
    discard name
    discard inner.takeCondition
  else inner.query
  symbol ";"

def triggerBody : SqlReader DeclarationBody := do
  let time ← if ← takeWord "before" then pure TriggerTime.before
    else if ← takeWord "after" then pure .after
    else if ← takeWords ["instead", "of"] then pure .instead
    else pure .before
  if (← oneOf ["delete", "insert", "update"]) = "update" then
    if ← takeWord "of" then discard (commaList name)
  word "on"
  let first ← name
  let table ← if ← takeSymbol "." then name else pure first
  discard (takeWords ["for", "each", "row"])
  if ← takeWord "when" then discard inner.anyExpr
  word "begin"
  inner.triggerStep
  repeated (fun _ => do
    if ← takeWord "end" then return none
    inner.triggerStep
    return some ()) ()
  return .trigger time table

/-- The front of a declaration, after the word for its kind. -/
def head : SqlReader DeclarationHead := do
  let ifMissing ← takeWords ["if", "not", "exists"]
  let first ← name
  if ← takeSymbol "." then return { name := ← name, qualified := true, ifMissing }
  else return { name := first, qualified := false, ifMissing }

def indexBody : SqlReader DeclarationBody := do
  word "on"
  let table ← name
  let terms ← inner.indexTerms
  return .index table terms (← inner.takeCondition)

def anyTableBody : SqlReader DeclarationBody := do
  if ← takeWord "as" then
    inner.query
    return .result
  else inner.tableBody

def viewBody : SqlReader DeclarationBody := do
  discard takeNames
  word "as"
  inner.query
  return .view (← get).parameters

/-- A declaration, up to a semicolon or the end of the text. It does not matter whether it is called temporary. -/
def declaration : SqlReader Declaration := do
  word "create"
  let temporary ← takeIf (isOneOf ["temp", "temporary"])
  let kind ← oneOf (["table", "view", "trigger"] ++ if temporary then [] else ["index", "unique", "virtual"])
  if kind = "unique" then word "index"
  if kind = "virtual" then word "table"
  let head ← head
  let body ← match kind with
    | "table" => inner.anyTableBody
    | "view" => inner.viewBody
    | "trigger" => inner.triggerBody
    | "virtual" => virtualBody
    | _ => inner.indexBody
  guard ((← peek).all (isSymbol ";"))
  return { head, body, databases := (← get).databases }

end SqlReaders

def Declaration.ofText? (text : String) : Option Declaration :=
  ((do (← SqlReader.readers).declaration : SqlReader Declaration).run { tokens := SqlToken.ofText text }).map Prod.fst

end Orchestra
