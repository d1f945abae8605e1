import Orchestra.Sql.Token

namespace Orchestra

/-- What is still to be read, and what has been seen on the way: the databases that queries name, and whether there
are parameters. -/
structure SqlSource where
  tokens : List SqlToken
  databases : List String := []
  parameters : Bool := false

abbrev SqlReader := StateT SqlSource Option

namespace SqlReader

/-- The first token, which stays. -/
def peek : SqlReader (Option SqlToken) := do return (← get).tokens.head?

def next : SqlReader SqlToken := do
  match (← get).tokens with
  | token :: rest =>
    modify fun source => { source with tokens := rest }
    return token
  | [] => failure

def skip : SqlReader Unit := discard next

/-- Takes the first token if it passes a test, and answers whether it does. -/
def takeIf (test : SqlToken → Bool) : SqlReader Bool := do
  match ← peek with
  | some token =>
    if test token then
      skip
      return true
    else return false
  | none => return false

def isSymbol (symbol : String) (token : SqlToken) : Bool := token = .symbol symbol

/-- Whether a token is a keyword, which is given in lower case. -/
def isWord (keyword : String) : SqlToken → Bool
  | .word text => SqlToken.folded text = keyword
  | _ => false

def isOneOf (keywords : List String) (token : SqlToken) : Bool := keywords.any (isWord · token)

def takeSymbol (symbol : String) : SqlReader Bool := takeIf (isSymbol symbol)

def takeWord (keyword : String) : SqlReader Bool := takeIf (isWord keyword)

def symbol (symbol : String) : SqlReader Unit := do guard (← takeSymbol symbol)

def word (keyword : String) : SqlReader Unit := do guard (← takeWord keyword)

def words (keywords : List String) : SqlReader Unit := keywords.forM word

/-- Takes keywords one after another if the first of them is there, and answers whether it is. -/
def takeWords : List String → SqlReader Bool
  | [] => return true
  | first :: rest => do
    if ← takeWord first then
      words rest
      return true
    else return false

/-- One of some keywords, in lower case. -/
def oneOf (keywords : List String) : SqlReader String := do
  match ← next with
  | .word text =>
    guard (keywords.contains (SqlToken.folded text))
    return SqlToken.folded text
  | _ => failure

def textOf : SqlToken → String
  | .word text | .quoted text _ | .string text => text
  | _ => ""

def name : SqlReader String := do
  let token ← next
  guard token.isName
  return textOf token

/-- A name of the kind that can be left out elsewhere. -/
def plainName : SqlReader String := do
  let token ← next
  guard token.isPlainName
  return textOf token

/-- Takes a name of the kind that can be left out, if there is one. -/
def takePlainName : SqlReader Bool := takeIf SqlToken.isPlainName

/-- Repeats a step until it has no result, as often as the fuel allows. -/
def iterate {α : Type} (step : α → SqlReader (Option α)) : Nat → α → SqlReader α
  | 0, _ => failure
  | fuel + 1, a => do
    match ← step a with
    | some b => iterate step fuel b
    | none => return a

/-- Repeats a step until it has no result. Each step but the last has to take a token. -/
def repeated {α : Type} (step : α → SqlReader (Option α)) (start : α) : SqlReader α := do
  iterate step ((← get).tokens.length + 1) start

def commaList {α : Type} (item : SqlReader α) : SqlReader (List α) := do
  let first ← item
  let others ← repeated (fun found => do
    if ← takeSymbol "," then return some ((← item) :: found) else return none) []
  return first :: others.reverse

def enclosed {α : Type} (inner : SqlReader α) : SqlReader α := do
  symbol "("
  let found ← inner
  symbol ")"
  return found

def signedNumber : SqlReader Unit := do
  unless ← takeSymbol "+" do discard (takeSymbol "-")
  match ← next with
  | .number _ false => return
  | _ => failure

/-- A type: names, and one or two numbers in parentheses. Answers the names, and whether there are numbers. -/
def typeNames : SqlReader (List SqlToken × Bool) := do
  let found ← repeated (fun found => do
    match ← peek with
    | some token =>
      if token.isPlainName then
        skip
        return some (token :: found)
      else return none
    | none => return none) []
  if found.isEmpty then return ([], false)
  let sized ← takeSymbol "("
  if sized then
    signedNumber
    if ← takeSymbol "," then signedNumber
    symbol ")"
  return (found.reverse, sized)

/-- The text that the names of a type make, in lower case. -/
def typeText (names : List SqlToken) : String := " ".intercalate (names.map fun token => SqlToken.folded (textOf token))

/-- Notes the database that a query names. Only the main one can always be named. -/
def noteDatabase (name : String) : SqlReader Unit :=
  modify fun source => { source with databases := name :: source.databases }

/-- The rest of a name that may be that of a database with another name after it. -/
def afterDatabase (first : String) : SqlReader String := do
  if ← takeSymbol "." then
    noteDatabase first
    name
  else return first

end SqlReader

end Orchestra
