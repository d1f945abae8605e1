import Orchestra.Json.Reader

namespace Orchestra

/-- A token. A word may be a keyword, a quoted name may not; a number may have separators between its digits. Bytes
are given by hexadecimal digits. -/
inductive SqlToken where
  | word (text : String)
  | quoted (text : String) (double : Bool)
  | string (text : String)
  | number (text : String) (separated : Bool)
  | blob (digits : String)
  | parameter (name : String)
  | symbol (text : String)
  | illegal
deriving DecidableEq, Repr

namespace SqlToken

def isBlank (c : Char) : Bool := c = ' ' || c = '\t' || c = '\n' || c = '\x0c' || c = '\r'

def isWordChar (c : Char) : Bool := c.isAlphanum || c = '_' || c = '$' || 0x80 ≤ c.toNat

def isHexDigit (c : Char) : Bool := (JsonReader.hexDigit? c).isSome

/-- Names and keywords in lower case; only ASCII letters have one. -/
def folded (text : String) : String := String.ofList (text.toList.map Char.toLower)

/-- The rest after a comment between a slash and a star, and the same in reverse order. -/
def afterComment : List Char → List Char
  | '*' :: '/' :: rest => rest
  | _ :: rest => afterComment rest
  | [] => []

/-- A quoted text up to its closing quote, which is written twice inside, and the rest. -/
def untilQuote? (quote : Char) : List Char → Option (List Char × List Char)
  | [] => none
  | [c] => if c = quote then some ([], []) else none
  | c :: d :: rest =>
    if c ≠ quote then (untilQuote? quote (d :: rest)).map fun (text, after) => (c :: text, after)
    else if d = quote then (untilQuote? quote rest).map fun (text, after) => (c :: text, after)
    else some ([], d :: rest)

/-- The token that some characters make, and the rest; it is illegal if they do not. -/
def orIllegal (token : List Char → SqlToken) : Option (List Char × List Char) → SqlToken × List Char
  | some (text, rest) => (token text, rest)
  | none => (illegal, [])

/-- A token that ends at one of the quotes. -/
def quotedToken (quote : Char) (rest : List Char) : SqlToken × List Char :=
  if quote = '[' then
    orIllegal (fun text => quoted (String.ofList text) false) <|
      match rest.dropWhile (· ≠ ']') with
      | _ :: after => some (rest.takeWhile (· ≠ ']'), after)
      | [] => none
  else if quote = '\x27' then orIllegal (fun text => string (String.ofList text)) (untilQuote? quote rest)
  else orIllegal (fun text => quoted (String.ofList text) (quote = '"')) (untilQuote? quote rest)

/-- The digits at the front, with separators, and the rest. -/
def digits (isDigit : Char → Bool) (cs : List Char) : List Char × List Char :=
  cs.span fun c => isDigit c || c = '_'

def exponent : List Char → List Char × List Char
  | e :: rest =>
    if e = 'e' ∨ e = 'E' then
      match rest with
      | c :: d :: more =>
        if c.isDigit then
          let (found, after) := digits Char.isDigit rest
          (e :: found, after)
        else if (c = '+' ∨ c = '-') ∧ d.isDigit then
          let (found, after) := digits Char.isDigit (d :: more)
          (e :: c :: found, after)
        else ([], e :: rest)
      | [c] => if c.isDigit then ([e, c], []) else ([], e :: rest)
      | [] => ([], [e])
    else ([], e :: rest)
  | [] => ([], [])

def decimal (cs : List Char) : List Char × List Char :=
  let (whole, rest) := digits Char.isDigit cs
  let (fraction, rest) := match rest with
    | '.' :: rest =>
      let (found, after) := digits Char.isDigit rest
      ('.' :: found, after)
    | rest => ([], rest)
  let (power, rest) := exponent rest
  (whole ++ fraction ++ power, rest)

/-- Whether all separators stand between digits. -/
def isSeparated (isDigit : Char → Bool) : List Char → Bool
  | a :: '_' :: b :: rest => isDigit a && isDigit b && isSeparated isDigit (b :: rest)
  | [_, '_'] => false
  | '_' :: _ => false
  | _ :: rest => isSeparated isDigit rest
  | [] => true

def numberToken (cs : List Char) : SqlToken × List Char :=
  let hex := match cs with
    | '0' :: x :: c :: _ => (x = 'x' || x = 'X') && isHexDigit c
    | _ => false
  let (text, rest) :=
    if hex then
      let (found, after) := digits isHexDigit (cs.drop 2)
      (cs.take 2 ++ found, after)
    else decimal cs
  let fits := isSeparated (if hex then isHexDigit else Char.isDigit) (if hex then text.drop 2 else text)
  if rest.head?.any isWordChar ∨ ¬ fits then (illegal, [])
  else (number (String.ofList text) (text.contains '_'), rest)

/-- The name of a parameter, which may end in a list in parentheses, and the rest. -/
def parameterName? : List Char → Option (List Char × List Char)
  | ':' :: ':' :: rest => (parameterName? rest).map fun (name, after) => (':' :: ':' :: name, after)
  | '(' :: rest =>
    let inner := rest.takeWhile fun c => !isBlank c && c ≠ ')'
    match rest.drop inner.length with
    | ')' :: after => some ('(' :: inner ++ [')'], after)
    | _ => none
  | c :: rest =>
    if isWordChar c then (parameterName? rest).map fun (name, after) => (c :: name, after)
    else some ([], c :: rest)
  | [] => some ([], [])

def parameterToken (c : Char) (rest : List Char) : SqlToken × List Char :=
  match rest.head? with
  | some '(' => (illegal, [])
  | _ =>
    match parameterName? rest with
    | some (name, after) =>
      if name.any isWordChar then (parameter (String.ofList (c :: name)), after) else (illegal, [])
    | none => (illegal, [])

def wordToken (c : Char) (rest : List Char) : SqlToken × List Char :=
  match rest with
  | '\x27' :: more =>
    if c = 'x' ∨ c = 'X' then
      let digits := more.takeWhile isHexDigit
      match more.drop digits.length with
      | '\x27' :: after => if digits.length % 2 = 0 then (blob (String.ofList digits), after) else (illegal, [])
      | _ => (illegal, [])
    else (word (String.singleton c), rest)
  | _ => (word (String.ofList (c :: rest.takeWhile isWordChar)), rest.dropWhile isWordChar)

/-- The symbols of more than one character, each with its usual spelling; longer ones come first. -/
def longSymbols : List (String × String) :=
  [("->>", "->>"), ("->", "->"), ("==", "="), ("<=", "<="), ("<>", "!="), ("<<", "<<"), (">=", ">="), (">>", ">>"),
    ("!=", "!="), ("||", "||")]

def symbolToken (cs : List Char) : SqlToken × List Char :=
  match longSymbols.find? fun entry => entry.1.toList.isPrefixOf cs with
  | some (written, usual) => (symbol usual, cs.drop written.length)
  | none =>
    match cs with
    | c :: rest => if "();+*-/%=<>|,&~.".toList.contains c then (symbol (String.singleton c), rest) else (illegal, [])
    | [] => (illegal, [])

/-- The first token of a text that starts with one, and the rest. -/
def first : List Char → SqlToken × List Char
  | [] => (illegal, [])
  | c :: rest =>
    if c = '"' ∨ c = '\x27' ∨ c = '\x60' ∨ c = '[' then quotedToken c rest
    else if c.isDigit ∨ (c = '.' ∧ rest.head?.any Char.isDigit) then numberToken (c :: rest)
    else if c = '?' then
      (parameter (String.ofList (c :: rest.takeWhile Char.isDigit)), rest.dropWhile Char.isDigit)
    else if c = '$' ∨ c = '@' ∨ c = '#' ∨ c = ':' then parameterToken c rest
    else if isWordChar c then wordToken c rest
    else symbolToken (c :: rest)

/-- The tokens of a text, which are at most as many as the fuel, blanks and comments included. Nothing follows an
illegal token, and a zero ends the text. -/
def scan : Nat → List Char → List SqlToken
  | _, [] => []
  | 0, _ => [illegal]
  | _ + 1, '\x00' :: _ => []
  | fuel + 1, '-' :: '-' :: rest => scan fuel (rest.dropWhile (· ≠ '\n'))
  | fuel + 1, '/' :: '*' :: c :: rest => scan fuel (afterComment (c :: rest))
  | fuel + 1, c :: rest =>
    if isBlank c ∨ c = '\ufeff' then scan fuel rest
    else
      let (token, after) := first (c :: rest)
      if token = illegal then [illegal] else token :: scan fuel after

def reserved : List String :=
  ["add", "all", "alter", "and", "as", "autoincrement", "between", "case", "check", "collate", "commit", "constraint",
    "create", "default", "deferrable", "delete", "distinct", "drop", "else", "escape", "except", "exists", "foreign",
    "from", "group", "having", "in", "index", "insert", "intersect", "into", "is", "isnull", "join", "limit", "not",
    "nothing", "notnull", "null", "on", "or", "order", "primary", "references", "returning", "select", "set", "table",
    "then", "to", "transaction", "union", "unique", "update", "using", "values", "when", "where"]

def joinWords : List String := ["cross", "full", "inner", "left", "natural", "outer", "right"]

/-- The words that are keywords in places that other tokens mark, and names elsewhere. -/
def contextual : List String := ["window", "over", "filter"]

/-- Whether a token can be a name where any name is expected. Words that are names by their place are quoted. -/
def isName : SqlToken → Bool
  | word text => !(reserved ++ contextual).contains (folded text)
  | quoted _ _ | string _ => true
  | _ => false

/-- Whether a token can be a name where a name may be left out. -/
def isPlainName : SqlToken → Bool
  | word text => !(reserved ++ contextual ++ joinWords ++ ["indexed"]).contains (folded text)
  | quoted _ _ | string _ => true
  | _ => false

/-- Whether a word is a keyword, by the tokens around it. -/
def isKeyword (before : Option SqlToken) (text : String) (after : List SqlToken) : Bool :=
  let isNext (token : SqlToken) : Bool :=
    isName token || token = word "over" || token = word "window"
  match folded text with
  | "window" =>
    match after with
    | a :: word b :: _ => isNext a && folded b = "as"
    | _ => false
  | "over" => before = some (symbol ")") && after.head?.any fun token => token = symbol "(" || isNext token
  | "filter" => before = some (symbol ")") && after.head? = some (symbol "(")
  | _ => true

/-- Quotes the words that are names by their place. -/
def settle : Option SqlToken → List SqlToken → List SqlToken
  | _, [] => []
  | before, word text :: rest =>
    (if isKeyword before text rest then word text else quoted text false) :: settle (some (word text)) rest
  | _, token :: rest => token :: settle (some token) rest

def ofText (text : String) : List SqlToken := settle none (scan text.length text.toList)

end SqlToken

end Orchestra
