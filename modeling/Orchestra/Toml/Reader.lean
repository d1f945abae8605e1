import Orchestra.Toml.Quoted
import Orchestra.Toml.Scalar
import Orchestra.Toml.Table

namespace Orchestra

namespace TomlReader

def isBlank (c : Char) : Bool := c = ' ' || c = '\t'

def skipBlanks (cs : List Char) : List Char := cs.dropWhile isBlank

/-- A line end or the end of the text. -/
def lineEnd? : List Char → Option (List Char)
  | [] => some []
  | '\n' :: rest => some rest
  | '\r' :: '\n' :: rest => some rest
  | _ => none

/-- Leaves out a comment, up to its line end or to a character that may not stand in it. -/
def skipComment : List Char → List Char
  | '#' :: rest => rest.dropWhile TomlQuoted.isPlain
  | cs => cs

/-- The end of a line, with blanks and a comment before it. -/
def closeLine? (cs : List Char) : Option (List Char) := lineEnd? (skipComment (skipBlanks cs))

/-- Leaves out blanks, comments and line ends, which are at most as many as the fuel. -/
def skipLines : Nat → List Char → List Char
  | 0, cs => cs
  | fuel + 1, cs =>
    match skipBlanks cs with
    | '\n' :: rest => skipLines fuel rest
    | '\r' :: '\n' :: rest => skipLines fuel rest
    | '#' :: rest => skipLines fuel (skipComment ('#' :: rest))
    | rest => rest

def isBare (c : Char) : Bool := c.isAlphanum || c = '-' || c = '_'

/-- A part of a key: bare, or quoted on one line. -/
def simpleKey? (cs : List Char) : Option (String × List Char) :=
  match cs with
  | '"' :: rest => (TomlQuoted.basic? rest).map fun (text, after) => (String.ofList text, after)
  | '\x27' :: rest => (TomlQuoted.literal? rest).map fun (text, after) => (String.ofList text, after)
  | cs =>
    let bare := cs.takeWhile isBare
    if bare.isEmpty then none else some (String.ofList bare, cs.dropWhile isBare)

/-- The parts of a dotted key, with blanks around each. -/
def key? : Nat → List Char → Option (List String × List Char)
  | 0, _ => none
  | fuel + 1, cs =>
    match simpleKey? (skipBlanks cs) with
    | none => none
    | some (part, rest) =>
      match skipBlanks rest with
      | '.' :: rest => (key? fuel rest).map fun (parts, after) => (part :: parts, after)
      | rest => some ([part], rest)

/-- Keys with this many parts, and values within this many arrays and inline tables, are refused. -/
def nestingBound : Nat := 80

/-- A key as a path and a last part. -/
def path? (fuel : Nat) (cs : List Char) : Option ((List String × String) × List Char) :=
  match key? fuel cs with
  | some (parts, after) =>
    match parts.getLast? with
    | some last => if parts.length < nestingBound then some ((parts.dropLast, last), after) else none
    | none => none
  | none => none

mutual

/-- One value. The depth counts the arrays and inline tables around it. -/
def value? : Nat → Nat → List Char → Option (Toml × List Char)
  | 0, _, _ => none
  | fuel + 1, depth, cs =>
    match cs with
    | 't' :: 'r' :: 'u' :: 'e' :: rest => some (.bool true, rest)
    | 'f' :: 'a' :: 'l' :: 's' :: 'e' :: rest => some (.bool false, rest)
    | 'i' :: 'n' :: 'f' :: rest => some (.float (.infinite false), rest)
    | 'n' :: 'a' :: 'n' :: rest => some (.float .nan, rest)
    | '[' :: rest =>
      if nestingBound ≤ depth + 1 then none
      else (items? fuel (depth + 1) rest).map fun (items, after) => (.array items, after)
    | '\x7b' :: rest =>
      if nestingBound ≤ depth + 1 then none
      else match skipBlanks rest with
        | '\x7d' :: after => some (.table [], after)
        | inner =>
          match pairs? fuel (depth + 1) inner with
          | some (pairs, after) =>
            (TomlNode.addPairs [] pairs).map fun entries =>
              (.table (TomlNode.finishedEntries entries), after)
          | none => none
    | '"' :: _ | '\x27' :: _ => (TomlQuoted.string? cs).map fun (s, after) => (.string s, after)
    | cs => TomlScalar.number? cs

/-- The items of an array up to its closing bracket. -/
def items? : Nat → Nat → List Char → Option (List Toml × List Char)
  | 0, _, _ => none
  | fuel + 1, depth, cs =>
    match skipLines cs.length cs with
    | ']' :: after => some ([], after)
    | inner =>
      match value? fuel depth inner with
      | none => none
      | some (item, rest) =>
        match skipLines rest.length rest with
        | ',' :: rest => (items? fuel depth rest).map fun (items, after) => (item :: items, after)
        | ']' :: after => some ([item], after)
        | _ => none

/-- The pairs of an inline table up to its closing brace; there is at least one. -/
def pairs? : Nat → Nat → List Char → Option (List TomlPair × List Char)
  | 0, _, _ => none
  | fuel + 1, depth, cs =>
    match pair? fuel depth cs with
    | none => none
    | some (pair, rest) =>
      match skipBlanks rest with
      | ',' :: rest => (pairs? fuel depth rest).map fun (pairs, after) => (pair :: pairs, after)
      | '\x7d' :: after => some ([pair], after)
      | _ => none

/-- A key, an equals sign and a value. -/
def pair? : Nat → Nat → List Char → Option (TomlPair × List Char)
  | 0, _, _ => none
  | fuel + 1, depth, cs =>
    match path? cs.length cs with
    | some ((path, key), '=' :: rest) =>
      (value? fuel depth (skipBlanks rest)).map fun (value, after) => (⟨path, key, value⟩, after)
    | _ => none

end

/-- A line of a document. -/
inductive Line where
  | blank
  | header (path : List String) (key : String)
  | rowHeader (path : List String) (key : String)
  | pair (pair : TomlPair)

/-- A line from its first character that is not a blank, up to what closes it. -/
def line? (cs : List Char) : Option (Line × List Char) :=
  match cs with
  | [] => some (.blank, [])
  | '\n' :: _ | '\r' :: _ | '#' :: _ => some (.blank, cs)
  | '[' :: '[' :: rest =>
    match path? cs.length rest with
    | some ((path, key), ']' :: ']' :: after) => some (.rowHeader path key, after)
    | _ => none
  | '[' :: rest =>
    match path? cs.length rest with
    | some ((path, key), ']' :: after) => some (.header path key, after)
    | _ => none
  | cs => (pair? (2 * cs.length + 2) 0 cs).map fun (pair, after) => (.pair pair, after)

/-- All lines of a text, which are at most as many as the fuel. -/
def lines? : Nat → List Char → Option (List Line)
  | 0, _ => none
  | fuel + 1, cs =>
    match line? (skipBlanks cs) with
    | none => none
    | some (line, rest) =>
      match closeLine? rest with
      | none => none
      | some [] => some [line]
      | some rest => (lines? fuel rest).map (line :: ·)

/-- The pairs before the next header. -/
def leadingPairs : List Line → List TomlPair
  | .pair pair :: rest => pair :: leadingPairs rest
  | .blank :: rest => leadingPairs rest
  | _ => []

/-- Adds the tables of all headers, with the pairs below each. -/
def addHeaders : List Line → TomlEntries → Option TomlEntries
  | [], root => some root
  | .header path key :: rest, root =>
    (TomlNode.addTable root path key (leadingPairs rest)).bind (addHeaders rest)
  | .rowHeader path key :: rest, root =>
    (TomlNode.addRow root path key (leadingPairs rest)).bind (addHeaders rest)
  | _ :: rest, root => addHeaders rest root

end TomlReader

/-- The entries of the table that a text spells. A byte order mark may come first. -/
def Toml.read? (text : String) : Option (List (String × Toml)) :=
  let cs := match text.toList with
    | '\ufeff' :: rest => rest
    | cs => cs
  (TomlReader.lines? (cs.length + 1) cs).bind fun lines =>
    (TomlNode.addPairs [] (TomlReader.leadingPairs lines)).bind fun root =>
      (TomlReader.addHeaders lines root).map TomlNode.finishedEntries

end Orchestra
