import Orchestra.Path

namespace Orchestra

namespace Template

/-- A part of a text: a character that stands for itself, or a placeholder by its name. -/
inductive Part where
  | literal (c : Char)
  | placeholder (name : String)
deriving DecidableEq, Repr

/-- The characters that a part is written with. -/
def Part.written : Part → List Char
  | .literal c => [c]
  | .placeholder name => '\x7b' :: name.toList ++ ['\x7d']

def isLetter (c : Char) : Bool := ('A' ≤ c && c ≤ 'Z') || ('a' ≤ c && c ≤ 'z') || c = '_'

/-- ASCII letters, digits and the underscore. -/
def isWord (c : Char) : Bool := isLetter c || ('0' ≤ c && c ≤ '9')

/-- A name starts with a letter or underscore, holds word characters and dots, and no dot stands at its end
or beside another. -/
def isName (cs : List Char) : Bool :=
  match splitBy '.' cs with
  | (first :: others) :: segments =>
    isLetter first && others.all isWord && segments.all fun s => !s.isEmpty && s.all isWord
  | _ => false

/-- The characters of an opening brace and a candidate that did not become a placeholder. -/
def literals (candidate : List Char) : List Part := .literal '\x7b' :: candidate.map .literal

/-- Splits a text into parts. A brace opens a candidate, kept in reverse; the candidate becomes a placeholder
at a closing brace if it is a name, and falls back to characters at anything that cannot go on. -/
def scan : List Char → Option (List Char) → List Part
  | [], none => []
  | [], some candidate => literals candidate.reverse
  | c :: rest, none => if c = '\x7b' then scan rest (some []) else .literal c :: scan rest none
  | c :: rest, some candidate =>
    if c = '\x7d' ∧ isName candidate.reverse then
      .placeholder (String.ofList candidate.reverse) :: scan rest none
    else if c = '\x7b' then literals candidate.reverse ++ scan rest (some [])
    else if isWord c ∨ c = '.' then scan rest (some (c :: candidate))
    else literals candidate.reverse ++ .literal c :: scan rest none

/-- The parts of a text, in order. -/
def parts (text : String) : List Part := scan text.toList none

/-- The names of the placeholders of a text, in order. -/
def names (text : String) : List String :=
  (parts text).filterMap fun
    | .placeholder name => some name
    | .literal _ => none

end Template

end Orchestra
