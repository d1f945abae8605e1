import Orchestra.Json.Basic

namespace Orchestra

/-- The text of an integer in decimal digits, of a double in its shortest form. -/
def Number.text : Number → String
  | .int n => toString n
  | .real x => x.jsonText

namespace Json

/-- A character inside quotes. Quote, backslash and controls are escaped, all else stands for itself. -/
def escape (c : Char) : List Char :=
  if c = '"' then ['\\', '"']
  else if c = '\\' then ['\\', '\\']
  else if c = '\x08' then ['\\', 'b']
  else if c = '\x0c' then ['\\', 'f']
  else if c = '\n' then ['\\', 'n']
  else if c = '\r' then ['\\', 'r']
  else if c = '\t' then ['\\', 't']
  else if c.toNat < 32 then
    ['\\', 'u', '0', '0', Nat.digitChar (c.toNat / 16), Nat.digitChar (c.toNat % 16)]
  else [c]

def quote (s : String) : String := String.ofList ('"' :: s.toList.flatMap escape ++ ['"'])

mutual

/-- The text without blanks. -/
def compact : Json → String
  | .null => "null"
  | .bool b => if b then "true" else "false"
  | .number n => n.text
  | .string s => quote s
  | .array items => "[" ++ compactItems items ++ "]"
  | .object fields => "\x7b" ++ compactFields fields ++ "\x7d"

def compactItems : List Json → String
  | [] => ""
  | [item] => compact item
  | item :: rest => compact item ++ "," ++ compactItems rest

def compactFields : List (String × Json) → String
  | [] => ""
  | [(key, value)] => quote key ++ ":" ++ compact value
  | (key, value) :: rest => quote key ++ ":" ++ compact value ++ "," ++ compactFields rest

end

/-- A new line at this depth of nesting. -/
def newline (depth : Nat) : String := "\n" ++ String.ofList (List.replicate (2 * depth) ' ')

mutual

/-- The text with one item or member a line; empty arrays and objects stay closed. -/
def indented (depth : Nat) : Json → String
  | .array [] => "[]"
  | .array (item :: rest) =>
    "[" ++ newline (depth + 1) ++ indented (depth + 1) item ++ indentedItems (depth + 1) rest ++
      newline depth ++ "]"
  | .object [] => "\x7b\x7d"
  | .object ((key, value) :: rest) =>
    "\x7b" ++ newline (depth + 1) ++ quote key ++ ": " ++ indented (depth + 1) value ++
      indentedFields (depth + 1) rest ++ newline depth ++ "\x7d"
  | .null => "null"
  | .bool b => if b then "true" else "false"
  | .number n => n.text
  | .string s => quote s

def indentedItems (depth : Nat) : List Json → String
  | [] => ""
  | item :: rest => "," ++ newline depth ++ indented depth item ++ indentedItems depth rest

def indentedFields (depth : Nat) : List (String × Json) → String
  | [] => ""
  | (key, value) :: rest =>
    "," ++ newline depth ++ quote key ++ ": " ++ indented depth value ++ indentedFields depth rest

end

/-- The indented text of a whole value. -/
def pretty (value : Json) : String := indented 0 value

end Json

end Orchestra
