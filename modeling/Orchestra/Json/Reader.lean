import Orchestra.Json.Document

namespace Orchestra

namespace JsonReader

def isBlank (c : Char) : Bool := c = ' ' || c = '\n' || c = '\t' || c = '\r'

def skipBlanks (cs : List Char) : List Char := cs.dropWhile isBlank

/-- The value of a hexadecimal digit. -/
def hexDigit? (c : Char) : Option Nat :=
  if '0' ≤ c ∧ c ≤ '9' then some (c.toNat - 48)
  else if 'a' ≤ c ∧ c ≤ 'f' then some (c.toNat - 87)
  else if 'A' ≤ c ∧ c ≤ 'F' then some (c.toNat - 55)
  else none

def hexUnit? (a b c d : Char) : Option Nat :=
  match hexDigit? a, hexDigit? b, hexDigit? c, hexDigit? d with
  | some a, some b, some c, some d => some (((a * 16 + b) * 16 + c) * 16 + d)
  | _, _, _, _ => none

/-- What a backslash and one letter stand for. -/
def escaped? : Char → Option Char
  | '"' => some '"'
  | '\\' => some '\\'
  | '/' => some '/'
  | 'b' => some '\x08'
  | 'f' => some '\x0c'
  | 'n' => some '\n'
  | 'r' => some '\r'
  | 't' => some '\t'
  | _ => none

/-- A part of a string: a character, or an escaped UTF-16 unit. -/
inductive Piece where
  | char (c : Char)
  | unit (n : Nat)

/-- The pieces up to the closing quote, and what follows it. -/
def pieces : List Char → Option (List Piece × List Char)
  | [] => none
  | '"' :: rest => some ([], rest)
  | '\\' :: 'u' :: a :: b :: c :: d :: rest =>
    match hexUnit? a b c d, pieces rest with
    | some n, some (found, after) => some (.unit n :: found, after)
    | _, _ => none
  | '\\' :: letter :: rest =>
    match escaped? letter, pieces rest with
    | some c, some (found, after) => some (.char c :: found, after)
    | _, _ => none
  | c :: rest =>
    if c.toNat < 32 ∨ c = '\\' then none
    else match pieces rest with
      | some (found, after) => some (.char c :: found, after)
      | none => none

def isHighSurrogate (n : Nat) : Bool := 0xD800 ≤ n && n ≤ 0xDBFF

def isLowSurrogate (n : Nat) : Bool := 0xDC00 ≤ n && n ≤ 0xDFFF

/-- The characters that pieces stand for; a surrogate counts only as half of a pair. -/
def join? : List Piece → Option (List Char)
  | [] => some []
  | .char c :: rest => (join? rest).map (c :: ·)
  | .unit high :: .unit low :: rest =>
    if isHighSurrogate high && isLowSurrogate low then
      (join? rest).map (Char.ofNat (0x10000 + (high - 0xD800) * 0x400 + (low - 0xDC00)) :: ·)
    else if isHighSurrogate high || isLowSurrogate high then none
    else (join? (.unit low :: rest)).map (Char.ofNat high :: ·)
  | .unit n :: rest =>
    if isHighSurrogate n || isLowSurrogate n then none else (join? rest).map (Char.ofNat n :: ·)

/-- A string after its opening quote. -/
def string? (cs : List Char) : Option (Option String × List Char) :=
  (pieces cs).map fun (found, after) => ((join? found).map String.ofList, after)

/-- The decimal digits at the front. -/
def digits (cs : List Char) : List Nat × List Char :=
  ((cs.takeWhile Char.isDigit).map fun c => c.toNat - 48, cs.dropWhile Char.isDigit)

/-- The digits after a decimal point, if there is one. -/
def fraction? : List Char → Option (Option (List Nat) × List Char)
  | '.' :: rest =>
    let (found, after) := digits rest
    if found.isEmpty then none else some (some found, after)
  | cs => some (none, cs)

/-- The exponent, if there is one. -/
def exponent? : List Char → Option (Option Int × List Char)
  | cs@(c :: rest) =>
    if c = 'e' ∨ c = 'E' then
      let (negative, rest) := match rest with
        | '-' :: rest => (true, rest)
        | '+' :: rest => (false, rest)
        | rest => (false, rest)
      let (found, after) := digits rest
      let size : Int := (found.foldl (fun n d => n * 10 + d) 0 : Nat)
      if found.isEmpty then none else some (some (if negative then -size else size), after)
    else some (none, cs)
  | [] => some (none, [])

/-- The value of a literal: an integer if it is written as one and fits 64 bits, else a double. -/
def numberOf (negative : Bool) (whole : List Nat) (fraction : Option (List Nat)) (exponent : Option Int) :
    Option Number :=
  let magnitude : Int := (whole.foldl (fun n d => n * 10 + d) 0 : Nat)
  let integer := if negative then -magnitude else magnitude
  let inRange := if negative then magnitude ≠ 0 ∧ -(Nat.pow 2 63 : Int) ≤ integer else integer < Nat.pow 2 64
  if fraction.isNone ∧ exponent.isNone ∧ inRange then some (.int integer)
  else (Decimal.toDouble? ⟨negative, whole, fraction.getD [], exponent.getD 0⟩).map .real

/-- A number; a leading zero stands alone. -/
def number? (cs : List Char) : Option (Option Number × List Char) :=
  let (negative, cs) := match cs with
    | '-' :: rest => (true, rest)
    | cs => (false, cs)
  match digits cs with
  | ([], _) => none
  | (0 :: _ :: _, _) => none
  | (whole, after) => do
    let (fraction, after) ← fraction? after
    let (exponent, after) ← exponent? after
    return (numberOf negative whole fraction exponent, after)

mutual

/-- One value at the front of the text, and what follows it. -/
def value? : Nat → List Char → Option (Document × List Char)
  | 0, _ => none
  | fuel + 1, cs =>
    match skipBlanks cs with
    | 'n' :: 'u' :: 'l' :: 'l' :: rest => some (.null, rest)
    | 't' :: 'r' :: 'u' :: 'e' :: rest => some (.bool true, rest)
    | 'f' :: 'a' :: 'l' :: 's' :: 'e' :: rest => some (.bool false, rest)
    | '"' :: rest => (string? rest).map fun (s, after) => (.string s, after)
    | '[' :: rest =>
      match skipBlanks rest with
      | ']' :: after => some (.array [], after)
      | inner => (items? fuel inner).map fun (items, after) => (.array items, after)
    | '\x7b' :: rest =>
      match skipBlanks rest with
      | '\x7d' :: after => some (.object [], after)
      | inner => (members? fuel inner).map fun (members, after) => (.object members, after)
    | other => (number? other).map fun (n, after) => (.number n, after)

/-- One or more items up to the closing bracket. -/
def items? : Nat → List Char → Option (List Document × List Char)
  | 0, _ => none
  | fuel + 1, cs =>
    match value? fuel cs with
    | none => none
    | some (item, rest) =>
      match skipBlanks rest with
      | ',' :: rest => (items? fuel rest).map fun (items, after) => (item :: items, after)
      | ']' :: after => some ([item], after)
      | _ => none

/-- One or more members up to the closing brace. -/
def members? : Nat → List Char → Option (List (Option String × Document) × List Char)
  | 0, _ => none
  | fuel + 1, cs =>
    match skipBlanks cs with
    | '"' :: rest =>
      match string? rest with
      | none => none
      | some (key, rest) =>
        match skipBlanks rest with
        | ':' :: rest =>
          match value? fuel rest with
          | none => none
          | some (item, rest) =>
            match skipBlanks rest with
            | ',' :: rest => (members? fuel rest).map fun (members, after) => ((key, item) :: members, after)
            | '\x7d' :: after => some ([(key, item)], after)
            | _ => none
        | _ => none
    | _ => none

end

end JsonReader

/-- The document that a text spells; only blanks may surround it. -/
def Document.read? (text : String) : Option Document :=
  let cs := text.toList
  match JsonReader.value? (2 * cs.length + 2) cs with
  | some (document, rest) => if (JsonReader.skipBlanks rest).isEmpty then some document else none
  | none => none

/-- How many arrays and objects may lie within one another in a text. -/
def Document.nestingLimit : Nat := 127

/-- The value that a text spells, nested at most `Document.nestingLimit` deep. -/
def Json.read? (text : String) : Option Json :=
  (Document.read? text).bind (·.toJson? (some Document.nestingLimit))

end Orchestra
