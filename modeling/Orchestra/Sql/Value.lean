import Orchestra.Number.Literal
import Orchestra.Sql.Affinity
import Orchestra.Utf8

namespace Orchestra

inductive SqlValue where
  | null
  | integer (value : Int)
  | real (value : ExtendedDouble)
  | text (content : String)
  | blob (content : ByteArray)

/-- The text of a number: at most 15 digits, with a fraction, and with an exponent if it is far from one. -/
def Double.fifteenDigits (x : Double) : String :=
  if x.units = 0 then "0.0"
  else
    let scale : Int := 14 - leadingExponent x.units
    let rounded := roundDiv (x.units * Nat.pow 10 scale.toNat) (unitsPerOne * Nat.pow 10 (-scale).toNat)
    let digits := Nat.toDigits 10 rounded
    let exponent : Int := (digits.length : Int) - 1 - scale
    let digits := (digits.reverse.dropWhile (· = '0')).reverse
    let filled (fraction : List Char) : String := if fraction.isEmpty then "0" else String.ofList fraction
    if -4 ≤ exponent ∧ exponent < 15 then
      let (whole, fraction) := positional digits exponent
      x.signText ++ String.ofList whole ++ "." ++ filled fraction
    else
      let power := toString exponent.natAbs
      x.signText ++ String.ofList (digits.take 1) ++ "." ++ filled (digits.drop 1) ++ "e" ++
        (if exponent < 0 then "-" else "+") ++ (if power.length < 2 then "0" ++ power else power)

namespace SqlValue

def ofBool (b : Bool) : SqlValue := integer (if b then 1 else 0)

/-- An integer if it fits 64 bits, else the nearest double. -/
def ofInt (n : Int) : SqlValue :=
  if -(Nat.pow 2 63 : Int) ≤ n ∧ n < Nat.pow 2 63 then integer n else real (.finite (Double.ofInt n))

def isNull : SqlValue → Bool
  | null => true
  | _ => false

def text? : SqlValue → Option String
  | null => none
  | integer n => some (toString n)
  | real (.finite x) => some x.fifteenDigits
  | real (.infinite negative) => some (if negative then "-Inf" else "Inf")
  | real .nan => none
  | text content => some content
  | blob content => some (Utf8.lossyText content)

def isBlank (c : Char) : Bool := c = ' ' || ('\t' ≤ c && c ≤ '\r')

def exponent (cs : List Char) : Int × List Char :=
  match cs with
  | e :: rest =>
    let (negative, rest) := Literal.splitSign rest
    match Literal.digits? (rest.takeWhile Char.isDigit) with
    | some n =>
      if e = 'e' ∨ e = 'E' then (if negative then -(n : Int) else n, rest.dropWhile Char.isDigit) else (0, cs)
    | none => (0, cs)
  | [] => (0, [])

/-- The number at the front of a text, which is zero if there is none, and whether it is all of the text. -/
def numberOf (text : String) : SqlValue × Bool :=
  let (negative, cs) := Literal.splitSign (text.toList.dropWhile isBlank)
  let whole := cs.takeWhile Char.isDigit
  let rest := cs.drop whole.length
  let (fraction, rest, pointed) := match rest with
    | '.' :: after => (after.takeWhile Char.isDigit, after.dropWhile Char.isDigit, true)
    | rest => ([], rest, false)
  if whole.isEmpty ∧ fraction.isEmpty then (integer 0, false)
  else
    let (power, after) := exponent rest
    let isAll := after.all isBlank
    let n : Int := Literal.digitsValue whole
    let digits (cs : List Char) : List Nat := cs.map fun c => c.toNat - 48
    if ¬ pointed ∧ after.length = rest.length then (ofInt (if negative then -n else n), isAll)
    else (real (.ofDecimal ⟨negative, digits whole, digits fraction, power⟩), isAll)

/-- The value as a number, which is what its text starts with. -/
def number : SqlValue → SqlValue
  | text content => (numberOf content).1
  | blob content => (numberOf (Utf8.lossyText content)).1
  | value => value

def double (value : SqlValue) : ExtendedDouble :=
  match value.number with
  | integer n => .finite (Double.ofInt n)
  | real x => x
  | _ => .finite Double.zero

def whole (value : SqlValue) : Int :=
  match value.number with
  | integer n => n
  | real (.finite x) =>
    let n : Int := x.units / Double.unitsPerOne
    max (-(Nat.pow 2 63)) (min (Nat.pow 2 63 - 1) (if x.negative then -n else n))
  | real (.infinite negative) => if negative then -(Nat.pow 2 63) else Nat.pow 2 63 - 1
  | _ => 0

def truth? (value : SqlValue) : Option Bool :=
  match value.number with
  | null => none
  | integer n => some (n ≠ 0)
  | real (.finite x) => some (x.units ≠ 0)
  | _ => some true

/-- The value as a place prefers it, if that loses nothing. -/
def as (value : SqlValue) : SqlAffinity → SqlValue
  | .none => value
  | .text =>
    match value with
    | integer _ | real _ => value.text?.elim null text
    | value => value
  | .numeric =>
    match value with
    | text content =>
      let (n, isAll) := numberOf content
      if isAll then n else value
    | value => value
  | .real =>
    match value with
    | integer n => real (.finite (Double.ofInt n))
    | text content =>
      let (n, isAll) := numberOf content
      if isAll then real n.double else value
    | value => value

/-- The value as a type says, whatever is lost. -/
def cast (value : SqlValue) (type : String) : SqlValue :=
  if value.isNull then null
  else if SqlAffinity.occurs "int" type then integer value.whole
  else match SqlAffinity.ofTypeName type with
    | .none =>
      match value with
      | blob content => blob content
      | value => value.text?.elim null fun content => blob content.toUTF8
    | .text => value.text?.elim null text
    | .numeric => value.number
    | .real => real value.double

/-- What stays of a text under a collation. -/
def collated (collation : String) (content : String) : String :=
  if collation = "nocase" then String.ofList (content.toList.map Char.toLower)
  else if collation = "rtrim" then String.ofList (content.toList.reverse.dropWhile (· = ' ')).reverse
  else content

/-- The exact number of units of a double. Infinity is beyond them all. -/
def units : ExtendedDouble → Int
  | .finite x => x.signed
  | .infinite negative => if negative then -Double.unitsBound else Double.unitsBound
  | .nan => 0

/-- How two values that are not missing are ordered: numbers, then texts, then bytes. -/
def order (collation : String) : SqlValue → SqlValue → Ordering
  | integer a, integer b => compare a b
  | integer a, real b => compare (a * Double.unitsPerOne) (units b)
  | real a, integer b => compare (units a) (b * Double.unitsPerOne)
  | real a, real b => compare (units a) (units b)
  | text a, text b => compare (collated collation a) (collated collation b)
  | blob a, blob b => compare a.toList b.toList
  | null, null => .eq
  | null, _ | integer _, _ | real _, _ | text _, blob _ => .lt
  | _, _ => .gt

/-- The two sides of a comparison as they prefer each other. A text side makes the other one a text. -/
def aligned (affinity : SqlAffinity) (left right : SqlValue) : SqlValue × SqlValue :=
  match affinity with
  | .none => (left, right)
  | .text =>
    match left, right with
    | text _, _ | _, text _ => (left.as .text, right.as .text)
    | _, _ => (left, right)
  | _ => (left.as .numeric, right.as .numeric)

end SqlValue

end Orchestra
