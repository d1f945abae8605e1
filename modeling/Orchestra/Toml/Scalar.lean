import Orchestra.Json.Reader
import Orchestra.Toml.Moment
import Orchestra.Toml.Value

namespace Orchestra

namespace TomlScalar

def isDigitOf (base : Nat) (c : Char) : Bool := ((JsonReader.hexDigit? c).map (decide <| · < base)).getD false

def digitOf (c : Char) : Nat := (JsonReader.hexDigit? c).getD 0

/-- Digits that go on after a first one; an underscore may stand between two. -/
def moreDigits? (base : Nat) : List Char → Option (List Nat × List Char)
  | [] => some ([], [])
  | '_' :: rest =>
    match rest with
    | d :: _ => if isDigitOf base d then moreDigits? base rest else none
    | [] => none
  | c :: rest =>
    if isDigitOf base c then (moreDigits? base rest).map fun (ds, after) => (digitOf c :: ds, after)
    else some ([], c :: rest)

/-- One or more digits. -/
def digits? (base : Nat) : List Char → Option (List Nat × List Char)
  | c :: rest =>
    if isDigitOf base c then (moreDigits? base rest).map fun (ds, after) => (digitOf c :: ds, after) else none
  | [] => none

def valueOf (base : Nat) (digits : List Nat) : Nat := digits.foldl (fun n d => n * base + d) 0

def sign : List Char → Bool × List Char
  | '-' :: rest => (true, rest)
  | '+' :: rest => (false, rest)
  | cs => (false, cs)

/-- The whole part of a number: a zero stands alone. -/
def whole? : List Char → Option (List Nat × List Char)
  | '0' :: rest => some ([0], rest)
  | cs => digits? 10 cs

def inRange (n : Int) : Bool := -(Nat.pow 2 63 : Int) ≤ n && n < Nat.pow 2 63

/-- An integer in 64 bits. -/
def integer? (cs : List Char) : Option (Toml × List Char) :=
  let based (base : Nat) (rest : List Char) : Option (Int × List Char) :=
    (digits? base rest).map fun (ds, after) => ((valueOf base ds : Int), after)
  let found := match cs with
    | '0' :: 'x' :: rest => based 16 rest
    | '0' :: 'o' :: rest => based 8 rest
    | '0' :: 'b' :: rest => based 2 rest
    | cs =>
      let (negative, rest) := sign cs
      (whole? rest).map fun (ds, after) =>
        (if negative then -(valueOf 10 ds : Int) else (valueOf 10 ds : Int), after)
  match found with
  | some (n, after) => if inRange n then some (.integer n, after) else none
  | none => none

/-- The exponent of a float, if there is one. -/
def exponent? : List Char → Option (Option Int × List Char)
  | [] => some (none, [])
  | c :: rest =>
    if c = 'e' ∨ c = 'E' then
      let (negative, rest) := sign rest
      (digits? 10 rest).map fun (ds, after) =>
        (some (if negative then -(valueOf 10 ds : Int) else (valueOf 10 ds : Int)), after)
    else some (none, c :: rest)

/-- The fraction of a float, if there is one. -/
def fraction? : List Char → Option (Option (List Nat) × List Char)
  | '.' :: rest => (digits? 10 rest).map fun (ds, after) => (some ds, after)
  | cs => some (none, cs)

/-- A float has a fraction or an exponent, or is infinite or no number. One that is too great is refused, one
that is too small becomes infinite. -/
def float? (cs : List Char) : Option (Toml × List Char) :=
  let (negative, rest) := sign cs
  match rest with
  | 'i' :: 'n' :: 'f' :: after => some (.float (.infinite negative), after)
  | 'n' :: 'a' :: 'n' :: after => some (.float .nan, after)
  | rest => do
    let (whole, after) ← whole? rest
    let (fraction, after) ← fraction? after
    let (exponent, after) ← exponent? after
    if fraction.isNone ∧ exponent.isNone then none
    else
      let x := ExtendedDouble.ofDecimal ⟨negative, whole, fraction.getD [], exponent.getD 0⟩
      if x = .infinite false then none else some (.float x, after)

/-- A date, a time, or both. -/
def moment? (cs : List Char) : Option (Toml × List Char) :=
  (TomlMoment.first? cs).map fun (text, after) => (.moment text, after)

/-- What starts with a digit or a sign. -/
def number? (cs : List Char) : Option (Toml × List Char) :=
  ((moment? cs).or (float? cs)).or (integer? cs)

end TomlScalar

end Orchestra
