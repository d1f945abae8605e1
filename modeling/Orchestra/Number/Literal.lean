import Orchestra.Number.Extended

namespace Orchestra

namespace Literal

def digitsValue (digits : List Char) : Nat := digits.foldl (fun n c => n * 10 + (c.toNat - 48)) 0

/-- A sign, if there is one: whether it is a minus, and the rest. -/
def splitSign : List Char → Bool × List Char
  | '-' :: rest => (true, rest)
  | '+' :: rest => (false, rest)
  | cs => (false, cs)

/-- The number that one or more digits denote. -/
def digits? (cs : List Char) : Option Nat :=
  if cs.isEmpty ∨ ¬ cs.all Char.isDigit then none else some (digitsValue cs)

/-- A natural number below `2 ^ 64`: digits, with at most one plus sign in front. -/
def natural? (text : String) : Option Nat :=
  let digits := match text.toList with
    | '+' :: rest => rest
    | cs => cs
  (digits? digits).filter (· < Nat.pow 2 64)

/-- An integer in 64 bits. -/
def integer? (text : String) : Option Int :=
  let (negative, rest) := splitSign text.toList
  match digits? rest with
  | none => none
  | some n =>
    let value : Int := if negative then -(n : Int) else n
    if -(Nat.pow 2 63 : Int) ≤ value ∧ value < Nat.pow 2 63 then some value else none

/-- The exponent after a mantissa; nothing may follow it. -/
def exponent? : List Char → Option Int
  | [] => some 0
  | c :: rest =>
    if c = 'e' ∨ c = 'E' then
      let (negative, rest) := splitSign rest
      (digits? rest).map fun n => if negative then -(n : Int) else n
    else none

/-- A decimal without its sign: digits on one side of a point at least. -/
def decimal? (negative : Bool) (cs : List Char) : Option Decimal :=
  let whole := cs.takeWhile Char.isDigit
  let rest := cs.dropWhile Char.isDigit
  let (fraction, rest) := match rest with
    | '.' :: rest => (rest.takeWhile Char.isDigit, rest.dropWhile Char.isDigit)
    | rest => ([], rest)
  let values (ds : List Char) : List Nat := ds.map fun c => c.toNat - 48
  if whole.isEmpty ∧ fraction.isEmpty then none
  else (exponent? rest).map fun e => ⟨negative, values whole, values fraction, e⟩

/-- A double: a decimal, or a word for infinity or for what is no number, in any case. -/
def double? (text : String) : Option ExtendedDouble :=
  let (negative, rest) := splitSign text.toList
  let word := String.ofList (rest.map Char.toLower)
  if word = "inf" ∨ word = "infinity" then some (.infinite negative)
  else if word = "nan" then some .nan
  else (decimal? negative rest).map ExtendedDouble.ofDecimal

end Literal

end Orchestra
