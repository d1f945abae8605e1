import Orchestra.Number.Double

namespace Orchestra

namespace Double

/-- The number of decimal digits; zero has none. -/
def digitCount (n : Nat) : Nat := if n = 0 then 0 else (Nat.toDigits 10 n).length

/-- The exponent of the leading decimal digit of a nonzero magnitude. -/
def leadingExponent (units : Nat) : Int :=
  if unitsPerOne ≤ units then (digitCount (units / unitsPerOne) : Int) - 1
  else -(digitCount ((unitsPerOne + units - 1) / units - 1) : Int)

/-- Whether `c * 10 ^ k` reads back as this magnitude: it lies between the halfway points to the two
neighbouring doubles, which themselves belong to the even one of the two. -/
def readsBack (units c : Nat) (k : Int) : Bool :=
  let above := step units
  let below := if units = Nat.pow 2 units.log2 ∧ 1 < above then above / 2 else above
  let low := 4 * units - 2 * below
  let high := 4 * units + 2 * above
  let even := (units / above) % 2 == 0
  let denominator := Nat.pow 10 (-k).toNat
  let value := 4 * c * Nat.pow 10 k.toNat * unitsPerOne
  if even then low * denominator ≤ value && value ≤ high * denominator
  else low * denominator < value && value < high * denominator

/-- A decimal of `n` digits that reads back as this magnitude: of the two neighbours on the grid the nearer
one, of two equally near ones the even one. -/
def decimalOfLength? (units n : Nat) : Option (Nat × Int) :=
  let k : Int := leadingExponent units - n + 1
  let numerator := units * Nat.pow 10 (-k).toNat
  let denominator := unitsPerOne * Nat.pow 10 k.toNat
  let lower := numerator / denominator
  match readsBack units lower k, readsBack units (lower + 1) k with
  | false, false => none
  | true, false => some (lower, k)
  | false, true => some (lower + 1, k)
  | true, true => some (roundDiv numerator denominator, k)

/-- The shortest decimal `c * 10 ^ k` that reads back as this nonzero magnitude. -/
def shortest (units : Nat) : Nat × Int :=
  ((List.range 17).findSome? fun n => decimalOfLength? units (n + 1)).getD (units, 0)

/-- The digits of the shortest decimal without trailing zeros, and the exponent of the first one. -/
def shortestDigits (units : Nat) : List Char × Int :=
  let (c, k) := shortest units
  let digits := Nat.toDigits 10 c
  (((digits.reverse.dropWhile (· = '0')).reverse), k + digits.length - 1)

/-- Positional notation of digits whose first one has this exponent. -/
def positional (digits : List Char) (exponent : Int) : List Char × List Char :=
  if exponent < 0 then
    (['0'], List.replicate ((-exponent).toNat - 1) '0' ++ digits)
  else
    let whole := exponent.toNat + 1
    (digits.take whole ++ List.replicate (whole - digits.length) '0', digits.drop whole)

def signText (x : Double) : String := if x.negative then "-" else ""

/-- The text in JSON: positional with a fraction if the leading exponent is from -5 to 15, else scientific
with a signed exponent. -/
def jsonText (x : Double) : String :=
  if x.units = 0 then x.signText ++ "0.0"
  else
    let (digits, exponent) := shortestDigits x.units
    if -5 ≤ exponent ∧ exponent ≤ 15 then
      let (whole, fraction) := positional digits exponent
      x.signText ++ String.ofList whole ++ "." ++
        (if fraction.isEmpty then "0" else String.ofList fraction)
    else
      let mantissa := match digits with
        | first :: second :: rest => String.ofList (first :: '.' :: second :: rest)
        | _ => String.ofList digits
      x.signText ++ mantissa ++ "e" ++ (if exponent < 0 then "-" else "+") ++ toString exponent.natAbs

/-- The text in plain notation: positional throughout, without a fraction for integers. -/
def plainText (x : Double) : String :=
  if x.units = 0 then x.signText ++ "0"
  else
    let (digits, exponent) := shortestDigits x.units
    let (whole, fraction) := positional digits exponent
    x.signText ++ String.ofList whole ++
      (if fraction.isEmpty then "" else "." ++ String.ofList fraction)

end Double

/-- A decimal as written: digits before and after the point, and a power of ten. -/
structure Decimal where
  negative : Bool
  whole : List Nat
  fraction : List Nat
  exponent : Int
deriving DecidableEq, Repr

namespace Decimal

/-- The greatest significand that reading keeps. -/
def significandBound : Nat := Nat.pow 2 64 - 1

/-- Takes digits into a significand as long as it stays within the bound; also answers how many were
taken. -/
def gather : List Nat → Nat → Nat × Nat
  | [], significand => (significand, 0)
  | d :: rest, significand =>
    let next := significand * 10 + d
    if significandBound < next then (significand, 0)
    else
      let (final, taken) := gather rest next
      (final, taken + 1)

/-- The digits kept and the power of ten they are multiplied with. Digits of the whole part that are not
kept still count as places. -/
def significand (d : Decimal) : Nat × Int :=
  let (whole, taken) := gather d.whole 0
  let (all, places) := gather d.fraction whole
  (all, (d.whole.length - taken : Nat) - places + d.exponent)

/-- Divides by `10 ^ 308` while the exponent is below -308 and the value is not zero. -/
def scaleDown : Nat → Double → Int → Double
  | 0, x, exponent => x.div (Double.ofNat (Nat.pow 10 (-exponent).toNat))
  | n + 1, x, exponent =>
    if x.units = 0 then x
    else if -308 ≤ exponent then x.div (Double.ofNat (Nat.pow 10 (-exponent).toNat))
    else scaleDown n (x.div (Double.ofNat (Nat.pow 10 308))) (exponent + 308)

/-- Reads a decimal as a double: the significand is rounded, then multiplied or divided by a rounded power
of ten. There is no answer beyond the finite doubles. -/
def toDouble? (d : Decimal) : Option Double :=
  let (digits, exponent) := d.significand
  let x := Double.ofNat digits
  let signed (y : Double) : Double := if d.negative then y.neg else y
  if exponent < 0 then some (signed (scaleDown ((-exponent).toNat / 308) x exponent))
  else if x.units = 0 then some (signed x)
  else if 308 < exponent then none
  else (x.mul? (Double.ofNat (Nat.pow 10 exponent.toNat))).map signed

/-- The double nearest to the exact decimal, unless that lies beyond the finite doubles. -/
def nearestDouble? (d : Decimal) : Option Double :=
  let digits := (d.whole ++ d.fraction).foldl (fun n c => n * 10 + c) 0
  let exponent := d.exponent - d.fraction.length
  if digits = 0 then some ⟨d.negative, 0⟩
  else if 400 < exponent + (Double.digitCount digits : Int) then none
  else if exponent + (Double.digitCount digits : Int) < -400 then some ⟨d.negative, 0⟩
  else Double.ofRatio? d.negative (digits * Nat.pow 10 exponent.toNat) (Nat.pow 10 (-exponent).toNat)

end Decimal

end Orchestra
