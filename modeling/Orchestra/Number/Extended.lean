import Orchestra.Number.Decimal

namespace Orchestra

inductive ExtendedDouble where
  | finite (x : Double)
  | infinite (negative : Bool)
  | nan
deriving DecidableEq, Repr

/-- The value nearest to a decimal; beyond the finite doubles it is infinite. -/
def ExtendedDouble.ofDecimal (d : Decimal) : ExtendedDouble :=
  match d.nearestDouble? with
  | some x => .finite x
  | none => .infinite d.negative

/-- The value in the 64 bits of its usual form: a sign, an exponent in eleven bits and the rest. -/
def ExtendedDouble.ofBits (bits : Nat) : ExtendedDouble :=
  let negative := bits / Nat.pow 2 63 % 2 = 1
  let exponent := bits / Nat.pow 2 52 % 2048
  let fraction := bits % Nat.pow 2 52
  if exponent = 2047 then if fraction = 0 then .infinite negative else .nan
  else .finite ⟨negative, if exponent = 0 then fraction else (fraction + Nat.pow 2 52) * Nat.pow 2 (exponent - 1)⟩

/-- The 64 bits of the usual form of a value. -/
def ExtendedDouble.bits : ExtendedDouble → Nat
  | .finite x =>
    let exponent := x.units.log2 - 51
    let magnitude :=
      if x.units < Nat.pow 2 52 then x.units
      else x.units / Nat.pow 2 (exponent - 1) - Nat.pow 2 52 + exponent * Nat.pow 2 52
    (if x.negative then Nat.pow 2 63 else 0) + magnitude
  | .infinite negative => (if negative then Nat.pow 2 63 else 0) + 2047 * Nat.pow 2 52
  | .nan => 2047 * Nat.pow 2 52 + Nat.pow 2 51

end Orchestra
