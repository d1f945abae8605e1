namespace Orchestra

/-- A finite double, as a sign and a magnitude in units of `2 ^ (-1074)`. -/
structure Double where
  negative : Bool
  units : Nat
deriving DecidableEq, Repr

namespace Double

/-- The number of units in one. -/
def unitsPerOne : Nat := Nat.pow 2 1074

/-- The least magnitude, in units, that no double reaches. -/
def unitsBound : Nat := Nat.pow 2 2098

def zero : Double := ⟨false, 0⟩

instance : Inhabited Double := ⟨zero⟩

/-- The signed number of units; both zeros give zero. -/
def signed (x : Double) : Int := if x.negative then -(x.units : Int) else x.units

/-- Comparison of the exact values. -/
def lt (x y : Double) : Bool := x.signed < y.signed

def le (x y : Double) : Bool := x.signed ≤ y.signed

def neg (x : Double) : Double := { x with negative := !x.negative }

/-- The distance between neighbouring doubles at this magnitude: 53 leading bits are kept. -/
def step (units : Nat) : Nat := Nat.pow 2 (units.log2 - 52)

/-- The quotient rounded to the nearest integer, a half to the even one. -/
def roundDiv (n d : Nat) : Nat :=
  let q := n / d
  let twice := 2 * (n % d)
  if twice < d then q else if d < twice then q + 1 else q + q % 2

/-- The magnitude nearest to `n / d` units, of two nearest ones the even one. -/
def nearest (n d : Nat) : Nat :=
  let s := step (n / d)
  roundDiv n (d * s) * s

/-- The double nearest to `± n / d`, unless that lies beyond the finite doubles. -/
def ofRatio? (negative : Bool) (n d : Nat) : Option Double :=
  let units := nearest (n * unitsPerOne) d
  if units < unitsBound then some ⟨negative, units⟩ else none

/-- The double nearest to a natural number below `2 ^ 1024`. -/
def ofNat (n : Nat) : Double := ⟨false, nearest (n * unitsPerOne) 1⟩

/-- The double nearest to an integer below `2 ^ 1024` in magnitude. -/
def ofInt (n : Int) : Double := ⟨n < 0, nearest (n.natAbs * unitsPerOne) 1⟩

/-- The double nearest to the exact product, unless that overflows. -/
def mul? (x y : Double) : Option Double :=
  let units := nearest (x.units * y.units) unitsPerOne
  if units < unitsBound then some ⟨x.negative != y.negative, units⟩ else none

/-- The double nearest to the exact quotient; the divisor is at least one in magnitude. -/
def div (x y : Double) : Double :=
  ⟨x.negative != y.negative, nearest (x.units * unitsPerOne) y.units⟩

/-- The magnitude rounded to a natural number, a half away from zero. -/
def roundNat (x : Double) : Nat := (2 * x.units + unitsPerOne) / (2 * unitsPerOne)

end Double

end Orchestra
