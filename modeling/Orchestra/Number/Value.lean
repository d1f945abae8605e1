import Orchestra.Number.Double

namespace Orchestra

namespace Double

/-- The exact number that a double stands for. -/
def value (x : Double) : Rat := x.signed / unitsPerOne

theorem exists_unitsPerOne : ∃ exponent, unitsPerOne = Nat.pow 2 exponent := by
  unfold unitsPerOne
  exact ⟨_, rfl⟩

theorem unitsPerOne_pos : 0 < unitsPerOne := by
  obtain ⟨exponent, power⟩ := exists_unitsPerOne
  rw [power]
  exact Nat.two_pow_pos exponent

theorem unitsPerOne_cast_pos : (0 : Rat) < unitsPerOne := Rat.natCast_pos.mpr unitsPerOne_pos

theorem value_mul_unitsPerOne (x : Double) : x.value * unitsPerOne = x.signed :=
  Rat.div_mul_cancel (Rat.ne_of_gt unitsPerOne_cast_pos)

theorem lt_iff {x y : Double} : x.lt y = true ↔ x.value < y.value := by
  rw [lt, decide_eq_true_iff, ← Rat.intCast_lt_intCast, ← value_mul_unitsPerOne y]
  exact (Rat.div_lt_iff unitsPerOne_cast_pos).symm

theorem le_iff {x y : Double} : x.le y = true ↔ x.value ≤ y.value := by
  have flipped : x.le y = true ↔ ¬ y.lt x = true := by simp [le, lt]
  rw [flipped, lt_iff, Rat.not_lt]

theorem value_zero : zero.value = 0 := by
  have none : zero.signed = 0 := rfl
  rw [value, none, Rat.intCast_zero, Rat.div_def, Rat.zero_mul]

/-- A magnitude that is a multiple of the distance between its neighbours needs no rounding. -/
theorem nearest_of_step_dvd {units : Nat} (multiple : step units ∣ units) : nearest units 1 = units := by
  have positive : 0 < step units := Nat.two_pow_pos _
  have rest : units % step units = 0 := Nat.mod_eq_zero_of_dvd multiple
  have whole : roundDiv units (step units) = units / step units := by
    simp only [roundDiv, rest, Nat.mul_zero, if_pos positive]
  rw [nearest, Nat.div_one, Nat.one_mul, whole, Nat.div_mul_cancel multiple]

theorem step_dvd_of_lt {n exponent : Nat} (small : n < Nat.pow 2 53) :
    step (n * Nat.pow 2 exponent) ∣ n * Nat.pow 2 exponent := by
  by_cases zero : n = 0
  · subst zero
    exact ⟨0, by simp⟩
  · have positive : 0 < Nat.pow 2 exponent := Nat.two_pow_pos exponent
    have nonzero : n * Nat.pow 2 exponent ≠ 0 := Nat.mul_ne_zero zero (Nat.ne_of_gt positive)
    have bound : n * Nat.pow 2 exponent < 2 ^ (53 + exponent) :=
      Nat.lt_of_lt_of_eq (Nat.mul_lt_mul_of_pos_right small positive) (Nat.pow_add 2 53 exponent).symm
    have digits := (Nat.log2_lt nonzero).mpr bound
    have shift : (n * Nat.pow 2 exponent).log2 - 52 ≤ exponent := by omega
    exact Nat.dvd_trans (Nat.pow_dvd_pow 2 shift) (Nat.dvd_mul_left (Nat.pow 2 exponent) n)

/-- Natural numbers of up to 53 bits are doubles exactly. -/
theorem value_ofNat {n : Nat} (small : n < Nat.pow 2 53) : (ofNat n).value = n := by
  have units : (ofNat n).signed = ((n * unitsPerOne : Nat) : Int) := by
    obtain ⟨exponent, power⟩ := exists_unitsPerOne
    have exact : nearest (n * unitsPerOne) 1 = n * unitsPerOne := by
      rw [power]
      exact nearest_of_step_dvd (step_dvd_of_lt small)
    simp only [ofNat, signed, exact, Bool.false_eq_true, if_false]
  rw [value, units, Rat.intCast_natCast, Rat.natCast_mul, Rat.mul_div_cancel (Rat.ne_of_gt unitsPerOne_cast_pos)]

end Double

end Orchestra
