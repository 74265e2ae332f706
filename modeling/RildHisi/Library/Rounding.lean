import Mathlib.Algebra.GroupWithZero.Nat
import Mathlib.Algebra.GroupWithZero.Divisibility
import Mathlib.Data.Nat.Log

/-!
Owns the rounding of a natural number to a significand of a fixed width, to nearest with
ties to even, as a floating-point format does it far from its exponent limits. A number
keeps its value exactly if the unit in its last place divides it.
-/

namespace RildHisi.Library

variable (bits n : ℕ)

/-- The unit in the last place of a number with this many significant bits. -/
def ulp : ℕ := 2 ^ (n.log2 + 1 - bits)

/-- The number rounded to nearest, ties to even. -/
def roundToEven : ℕ :=
  let below := n - n % ulp bits n
  if ulp bits n < 2 * (n % ulp bits n) ∨
      2 * (n % ulp bits n) = ulp bits n ∧ n / ulp bits n % 2 = 1 then below + ulp bits n
  else below

theorem ulp_pos : 0 < ulp bits n := Nat.two_pow_pos _

/-- A rounded number has no bits below the unit. -/
theorem ulp_dvd_roundToEven : ulp bits n ∣ roundToEven bits n := by
  have below : ulp bits n ∣ n - n % ulp bits n := Nat.dvd_sub_mod n
  simp only [roundToEven]
  split_ifs
  · exact (Nat.dvd_add_right below).mpr (Nat.dvd_refl _)
  · exact below

/-- **Exact numbers** are the multiples of their unit. -/
theorem roundToEven_eq_self_iff : roundToEven bits n = n ↔ ulp bits n ∣ n := by
  constructor
  · intro same
    have divides := ulp_dvd_roundToEven bits n
    rwa [same] at divides
  · intro divides
    have low : n % ulp bits n = 0 := Nat.mod_eq_zero_of_dvd divides
    have unit := ulp_pos bits n
    simp only [roundToEven, low]
    rw [if_neg (by omega), Nat.sub_zero]

/-- A number that fits into the significand is exact. -/
theorem roundToEven_of_lt (fits : n < 2 ^ bits) : roundToEven bits n = n := by
  apply (roundToEven_eq_self_iff bits n).mpr
  rcases Nat.eq_zero_or_pos n with rfl | positive
  · exact dvd_zero _
  · have below := (Nat.log2_lt (by omega)).mpr fits
    have short : n.log2 + 1 - bits = 0 := by omega
    rw [ulp, short]
    exact one_dvd n

end RildHisi.Library
