import Mathlib.Algebra.Order.Round
import Mathlib.Tactic.Linarith

/-!
# One quantity in two units

A quantity that is rounded to whole units, and to parts of which `k` make a unit. Whole parts
count down to the whole units below, so the two agree unless the unit was rounded up by more than
half a part.
-/

namespace Rounding

variable {K : Type*} [Field K] [LinearOrder K] [IsStrictOrderedRing K] [FloorRing K] {k : ℕ}

/-- The parts never reach the next unit. -/
theorem round_mul_lt (hk : 1 ≤ k) (r : K) : round (k * r) < k * (round r + 1) := by
  have hk' : (1 : K) ≤ k := Nat.one_le_cast.mpr hk
  rw [← Int.cast_lt (R := K)]
  push_cast
  have hunit : r < round r + 1 / 2 := by linarith [sub_half_lt_round r]
  calc (round (k * r) : K) ≤ k * r + 1 / 2 := round_le_add_half _
    _ < k * (round r + 1 / 2) + 1 / 2 := by nlinarith
    _ ≤ k * (round r + 1) := by nlinarith

/-- The parts reach the unit unless that was rounded up by more than half a part. -/
theorem le_round_mul_iff (hk : 1 ≤ k) (r : K) :
    k * round r ≤ round (k * r) ↔ (round r : K) ≤ r + 1 / (2 * k) := by
  have hpos : (0 : K) < k := Nat.cast_pos.mpr hk
  have hhalf : (k : K) * (1 / (2 * k)) = 1 / 2 := by
    rw [mul_one_div, mul_comm 2 (k : K), ← div_div, div_self hpos.ne']
  rw [round_eq (k * r), Int.le_floor, ← hhalf, ← mul_add]
  push_cast
  exact mul_le_mul_iff_right₀ hpos

/-- Whole parts count down to the rounded unit exactly in that case. -/
theorem round_mul_ediv_iff (hk : 1 ≤ k) (r : K) :
    round (k * r) / (k : ℤ) = round r ↔ (round r : K) ≤ r + 1 / (2 * k) := by
  have hpos : (0 : ℤ) < k := Nat.cast_pos.mpr hk
  have hlt : round (k * r) < round r * k + k := by linarith [round_mul_lt hk r]
  rw [← le_round_mul_iff hk r, Int.ediv_eq_iff_of_pos hpos, mul_comm (round r), and_iff_left]
  rwa [mul_comm (k : ℤ)]

end Rounding
