import Mathlib.Algebra.Group.Nat.Defs

/-!
# Exponential back-off

Delays that double from a base up to a cap, and the time that some of them take together.
-/

namespace Backoff

variable {base cap : Nat}

/-- The delay after some failures. -/
def delay (base cap failures : Nat) : Nat := min cap (base * 2 ^ failures)

/-- The time that the first delays take. -/
def total (base cap : Nat) : Nat → Nat
  | 0 => 0
  | failures + 1 => total base cap failures + delay base cap failures

/-- The first delay is the base. -/
theorem delay_zero (h : base ≤ cap) : delay base cap 0 = base := by
  rw [delay, Nat.pow_zero, Nat.mul_one, Nat.min_eq_right h]

/-- Each delay is twice the one before, up to the cap. -/
theorem delay_succ (failures : Nat) :
    delay base cap (failures + 1) = min cap (2 * delay base cap failures) := by
  have hpow : base * 2 ^ (failures + 1) = 2 * (base * 2 ^ failures) := by
    rw [Nat.pow_succ, ← Nat.mul_assoc, Nat.mul_comm]
  unfold delay
  rw [hpow]
  omega

/-- No delay is shorter than the base. -/
theorem base_le_delay (h : base ≤ cap) (failures : Nat) : base ≤ delay base cap failures := by
  induction failures with
  | zero => exact Nat.le_of_eq (delay_zero h).symm
  | succ failures ih =>
    rw [delay_succ]
    omega

/-- A delay at the cap stays there. -/
theorem delay_add {failures : Nat} (h : delay base cap failures = cap) (more : Nat) :
    delay base cap (failures + more) = cap := by
  induction more with
  | zero => exact h
  | succ more ih =>
    rw [← Nat.add_assoc, delay_succ, ih]
    omega

/-- Once the cap is reached, every failure takes as long. -/
theorem total_add {failures : Nat} (h : delay base cap failures = cap) (more : Nat) :
    total base cap (failures + more) = total base cap failures + cap * more := by
  induction more with
  | zero => rfl
  | succ more ih => rw [← Nat.add_assoc, total, ih, delay_add h, Nat.mul_succ, Nat.add_assoc]

end Backoff
