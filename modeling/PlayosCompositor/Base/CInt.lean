import Mathlib.Algebra.Group.Nat.Defs
import Mathlib.Data.Int.Order.Basic

/-!
# The type `int`

Arithmetic of 32-bit `int`: a sum or product out of range has no defined value. A conversion
from a wider unsigned type reduces modulo `2 ^ 32`.
-/

namespace CInt

universe u

/-- `INT_MAX`. -/
def intMax : Nat := 2147483647

/-- The numbers that an `int` holds. -/
def Fits (n : Int) : Prop := -(intMax : Int) - 1 ≤ n ∧ n ≤ intMax
  deriving Decidable

/-- What the language leaves undefined. -/
inductive Undefined
  | overflow
  deriving DecidableEq, Repr

/-- A computation that is defined, or not. -/
abbrev Checked (α : Type u) := Except Undefined α

/-- A value of type `int`, where it fits. -/
def checked (n : Int) : Checked Int := if Fits n then .ok n else .error .overflow

/-- A product of two `int`s. -/
def mul (a b : Int) : Checked Int := checked (a * b)

/-- A sum of two `int`s. -/
def add (a b : Int) : Checked Int := checked (a + b)

/-- `(int)n` for an unsigned `n`. -/
def ofNat (n : Nat) : Int := Int.bmod n (2 ^ 32)

/-- A defined value is handed on. -/
@[simp] theorem ok_bind {α β : Type u} (a : α) (f : α → Checked β) :
    ((.ok a : Checked α) >>= f) = f a := rfl

/-- What is undefined stays so. -/
@[simp] theorem error_bind {α β : Type u} (e : Undefined) (f : α → Checked β) :
    ((.error e : Checked α) >>= f) = .error e := rfl

/-- A natural number fits up to `INT_MAX`. -/
theorem fits_natCast {n : Nat} : Fits n ↔ n ≤ intMax := by
  unfold Fits intMax
  omega

/-- A value in range is defined. -/
theorem checked_of_le {n : Nat} (h : n ≤ intMax) : checked n = .ok (n : Int) :=
  if_pos (fits_natCast.mpr h)

/-- A value out of range is not. -/
theorem checked_of_lt {n : Nat} (h : intMax < n) : checked n = .error .overflow :=
  if_neg fun hf ↦ absurd (fits_natCast.mp hf) (by omega)

/-- A conversion keeps what fits. -/
theorem ofNat_of_le {n : Nat} (h : n ≤ intMax) : ofNat n = n := by
  unfold ofNat intMax at *
  rw [Int.bmod_eq_of_le] <;> omega

end CInt
