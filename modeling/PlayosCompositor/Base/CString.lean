import Mathlib.Algebra.GroupWithZero.Nat
import Mathlib.Data.List.TakeWhile

/-!
# C strings and fixed buffers

A terminated string is its bytes before the terminator, none of them zero. A buffer
`char b[n]` that holds one has fewer than `n` such bytes; `store` is `snprintf` with the
format `%s`, which cuts the string to what fits.
-/

/-- A terminated string: the bytes before its NUL. -/
structure CString where
  bytes : List UInt8
  noNul : 0 ∉ bytes
  deriving DecidableEq

/-- The string held by a buffer of `n` bytes, terminator included. -/
structure CharBuf (n : Nat) extends CString where
  fits : bytes.length < n
  deriving DecidableEq

namespace CString

/-- Strings with the same bytes are equal. -/
@[ext] theorem ext {s t : CString} (h : s.bytes = t.bytes) : s = t := by
  cases s
  cases t
  cases h
  rfl

/-- The empty string. -/
def empty : CString := ⟨[], List.not_mem_nil⟩

/-- The string that a sequence of bytes holds: everything before the first NUL. -/
def ofBytes (xs : List UInt8) : CString where
  bytes := xs.takeWhile (· ≠ 0)
  noNul h := by simpa using List.mem_takeWhile_imp h

/-- The bytes of a string have no NUL among them, nor has their beginning. -/
theorem bytes_ofBytes_take (s : CString) (n : Nat) :
    (ofBytes (s.bytes.take n)).bytes = s.bytes.take n :=
  List.takeWhile_eq_self_iff.mpr fun _ hb ↦
    decide_eq_true fun h ↦ s.noNul (h ▸ List.mem_of_mem_take hb)

/-- A literal of the source, whose characters are all ASCII. -/
def ofString (s : String) : CString := ofBytes (s.toList.map fun ch ↦ UInt8.ofNat ch.toNat)

/-- Concatenation, as a format string performs it. -/
instance : Append CString where
  append s t := ⟨s.bytes ++ t.bytes, by simp [s.noNul, t.noNul]⟩

/-- Concatenation concatenates the bytes. -/
@[simp] theorem bytes_append (s t : CString) : (s ++ t).bytes = s.bytes ++ t.bytes := rfl

/-- `snprintf(buf, n, "%s", s)`: at most `n - 1` bytes are kept. -/
def store (n : Nat) [NeZero n] (s : CString) : CharBuf n where
  bytes := s.bytes.take (n - 1)
  noNul h := s.noNul (List.mem_of_mem_take h)
  fits := by
    have hn : 0 < n := Nat.pos_of_neZero n
    rw [List.length_take]
    omega

/-- A string that fits is stored whole. -/
theorem store_of_fits {n : Nat} [NeZero n] {s : CString} (h : s.bytes.length < n) :
    (s.store n).toCString = s := by
  apply ext
  change s.bytes.take (n - 1) = s.bytes
  rw [List.take_of_length_le (by omega)]

end CString

namespace CharBuf

variable {n : Nat}

/-- Buffers with the same bytes are equal. -/
@[ext] theorem ext {s t : CharBuf n} (h : s.bytes = t.bytes) : s = t := by
  cases s
  cases t
  congr
  exact CString.ext h

/-- `buf[0] = '\0'`. -/
def clear [NeZero n] : CharBuf n := CString.empty.store n

end CharBuf
