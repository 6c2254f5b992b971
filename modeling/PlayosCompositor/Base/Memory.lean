import Mathlib.Data.List.Basic
import Mathlib.Data.List.TakeWhile
import Mathlib.Tactic.Common

/-!
# Checked memory and C loops

Regions of bytes whose every access is checked, and the loops and string functions of C over
them. A run that the language leaves undefined or that does not end within its fuel is a
fault; the rule `loop_eq` gives what a loop computes together with its termination.
-/

namespace Memory

universe u v

/-- What can go wrong: an access outside a region, or more passes than the fuel allows. -/
inductive Fault
  | outOfBounds
  | diverged
  deriving DecidableEq, Repr

/-- A computation of C: it may fault. -/
abbrev Exec (α : Type u) := Except Fault α

/-- A computation that has succeeded hands its result on. -/
@[simp] theorem ok_bind {α β : Type u} (a : α) (f : α → Exec β) :
    ((.ok a : Exec α) >>= f) = f a := rfl

/-! ### Loops -/

/-- What one pass of a loop decides. -/
inductive Pass (σ : Type u) (ρ : Type v)
  | next (s : σ)
  | done (r : ρ)

section Loop

variable {σ ρ : Type}

/-- A loop with fuel. -/
def loop (pass : σ → Exec (Pass σ ρ)) : Nat → σ → Exec ρ
  | 0, _ => .error .diverged
  | fuel + 1, s => pass s >>= fun
    | .next s => loop pass fuel s
    | .done r => .ok r

/-- Loop rule: where every pass keeps the invariant, lowers the variant and leaves the
specification's value alone, or else ends with that value, the loop computes it. -/
theorem loop_eq {pass : σ → Exec (Pass σ ρ)} (inv : σ → Prop) (var : σ → Nat) (spec : σ → ρ)
    (hpass : ∀ s, inv s →
      (∃ t, pass s = .ok (.next t) ∧ inv t ∧ var t < var s ∧ spec t = spec s) ∨
        pass s = .ok (.done (spec s)))
    {s : σ} (hs : inv s) {fuel : Nat} (hf : var s < fuel) :
    loop pass fuel s = .ok (spec s) := by
  induction fuel generalizing s with
  | zero => exact absurd hf (Nat.not_lt_zero _)
  | succ fuel ih =>
    rcases hpass s hs with ⟨t, ht, hi, hv, he⟩ | hd
    · rw [loop, ht, ← he]
      exact ih hi (by omega)
    · rw [loop, hd]
      rfl

end Loop

/-! ### Loads, stores and copies -/

/-- A load: the index must lie in the region. -/
def load (mem : List UInt8) (i : Nat) : Exec UInt8 :=
  match mem[i]? with
  | some b => .ok b
  | none => .error .outOfBounds

/-- A store: the index must lie in the region. -/
def store (mem : List UInt8) (i : Nat) (b : UInt8) : Exec (List UInt8) :=
  if i < mem.length then .ok (mem.set i b) else .error .outOfBounds

/-- A part of a region, which must lie in it. -/
def slice (mem : List UInt8) (first length : Nat) : Exec (List UInt8) :=
  if first + length ≤ mem.length then .ok ((mem.drop first).take length)
  else .error .outOfBounds

/-- `memcpy` of `n` bytes from an offset of the source to the beginning of the target. -/
def memcpy (dst src : List UInt8) (p : Nat) : Nat → Exec (List UInt8)
  | 0 => .ok dst
  | n + 1 => do
    let dst ← memcpy dst src p n
    store dst n (← load src (p + n))

/-- In range there is a next byte. -/
theorem drop_cons_of_lt {mem : List UInt8} {p : Nat} (h : p < mem.length) :
    ∃ b, mem.drop p = b :: mem.drop (p + 1) :=
  ⟨mem[p], List.drop_eq_getElem_cons h⟩

/-- Where nothing is left the region has ended. -/
theorem length_le_of_drop {mem : List UInt8} {p : Nat} (h : mem.drop p = []) : mem.length ≤ p :=
  List.drop_eq_nil_iff.mp h

/-- Where a byte is left the region has not ended. -/
theorem lt_of_drop {mem rest : List UInt8} {p : Nat} {b : UInt8} (h : mem.drop p = b :: rest) :
    p < mem.length := by
  by_contra hp
  rw [List.drop_of_length_le (by omega)] at h
  exact nomatch h

/-- The bytes after the next one. -/
theorem drop_succ {mem rest : List UInt8} {p : Nat} {b : UInt8} (h : mem.drop p = b :: rest) :
    mem.drop (p + 1) = rest := by
  rw [← List.drop_drop, h, List.drop_one, List.tail_cons]

/-- A load in range is the next byte from there. -/
theorem load_drop {mem rest : List UInt8} {p : Nat} {b : UInt8} (h : mem.drop p = b :: rest) :
    load mem p = .ok b := by
  have hb : mem[p]? = some b := by
    rw [← List.head?_drop, h]
    rfl
  rw [load, hb]

/-- A store in range replaces one byte. -/
theorem store_of_lt {mem : List UInt8} {i : Nat} (h : i < mem.length) (b : UInt8) :
    store mem i b = .ok (mem.set i b) := if_pos h

/-- A copy in range replaces the beginning of the target. -/
theorem memcpy_eq {dst src : List UInt8} {p n : Nat} (hsrc : p + n ≤ src.length)
    (hdst : n ≤ dst.length) :
    memcpy dst src p n = .ok ((src.drop p).take n ++ dst.drop n) := by
  induction n with
  | zero => rfl
  | succ n ih =>
    have hp : p + n < src.length := by omega
    have hn : n < dst.length := by omega
    have hlen : ((src.drop p).take n).length = n := by
      rw [List.length_take, List.length_drop]
      omega
    have hl : load src (p + n) = .ok src[p + n] := load_drop (List.drop_eq_getElem_cons hp)
    have ht : (src.drop p).take (n + 1) = (src.drop p).take n ++ [src[p + n]] := by
      rw [List.take_add_one, List.getElem?_drop, List.getElem?_eq_getElem hp]
      rfl
    rw [memcpy, ih (by omega) (by omega), hl]
    change store _ n _ = _
    rw [store_of_lt (by rw [List.length_append, hlen, List.length_drop]; omega),
      List.set_append_right (h := by rw [hlen]), hlen, Nat.sub_self,
      List.drop_eq_getElem_cons hn, List.set_cons_zero, ht, List.append_assoc]
    rfl

/-! ### `string.h` -/

/-- `memchr`: the first of `n` bytes that equals `ch`, if any. -/
def memchr (mem : List UInt8) (ch : UInt8) (p : Nat) : Nat → Exec (Option Nat)
  | 0 => .ok none
  | n + 1 => do
    if (← load mem p) = ch then .ok (some p) else memchr mem ch (p + 1) n

/-- `strncmp(mem + p, key, strlen(key)) == 0`: the comparison stops at the first difference. -/
def sameBytes (mem : List UInt8) (p : Nat) : List UInt8 → Exec Bool
  | [] => .ok true
  | k :: key => do
    if (← load mem p) = k then sameBytes mem (p + 1) key else .ok false

/-- A comparison in range tests whether the key comes next. -/
theorem sameBytes_eq {mem : List UInt8} {p : Nat} {key : List UInt8}
    (h : p + key.length ≤ mem.length) :
    sameBytes mem p key = .ok (key.isPrefixOf (mem.drop p)) := by
  induction key generalizing p with
  | nil => rfl
  | cons k key ih =>
    rw [List.length_cons] at h
    have hp : p < mem.length := by omega
    have hd := List.drop_eq_getElem_cons hp
    rw [sameBytes, load_drop hd, hd, List.isPrefixOf, ok_bind]
    by_cases hk : mem[p] = k
    · rw [if_pos hk, ← hk, beq_self_eq_true, ih (by omega), Bool.true_and]
    · rw [if_neg hk, (beq_eq_false_iff_ne).mpr (Ne.symm hk), Bool.false_and]

/-- A search to the end of the region finds the first occurrence from there, or there is
none. -/
theorem memchr_cases {mem : List UInt8} {p : Nat} (ch : UInt8) (h : p ≤ mem.length) :
    (memchr mem ch p (mem.length - p) = .ok none ∧ ch ∉ mem.drop p) ∨
      ∃ skipped rest, memchr mem ch p (mem.length - p) = .ok (some (p + skipped.length)) ∧
        mem.drop p = skipped ++ ch :: rest ∧ ch ∉ skipped := by
  generalize hn : mem.length - p = n
  induction n generalizing p with
  | zero =>
    rw [List.drop_of_length_le (by omega)]
    exact Or.inl ⟨rfl, List.not_mem_nil⟩
  | succ n ih =>
    have hp : p < mem.length := by omega
    have hd := List.drop_eq_getElem_cons hp
    have hm : memchr mem ch p (n + 1) =
        if mem[p] = ch then .ok (some p) else memchr mem ch (p + 1) n := by
      rw [memchr, load_drop hd]
      rfl
    by_cases hc : mem[p] = ch
    · refine Or.inr ⟨[], mem.drop (p + 1), ?_, ?_, List.not_mem_nil⟩
      · rw [hm, if_pos hc]
        rfl
      · rw [hd, hc]
        rfl
    · rw [hm, if_neg hc]
      rcases ih hp (by omega) with ⟨hnone, hmem⟩ | ⟨skipped, rest, hsome, hrest, hmem⟩
      · refine Or.inl ⟨hnone, ?_⟩
        rw [hd, List.mem_cons]
        exact not_or.mpr ⟨Ne.symm hc, hmem⟩
      · refine Or.inr ⟨mem[p] :: skipped, rest, ?_, ?_, ?_⟩
        · rw [hsome, List.length_cons]
          congr 2
          omega
        · rw [hd, hrest]
          rfl
        · rw [List.mem_cons]
          exact not_or.mpr ⟨Ne.symm hc, hmem⟩

end Memory
