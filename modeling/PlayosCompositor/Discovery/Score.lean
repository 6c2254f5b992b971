import Mathlib.Data.Prod.Lex
import PlayosCompositor.Base.CInt
import PlayosCompositor.Base.FirstMax

/-!
# GPU scoring

`src/gpu_score.c`: the score of a candidate and the index of the best one. The score is a sum of
weights; it orders candidates by what they display first and by their vendor second.
-/

namespace PlayosCompositor

/-- `PCI_VENDOR_AMD`. -/
def pciVendorAmd : UInt16 := 0x1002

/-- `PCI_VENDOR_INTEL`. -/
def pciVendorIntel : UInt16 := 0x8086

/-- `struct playos_gpu_score_input`, `src/gpu_score.h:36`. -/
structure GpuScoreInput where
  vendorId : UInt16
  hasConnectedOutput : Bool
  isEdp : Bool
  deriving DecidableEq, Repr

/-- `playos_gpu_score`, `src/gpu_score.c:4`. -/
def playosGpuScore (vendorId : UInt16) (hasConnectedOutput isEdp : Bool) : Int :=
  let s := 0
  let s := if isEdp then s + 1000 else if hasConnectedOutput then s + 500 else s
  if vendorId = pciVendorAmd then s + 300
  else if vendorId = pciVendorIntel then s + 100
  else s + 1

/-- The loop of `playos_gpu_select_index`, with `i`, `best` and `best_score`. -/
def selectIndexLoop : List GpuScoreInput → Nat → Int → Int → Int
  | [], _, best, _ => best
  | cand :: cands, i, best, bestScore =>
    let s := playosGpuScore cand.vendorId cand.hasConnectedOutput cand.isEdp
    if s > bestScore then selectIndexLoop cands (i + 1) (CInt.ofNat i) s
    else selectIndexLoop cands (i + 1) best bestScore

/-- `playos_gpu_select_index`, `src/gpu_score.c:25`. -/
def playosGpuSelectIndex (cands : List GpuScoreInput) : Int := selectIndexLoop cands 0 (-1) (-1)

/-! ### The order of candidates -/

namespace GpuScoreInput

/-- The score of a candidate. -/
def score (cand : GpuScoreInput) : Int :=
  playosGpuScore cand.vendorId cand.hasConnectedOutput cand.isEdp

/-- What a candidate displays on: an internal panel, another connected output, nothing. -/
def connection (cand : GpuScoreInput) : Nat :=
  if cand.isEdp then 2 else if cand.hasConnectedOutput then 1 else 0

/-- The preference among vendors: AMD, Intel, any other. -/
def vendor (cand : GpuScoreInput) : Nat :=
  if cand.vendorId = pciVendorAmd then 2 else if cand.vendorId = pciVendorIntel then 1 else 0

/-- The connection counts first, and the vendor among equal connections. -/
def rank (cand : GpuScoreInput) : Nat ×ₗ Nat := toLex (cand.connection, cand.vendor)

/-- The bonus of a vendor. -/
private def bonus (cand : GpuScoreInput) : Int :=
  if cand.vendorId = pciVendorAmd then 300 else if cand.vendorId = pciVendorIntel then 100 else 1

private theorem score_eq (cand : GpuScoreInput) :
    cand.score = 500 * cand.connection + cand.bonus := by
  unfold score playosGpuScore connection bonus
  dsimp only
  repeat' split
  all_goals rfl

/-- No bonus makes up for a better connection. -/
private theorem bonus_bounds (cand : GpuScoreInput) : 1 ≤ cand.bonus ∧ cand.bonus ≤ 300 := by
  unfold bonus
  repeat' split
  all_goals decide

private theorem bonus_lt_iff (a b : GpuScoreInput) : a.bonus < b.bonus ↔ a.vendor < b.vendor := by
  unfold bonus vendor
  repeat' split
  all_goals decide

private theorem score_lt_iff (a b : GpuScoreInput) : a.score < b.score ↔ a.rank < b.rank := by
  have hab := bonus_lt_iff a b
  have ha := a.bonus_bounds
  have hb := b.bonus_bounds
  rw [score_eq, score_eq, rank, rank, Prod.Lex.toLex_lt_toLex]
  dsimp only
  omega

end GpuScoreInput

private theorem firstMax_score_iff {cands : List GpuScoreInput} {i : Nat} {cand : GpuScoreInput} :
    FirstMax GpuScoreInput.score cands i cand ↔ FirstMax GpuScoreInput.rank cands i cand := by
  simp only [FirstMax, ← not_lt, GpuScoreInput.score_lt_iff]

/-! ### The selected index -/

/-- The index that the loop holds for the best candidate so far. -/
private def indexOf : Option (Nat × GpuScoreInput) → Int
  | none => -1
  | some held => CInt.ofNat held.1

private theorem selectIndexLoop_eq (cands : List GpuScoreInput) (i : Nat)
    (best : Option (Nat × GpuScoreInput)) (bestScore : Int) :
    selectIndexLoop cands i (indexOf best) bestScore =
      indexOf (runningMax GpuScoreInput.score cands i (best, bestScore)).1 := by
  induction cands generalizing i best bestScore with
  | nil => rfl
  | cons cand cands ih =>
    rw [runningMax, selectIndexLoop]
    by_cases hs : bestScore < cand.score
    · rw [if_pos hs, ← ih, indexOf]
      exact if_pos hs
    · rw [if_neg hs, ← ih]
      exact if_neg hs

/-- The loop selects nothing from nothing, and else the first candidate of the highest rank. -/
theorem playosGpuSelectIndex_cases (cands : List GpuScoreInput) :
    (cands = [] ∧ playosGpuSelectIndex cands = -1) ∨
      ∃ i cand, FirstMax GpuScoreInput.rank cands i cand ∧
        playosGpuSelectIndex cands = CInt.ofNat i := by
  have he : playosGpuSelectIndex cands =
      indexOf (runningMax GpuScoreInput.score cands 0 (none, -1)).1 :=
    selectIndexLoop_eq cands 0 none (-1)
  rcases runningMax_cases GpuScoreInput.score cands 0 (none, -1) with
    ⟨hle, hr⟩ | ⟨i, cand, hm, -, hr⟩
  · refine Or.inl ⟨?_, by rw [he, hr]; rfl⟩
    refine List.eq_nil_iff_forall_not_mem.mpr fun cand hc ↦ ?_
    have hneg := hle cand hc
    rw [GpuScoreInput.score_eq] at hneg
    have := cand.bonus_bounds
    omega
  · refine Or.inr ⟨i, cand, firstMax_score_iff.mp hm, ?_⟩
    rw [he, hr, Nat.zero_add, indexOf]

/-- What selection promises of a list of candidates. -/
structure SelectsBest (cands : List GpuScoreInput) : Prop where
  none_iff : playosGpuSelectIndex cands = -1 ↔ cands = []
  first_best : cands ≠ [] → ∃ (i : Nat) (cand : GpuScoreInput),
    playosGpuSelectIndex cands = (i : Int) ∧ FirstMax GpuScoreInput.rank cands i cand
  connection_first : ∀ a ∈ cands, ∀ b ∈ cands, a.connection < b.connection → a.score < b.score
  appended : ∀ more, (cands ++ more).length ≤ CInt.intMax →
    playosGpuSelectIndex (cands ++ more) = playosGpuSelectIndex cands ∨
      ∃ (i : Nat) (cand : GpuScoreInput), playosGpuSelectIndex (cands ++ more) = (i : Int) ∧
        (cands ++ more)[i]? = some cand ∧ cands.length ≤ i ∧ ∀ c ∈ cands, c.rank < cand.rank

/-- Every list of candidates has its first best one selected, and more candidates change that
only to a better one of them. -/
theorem selectsBest {cands : List GpuScoreInput} (h : cands.length ≤ CInt.intMax) :
    SelectsBest cands := by
  have hcases : ∀ l : List GpuScoreInput, l.length ≤ CInt.intMax →
      (l = [] ∧ playosGpuSelectIndex l = -1) ∨ ∃ i cand, FirstMax GpuScoreInput.rank l i cand ∧
        playosGpuSelectIndex l = (i : Int) := by
    intro l hl
    rcases playosGpuSelectIndex_cases l with hnil | ⟨i, cand, hm, hi⟩
    · exact Or.inl hnil
    · exact Or.inr ⟨i, cand, hm, by rw [hi, CInt.ofNat_of_le (hm.lt_length.le.trans hl)]⟩
  refine ⟨?_, ?_, ?_, ?_⟩
  · rcases hcases cands h with ⟨hnil, hi⟩ | ⟨i, cand, hm, hi⟩
    · exact iff_of_true hi hnil
    · exact iff_of_false (by omega) (List.ne_nil_of_mem hm.mem)
  · intro hne
    rcases hcases cands h with ⟨hnil, -⟩ | ⟨i, cand, hm, hi⟩
    · exact absurd hnil hne
    · exact ⟨i, cand, hi, hm⟩
  · intro a _ b _ hab
    rw [GpuScoreInput.score_lt_iff, GpuScoreInput.rank, GpuScoreInput.rank,
      Prod.Lex.toLex_lt_toLex]
    exact Or.inl hab
  · intro more hmore
    rcases hcases (cands ++ more) hmore with ⟨hnil, hi⟩ | ⟨i, cand, hm, hi⟩
    · rw [hnil, (List.append_eq_nil_iff.mp hnil).1]
      exact Or.inl rfl
    · rcases hm.of_append with hold | ⟨hle, -, hlt⟩
      · rcases hcases cands h with ⟨hnil, -⟩ | ⟨j, cand', hm', hj⟩
        · exact absurd hnil (List.ne_nil_of_mem hold.mem)
        · exact Or.inl (by rw [hi, hj, (hold.unique hm').1])
      · exact Or.inr ⟨i, cand, hi, hm.getElem?_eq, hle, hlt⟩

/-- An idle card of another vendor and an Intel GPU with the internal panel: the latter is
selected. -/
theorem selectsBest_hybrid :
    SelectsBest [⟨0x10de, false, false⟩, ⟨pciVendorIntel, true, true⟩] ∧
      playosGpuSelectIndex [⟨0x10de, false, false⟩, ⟨pciVendorIntel, true, true⟩] = 1 :=
  ⟨selectsBest (by decide), by decide⟩

end PlayosCompositor
