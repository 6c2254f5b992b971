import Mathlib.Data.List.MinMax
import Mathlib.Order.Nat
import PlayosCompositor.Discovery.Outputs

/-!
# What is selected

A usable connector is rated by the weight of its type and the area of its largest mode. The
first of the best rated is selected with the first of its largest modes, unless some area does
not fit an `int`. Areas have no bound that the weights respect, so a type may lose to a worse one.
-/

namespace PlayosCompositor

open CInt (Checked intMax)

/-! ### Rating -/

/-- The number of pixels. -/
def DrmMode.area (mode : DrmMode) : Nat := mode.hdisplay.toNat * mode.vdisplay.toNat

namespace DrmConnector

/-- The connector is connected and has modes. -/
def Usable (conn : DrmConnector) : Prop := conn.connection = .connected ∧ conn.modes ≠ []
  deriving Decidable

/-- The areas of the modes fit an `int`. -/
def AreasFit (conn : DrmConnector) : Prop := ∀ mode ∈ conn.modes, mode.area ≤ intMax
  deriving Decidable

/-- The area of the largest mode. -/
def largestArea (conn : DrmConnector) : Nat := (conn.modes.map DrmMode.area).foldr max 0

/-- The weight of the type and the bonus of the resolution. -/
def rating (conn : DrmConnector) : Nat :=
  typeWeight conn.connectorType + conn.largestArea / 100000

end DrmConnector

/-- Every area that a selection computes fits an `int`. -/
def AreasFit (res : DrmResources) : Prop :=
  ∀ conn, some conn ∈ listed res → conn.Usable → conn.AreasFit

/-- The rating that the loop compares; what it skips is below every rating. -/
private def merit : Option DrmConnector → Int
  | none => -1
  | some conn => if conn.Usable then conn.rating else -1

/-! ### The loop over the modes -/

private theorem mul_eq_area {mode : DrmMode} (h : mode.area ≤ intMax) :
    CInt.mul mode.hdisplay.toNat mode.vdisplay.toNat = .ok (mode.area : Int) := by
  rw [CInt.mul, ← Int.natCast_mul]
  exact CInt.checked_of_le h

private theorem mul_overflow {mode : DrmMode} (h : intMax < mode.area) :
    CInt.mul mode.hdisplay.toNat mode.vdisplay.toNat = .error .overflow := by
  rw [CInt.mul, ← Int.natCast_mul]
  exact CInt.checked_of_lt h

/-- The variables of the loop for the best mode so far. -/
private structure Holds (largest : LargestMode) (best : Option (Nat × DrmMode) × Nat) : Prop where
  area : largest.maxW * largest.maxH = best.2
  index : largest.bestM = best.1.elim 0 Prod.fst
  fits : best.2 ≤ intMax

private theorem Holds.mul {largest : LargestMode} {best : Option (Nat × DrmMode) × Nat}
    (h : Holds largest best) : CInt.mul largest.maxW largest.maxH = .ok (best.2 : Int) := by
  rw [CInt.mul, h.area]
  exact CInt.checked_of_le h.fits

private theorem holds_mode {mode : DrmMode} (h : mode.area ≤ intMax) (m : Nat) :
    Holds ⟨mode.hdisplay.toNat, mode.vdisplay.toNat, m⟩ (some (m, mode), mode.area) :=
  ⟨(Int.natCast_mul _ _).symm, rfl, h⟩

private theorem largestModeLoop_eq {modes : List DrmMode}
    (hfit : ∀ mode ∈ modes, mode.area ≤ intMax) (m : Nat) {largest : LargestMode}
    {best : Option (Nat × DrmMode) × Nat} (h : Holds largest best) :
    ∃ largest', largestModeLoop modes m largest = .ok largest' ∧
      Holds largest' (runningMax DrmMode.area modes m best) := by
  induction modes generalizing m largest best with
  | nil => exact ⟨largest, rfl, h⟩
  | cons mode modes ih =>
    obtain ⟨hmode, hmodes⟩ := List.forall_mem_cons.mp hfit
    rw [largestModeLoop, mul_eq_area hmode, CInt.ok_bind, h.mul, CInt.ok_bind, runningMax]
    by_cases hlt : best.2 < mode.area
    · rw [if_pos (Int.ofNat_lt.mpr hlt), if_pos hlt]
      exact ih hmodes (m + 1) (holds_mode hmode m)
    · rw [if_neg fun hn ↦ hlt (Int.ofNat_lt.mp hn), if_neg hlt]
      exact ih hmodes (m + 1) h

private theorem largestModeLoop_overflow {modes : List DrmMode}
    (hbig : ∃ mode ∈ modes, intMax < mode.area) (m : Nat) {largest : LargestMode}
    {best : Option (Nat × DrmMode) × Nat} (h : Holds largest best) :
    largestModeLoop modes m largest = .error .overflow := by
  induction modes generalizing m largest best with
  | nil => simp at hbig
  | cons mode modes ih =>
    rw [largestModeLoop]
    rcases Nat.lt_or_ge intMax mode.area with hmode | hmode
    · rw [mul_overflow hmode, CInt.error_bind]
    · have hrest : ∃ mode ∈ modes, intMax < mode.area := by
        obtain ⟨other, ho, hlt⟩ := hbig
        rcases List.mem_cons.mp ho with rfl | ho
        · exact absurd hlt (Nat.not_lt.mpr hmode)
        · exact ⟨other, ho, hlt⟩
      rw [mul_eq_area hmode, CInt.ok_bind, h.mul, CInt.ok_bind]
      split
      · exact ih hrest (m + 1) (holds_mode hmode m)
      · exact ih hrest (m + 1) h

private theorem holds_start : Holds ⟨0, 0, 0⟩ (none, 0) := ⟨rfl, rfl, Nat.zero_le _⟩

/-! ### The score of a connector -/

private theorem largestArea_of_firstMax {conn : DrmConnector} {m : Nat} {mode : DrmMode}
    (h : FirstMax DrmMode.area conn.modes m mode) : conn.largestArea = mode.area := by
  apply Nat.le_antisymm
  · exact List.max_le_of_forall_le _ _ (List.forall_mem_map.mpr fun _ ho ↦ h.le ho)
  · exact List.le_max_of_le (List.mem_map_of_mem h.mem) le_rfl

/-- The index that the loop over the modes ends with. -/
private def largestIndex (conn : DrmConnector) : Nat :=
  (runningMax DrmMode.area conn.modes 0 (none, 0)).1.elim 0 Prod.fst

private theorem firstMax_largestIndex {conn : DrmConnector} (h : conn.modes ≠ []) :
    ∃ mode, FirstMax DrmMode.area conn.modes (largestIndex conn) mode ∧
      (runningMax DrmMode.area conn.modes 0 (none, 0)).2 = mode.area := by
  unfold largestIndex
  rcases runningMax_cases DrmMode.area conn.modes 0 (none, 0) with ⟨hle, he⟩ | ⟨m, mode, hm, -, he⟩
  · -- all modes are empty
    obtain ⟨mode, modes, hmodes⟩ := List.exists_cons_of_ne_nil h
    have hzero : ∀ other ∈ conn.modes, other.area = 0 := fun _ ho ↦ Nat.le_zero.mp (hle _ ho)
    have hmode : mode.area = 0 := hzero mode (by rw [hmodes]; exact List.mem_cons_self)
    refine ⟨mode, ?_, by rw [he, hmode]⟩
    rw [he, hmodes]
    refine .head fun other ho ↦ ?_
    rw [hmode, hzero other (by rw [hmodes]; exact List.mem_cons_of_mem _ ho)]
  · refine ⟨mode, ?_, by rw [he]⟩
    rw [he, Nat.zero_add]
    exact hm

private theorem typeWeight_le (connectorType : UInt32) : typeWeight connectorType ≤ 1000 := by
  unfold typeWeight
  repeat' split
  all_goals decide

/-- A usable connector is scored by its rating, with its largest mode. -/
private theorem scoreConnector_eq {conn : DrmConnector} (hu : conn.Usable) (hf : conn.AreasFit) :
    scoreConnector conn = .ok ((conn.rating : Int), largestIndex conn) := by
  obtain ⟨mode, hm, hv⟩ := firstMax_largestIndex hu.2
  obtain ⟨largest, hl, hh⟩ := largestModeLoop_eq hf 0 holds_start
  have hdiv : mode.area / 100000 ≤ intMax / 100000 := Nat.div_le_div_right (hf mode hm.mem)
  have hsum : typeWeight conn.connectorType + mode.area / 100000 ≤ intMax := by
    have hw := typeWeight_le conn.connectorType
    unfold intMax at *
    omega
  unfold scoreConnector
  dsimp only
  rw [hl, CInt.ok_bind, hh.mul, CInt.ok_bind, hv, CInt.add,
    Int.tdiv_eq_ediv_of_nonneg (Int.natCast_nonneg _)]
  change (CInt.checked (((typeWeight conn.connectorType + mode.area / 100000 : Nat) : Int))
    >>= _) = _
  rw [CInt.checked_of_le hsum, CInt.ok_bind, hh.index, DrmConnector.rating,
    largestArea_of_firstMax hm]
  rfl

private theorem scoreConnector_overflow {conn : DrmConnector} (hf : ¬ conn.AreasFit) :
    scoreConnector conn = .error .overflow := by
  have hbig : ∃ mode ∈ conn.modes, intMax < mode.area := by
    simpa [DrmConnector.AreasFit] using hf
  unfold scoreConnector
  dsimp only
  rw [largestModeLoop_overflow hbig 0 holds_start]
  rfl

/-! ### The loop over the connectors -/

/-- The loop skips what is not usable. -/
private theorem skipped_iff (conn : DrmConnector) :
    conn.connection ≠ .connected ∨ conn.modes.length = 0 ↔ ¬ conn.Usable := by
  rw [List.length_eq_zero_iff, DrmConnector.Usable, not_and_or, not_not]

/-- The indices that the loop over the connectors holds for the best one so far. -/
private def indices (best : Option (Nat × Option DrmConnector)) : Option (Nat × Nat) :=
  best.map fun held ↦ (held.1, held.2.elim 0 largestIndex)

private theorem bestOutputLoop_eq {conns : List (Option DrmConnector)}
    (hfit : ∀ conn, some conn ∈ conns → conn.Usable → conn.AreasFit) (i : Nat) {bestScore : Int}
    (hs : -1 ≤ bestScore) (best : Option (Nat × Option DrmConnector)) :
    bestOutputLoop conns i bestScore (indices best) =
      .ok (indices (runningMax merit conns i (best, bestScore)).1) := by
  induction conns generalizing i bestScore best with
  | nil => rfl
  | cons conn conns ih =>
    have hrest := fun other ho ↦ hfit other (List.mem_cons_of_mem _ ho)
    have hskip : merit conn = -1 → bestOutputLoop conns (i + 1) bestScore (indices best) =
        .ok (indices (runningMax merit (conn :: conns) i (best, bestScore)).1) := by
      intro hm
      rw [runningMax, if_neg (by rw [hm]; omega), ih hrest (i + 1) hs]
    cases conn with
    | none => exact hskip rfl
    | some conn =>
      rw [bestOutputLoop]
      by_cases hu : conn.Usable
      · have hmerit : merit (some conn) = conn.rating := if_pos hu
        rw [if_neg fun hs ↦ (skipped_iff conn).mp hs hu,
          scoreConnector_eq hu (hfit conn List.mem_cons_self hu), CInt.ok_bind, runningMax, hmerit]
        by_cases hlt : bestScore < conn.rating
        · rw [if_pos hlt]
          exact (if_pos hlt).trans (ih hrest (i + 1) (by omega) (some (i, some conn)))
        · rw [if_neg hlt]
          exact (if_neg hlt).trans (ih hrest (i + 1) hs best)
      · rw [if_pos ((skipped_iff conn).mpr hu)]
        exact hskip (if_neg hu)

private theorem bestOutputLoop_overflow {conns : List (Option DrmConnector)}
    (hbig : ∃ conn, some conn ∈ conns ∧ conn.Usable ∧ ¬ conn.AreasFit) (i : Nat) (bestScore : Int)
    (best : Option (Nat × Nat)) :
    bestOutputLoop conns i bestScore best = .error .overflow := by
  induction conns generalizing i bestScore best with
  | nil => simp at hbig
  | cons conn conns ih =>
    obtain ⟨big, hm, hb⟩ := hbig
    cases conn with
    | none => exact ih ⟨big, (List.mem_cons.mp hm).resolve_left (by simp), hb⟩ _ _ _
    | some conn =>
      rw [bestOutputLoop]
      by_cases hf : conn.Usable ∧ ¬ conn.AreasFit
      · rw [if_neg fun hs ↦ (skipped_iff conn).mp hs hf.1, scoreConnector_overflow hf.2,
          CInt.error_bind]
      · have hrest : ∃ conn, some conn ∈ conns ∧ conn.Usable ∧ ¬ conn.AreasFit := by
          refine ⟨big, (List.mem_cons.mp hm).resolve_left ?_, hb⟩
          rintro he
          cases he
          exact hf hb
        split
        · exact ih hrest _ _ _
        · cases hscore : scoreConnector conn with
          | error e => cases e; rfl
          | ok score =>
            rw [CInt.ok_bind]
            dsimp only
            split
            · exact ih hrest _ _ _
            · exact ih hrest _ _ _

/-! ### The selection -/

/-- A selection ends with this connector and this mode. -/
structure Selected (res : DrmResources) (i : Nat) (conn : DrmConnector) (m : Nat)
    (mode : DrmMode) : Prop where
  indices : bestOutputLoop (listed res) 0 (-1) none = .ok (some (i, m))
  connector_eq : (listed res)[i]? = some (some conn)
  mode_eq : conn.modes[m]? = some mode
  written : selectOutput res = .ok (some (selectedConfig conn mode))

/-- A usable connector in the list. -/
def UsableAt (res : DrmResources) (i : Nat) (conn : DrmConnector) : Prop :=
  (listed res)[i]? = some (some conn) ∧ conn.Usable

/-- The first of two connectors goes before the second: it is rated higher, or as high and
listed earlier. -/
def Beats (i : Nat) (conn : DrmConnector) (j : Nat) (other : DrmConnector) : Prop :=
  other.rating < conn.rating ∨ other.rating = conn.rating ∧ i < j

variable {res : DrmResources}

private theorem UsableAt.unique {i : Nat} {conn other : DrmConnector} (h : UsableAt res i conn)
    (h' : UsableAt res i other) : conn = other :=
  Option.some.inj (Option.some.inj (h.1.symm.trans h'.1))

private theorem Selected.unique {i j m n : Nat} {conn other : DrmConnector} {mode mode' : DrmMode}
    (h : Selected res i conn m mode) (h' : Selected res j other n mode') :
    i = j ∧ conn = other ∧ m = n ∧ mode = mode' := by
  have hidx := Except.ok.inj (h.indices.symm.trans h'.indices)
  simp only [Option.some.injEq, Prod.mk.injEq] at hidx
  obtain ⟨rfl, rfl⟩ := hidx
  have hconn := Option.some.inj (Option.some.inj (h.connector_eq.symm.trans h'.connector_eq))
  cases hconn
  exact ⟨rfl, rfl, rfl, Option.some.inj (h.mode_eq.symm.trans h'.mode_eq)⟩

/-- Where some area has no defined value, the selection has none. -/
theorem selectOutput_overflow (h : ¬ AreasFit res) : selectOutput res = .error .overflow := by
  cases res with
  | none => exact absurd (fun _ hm ↦ absurd hm List.not_mem_nil) h
  | some connectors =>
    have hbig : ∃ conn, some conn ∈ connectors ∧ conn.Usable ∧ ¬ conn.AreasFit := by
      simpa [AreasFit, listed] using h
    rw [selectOutput, playosOutputSelectFromFd, bestOutputLoop_overflow hbig, CInt.error_bind]

/-- Where the selection has a value, all areas fit. -/
private theorem areasFit_of_ok {result : Option SelectedConfig}
    (h : selectOutput res = .ok result) : AreasFit res := by
  by_contra hfit
  rw [selectOutput_overflow hfit] at h
  cases h

private theorem beats_of_firstMax {i : Nat} {conn : DrmConnector} (hu : conn.Usable)
    (h : FirstMax merit (listed res) i (some conn)) {j : Nat} {other : DrmConnector}
    (ho : UsableAt res j other) (hne : j ≠ i) : Beats i conn j other := by
  have hconn : merit (some conn) = conn.rating := if_pos hu
  have hother : merit (some other) = other.rating := if_pos ho.2
  have hle := h.le (List.mem_of_getElem? ho.1)
  rw [hconn, hother, Int.ofNat_le] at hle
  rcases Nat.lt_or_gt_of_ne hne with hlt | hlt
  · have hless := h.lt_of_lt hlt ho.1
    rw [hconn, hother, Int.ofNat_lt] at hless
    exact Or.inl hless
  · exact (Nat.lt_or_eq_of_le hle).imp_right fun he ↦ ⟨he, hlt⟩

/-- Where all areas fit, nothing is selected from nothing, and else the connector that goes
before all others, with the first of its largest modes. -/
theorem selectOutput_cases (hfit : AreasFit res) :
    ((∀ i conn, ¬ UsableAt res i conn) ∧ selectOutput res = .ok none) ∨
      ∃ i conn m mode, Selected res i conn m mode ∧ UsableAt res i conn ∧
        FirstMax DrmMode.area conn.modes m mode ∧
        ∀ j other, UsableAt res j other → j ≠ i → Beats i conn j other := by
  cases res with
  | none => exact Or.inl ⟨fun i conn hu ↦ by simp [UsableAt, listed] at hu, rfl⟩
  | some connectors =>
    have hloop : bestOutputLoop connectors 0 (-1) none =
        .ok (indices (runningMax merit connectors 0 (none, -1)).1) :=
      bestOutputLoop_eq hfit 0 le_rfl none
    rcases runningMax_cases merit connectors 0 (none, -1) with ⟨hle, he⟩ | ⟨i, best, hm, hlt, he⟩
    · refine Or.inl ⟨?_, ?_⟩
      · rintro i conn ⟨hi, hu⟩
        have hneg := hle (some conn) (List.mem_of_getElem? hi)
        rw [merit, if_pos hu] at hneg
        dsimp only at hneg
        omega
      · rw [selectOutput, playosOutputSelectFromFd, hloop, he, CInt.ok_bind]
        rfl
    · have hbest : ∃ conn, best = some conn ∧ conn.Usable := by
        cases best with
        | none => exact absurd hlt (lt_irrefl _)
        | some conn => exact ⟨conn, rfl, by_contra fun hu ↦ by simp [merit, hu] at hlt⟩
      obtain ⟨conn, rfl, hu⟩ := hbest
      have hfirst : FirstMax merit (listed (some connectors)) i (some conn) := hm
      obtain ⟨mode, hmode, -⟩ := firstMax_largestIndex hu.2
      have hidx : bestOutputLoop connectors 0 (-1) none = .ok (some (i, largestIndex conn)) := by
        rw [hloop, he, Nat.zero_add]
        rfl
      refine Or.inr ⟨i, conn, largestIndex conn, mode,
        ⟨hidx, hm.getElem?_eq, hmode.getElem?_eq, ?_⟩, ⟨hm.getElem?_eq, hu⟩, hmode,
        fun j other ho hne ↦ beats_of_firstMax hu hfirst ho hne⟩
      rw [selectOutput, playosOutputSelectFromFd, hidx, CInt.ok_bind]
      dsimp only
      rw [listed, Option.getD_some, hm.getElem?_eq, Option.join_some]
      dsimp only
      rw [hmode.getElem?_eq]
      rfl

/-- What is selected has a property exactly if some usable connector with it goes before each
one without it. -/
theorem selected_iff_beaten {i : Nat} {conn : DrmConnector} (hu : UsableAt res i conn)
    (hbeats : ∀ j other, UsableAt res j other → j ≠ i → Beats i conn j other)
    (p : DrmConnector → Prop) : p conn ↔ ∀ j other, UsableAt res j other → ¬ p other →
      ∃ k better, UsableAt res k better ∧ p better ∧ Beats k better j other := by
  constructor
  · intro hp j other ho hn
    refine ⟨i, conn, hu, hp, hbeats j other ho ?_⟩
    rintro rfl
    exact hn (ho.unique hu ▸ hp)
  · intro h
    by_contra hn
    obtain ⟨k, better, hk, hp, hb⟩ := h i conn hu hn
    have hne : k ≠ i := by
      rintro rfl
      exact hn (hk.unique hu ▸ hp)
    have hback := hbeats k better hk hne
    unfold Beats at hb hback
    omega

/-! ### The largest mode -/

/-- The selection is defined, and what it writes is the first of the connector's largest
modes. -/
structure LargestModeWritten (res : DrmResources) : Prop where
  defined : ∃ result, selectOutput res = .ok result
  first_largest : ∀ config, selectOutput res = .ok (some config) →
    ∃ i conn m mode, Selected res i conn m mode ∧ config = selectedConfig conn mode ∧
      FirstMax DrmMode.area conn.modes m mode

/-- The first of the largest modes is written exactly where every area fits an `int`. -/
theorem largestModeWritten_iff (res : DrmResources) : LargestModeWritten res ↔ AreasFit res := by
  constructor
  · rintro ⟨⟨result, hr⟩, -⟩
    exact areasFit_of_ok hr
  · intro hfit
    rcases selectOutput_cases hfit with ⟨-, hnone⟩ | ⟨i, conn, m, mode, hs, -, hm, -⟩
    · exact ⟨⟨none, hnone⟩, fun config hc ↦ by rw [hnone] at hc; cases hc⟩
    · refine ⟨⟨_, hs.written⟩, fun config hc ↦ ?_⟩
      rw [hs.written] at hc
      cases hc
      exact ⟨i, conn, m, mode, hs, rfl, hm⟩

/-- A panel with one mode of the largest dimensions that can be reported. -/
def hugePanel : DrmResources :=
  some [some ⟨.connected, connectorEdp, 1, [⟨1920, 1080, 60⟩, ⟨65535, 65535, 60⟩]⟩]

/-- The product of its dimensions is no `int`. -/
theorem largestModeWritten_fails :
    selectOutput hugePanel = .error .overflow ∧ ¬ LargestModeWritten hugePanel := by
  have hover : selectOutput hugePanel = .error .overflow := by decide +kernel
  refine ⟨hover, fun h ↦ ?_⟩
  obtain ⟨result, hr⟩ := h.defined
  rw [hover] at hr
  cases hr

/-! ### The order of types -/

/-- The documented order of types, `src/output_modes.h:11`. -/
def panelOrder (connectorType : UInt32) : Nat :=
  if connectorType = connectorEdp then 3
  else if connectorType = connectorLvds then 2
  else if connectorType = connectorDsi then 1
  else 0

/-- No usable connector has a better type. -/
def BestType (res : DrmResources) (conn : DrmConnector) : Prop :=
  ∀ j other, UsableAt res j other → panelOrder other.connectorType ≤ panelOrder conn.connectorType

/-- The selection is defined, it takes a connector of the best type that is usable, and it
fails only where none is. -/
structure PanelOrderKept (res : DrmResources) : Prop where
  defined : ∃ result, selectOutput res = .ok result
  best_type : ∀ config, selectOutput res = .ok (some config) →
    ∃ i conn m mode, Selected res i conn m mode ∧ config = selectedConfig conn mode ∧
      conn.Usable ∧ BestType res conn
  none_iff : selectOutput res = .ok none ↔ ∀ i conn, ¬ UsableAt res i conn

/-- Every usable connector of a worse type is beaten by one of the best type. -/
def PanelsBeat (res : DrmResources) : Prop :=
  ∀ j other, UsableAt res j other → ¬ BestType res other →
    ∃ k better, UsableAt res k better ∧ BestType res better ∧ Beats k better j other

/-- The order of types is kept exactly where the areas fit and no usable connector makes up for
a worse type by its resolution. -/
theorem panelOrderKept_iff (res : DrmResources) :
    PanelOrderKept res ↔ AreasFit res ∧ PanelsBeat res := by
  constructor
  · intro h
    obtain ⟨result, hr⟩ := h.defined
    have hfit := areasFit_of_ok hr
    refine ⟨hfit, ?_⟩
    rcases selectOutput_cases hfit with ⟨hnone, -⟩ | ⟨i, conn, m, mode, hs, hu, -, hbeats⟩
    · exact fun j other ho ↦ absurd ho (hnone j other)
    · obtain ⟨_, _, _, _, hs', -, -, hb⟩ := h.best_type _ hs.written
      obtain ⟨-, rfl, -, -⟩ := hs.unique hs'
      exact (selected_iff_beaten hu hbeats (BestType res)).mp hb
  · rintro ⟨hfit, hp⟩
    rcases selectOutput_cases hfit with ⟨hnone, hr⟩ | ⟨i, conn, m, mode, hs, hu, -, hbeats⟩
    · refine ⟨⟨none, hr⟩, fun config hc ↦ ?_, iff_of_true hr hnone⟩
      rw [hr] at hc
      cases hc
    · refine ⟨⟨_, hs.written⟩, fun config hc ↦ ?_, iff_of_false ?_ fun hn ↦ hn i conn hu⟩
      · rw [hs.written] at hc
        cases hc
        exact ⟨i, conn, m, mode, hs, rfl, hu.2,
          (selected_iff_beaten hu hbeats (BestType res)).mpr hp⟩
      · rw [hs.written]
        exact fun hn ↦ nomatch hn

/-- The built-in panel of a laptop, and an external screen with very many pixels. -/
def wallDevice : DrmResources :=
  some [some ⟨.connected, connectorEdp, 1, [⟨1920, 1080, 60⟩]⟩,
    some ⟨.connected, connectorDisplayPort, 1, [⟨15360, 8640, 60⟩]⟩]

/-- The external screen is selected. -/
theorem panelOrderKept_fails : ¬ PanelOrderKept wallDevice := by
  intro h
  have hw : selectOutput wallDevice = .ok (some (selectedConfig
      ⟨.connected, connectorDisplayPort, 1, [⟨15360, 8640, 60⟩]⟩ ⟨15360, 8640, 60⟩)) := by
    decide +kernel
  obtain ⟨i, conn, m, mode, hs, -, -, hb⟩ := h.best_type _ hw
  have hidx : bestOutputLoop (listed wallDevice) 0 (-1) none = .ok (some (1, 0)) := by
    decide +kernel
  have hi := Except.ok.inj (hs.indices.symm.trans hidx)
  simp only [Option.some.injEq, Prod.mk.injEq] at hi
  have hconn := hs.connector_eq
  rw [hi.1] at hconn
  cases Option.some.inj (Option.some.inj hconn)
  exact absurd (hb 0 _ ⟨rfl, by decide⟩) (by decide)

end PlayosCompositor
