import Mathlib.Data.Rat.Floor
import PlayosCompositor.Base.Rounding
import PlayosCompositor.Discovery.Selection
import PlayosCompositor.Outputs.Modes

/-!
# The selected mode among the modes of the output

Discovery records the refresh rate in whole Hertz, wlroots offers it in Millihertz, and
`handle_new_output` compares whole Hertz again, cut off. A mode whose rate was rounded up is not
found.
-/

namespace PlayosCompositor

open CInt (intMax)

/-- The start on a GPU with the selected output, `src/compositor.c:303–310`. -/
def StartConfig.onGpu (output : OutputConfig) (connect : ConnectResult) : StartConfig :=
  ⟨.drm, output.width, output.height, output.refreshMhz, output.scale100, connect⟩

/-- The first loop over the modes in `handle_new_output`, `src/compositor.c:587–597`. -/
def matchedMode (c : Compositor) (modes : List OutputMode) : Option OutputMode :=
  if c.outputWidth > 0 ∧ c.outputHeight > 0 ∧ c.outputRefreshMhz > 0 then
    modes.find? fun mode ↦ mode.Matches c.outputWidth c.outputHeight c.outputRefreshMhz
  else none

private theorem chooseMode_eq_or (c : Compositor) (modes : List OutputMode) :
    chooseMode c modes = (matchedMode c modes).or (modes.find? fun mode ↦ mode.preferred) := by
  simp only [chooseMode, ← matchedMode.eq_1]
  cases matchedMode c modes <;> rfl

/-- The mode of an output has the size and the whole Hertz of a mode of the connector. -/
def OutputMode.SameAs (mode : OutputMode) (selected : DrmMode) : Prop :=
  mode.Matches selected.hdisplay.toNat selected.vdisplay.toNat (selected.vrefresh.toNat * 1000)
  deriving Decidable

/-- The loop finds the selected mode again, which is then chosen. -/
def FoundAgain (c : Compositor) (selected : DrmMode) (modes : List OutputMode) : Prop :=
  ∃ mode, matchedMode c modes = some mode ∧ chooseMode c modes = some mode ∧
    mode.SameAs selected

/-- The mode is not degenerate, its rate in Millihertz fits an `int`, and it was not rounded up by
more than half a Millihertz, unless another mode of the output makes up for that. -/
structure Recoverable (selected : DrmMode) (rate : ℚ) (modes : List OutputMode) : Prop where
  width : 0 < selected.hdisplay.toNat
  height : 0 < selected.vdisplay.toNat
  refresh : 0 < selected.vrefresh.toNat
  fits : selected.vrefresh.toNat * 1000 ≤ intMax
  offered : (selected.vrefresh.toNat : ℚ) ≤ rate + 1 / 2000 ∨ ∃ mode ∈ modes, mode.SameAs selected

/-- The recorded rate is the selected one as far as an `int` holds it. -/
private theorem recorded_refresh (vrefresh : UInt32) :
    (vrefresh * 1000).toInt32.toInt ≤ intMax ∧ (vrefresh.toNat * 1000 ≤ intMax →
      (vrefresh * 1000).toInt32.toInt = vrefresh.toNat * 1000) := by
  constructor
  · have hlt := Int32.toInt_lt (vrefresh * 1000).toInt32
    simp only [intMax]
    omega
  · intro hfits
    change vrefresh.toNat * 1000 ≤ 2147483647 at hfits
    have hnat : (vrefresh * 1000).toNat = vrefresh.toNat * 1000 := by
      rw [UInt32.toNat_mul]
      exact Nat.mod_eq_of_lt (by change vrefresh.toNat * 1000 < _; omega)
    change (vrefresh * 1000).toBitVec.toInt = _
    rw [BitVec.toInt_eq_toNat_bmod]
    change Int.bmod ((vrefresh * 1000).toNat : Int) _ = _
    rw [hnat]
    push_cast
    exact Int.bmod_eq_of_le (by omega) (by omega)

/-- A mode that was not rounded up too far still has its whole Hertz. -/
private theorem tdiv_round {rate : ℚ} {vrefresh : Nat} (hv : (vrefresh : ℤ) = round rate)
    (h : (vrefresh : ℚ) ≤ rate + 1 / 2000) : (round (1000 * rate)).tdiv 1000 = vrefresh := by
  have hcast : (vrefresh : ℚ) = round rate := by rw [← hv, Int.cast_natCast]
  rw [hcast] at h
  have hle : (round rate : ℚ) ≤ rate + 1 / (2 * (1000 : ℕ)) := by
    norm_num
    norm_num at h
    exact h
  have hdiv := (Rounding.round_mul_ediv_iff (by decide) rate).mpr hle
  have hpos := (Rounding.le_round_mul_iff (by decide) rate).mpr hle
  push_cast at hdiv hpos
  rw [Int.tdiv_eq_ediv_of_nonneg (by omega), hdiv, hv]

/-- The selected mode is found again exactly if it is recoverable. -/
theorem selectedMode_found_iff {res : DrmResources} {i m : Nat} {conn : DrmConnector}
    {mode : DrmMode} {config : SelectedConfig} (hc : selectOutput res = .ok (some config))
    (hs : Selected res i conn m mode) {connect : ConnectResult} {es : List Event} {c : Compositor}
    (hr : compositorSystem.run
      (playosCompositorStarted (.onGpu config.toOutputConfig connect)) es = some c)
    {rate : ℚ} (hv : (mode.vrefresh.toNat : ℤ) = round rate) {modes : List OutputMode}
    {preferred : Bool}
    (hm : ⟨mode.hdisplay.toNat, mode.vdisplay.toNat, round (1000 * rate), preferred⟩ ∈ modes) :
    FoundAgain c mode modes ↔ Recoverable mode rate modes := by
  cases Option.some.inj (Except.ok.inj (hs.written.symm.trans hc))
  have hset := settings_run hr
  have hw : c.outputWidth = mode.hdisplay.toNat := congrArg Settings.outputWidth hset
  have hh : c.outputHeight = mode.vdisplay.toNat := congrArg Settings.outputHeight hset
  have hmhz : c.outputRefreshMhz = (mode.vrefresh * 1000).toInt32.toInt :=
    congrArg Settings.outputRefreshMhz hset
  obtain ⟨hmax, hexact⟩ := recorded_refresh mode.vrefresh
  have hwhole : (mode.vrefresh.toNat * 1000 : ℤ).tdiv 1000 = mode.vrefresh.toNat :=
    Int.mul_tdiv_cancel _ (by decide)
  constructor
  · rintro ⟨found, hfound, -, hsame⟩
    obtain ⟨⟨hw0, hh0, hmhz0⟩, hfind⟩ := Option.ite_none_right_eq_some.mp hfound
    have hmatch : found.Matches c.outputWidth c.outputHeight c.outputRefreshMhz := by
      simpa using List.find?_some hfind
    -- the recorded rate is cut to the whole Hertz of the selected mode, so it did not wrap around
    have hcut : c.outputRefreshMhz.tdiv 1000 = mode.vrefresh.toNat :=
      (hmatch.2.2.symm.trans hsame.2.2).trans hwhole
    rw [Int.tdiv_eq_ediv_of_nonneg (by omega)] at hcut
    have hfits : mode.vrefresh.toNat * 1000 ≤ intMax := by omega
    have hrecorded := hexact hfits
    exact ⟨by omega, by omega, by omega, hfits,
      Or.inr ⟨found, List.mem_of_find?_eq_some hfind, hsame⟩⟩
  · intro h
    have hrecorded := hmhz.trans (hexact h.fits)
    obtain ⟨other, ho, hsame⟩ : ∃ other ∈ modes, other.SameAs mode := by
      rcases h.offered with hle | hother
      · exact ⟨_, hm, rfl, rfl, (tdiv_round hv hle).trans hwhole.symm⟩
      · exact hother
    have hmatched : matchedMode c modes = modes.find? fun mode' ↦ mode'.SameAs mode := by
      have hpos := h.refresh
      have hwidth := h.width
      have hheight := h.height
      rw [matchedMode, hw, hh, hrecorded, if_pos (by omega)]
      rfl
    cases hfind : modes.find? fun mode' ↦ mode'.SameAs mode with
    | none => exact absurd (decide_eq_true hsame) (List.find?_eq_none.mp hfind other ho)
    | some found =>
      rw [hfind] at hmatched
      refine ⟨found, hmatched, ?_, by simpa using List.find?_some hfind⟩
      rw [chooseMode_eq_or, hmatched, Option.some_or]

/-- A panel whose mode the kernel reports at 60 Hz. -/
def fullHdMode : DrmMode := ⟨1920, 1080, 60⟩

@[inherit_doc fullHdMode]
def fullHdPanel : DrmConnector := ⟨.connected, connectorEdp, 1, [fullHdMode]⟩

/-- What is recorded for the panel. -/
def fullHdStart : StartConfig :=
  .onGpu (selectedConfig fullHdPanel fullHdMode).toOutputConfig .noSocket

/-- The modes of the panel's output, where it runs at `refresh` and a smaller mode is preferred. -/
def fullHdModes (refresh : Int) : List OutputMode :=
  [⟨1280, 720, 60000, true⟩, ⟨1920, 1080, refresh, false⟩]

/-- The selection on the panel. -/
private theorem selected_fullHd :
    Selected (some [some fullHdPanel]) 0 fullHdPanel 0 fullHdMode :=
  ⟨by decide +kernel, rfl, rfl, by decide +kernel⟩

/-- The theorem at 60.02 Hz. -/
theorem selectedMode_found_faster :
    FoundAgain (playosCompositorStarted fullHdStart) fullHdMode (fullHdModes 60020) := by
  have hrate : (fullHdMode.vrefresh.toNat : ℚ) ≤ 3001 / 50 + 1 / 2000 := by
    change ((60 : ℕ) : ℚ) ≤ _
    norm_num
  exact (@selectedMode_found_iff _ _ _ _ _ _ selected_fullHd.written selected_fullHd _ [] _ rfl
    (3001 / 50) (by decide +kernel) (fullHdModes 60020) false (by decide +kernel)).mpr
      ⟨by decide, by decide, by decide, by decide, Or.inl hrate⟩

/-- At 60000/1001 Hz the selected mode is not found again, and the output is driven in a smaller
one. -/
theorem selectedMode_found_fails :
    Selected (some [some fullHdPanel]) 0 fullHdPanel 0 fullHdMode ∧
      (fullHdMode.vrefresh.toNat : ℤ) = round (60000 / 1001 : ℚ) ∧
      ⟨1920, 1080, round (1000 * (60000 / 1001) : ℚ), false⟩ ∈ fullHdModes 59940 ∧
      ¬ FoundAgain (playosCompositorStarted fullHdStart) fullHdMode (fullHdModes 59940) ∧
      chooseMode (playosCompositorStarted fullHdStart) (fullHdModes 59940) =
        some ⟨1280, 720, 60000, true⟩ := by
  have hnone : matchedMode (playosCompositorStarted fullHdStart) (fullHdModes 59940) = none := by
    decide +kernel
  refine ⟨selected_fullHd, by decide +kernel, by decide +kernel, ?_, by decide +kernel⟩
  rintro ⟨found, hfound, -⟩
  rw [hnone] at hfound
  cases hfound

end PlayosCompositor
