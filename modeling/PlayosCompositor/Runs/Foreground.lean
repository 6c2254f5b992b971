import PlayosCompositor.Foreground.Guarantees
import PlayosCompositor.Foreground.Refinement

/-!
# The foreground along whole runs

For each of four guarantees, the runs of the compositor that keep it throughout are exactly
those whose every step meets the automaton's guard. Each theorem is followed by a run that
breaks the guarantee.
-/

namespace PlayosCompositor

open Foreground

/-- A compositor that has found its outputs and playos-init. -/
def headlessStart : StartConfig := ⟨.headless, 1280, 720, 60000, 100, .connected 3⟩

/-- A commit of a toplevel, after the initial one, with a buffer. -/
def bufferCommit : SurfaceCommit := ⟨true, false, true⟩

/-! ### A game in front has a window -/

/-- A game in front always has a window exactly in the runs where no frame activates a game
without a designated window and no claim takes the last window of a game in front. -/
theorem always_gameShown_iff (config : StartConfig) (es : List Event) :
    compositorSystem.Always (fun c ↦ c.GameShown) (playosCompositorStarted config) es ↔
      compositorSystem.Each (fun c e _ ↦ c.KeepsGameShown (foregroundInput c e))
        (playosCompositorStarted config) es := by
  apply compositor_refines_foreground.always_iff_each foregroundSystem_wf
  · exact fun _ _ _ h hp hs ↦ gameShown_step_iff h hp hs
  · exact ⟨config, rfl⟩
  · simp [GameShown, GameInFront, playosCompositorStarted, playosCompositorInit, playosStateInit]

/-- A game with two windows loses the designated one; the other one activates the next
launch, for which no tree is designated. -/
def blankRun : List Event :=
  [.connect 1, .command (.setExpectedGame (.ofString "t1") (.ofString "g")),
    .newToplevel 1 .ok, .newToplevel 1 .ok, .commit 0 bufferCommit, .destroyToplevel 0,
    .command (.setExpectedGame (.ofString "t2") (.ofString "g")), .commit 1 bufferCommit]

/-- The game foreground can be blank. -/
theorem gameShown_fails :
    ∃ c ∈ compositorSystem.run (playosCompositorStarted headlessStart) blankRun,
      c.fgState = .gameForeground ∧ c.gameTree = none := by
  decide

/-! ### The SYSTEM button toggles the overlay -/

/-- A press shows the overlay over a game, and hides it again. -/
def SystemToggles (c : Compositor) : Prop :=
  ∀ keycode ∈ systemKeycodes,
    (c.fgState = .gameForeground →
      (handleKeyboardKey c keycode .pressed).fgState = .playosUiForegroundWithGameBackground ∧
        (handleKeyboardKey c keycode .pressed).overlayVisible = true) ∧
    (c.fgState = .playosUiForegroundWithGameBackground →
      (handleKeyboardKey c keycode .pressed).fgState ≠ .playosUiForegroundWithGameBackground ∧
        (handleKeyboardKey c keycode .pressed).overlayVisible = false)

private theorem systemToggles_iff {c : Compositor} (h : c.WF) :
    SystemToggles c ↔ c.OverlaySettled := by
  constructor
  · intro ht
    refine ⟨fun hg ↦ ?_, h.foreground.overlaid⟩
    have hm : (0x13c : UInt32) ∈ systemKeycodes := by decide
    have hp := ((ht 0x13c hm).1 hg).1
    -- under a shown overlay the press is ignored
    cases hv : c.overlayVisible with
    | false => rfl
    | true => simp [hm, hg, showOverlay, hv] at hp
  · intro hs keycode hk
    constructor
    · intro hg
      simp [hk, hg, showOverlay, goto, hs.1 hg]
    · intro hu
      cases ht : c.gameTree <;> simp [hk, hu, hideOverlay, goto, hs.2 hu, ht]

/-- The button toggles and the flag agrees exactly in the runs where no frame activates a
game while the overlay is shown. -/
theorem always_systemToggles_iff (config : StartConfig) (es : List Event) :
    compositorSystem.Always (fun c ↦ SystemToggles c ∧ c.OverlaySettled)
        (playosCompositorStarted config) es ↔
      compositorSystem.Each (fun c e _ ↦ c.KeepsOverlaySettled (foregroundInput c e))
        (playosCompositorStarted config) es := by
  have hc := compositorSystem.always_congr
    (P := fun c ↦ SystemToggles c ∧ c.OverlaySettled) (Q := fun c ↦ c.OverlaySettled)
    compositorSystem_wf (fun c h ↦ by rw [systemToggles_iff h, and_self])
    (compositorSystem_wf.base _ ⟨config, rfl⟩) es
  rw [hc]
  apply compositor_refines_foreground.always_iff_each foregroundSystem_wf
  · exact fun _ _ _ h hp hs ↦ overlaySettled_step_iff h hp hs
  · exact ⟨config, rfl⟩
  · exact ⟨fun _ ↦ rfl, fun h ↦ nomatch h⟩

/-- ShowOverlay arrives before the game, which then starts under a shown overlay. -/
def stuckButtonRun : List Event :=
  [.command .showOverlay, .connect 1,
    .command (.setExpectedGame (.ofString "t1") (.ofString "g")), .newToplevel 1 .ok,
    .commit 0 bufferCommit]

/-- A press of BTN_MODE can leave the game in front. -/
theorem systemToggles_fails :
    ∃ c ∈ compositorSystem.run (playosCompositorStarted headlessStart) stuckButtonRun,
      c.fgState = .gameForeground ∧ c.overlayVisible = true ∧
        (handleKeyboardKey c 0x13c .pressed).fgState = .gameForeground := by
  decide

/-! ### A game that is being terminated exists -/

/-- Termination has a way out: a game's window, whose loss brings the shell back, or else
ClearExpectedGame does. -/
structure TerminationEnds (c : Compositor) : Prop where
  terminable : c.GameTerminable
  destroyed : ∀ track ∈ c.toplevels, track.role = .game →
    (handleToplevelDestroy c track).fgState = .shellForeground
  cleared : ¬ c.HasGame → (playosStateHandleClearExpected c).fgState = .shellForeground

private theorem terminationEnds_iff (c : Compositor) : TerminationEnds c ↔ c.GameTerminable := by
  refine ⟨TerminationEnds.terminable, fun h ↦ ⟨h, ?_, ?_⟩⟩
  · intro track _ hr
    rw [toForeground_handleToplevelDestroy, if_pos hr]
    exact exited_fgState _
  · intro hg
    have ht : c.fgState ≠ .terminatingGame := fun hs ↦ hg (h hs)
    simp [withdraw, ht]

/-- Termination has a way out exactly in the runs where ForceTerminateGame finds a game's
window and no claim takes the last one while it lasts. -/
theorem always_terminationEnds_iff (config : StartConfig) (es : List Event) :
    compositorSystem.Always TerminationEnds (playosCompositorStarted config) es ↔
      compositorSystem.Each (fun c e _ ↦ c.KeepsGameTerminable (foregroundInput c e))
        (playosCompositorStarted config) es := by
  have hc := compositorSystem.always_congr (P := TerminationEnds) (Q := fun c ↦ c.GameTerminable)
    compositorSystem_wf (fun c _ ↦ terminationEnds_iff c)
    (compositorSystem_wf.base _ ⟨config, rfl⟩) es
  rw [hc]
  apply compositor_refines_foreground.always_iff_each foregroundSystem_wf
  · exact fun _ _ _ h hp hs ↦ gameTerminable_step_iff h hp hs
  · exact ⟨config, rfl⟩
  · exact fun h ↦ nomatch h

/-- A game is terminated before its first surface. -/
def wedgeRun : List Event :=
  [.command (.setExpectedGame (.ofString "t1") (.ofString "g")), .command .forceTerminateGame,
    .command .clearExpectedGame]

/-- TERMINATING_GAME is entered without a game, and ClearExpectedGame does not leave it. -/
theorem terminationEnds_fails :
    ∃ c ∈ compositorSystem.run (playosCompositorStarted headlessStart) wedgeRun,
      c.fgState = .terminatingGame ∧ ¬ c.HasGame ∧
        (playosStateHandleClearExpected c).fgState = .terminatingGame := by
  decide

/-! ### The books of the launch -/

/-- The books agree with the foreground exactly in the runs where the overlay is never
hidden over a game without a designated window. -/
theorem always_launchBooked_iff (config : StartConfig) (es : List Event) :
    compositorSystem.Always (fun c ↦ c.LaunchBooked) (playosCompositorStarted config) es ↔
      compositorSystem.Each (fun c e _ ↦ c.KeepsLaunchBooked (foregroundInput c e))
        (playosCompositorStarted config) es := by
  apply compositor_refines_foreground.always_iff_each foregroundSystem_wf
  · exact fun _ _ _ h hp hs ↦ launchBooked_step_iff h hp hs
  · exact ⟨config, rfl⟩
  · simp [LaunchBooked, GameInFront, playosCompositorStarted, playosCompositorInit,
      playosStateInit]

/-- The overlay is shown over a blank game and dismissed. -/
def staleBooksRun : List Event := blankRun ++ [.command .showOverlay, .command .hideOverlay]

/-- The shell can be in front while a launch is booked as ready. -/
theorem launchBooked_fails :
    ∃ c ∈ compositorSystem.run (playosCompositorStarted headlessStart) staleBooksRun,
      c.fgState = .shellForeground ∧ c.gameSurfaceReady = true ∧
        c.expectedLaunchToken = (CString.ofString "t2").store 64 := by
  decide

end PlayosCompositor
