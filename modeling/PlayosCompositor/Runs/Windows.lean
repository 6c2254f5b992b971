import PlayosCompositor.Foreground.Guarantees
import PlayosCompositor.Runs.Foreground
import PlayosCompositor.Scene.Invariant

/-!
# The window that activates a game and the windows that end it

Roles are kept for every window, but only the oldest window of a role is designated. A
frame of any game's window activates the game, and the loss of any of them ends it.
-/

namespace PlayosCompositor

open Foreground

/-! ### The activating window -/

/-- The window is the game's designated one, enabled and above all but the overlay's. -/
structure ShownOnTop (c : Compositor) (tree : TreeId) : Prop where
  designated : c.gameTree = some tree
  enabled : c.scene.enabled (.tree tree) = true
  above : ∀ track ∈ c.toplevels, track.role ≠ .overlay → track.tree ≠ tree →
    c.scene.order.Below (.tree track.tree) (.tree tree)

private theorem shownOnTop_of_gameTree {c : Compositor} (h : c.Composed) (hs : c.GameInFront)
    {tree : TreeId} (hg : c.gameTree = some tree) : ShownOnTop c tree where
  designated := hg
  enabled := by
    rw [h.composited.shown .game tree hg]
    rcases hs with hs | hs <;> simp [shows, ForegroundState.gameVisible, hs]
  above _ ht hr hne := h.composited.below_game h.wf.foreground hg ht hr hne

/-- The window whose commit brings a starting game to the front is shown on top exactly when
some window is designated for the game and the committing one is the oldest with its role. -/
theorem activating_window_shown_iff {c c' : Compositor} (hc : compositorSystem.Reachable c)
    {tree : TreeId} {surface : SurfaceCommit}
    (hs : compositorSystem.step c (.commit tree surface) = some c')
    (_hf : c.fgState = .gameStarting) (hf' : c'.fgState = .gameForeground) :
    ShownOnTop c' tree ↔ c.gameTree ≠ none ∧ c.first .game = some tree := by
  have h := compositorSystem_composed.reachable hc
  have h' := compositorSystem_composed.step _ _ _ h hs
  obtain ⟨track, -, rfl⟩ := Option.map_eq_some_iff.mp hs
  have hg := (sameWindows_handleToplevelCommit c track surface).gameTree
  have hd := h.wf.foreground.designated .game
  constructor
  · intro ht
    have hgt : c.gameTree = some tree := hg.symm.trans ht.designated
    have hne : c.gameTree ≠ none := by simp [hgt]
    exact ⟨hne, (hd.resolve_left hne).symm.trans hgt⟩
  · rintro ⟨hne, ht⟩
    have hgt : c.gameTree = some tree := (hd.resolve_left hne).trans ht
    exact shownOnTop_of_gameTree h' (Or.inl hf') (hg.trans hgt)

/-- A game maps two windows and draws the younger one first. -/
def secondWindowRun : List Event :=
  [.connect 1, .command (.setExpectedGame (.ofString "t1") (.ofString "g")),
    .newToplevel 1 .ok, .newToplevel 1 .ok]

/-- The theorem at the first frame of the older window. -/
theorem activating_window_shown_second :
    ∃ c ∈ compositorSystem.run (playosCompositorStarted headlessStart) secondWindowRun,
      ∃ c' ∈ compositorSystem.step c (.commit 0 bufferCommit), ShownOnTop c' 0 := by
  obtain ⟨c, hc, c', hc', hf, hf', hg⟩ :
      ∃ c ∈ compositorSystem.run (playosCompositorStarted headlessStart) secondWindowRun,
        ∃ c' ∈ compositorSystem.step c (.commit 0 bufferCommit),
          c.fgState = .gameStarting ∧ c'.fgState = .gameForeground ∧
            c.gameTree ≠ none ∧ c.first .game = some 0 := by
    decide
  exact ⟨c, hc, c', hc',
    (activating_window_shown_iff ⟨_, _, ⟨headlessStart, rfl⟩, hc⟩ hc' hf hf').mpr hg⟩

/-- The game comes to the front with the window shown that has drawn nothing. -/
theorem activating_window_hidden :
    ∃ c ∈ compositorSystem.run (playosCompositorStarted headlessStart) secondWindowRun,
      ∃ c' ∈ compositorSystem.step c (.commit 1 bufferCommit),
        c.fgState = .gameStarting ∧ c'.fgState = .gameForeground ∧ c'.gameTree = some 0 := by
  decide

/-! ### The windows that end a game -/

/-- A tracked window other than the game's designated one, of which there is one. -/
def OtherWindow (f : Foreground) (track : ToplevelTrack) : Prop :=
  track ∈ f.toplevels ∧ ∃ tree, f.gameTree = some tree ∧ track.tree ≠ tree

/-- The game goes on as before. -/
structure SameGame (f g : Foreground) : Prop where
  fgState : g.fgState = f.fgState
  expectedLaunchToken : g.expectedLaunchToken = f.expectedLaunchToken
  expectedGameId : g.expectedGameId = f.expectedGameId
  gameSurfaceReady : g.gameSurfaceReady = f.gameSurfaceReady
  gameTree : g.gameTree = f.gameTree

/-- A game in front survives the destruction of a window other than its designated one
exactly when that window does not have the game role. -/
theorem sameGame_other_exit_iff {c c' : Compositor} (hc : compositorSystem.Reachable c)
    (hf : c.GameInFront) {track : ToplevelTrack} (ht : OtherWindow c.toForeground track)
    (hs : compositorSystem.step c (.destroyToplevel track.tree) = some c') :
    SameGame c.toForeground c'.toForeground ↔ track.role ≠ .game := by
  have h := (compositorSystem_wf.reachable hc).foreground
  have hfound := track?_of_mem h.nodup ht.1
  obtain ⟨found, hfind, rfl⟩ := Option.map_eq_some_iff.mp hs
  have heq : found = track := Option.some.inj (hfind.symm.trans hfound)
  subst heq
  rw [toForeground_handleToplevelDestroy]
  by_cases hr : found.role = .game
  · rw [if_pos hr]
    refine iff_of_false (fun hg ↦ ?_) (fun hn ↦ hn hr)
    exact hf.ne_shell (hg.fgState.symm.trans (exited_fgState _))
  · rw [if_neg hr]
    refine iff_of_true ⟨rfl, rfl, rfl, rfl, ?_⟩ hr
    simp [release, hr]

/-- A game is in front of the shell. -/
def gameOverShellRun : List Event :=
  [.connect 1, .bindManager 1 true, .registerShell 1, .newToplevel 1 .ok, .connect 2,
    .command (.setExpectedGame (.ofString "t1") (.ofString "g")), .newToplevel 2 .ok,
    .commit 1 bufferCommit]

/-- The theorem at the destruction of the shell's window. -/
theorem sameGame_other_exit_shell :
    ∃ c ∈ compositorSystem.run (playosCompositorStarted headlessStart) gameOverShellRun,
      ∃ c' ∈ compositorSystem.step c (.destroyToplevel 0),
        SameGame c.toForeground c'.toForeground := by
  obtain ⟨c, hc, c', hc', hf, ht, hg⟩ :
      ∃ c ∈ compositorSystem.run (playosCompositorStarted headlessStart) gameOverShellRun,
        ∃ c' ∈ compositorSystem.step c (.destroyToplevel 0),
          c.GameInFront ∧ ⟨0, 1, .shell⟩ ∈ c.toplevels ∧ c.gameTree = some 1 := by
    decide
  exact ⟨c, hc, c', hc', (sameGame_other_exit_iff ⟨_, _, ⟨headlessStart, rfl⟩, hc⟩ hf
    ⟨ht, 1, hg, by decide⟩ hc').mpr (by decide)⟩

/-- A game with two windows is in front. -/
def twoWindowsRun : List Event := secondWindowRun ++ [.commit 0 bufferCommit]

/-- The loss of a second window ends the game whose own window is still there. -/
theorem sameGame_other_exit_fails :
    ∃ c ∈ compositorSystem.run (playosCompositorStarted headlessStart) twoWindowsRun,
      c.fgState = .gameForeground ∧ c.gameTree = some 0 ∧
        c.expectedLaunchToken = (CString.ofString "t1").store 64 ∧
        ∃ c' ∈ compositorSystem.step c (.destroyToplevel 1),
          c'.fgState = .shellForeground ∧ c'.gameTree = some 0 ∧
            c'.expectedLaunchToken = .clear := by
  decide

end PlayosCompositor
