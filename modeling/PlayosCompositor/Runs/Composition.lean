import PlayosCompositor.Runs.Foreground
import PlayosCompositor.Scene.Access

/-!
# What is on the screen along whole runs

Between two events the scene is the one that the foreground state determines, and within
every event the three pointers name trees of tracked toplevels with the right role only.
-/

namespace PlayosCompositor

open Foreground

/-! ### The composited scene -/

/-- Every designated tree is enabled as `playos_state_refresh` tabulates, shell, game and
overlay lie in this order above all other toplevels, and the backgrounds below them all. -/
structure Presented (c : Compositor) : Prop where
  shell : ∀ tree, c.shellTree = some tree →
    c.scene.enabled (.tree tree) = c.fgState.shellVisible
  game : ∀ tree, c.gameTree = some tree → c.scene.enabled (.tree tree) = c.fgState.gameVisible
  overlay : ∀ tree, c.overlayTree = some tree →
    c.scene.enabled (.tree tree) = c.fgState.overlayVisible c.overlayVisible
  shellGame : ∀ shell game, c.shellTree = some shell → c.gameTree = some game →
    c.scene.order.Below (.tree shell) (.tree game)
  gameOverlay : ∀ game overlay, c.gameTree = some game → c.overlayTree = some overlay →
    c.scene.order.Below (.tree game) (.tree overlay)
  shellOverlay : ∀ shell overlay, c.shellTree = some shell → c.overlayTree = some overlay →
    c.scene.order.Below (.tree shell) (.tree overlay)
  others : ∀ track ∈ c.toplevels, track.tree ∉ c.designatedTrees →
    ∀ tree ∈ c.designatedTrees, c.scene.order.Below (.tree track.tree) (.tree tree)
  backgrounds : ∀ id, .rect id ∈ c.scene.order.items → ∀ track ∈ c.toplevels,
    c.scene.order.Below (.rect id) (.tree track.tree)

private theorem Composited.presented {c : Compositor} (h : Composited c.toForeground c.scene) :
    Presented c := by
  obtain ⟨rects, low, hi⟩ := h.layered
  have htree : ∀ track ∈ c.toplevels, .tree track.tree ∈ c.scene.order.items :=
    fun track ht ↦ (h.tracks _).mpr (List.mem_map_of_mem ht)
  have htop : ∀ {a b : TreeId}, [a, b].Sublist c.designatedTrees →
      c.scene.order.Below (.tree a) (.tree b) :=
    fun hab ↦ Stacking.below_of_sublist hi (hab.map SceneNode.tree)
  refine ⟨h.shown .shell, h.shown .game, h.shown .overlay, ?_, ?_, ?_, ?_, ?_⟩
  · intro shell game hs hg
    apply htop
    simp [designatedTrees, List.filterMap_cons, designated, hs, hg]
  · intro game overlay hg ho
    apply htop
    cases hs : c.shellTree <;>
      simp [designatedTrees, designated, hs, hg, ho]
  · intro shell overlay hs ho
    apply htop
    cases hg : c.gameTree <;>
      simp [designatedTrees, designated, hs, hg, ho]
  · intro track ht hn tree hd
    have hlow : .tree track.tree ∈ rects.map SceneNode.rect ++ low.map .tree := by
      have hm := htree track ht
      rw [hi, List.mem_append] at hm
      apply hm.resolve_right
      intro hm
      obtain ⟨other, ho, he⟩ := List.mem_map.mp hm
      cases he
      exact hn ho
    exact Stacking.below_of_append hi hlow (List.mem_map_of_mem hd)
  · intro id hr track ht
    rw [List.append_assoc] at hi
    have hrect : .rect id ∈ rects.map SceneNode.rect := by
      rw [hi] at hr
      simpa using hr
    have hm := htree track ht
    rw [hi, List.mem_append] at hm
    refine Stacking.below_of_append hi hrect (hm.resolve_left ?_)
    simp

/-- A shell, an overlay and a game with two windows, over a background; the overlay is shown. -/
def fullSceneRun : List Event :=
  [.connect 1, .bindManager 1 true, .registerShell 1, .newToplevel 1 .ok,
    .connect 2, .bindManager 2 true, .registerOverlay 2, .newToplevel 2 .ok,
    .command (.setExpectedGame (.ofString "t") (.ofString "g")),
    .connect 3, .newToplevel 3 .ok, .newToplevel 3 .ok, .commit 2 bufferCommit,
    .newOutput ⟨true, true, true, true, true⟩, .command .showOverlay]

/-- In every reachable state each pointer names a tracked toplevel with its role, no two of
them the same, and no event follows a pointer to a destroyed tree at any moment. -/
theorem pointers_live {c : Compositor} (hc : compositorSystem.Reachable c) :
    (∀ tree, c.shellTree = some tree →
      ∃ track ∈ c.toplevels, track.tree = tree ∧ track.role = .shell) ∧
    (∀ tree, c.gameTree = some tree →
      ∃ track ∈ c.toplevels, track.tree = tree ∧ track.role = .game) ∧
    (∀ tree, c.overlayTree = some tree →
      ∃ track ∈ c.toplevels, track.tree = tree ∧ track.role = .overlay) ∧
    (∀ tree, c.shellTree = some tree → c.gameTree ≠ some tree ∧ c.overlayTree ≠ some tree) ∧
    (∀ tree, c.gameTree = some tree → c.overlayTree ≠ some tree) ∧
    ∀ e, Checked.step c e = step c e := by
  have h := compositorSystem_composed.reachable hc
  have hw := h.wf.foreground
  have hne : ∀ role role' tree, role ≠ role' → c.designated role = some tree →
      c.designated role' ≠ some tree :=
    fun role role' tree hr hd hd' ↦ hr (hw.designated_inj hd hd')
  refine ⟨?_, ?_, ?_, ?_, ?_, Checked.step_eq h⟩
  · exact fun tree hd ↦ hw.designated_mem (show c.designated .shell = some tree from hd)
  · exact fun tree hd ↦ hw.designated_mem (show c.designated .game = some tree from hd)
  · exact fun tree hd ↦ hw.designated_mem (show c.designated .overlay = some tree from hd)
  · exact fun tree hd ↦ ⟨hne .shell .game tree (by decide) hd,
      hne .shell .overlay tree (by decide) hd⟩
  · exact fun tree hd ↦ hne .game .overlay tree (by decide) hd

/-- The theorem at the departure of the game with both its windows. -/
theorem pointers_live_fullScene :
    ∃ c ∈ compositorSystem.run (playosCompositorStarted headlessStart) fullSceneRun,
      (∃ track ∈ c.toplevels, track.tree = 2 ∧ track.role = .game) ∧
        ∃ c' ∈ Checked.step c (.disconnect 3 [.toplevel 3, .toplevel 2]), c'.gameTree = none := by
  obtain ⟨c, hc, hg, c', hc', hn⟩ :
      ∃ c ∈ compositorSystem.run (playosCompositorStarted headlessStart) fullSceneRun,
        c.gameTree = some 2 ∧
          ∃ c' ∈ step c (.disconnect 3 [.toplevel 3, .toplevel 2]), c'.gameTree = none := by
    decide
  have h := pointers_live ⟨_, _, ⟨headlessStart, rfl⟩, hc⟩
  refine ⟨c, hc, h.2.1 2 hg, c', ?_, hn⟩
  rw [h.2.2.2.2.2]
  exact hc'

end PlayosCompositor
