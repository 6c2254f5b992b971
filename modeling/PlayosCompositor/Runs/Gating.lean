import PlayosCompositor.Foreground.NextState
import PlayosCompositor.Runs.Order

/-!
# Visibility of every window of a role

`playos_state_refresh` sets the flags of the three designated trees and of no other, and a
window is enabled when it comes. Which windows are gated by their roles all the same is decided
step by step: by the moves of the foreground for windows that are not designated, and by every
classification for those that it gives a role but does not designate.
-/

namespace PlayosCompositor

open Foreground

/-- Every window of a role is enabled exactly if the table of `playos_state_refresh` shows its
role. -/
def WindowsGated (c : Compositor) : Prop :=
  ∀ track ∈ c.toplevels, track.role ≠ .none →
    c.scene.enabled (.tree track.tree) = c.shows track.role

/-- The table in a foreground state, for an overlay that is asked for. -/
def ForegroundState.shows (state : ForegroundState) : TrustedRole → Bool
  | .none => true
  | .shell => state.shellVisible
  | .game => state.gameVisible
  | .overlay => state.overlayVisible true

/-- The flag with which a window is found by a step: a new one is enabled. -/
def Compositor.flag (c : Compositor) (tree : TreeId) : Bool :=
  tree = c.nextId || c.scene.enabled (.tree tree)

/-- A classification finds the flag right of every window that it gives a role, the oldest
windows of the roles apart. -/
def FindsGated (c : Compositor) (f : Foreground) : Prop :=
  ∀ track ∈ f.toplevels, compositorRoleForClient f track.client ≠ .none →
    f.firstOwned (compositorRoleForClient f track.client) ≠ some track.tree →
    c.flag track.tree = c.shows (compositorRoleForClient f track.client)

/-- The move of the foreground changes the visibility of no role of which a window stays that
is not designated. -/
def MovesGated (f : Foreground) (input : Input) : Prop :=
  ∀ track ∈ f.toplevels, track.tree ∉ input.dropped → track.role ≠ .none →
    f.designated track.role ≠ some track.tree →
    (f.nextState input).shows track.role = f.fgState.shows track.role

/-- The events that keep `WindowsGated`. -/
def KeepsGated (c : Compositor) (e : Event) : Prop :=
  match c.classified (foregroundInput c e) with
  | some f => FindsGated c f
  | none => MovesGated c.toForeground (foregroundInput c e)

/-! ### Flags that a step leaves alone -/

/-- The flags of windows that stay and stand for no role at the end are as they were. -/
structure KeepsFlags (c c' : Compositor) : Prop where
  trees : c'.trees ⊆ c.trees
  designated : ∀ tree ∈ c'.trees, tree ∈ c.designatedTrees → tree ∈ c'.designatedTrees
  enabled : ∀ tree ∈ c'.trees, tree ∉ c'.designatedTrees →
    c'.scene.enabled (.tree tree) = c.scene.enabled (.tree tree)

namespace KeepsFlags

variable {c c₁ c' : Compositor}

private theorem of_eq (hf : c'.toForeground = c.toForeground)
    (he : ∀ tree ∈ c.trees, c'.scene.enabled (.tree tree) = c.scene.enabled (.tree tree)) :
    KeepsFlags c c' := by
  refine ⟨?_, ?_, ?_⟩
  · rw [hf]
    exact fun _ ↦ id
  · rw [hf]
    exact fun _ _ ↦ id
  · rw [hf]
    exact fun tree ht _ ↦ he tree ht

private theorem trans (h : KeepsFlags c c₁) (h' : KeepsFlags c₁ c') : KeepsFlags c c' where
  trees := fun _ ht ↦ h.trees (h'.trees ht)
  designated tree ht hd := h'.designated tree ht (h.designated tree (h'.trees ht) hd)
  enabled tree ht hd := by
    rw [h'.enabled tree ht hd]
    exact h.enabled tree (h'.trees ht) fun hm ↦ hd (h'.designated tree ht hm)

private theorem of_refreshed (h : Refreshed c c')
    (hw : SameWindows c.toForeground c'.toForeground) :
    KeepsFlags c c' := by
  refine ⟨?_, ?_, ?_⟩
  · rw [Foreground.trees, hw.toplevels]
    exact fun _ ↦ id
  · intro tree _ hd
    obtain ⟨role, hr⟩ := mem_designatedTrees.mp hd
    exact mem_designatedTrees.mpr ⟨role, (hw.designated role).trans hr⟩
  · intro tree _ hd
    rcases h with h | ⟨h, -, -⟩
    · rw [h]
      apply enabled_refreshScene_of_not_mem
      rwa [List.mem_map_of_injective fun _ _ he ↦ SceneNode.tree.inj he]
    · rw [h]

private theorem of_handleToplevelDestroy (c : Compositor) (track : ToplevelTrack) :
    KeepsFlags c (handleToplevelDestroy c track) := by
  obtain ⟨u, v, hu, hs, hr, hw, hd⟩ := handleToplevelDestroy_restacks c track
  have hrelease : KeepsFlags c u := by
    refine ⟨?_, ?_, ?_⟩
    · rw [hu]
      exact List.map_subset _ List.filter_sublist.subset
    · rw [hu]
      intro tree ht hm
      obtain ⟨role, hdes⟩ := mem_designatedTrees.mp hm
      refine mem_designatedTrees.mpr ⟨role, ?_⟩
      have hne : tree ≠ track.tree := by
        obtain ⟨other, ho, rfl⟩ := List.mem_map.mp ht
        exact of_decide_eq_true (List.mem_filter.mp ho).2
      rw [designated_release, if_neg, hdes]
      rintro ⟨-, he⟩
      exact hne (Option.some.inj (hdes.symm.trans he))
    · intro tree _ _
      rw [hs]
      rfl
  have hrestack : KeepsFlags v (compositorRestack v) :=
    .of_eq rfl fun tree _ ↦ by rw [scene_compositorRestack]; rfl
  rw [hd]
  exact (hrelease.trans (.of_refreshed hr hw)).trans hrestack

private theorem of_foldl_destroyObject (c : Compositor) (order : List ClientObject) :
    KeepsFlags c (order.foldl destroyObject c) := by
  apply List.foldlRecOn order destroyObject (motive := KeepsFlags c) (.of_eq rfl fun _ _ ↦ rfl)
  intro d hd object _
  apply hd.trans
  cases object with
  | toplevel tree =>
    simp only [destroyObject]
    split
    · exact .of_eq rfl fun _ _ ↦ rfl
    · exact of_handleToplevelDestroy d _
  | overlayBinding resource =>
    simp only [destroyObject, playosOverlayResourceDestroy]
    split <;> exact .of_eq rfl fun _ _ ↦ rfl

end KeepsFlags

section Step

variable {c c' : Compositor} {e : Event}

private theorem Linked.flag_of_mem (h : Linked c) {tree : TreeId} (ht : tree ∈ c.trees) :
    c.flag tree = c.scene.enabled (.tree tree) := by
  have hne : tree ≠ c.nextId := (h.fresh tree ht).ne
  simp [Compositor.flag, hne]

private theorem enabled_reclassify {tree : TreeId}
    (hd : tree ∉ (playosCompositorReclassifyToplevels c).designatedTrees) :
    (playosCompositorReclassifyToplevels c).scene.enabled (.tree tree) =
      c.scene.enabled (.tree tree) := by
  rw [toForeground_playosCompositorReclassifyToplevels] at hd
  rw [scene_reclassify, presentScene, enabled_refreshScene_of_not_mem, enabled_restackScene]
  rwa [List.mem_map_of_injective fun _ _ he ↦ SceneNode.tree.inj he]

/-- Whatever a step does, it finds a window's flag and leaves it, if the window does not stand
for a role afterwards. -/
theorem enabled_step (h : c.WF) (hs : step c e = some c') {tree : TreeId} (ht : tree ∈ c'.trees)
    (hd : tree ∉ c'.designatedTrees) : c'.scene.enabled (.tree tree) = c.flag tree := by
  have hkeeps : KeepsFlags c c' → c'.scene.enabled (.tree tree) = c.flag tree := fun hk ↦ by
    rw [hk.enabled tree ht hd, h.linked.flag_of_mem (hk.trees ht)]
  cases handled_of_step hs with
  | ipcFd mask read _ =>
    apply hkeeps
    unfold ipcFdHandler
    repeat' split
    all_goals first
      | exact .of_refreshed (refreshed_ipcDispatch c _) (sameWindows_ipcDispatch c _)
      | exact .of_eq rfl fun _ _ ↦ rfl
  | ipcTimer result _ _ => exact hkeeps (.of_eq rfl fun _ _ ↦ rfl)
  | ipcLink link _ => exact hkeeps (.of_eq rfl fun _ _ ↦ rfl)
  | connect client _ => exact hkeeps (.of_eq rfl fun _ _ ↦ rfl)
  | disconnect client order _ _ =>
    apply hkeeps
    have hresign : KeepsFlags c (runDestroyListeners c client) := by
      rw [runDestroyListeners_eq]
      exact ⟨fun _ ↦ id, fun _ _ ↦ id, fun _ _ _ ↦ rfl⟩
    have hobjects := KeepsFlags.of_foldl_destroyObject (runDestroyListeners c client) order
    exact (hresign.trans hobjects).trans (.of_eq rfl fun _ _ ↦ rfl)
  | bindManager client created _ =>
    cases created <;> exact hkeeps (.of_eq rfl fun _ _ ↦ rfl)
  | registerShell client _ =>
    cases hc : c.shellClient with
    | some holder =>
      apply hkeeps
      rw [playosManagerRegisterShell_of_taken hc]
      exact .of_eq rfl fun _ _ ↦ rfl
    | none =>
      rw [playosManagerRegisterShell_of_free hc] at ht hd ⊢
      rw [toForeground_playosCompositorReclassifyToplevels, trees_classify] at ht
      rw [enabled_reclassify hd]
      exact (h.linked.flag_of_mem ht).symm
  | registerOverlay client _ =>
    cases hc : c.overlayClient with
    | some holder =>
      apply hkeeps
      rw [playosManagerRegisterOverlay_of_taken hc]
      exact .of_eq rfl fun _ _ ↦ rfl
    | none =>
      rw [playosManagerRegisterOverlay_of_free hc, toForeground_playosOverlayResolveResource]
        at ht hd
      rw [playosManagerRegisterOverlay_of_free hc, scene_playosOverlayResolveResource]
      rw [toForeground_playosCompositorReclassifyToplevels, trees_classify] at ht
      rw [enabled_reclassify hd]
      exact (h.linked.flag_of_mem ht).symm
  | bindOverlay client created _ =>
    exact hkeeps (.of_eq (toForeground_playosOverlayBind c client created) fun _ _ ↦ by simp)
  | overlayRequest resource request bound _ =>
    exact hkeeps (.of_refreshed (refreshed_playosOverlayRequest c bound.client request)
      (sameWindows_playosOverlayRequest c bound.client request))
  | newToplevel client alloc _ =>
    cases alloc with
    | noTree => exact hkeeps (.of_eq rfl fun _ _ ↦ rfl)
    | noTrack =>
      apply hkeeps
      refine .of_eq rfl fun tree ht ↦ if_neg ?_
      rintro he
      cases he
      exact h.linked.nextId_not_mem ht
    | ok =>
      rw [handleNewXdgToplevel] at hd ⊢
      rw [enabled_reclassify hd]
      by_cases hn : tree = c.nextId <;> simp [Scene.add, Scene.setEnabled, Compositor.flag, hn]
  | commit tree surface track _ =>
    exact hkeeps (.of_refreshed (refreshed_handleToplevelCommit c track surface)
      (sameWindows_handleToplevelCommit c track surface))
  | destroyToplevel tree track _ => exact hkeeps (.of_handleToplevelDestroy c track)
  | key keycode state =>
    exact hkeeps (.of_refreshed (refreshed_handleKeyboardKey c keycode state)
      (sameWindows_handleKeyboardKey c keycode state))
  | newOutput calls =>
    apply hkeeps
    unfold handleNewOutput
    repeat' split
    all_goals exact .of_eq rfl fun _ _ ↦ rfl
  | frame sceneOutput windowElapsed =>
    cases sceneOutput <;> cases windowElapsed <;> exact hkeeps (.of_eq rfl fun _ _ ↦ rfl)

private theorem windowsGated_step_iff_flag (h : c.WF) (h' : c'.Composed) (hs : step c e = some c') :
    WindowsGated c' ↔ ∀ track ∈ c'.toplevels, track.role ≠ .none →
      c'.designated track.role ≠ some track.tree → c.flag track.tree = c'.shows track.role := by
  refine forall₂_congr fun track hm ↦ forall_congr' fun hr ↦ ?_
  by_cases hd : c'.designated track.role = some track.tree
  · exact iff_of_true (h'.composited.shown _ _ hd) (absurd hd)
  · have hnot : track.tree ∉ c'.designatedTrees := by
      intro hdes
      obtain ⟨role, hrole⟩ := mem_designatedTrees.mp hdes
      obtain ⟨other, ho, htree, rfl⟩ := h'.wf.foreground.designated_mem hrole
      rw [List.inj_on_of_nodup_map h'.wf.foreground.nodup ho hm htree] at hrole
      exact hd hrole
    rw [enabled_step h hs (List.mem_map_of_mem hm) hnot]
    exact ⟨fun he _ ↦ he, fun he ↦ he hd⟩

private theorem shows_eq {f : Foreground} (h : f.WF) (role : TrustedRole) :
    f.shows role = f.fgState.shows role := by
  cases role with
  | overlay =>
    change f.fgState.overlayVisible f.overlayVisible = f.fgState.overlayVisible true
    by_cases hu : f.fgState = .playosUiForegroundWithGameBackground
    · rw [h.overlaid hu]
    · simp [ForegroundState.overlayVisible, hu]
  | _ => rfl

private theorem windowsGated_step_classified_iff (h : c.WF) (h' : c'.Composed)
    (hs : step c e = some c') {f : Foreground} (hc : c.classified (foregroundInput c e) = some f) :
    WindowsGated c' ↔ FindsGated c f := by
  have hf : c'.toForeground = f.classify := step_of_classified (toForeground_step h.linked hs) hc
  have hshows : ∀ role, c'.shows role = c.shows role := by
    obtain ⟨hstate, hoverlay⟩ := view_classified hc
    rw [hf]
    intro role
    cases role <;> simp [shows, classify, hstate, hoverlay]
  rw [windowsGated_step_iff_flag h h' hs, hf]
  change (∀ track ∈ f.toplevels.map _, _) ↔ _
  rw [List.forall_mem_map]
  refine forall₂_congr fun track hm ↦ forall_congr' fun hr ↦ ?_
  rw [designated_classify_eq f hr, ← hf, hshows]

/-- A step that classifies nothing keeps windows gated exactly if it changes the visibility of
none that is not designated. -/
theorem windowsGated_step_moved_iff (h : c.WF) (h' : c'.Composed) (hg : WindowsGated c)
    (hs : step c e = some c') (hc : c.classified (foregroundInput c e) = none) :
    WindowsGated c' ↔ MovesGated c.toForeground (foregroundInput c e) := by
  have hf := toForeground_step h.linked hs
  rw [windowsGated_step_iff_flag h h' hs, toplevels_step hf hc]
  simp only [List.mem_filter, decide_eq_true_eq, and_imp]
  refine forall₂_congr fun track hm ↦ forall₂_congr fun hdrop hr ↦ ?_
  rw [Ne, designated_step hf hc hdrop, h.linked.flag_of_mem (List.mem_map_of_mem hm),
    hg track hm hr, shows_eq h.foreground, shows_eq h'.wf.foreground,
    fgState_step h.foreground hf]
  exact forall_congr' fun _ ↦ eq_comm

private theorem windowsGated_step_iff (h : c.Composed) (hg : WindowsGated c)
    (hs : step c e = some c') :
    WindowsGated c' ↔ KeepsGated c e := by
  have h' : c'.Composed := compositorSystem_composed.step c e c' h hs
  unfold KeepsGated
  split
  · next f hc => exact windowsGated_step_classified_iff h.wf h' hs hc
  · next hc => exact windowsGated_step_moved_iff h.wf h' hg hs hc

end Step

/-- A game maps two windows, draws on the first one and is taken back. -/
def strayWindowRun : List Event :=
  [.command (.setExpectedGame (.ofString "t") (.ofString "g")), .connect 1, .newToplevel 1 .ok,
    .newToplevel 1 .ok, .commit 0 bufferCommit, .command .clearExpectedGame]

end PlayosCompositor
