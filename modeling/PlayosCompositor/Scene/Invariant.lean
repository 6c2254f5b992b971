import PlayosCompositor.Foreground.Refinement
import PlayosCompositor.Scene.Layers

/-!
# What is composited

Every reachable scene is the one that its foreground determines: it holds the trees of the
tracked windows, the designated ones on top of the others and above all rects, each enabled
as the foreground says. A handler either refreshes the scene at its end or leaves state and
overlay flag as they were (`Refreshed`).
-/

namespace PlayosCompositor

open Foreground

/-- Raising the three designated trees in turn is restacking. -/
theorem scene_compositorRestack (c : Compositor) :
    (compositorRestack c).scene = restackScene c.toForeground c.scene := by
  unfold compositorRestack restackScene designatedTrees
  cases hs : c.shellTree <;> cases hg : c.gameTree <;> cases ho : c.overlayTree <;>
    simp [designated, hs, hg, ho, Stacking.raiseAll, Scene.raiseToTop]

/-! ### Moves of the foreground -/

/-- The scene was refreshed for the final foreground, or there was nothing to refresh. -/
def Refreshed (c c' : Compositor) : Prop :=
  c'.scene = refreshScene c'.toForeground c.scene ∨
    c'.scene = c.scene ∧ c'.fgState = c.fgState ∧ c'.overlayVisible = c.overlayVisible

namespace Refreshed

variable {c c₁ c' : Compositor}

private theorem refl (c : Compositor) : Refreshed c c := Or.inr ⟨rfl, rfl, rfl⟩

/-- A refresh never moves a node. -/
theorem order (h : Refreshed c c') : c'.scene.order = c.scene.order := by
  rcases h with h | ⟨h, -, -⟩ <;> rw [h]
  exact order_refreshScene _ _

private theorem shown (h : Refreshed c c') {outdated : ClientId → Prop}
    (hw : SameWindows c.toForeground c'.toForeground) (hf : c'.WFExcept outdated)
    (hs : Shown c.toForeground c.scene) : Shown c'.toForeground c'.scene := by
  rcases h with h | ⟨h, hst, ho⟩ <;> rw [h]
  · exact shown_refreshScene hf _
  · apply hs.of_le _ hst ho
    intro role tree hd
    cases role
    case none => cases hd
    case shell => exact hw.shellTree.symm.trans hd
    case overlay => exact hw.overlayTree.symm.trans hd
    case game => exact hw.gameTree.symm.trans hd

end Refreshed

@[simp] theorem scene_sendOverlayEvent (c : Compositor) (event : OverlayEvent) :
    (sendOverlayEvent c event).scene = c.scene := by
  unfold sendOverlayEvent
  split <;> rfl

private theorem scene_playosStateTransition (c : Compositor) (state : ForegroundState) :
    (playosStateTransition c state).scene =
      if c.fgState = state then c.scene else refreshScene (c.goto state) c.scene := by
  by_cases h : c.fgState = state
  · simp [playosStateTransition, h]
  · have hf := toForeground_playosStateTransition c state
    rw [if_neg h, ← hf]
    unfold playosStateTransition
    cases hv : c.overlayVisible <;> cases state <;>
      simp [h, hv, playosOverlaySendAboutToHide, playosCompositorIpcSend, playosStateRefresh,
        refreshScene]

private theorem refreshed_playosStateTransition (c : Compositor) (state : ForegroundState) :
    Refreshed c (playosStateTransition c state) := by
  unfold Refreshed
  rw [scene_playosStateTransition, toForeground_playosStateTransition]
  split
  · next h => exact Or.inr ⟨rfl, by simp [h], by simp [goto, h]⟩
  · exact Or.inl rfl

private theorem Refreshed.after {c c₁ c' : Compositor} (h : Refreshed c₁ c')
    (hsc : c₁.scene = c.scene)
    (hst : c₁.fgState = c.fgState) (ho : c₁.overlayVisible = c.overlayVisible) :
    Refreshed c c' := by
  unfold Refreshed at h ⊢
  rwa [hsc, hst, ho] at h

private theorem Refreshed.forget {c c' : Compositor} (h : Refreshed c c') :
    Refreshed c (forgetExpected c') := h

private theorem refreshed_playosOverlayManagerShow (c : Compositor) :
    Refreshed c (playosOverlayManagerShow c) := by
  unfold playosOverlayManagerShow
  split
  · exact .refl c
  · dsimp only
    left
    split
    · next hg =>
      simp only [playosOverlaySendOutputInfo, playosOverlaySendAboutToShow,
        scene_playosStateTransition, toForeground_sendOverlayEvent, scene_sendOverlayEvent,
        toForeground_playosStateTransition] at hg ⊢
      rw [hg]
      rfl
    · simp [playosOverlaySendOutputInfo, playosOverlaySendAboutToShow, playosStateRefresh,
        refreshScene]

private theorem refreshed_playosOverlayManagerHide (c : Compositor) :
    Refreshed c (playosOverlayManagerHide c) := by
  unfold playosOverlayManagerHide
  split
  · exact .refl c
  · dsimp only
    left
    split
    · next hu =>
      simp only [playosOverlaySendAboutToHide, scene_playosStateTransition,
        toForeground_sendOverlayEvent, scene_sendOverlayEvent,
        toForeground_playosStateTransition] at hu ⊢
      rw [hu, if_neg (by split <;> decide)]
    · simp [playosOverlaySendAboutToHide, playosStateRefresh, refreshScene]

/-- Every command ends with a refreshed scene. -/
theorem refreshed_ipcDispatch (c : Compositor) (command : IpcCommand) :
    Refreshed c (ipcDispatch c command) := by
  cases command with
  | setExpectedGame launchToken gameId =>
    exact (refreshed_playosStateTransition _ _).after rfl rfl rfl
  | clearExpectedGame =>
    simp only [ipcDispatch, playosStateHandleClearExpected]
    split
    · exact (refreshed_playosStateTransition _ _).after rfl rfl rfl
    · exact Or.inr ⟨rfl, rfl, rfl⟩
  | forceTerminateGame => exact (refreshed_playosStateTransition c _).forget
  | showOverlay => exact refreshed_playosOverlayManagerShow c
  | hideOverlay => exact refreshed_playosOverlayManagerHide c

/-- A key ends with a refreshed scene. -/
theorem refreshed_handleKeyboardKey (c : Compositor) (keycode : UInt32) (state : KeyState) :
    Refreshed c (handleKeyboardKey c keycode state) := by
  unfold handleKeyboardKey
  repeat' split
  all_goals first
    | exact .refl c
    | exact refreshed_playosOverlayManagerShow c
    | exact refreshed_playosOverlayManagerHide c

/-- An overlay request ends with a refreshed scene. -/
theorem refreshed_playosOverlayRequest (c : Compositor) (client : ClientId)
    (request : OverlayRequest) : Refreshed c (playosOverlayRequest c client request) := by
  unfold playosOverlayRequest
  repeat' split
  all_goals first
    | exact .refl c
    | exact refreshed_playosOverlayManagerHide c

private theorem refreshed_playosStateGameSurfaceReady (c : Compositor) :
    Refreshed c (playosStateGameSurfaceReady c) := by
  unfold playosStateGameSurfaceReady
  repeat' split
  · exact .refl c
  · exact .refl c
  · exact (refreshed_playosStateTransition _ _).after rfl rfl rfl

/-- A commit ends with a refreshed scene. -/
theorem refreshed_handleToplevelCommit (c : Compositor) (track : ToplevelTrack)
    (surface : SurfaceCommit) : Refreshed c (handleToplevelCommit c track surface) := by
  obtain ⟨c₀, hc, he⟩ := handleToplevelCommit_eq c track surface
  rw [he]
  split
  · exact (refreshed_playosStateGameSurfaceReady c₀).after hc.scene (congrArg _ hc.foreground)
      (congrArg _ hc.foreground)
  · exact Or.inr ⟨hc.scene, congrArg _ hc.foreground, congrArg _ hc.foreground⟩

/-- The exit of a game ends with a refreshed scene. -/
theorem refreshed_playosStateGameExited (c : Compositor) (crashed : Bool) :
    Refreshed c (playosStateGameExited c crashed) := by
  unfold playosStateGameExited
  dsimp only
  split
  · exact (refreshed_playosStateTransition c _).forget
  · exact Or.inr ⟨rfl, rfl, rfl⟩

/-! ### Windows come and go -/

private theorem Composited.of_refreshed {c c' : Compositor} {outdated : ClientId → Prop}
    (h : Composited c.toForeground c.scene) (hr : Refreshed c c')
    (hw : SameWindows c.toForeground c'.toForeground) (hf : c'.WFExcept outdated) :
    Composited c'.toForeground c'.scene where
  tracks tree := by
    rw [hr.order, trees, hw.toplevels]
    exact h.tracks tree
  layered := by
    have hd : c'.designatedTrees = c.designatedTrees := by
      simp [designatedTrees, List.filterMap_cons, designated, hw.shellTree, hw.gameTree,
        hw.overlayTree]
    unfold Layered
    rw [hr.order, hd]
    exact h.layered
  shown := hr.shown hw hf h.shown

/-- A classification presents its result. -/
theorem scene_reclassify (c : Compositor) :
    (playosCompositorReclassifyToplevels c).scene = presentScene c.classify c.scene := by
  rw [← toForeground_playosCompositorReclassifyToplevels c]
  unfold playosCompositorReclassifyToplevels
  dsimp only
  change refreshScene _ (compositorRestack _).scene = _
  rw [scene_compositorRestack]
  rfl

private theorem composited_reclassify {c : Compositor} (hw : c.classify.WF)
    (ht : Tracks c.toForeground c.scene) (hg : Grounded c.scene) :
    Composited (playosCompositorReclassifyToplevels c).toForeground
      (playosCompositorReclassifyToplevels c).scene := by
  rw [scene_reclassify, toForeground_playosCompositorReclassifyToplevels, presentScene]
  have htc : Tracks c.classify c.scene := fun tree ↦ by rw [ht tree, trees_classify]
  refine ⟨?_, ?_, shown_refreshScene hw _⟩
  · intro tree
    rw [order_refreshScene]
    exact htc.restackScene tree
  · unfold Layered
    rw [order_refreshScene]
    exact layered_restackScene hw htc hg

private theorem composited_compositorRestack {c : Compositor} {outdated : ClientId → Prop}
    (hf : c.WFExcept outdated) (ht : Tracks c.toForeground c.scene) (hg : Grounded c.scene)
    (hs : Shown c.toForeground c.scene) :
    Composited (compositorRestack c).toForeground (compositorRestack c).scene := by
  rw [scene_compositorRestack]
  exact ⟨ht.restackScene, layered_restackScene hf ht hg, hs⟩

@[simp] theorem scene_untrackToplevel (c : Compositor) (track : ToplevelTrack) :
    (untrackToplevel c track).scene = c.scene := by
  unfold untrackToplevel
  dsimp only
  repeat' split
  all_goals rfl

private theorem shown_release {f : Foreground} {s : Scene} (h : Shown f s) (track : ToplevelTrack) :
    Shown (f.release track) (s.destroy (.tree track.tree)) := by
  refine Shown.of_le (f := f) h ?_ rfl rfl
  intro role tree hd
  rw [designated_release] at hd
  split at hd
  · exact nomatch hd
  · exact hd

/-- Once its tree has left the scene, an untracked window leaves the other trees. -/
theorem tracks_release {f : Foreground} {s : Scene} (h : Tracks f s) (track : ToplevelTrack) :
    Tracks (f.release track) (s.destroy (.tree track.tree)) := by
  intro tree
  have hm : tree ∈ (f.release track).trees ↔ tree ∈ f.trees ∧ tree ≠ track.tree := by
    simp only [trees, release, List.mem_map, List.mem_filter, decide_eq_true_eq]
    constructor
    · rintro ⟨other, ⟨ho, hne⟩, rfl⟩
      exact ⟨⟨other, ho, rfl⟩, hne⟩
    · rintro ⟨⟨other, ho, rfl⟩, hne⟩
      exact ⟨other, ⟨ho, hne⟩, rfl⟩
  rw [hm, ← h tree]
  simp [Scene.destroy]

/-- A destroyed toplevel is untracked; what follows moves the foreground and restacks. -/
theorem handleToplevelDestroy_restacks (c : Compositor) (track : ToplevelTrack) :
    ∃ u v : Compositor, u.toForeground = c.release track ∧
      u.scene = c.scene.destroy (.tree track.tree) ∧ Refreshed u v ∧
      SameWindows u.toForeground v.toForeground ∧
      handleToplevelDestroy c track = compositorRestack v := by
  refine ⟨untrackToplevel { c with scene := c.scene.destroy (.tree track.tree) } track, _,
    toForeground_untrackToplevel _ track, scene_untrackToplevel _ track, ?_, ?_, rfl⟩
  · split
    · exact refreshed_playosStateGameExited _ false
    · exact Or.inl rfl
  · split
    · rw [toForeground_playosStateGameExited]
      exact sameWindows_exited _
    · exact SameWindows.refl _

private theorem composited_handleToplevelDestroy {c : Compositor} {outdated : ClientId → Prop}
    (hf : c.WFExcept outdated) (h : Composited c.toForeground c.scene) {track : ToplevelTrack}
    (ht : track ∈ c.toplevels) : Composited (handleToplevelDestroy c track).toForeground
      (handleToplevelDestroy c track).scene := by
  have hrel : (c.release track).WFExcept outdated := wfExcept_release hf ht
  have hfd : (handleToplevelDestroy c track).WFExcept outdated := by
    rw [toForeground_handleToplevelDestroy]
    split
    · exact wfExcept_exited hrel
    · exact hrel
  obtain ⟨u, v, hfu, hsu, hr, hw, hd⟩ := handleToplevelDestroy_restacks c track
  rw [hd, toForeground_compositorRestack] at hfd
  rw [hd]
  have htu : Tracks u.toForeground u.scene := by
    rw [hfu, hsu]
    exact tracks_release h.tracks track
  apply composited_compositorRestack hfd
  · intro tree
    rw [hr.order, trees, hw.toplevels]
    exact htu tree
  · unfold Grounded
    rw [hr.order, hsu]
    exact h.layered.grounded.destroy track.tree
  · apply hr.shown hw hfd
    rw [hfu, hsu]
    exact shown_release h.shown track

private theorem composited_handleNewXdgToplevel {c : Compositor} (hw : c.WF)
    (h : Composited c.toForeground c.scene) (client : ClientId) (alloc : ToplevelAlloc) :
    Composited (handleNewXdgToplevel c client alloc).toForeground
      (handleNewXdgToplevel c client alloc).scene := by
  have hnew : c.nextId ∉ c.trees := hw.linked.nextId_not_mem
  have hnode : .tree c.nextId ∉ c.scene.order.items := fun hm ↦ hnew ((h.tracks _).mp hm)
  cases alloc with
  | noTree => exact h
  | noTrack =>
    have ho : ((c.scene.add (.tree c.nextId)).destroy (.tree c.nextId)).order = c.scene.order :=
      Stacking.remove_push hnode
    change Composited c.toForeground ((c.scene.add (.tree c.nextId)).destroy (.tree c.nextId))
    refine ⟨?_, ?_, ?_⟩
    · unfold Tracks
      rw [ho]
      exact h.tracks
    · unfold Layered
      rw [ho]
      exact h.layered
    · intro role tree hd
      rw [← h.shown role tree hd]
      refine if_neg fun he ↦ hnew ?_
      cases he
      exact hw.foreground.designatedTrees_subset (mem_designatedTrees.mpr ⟨role, hd⟩)
  | ok =>
    refine composited_reclassify (wf_map hw.foreground hnew client) ?_
      (h.layered.grounded.add hnode)
    intro tree
    change .tree tree ∈ (c.scene.order.push (.tree c.nextId)).items ↔
      tree ∈ (c.toplevels ++ [(⟨c.nextId, client, .none⟩ : ToplevelTrack)]).map _
    rw [Stacking.mem_push, h.tracks tree]
    simp [trees]

/-- A destroyed object leaves the scene composited. -/
theorem composited_destroyObject {c : Compositor} {outdated : ClientId → Prop}
    (hf : c.WFExcept outdated) (h : Composited c.toForeground c.scene) (object : ClientObject) :
    Composited (destroyObject c object).toForeground (destroyObject c object).scene := by
  cases object with
  | toplevel tree =>
    simp only [destroyObject]
    split
    · exact h
    · next track ht => exact composited_handleToplevelDestroy hf h (track?_some ht).1
  | overlayBinding resource =>
    simp only [destroyObject, playosOverlayResourceDestroy]
    split <;> exact h

private theorem composited_foldl_destroyObject {c : Compositor} {outdated : ClientId → Prop}
    (hf : c.WFExcept outdated) (h : Composited c.toForeground c.scene) (order : List ClientObject) :
    Composited (order.foldl destroyObject c).toForeground
      (order.foldl destroyObject c).scene := by
  induction order generalizing c with
  | nil => exact h
  | cons object order ih =>
    refine ih ?_ (composited_destroyObject hf h object)
    rw [toForeground_destroyObject]
    cases object with
    | toplevel tree => exact wfExcept_unmap hf tree
    | overlayBinding resource => exact hf

private theorem composited_wlClientDestroy {c : Compositor} (hw : c.WF)
    (h : Composited c.toForeground c.scene) (client : ClientId) (order : List ClientObject) :
    Composited (wlClientDestroy c client order).toForeground
      (wlClientDestroy c client order).scene := by
  have hr := hw.linked.toForeground_runDestroyListeners client
  have hs : (runDestroyListeners c client).scene = c.scene := by rw [runDestroyListeners_eq]
  have hf : (runDestroyListeners c client).WFExcept (· = client) := by
    rw [hr]
    exact wfExcept_resign hw.foreground client
  refine composited_foldl_destroyObject hf ?_ order
  rw [hr, hs]
  exact ⟨h.tracks, h.layered, h.shown⟩

/-! ### Roles, bindings and outputs -/

@[simp] theorem scene_playosOverlayResolveResource (c : Compositor) (client : ClientId) :
    (playosOverlayResolveResource c client).scene = c.scene := by
  unfold playosOverlayResolveResource
  split <;> simp [playosOverlaySendOutputInfo]

@[simp] theorem scene_playosOverlayBind (c : Compositor) (client : ClientId) (created : Bool) :
    (playosOverlayBind c client created).scene = c.scene := by
  unfold playosOverlayBind
  dsimp only
  repeat' split
  all_goals simp

private theorem composited_ipcDispatch {c : Compositor} (hf : c.toForeground.WF)
    (h : Composited c.toForeground c.scene) (command : IpcCommand) :
    Composited (ipcDispatch c command).toForeground (ipcDispatch c command).scene :=
  h.of_refreshed (refreshed_ipcDispatch c command) (sameWindows_ipcDispatch c command)
    (wf_step hf (step_commandInput c command))

private theorem composited_playosManagerRegisterShell {c : Compositor} (hf : c.toForeground.WF)
    (h : Composited c.toForeground c.scene) (client : ClientId) :
    Composited (playosManagerRegisterShell c client).toForeground
      (playosManagerRegisterShell c client).scene := by
  cases hc : c.shellClient with
  | some holder =>
    rw [playosManagerRegisterShell_of_taken hc]
    exact h
  | none =>
    have hw := wf_claimShell hf client
    rw [claimShell_of_free hc] at hw
    rw [playosManagerRegisterShell_of_free hc]
    exact composited_reclassify hw h.tracks h.layered.grounded

private theorem composited_playosManagerRegisterOverlay {c : Compositor} (hf : c.toForeground.WF)
    (h : Composited c.toForeground c.scene) (client : ClientId) :
    Composited (playosManagerRegisterOverlay c client).toForeground
      (playosManagerRegisterOverlay c client).scene := by
  cases hc : c.overlayClient with
  | some holder =>
    rw [playosManagerRegisterOverlay_of_taken hc]
    exact h
  | none =>
    have hw := wf_claimOverlay hf client
    rw [claimOverlay_of_free hc] at hw
    rw [playosManagerRegisterOverlay_of_free hc, toForeground_playosOverlayResolveResource,
      scene_playosOverlayResolveResource]
    exact composited_reclassify hw h.tracks h.layered.grounded

/-- A new rect is lowered below everything. -/
private theorem items_background {c : Compositor}
    (hr : ∀ id, .rect id ∈ c.scene.order.items → id < c.nextId) :
    ((c.scene.add (.rect c.nextId)).lowerToBottom (.rect c.nextId)).order.items =
      .rect c.nextId :: c.scene.order.items :=
  Stacking.lower_push_items fun hm ↦ (hr _ hm).false

private theorem composited_handleNewOutput {c : Compositor} (h : Composited c.toForeground c.scene)
    (hr : ∀ id, .rect id ∈ c.scene.order.items → id < c.nextId) (calls : OutputCalls) :
    Composited (handleNewOutput c calls).toForeground (handleNewOutput c calls).scene := by
  have ho := items_background hr
  unfold handleNewOutput
  repeat' split
  case isFalse.isFalse.isFalse.isFalse.isTrue =>
    obtain ⟨rects, low, hi⟩ := h.layered
    refine ⟨fun tree ↦ ?_, ⟨c.nextId :: rects, low, ?_⟩, fun role tree hd ↦ ?_⟩
    · rw [ho, ← h.tracks tree]
      simp
    · rw [ho, hi]
      rfl
    · rw [← h.shown role tree hd]
      rfl
  all_goals exact h

/-! ### The invariant -/

/-- Well-formed compositors with a composited scene, whose rects are not to come again. -/
structure Compositor.Composed (c : Compositor) : Prop where
  wf : c.WF
  composited : Composited c.toForeground c.scene
  rects : ∀ id, .rect id ∈ c.scene.order.items → id < c.nextId

/-- Every step keeps the scene composited. -/
theorem composited_step {c c' : Compositor} {e : Event} (h : c.Composed) (hs : step c e = some c') :
    Composited c'.toForeground c'.scene := by
  have hc := h.composited
  have hf' : c'.toForeground.WF := (compositorSystem_wf.step c e c' h.wf hs).foreground
  cases handled_of_step hs with
  | ipcFd mask read _ =>
    unfold ipcFdHandler
    repeat' split
    all_goals first | exact composited_ipcDispatch h.wf.foreground hc _ | exact hc
  | ipcTimer result _ _ => exact hc
  | ipcLink link _ => exact hc
  | connect client _ => exact hc
  | disconnect client order _ _ => exact composited_wlClientDestroy h.wf hc client order
  | bindManager client created _ =>
    cases created <;> exact hc
  | registerShell client _ =>
    exact composited_playosManagerRegisterShell h.wf.foreground hc client
  | registerOverlay client _ =>
    exact composited_playosManagerRegisterOverlay h.wf.foreground hc client
  | bindOverlay client created _ =>
    rw [toForeground_playosOverlayBind, scene_playosOverlayBind]
    exact hc
  | overlayRequest resource request bound _ =>
    exact hc.of_refreshed (refreshed_playosOverlayRequest c bound.client request)
      (sameWindows_playosOverlayRequest c bound.client request) hf'
  | newToplevel client alloc _ => exact composited_handleNewXdgToplevel h.wf hc client alloc
  | commit tree surface track _ =>
    exact hc.of_refreshed (refreshed_handleToplevelCommit c track surface)
      (sameWindows_handleToplevelCommit c track surface) hf'
  | destroyToplevel tree track ht =>
    exact composited_handleToplevelDestroy h.wf.foreground hc (track?_some ht).1
  | key keycode state =>
    exact hc.of_refreshed (refreshed_handleKeyboardKey c keycode state)
      (sameWindows_handleKeyboardKey c keycode state) hf'
  | newOutput calls => exact composited_handleNewOutput hc h.rects calls
  | frame sceneOutput windowElapsed =>
    cases sceneOutput <;> cases windowElapsed <;> exact hc

/-- No rect is new, and no identity comes back. -/
def KeepsRects (c c' : Compositor) : Prop :=
  c.nextId ≤ c'.nextId ∧
    ∀ id, .rect id ∈ c'.scene.order.items → .rect id ∈ c.scene.order.items

namespace KeepsRects

variable {c c₁ c' : Compositor}

private theorem refl (c : Compositor) : KeepsRects c c := ⟨le_rfl, fun _ ↦ id⟩

private theorem trans (h : KeepsRects c c₁) (h' : KeepsRects c₁ c') : KeepsRects c c' :=
  ⟨h.1.trans h'.1, fun id hm ↦ h.2 id (h'.2 id hm)⟩

private theorem of_refreshed (h : Refreshed c c') (hr : c'.toRegistry = c.toRegistry) :
    KeepsRects c c' := by
  refine ⟨(congrArg Registry.nextId hr).ge, fun id hm ↦ ?_⟩
  rwa [h.order] at hm

private theorem rects (h : KeepsRects c c') (hc : c.Composed) (id : Nat)
    (hm : .rect id ∈ c'.scene.order.items) : id < c'.nextId :=
  (hc.rects id (h.2 id hm)).trans_le h.1

end KeepsRects

private theorem keepsRects_reclassify (c : Compositor) :
    KeepsRects c (playosCompositorReclassifyToplevels c) := by
  refine ⟨le_rfl, fun id hm ↦ ?_⟩
  rw [scene_reclassify] at hm
  exact mem_presentScene.mp hm

private theorem keepsRects_handleToplevelDestroy (c : Compositor) (track : ToplevelTrack) :
    KeepsRects c (handleToplevelDestroy c track) := by
  refine ⟨(congrArg Registry.nextId (toRegistry_handleToplevelDestroy c track)).ge,
    fun id hm ↦ ?_⟩
  obtain ⟨u, v, -, hsu, hr, -, hd⟩ := handleToplevelDestroy_restacks c track
  rw [hd, scene_compositorRestack] at hm
  have hm := Stacking.mem_raiseAll.mp hm
  rw [hr.order, hsu] at hm
  exact (Stacking.mem_remove.mp hm).1

private theorem keepsRects_foldl_destroyObject (c : Compositor) (order : List ClientObject) :
    KeepsRects c (order.foldl destroyObject c) := by
  apply List.foldlRecOn order destroyObject (motive := KeepsRects c) (.refl c)
  intro d hd object _
  apply hd.trans
  cases object with
  | toplevel tree =>
    simp only [destroyObject]
    split
    · exact .refl d
    · exact keepsRects_handleToplevelDestroy d _
  | overlayBinding resource =>
    simp only [destroyObject, playosOverlayResourceDestroy]
    split <;> exact .refl d

/-- Only a new output adds a rect. -/
theorem keepsRects_step {c c' : Compositor} {e : Event} (hs : step c e = some c')
    (he : ∀ calls, e ≠ .newOutput calls) : KeepsRects c c' := by
  cases handled_of_step hs with
  | newOutput calls => exact absurd rfl (he calls)
  | ipcFd mask read _ =>
    unfold ipcFdHandler
    repeat' split
    all_goals first
      | exact .of_refreshed (refreshed_ipcDispatch c _) (toRegistry_ipcDispatch c _)
      | exact .refl c
  | ipcTimer result _ _ => exact .refl c
  | ipcLink link _ => exact .refl c
  | connect client _ => exact .refl c
  | disconnect client order _ _ =>
    have hr : KeepsRects c (runDestroyListeners c client) := by
      rw [runDestroyListeners_eq]
      exact .refl c
    exact hr.trans (keepsRects_foldl_destroyObject _ order)
  | bindManager client created _ =>
    cases created <;> exact .refl c
  | registerShell client _ =>
    cases hc : c.shellClient with
    | some holder =>
      rw [playosManagerRegisterShell_of_taken hc]
      exact .refl c
    | none =>
      rw [playosManagerRegisterShell_of_free hc]
      have hr := keepsRects_reclassify
        { c with shellClient := some client, shellClientDestroy := some client }
      exact ⟨hr.1, hr.2⟩
  | registerOverlay client _ =>
    cases hc : c.overlayClient with
    | some holder =>
      rw [playosManagerRegisterOverlay_of_taken hc]
      exact .refl c
    | none =>
      rw [playosManagerRegisterOverlay_of_free hc]
      have hr := keepsRects_reclassify
        { c with overlayClient := some client, overlayClientDestroy := some client }
      refine ⟨by simp, fun id hm ↦ ?_⟩
      rw [scene_playosOverlayResolveResource] at hm
      exact hr.2 id hm
  | bindOverlay client created _ =>
    refine ⟨?_, fun id hm ↦ ?_⟩
    · rw [toRegistry_playosOverlayBind]
      split <;> simp
    · rwa [scene_playosOverlayBind] at hm
  | overlayRequest resource request bound _ =>
    exact .of_refreshed (refreshed_playosOverlayRequest c bound.client request)
      (toRegistry_playosOverlayRequest c bound.client request)
  | newToplevel client alloc _ =>
    refine ⟨?_, fun id hm ↦ ?_⟩
    · rw [toRegistry_handleNewXdgToplevel]
      dsimp only
      split <;> omega
    · have hadd : ∀ {t}, .rect id ∈ (c.scene.add (.tree t)).order.items →
          .rect id ∈ c.scene.order.items := by
        intro t ha
        simpa using Stacking.mem_push.mp ha
      cases alloc with
      | noTree => exact hm
      | noTrack => exact hadd (Stacking.mem_remove.mp hm).1
      | ok =>
        have hr := keepsRects_reclassify { c with
          nextId := c.nextId + 1
          scene := c.scene.add (.tree c.nextId)
          toplevels := c.toplevels ++ [⟨c.nextId, client, .none⟩] }
        exact hadd (hr.2 id hm)
  | commit tree surface track _ =>
    exact .of_refreshed (refreshed_handleToplevelCommit c track surface)
      (toRegistry_handleToplevelCommit c track surface)
  | destroyToplevel tree track ht => exact keepsRects_handleToplevelDestroy c track
  | key keycode state =>
    exact .of_refreshed (refreshed_handleKeyboardKey c keycode state)
      (toRegistry_handleKeyboardKey c keycode state)
  | frame sceneOutput windowElapsed =>
    cases sceneOutput <;> cases windowElapsed <;> exact .refl c

private theorem rects_handleNewOutput {c : Compositor} (h : c.Composed) (calls : OutputCalls)
    (id : Nat) (hm : .rect id ∈ (handleNewOutput c calls).scene.order.items) :
    id < (handleNewOutput c calls).nextId := by
  revert hm
  unfold handleNewOutput
  repeat' split
  case isFalse.isFalse.isFalse.isFalse.isTrue =>
    intro hm
    rw [items_background h.rects, List.mem_cons, SceneNode.rect.injEq] at hm
    rcases hm with rfl | hm
    · exact Nat.lt_succ_self _
    · exact (h.rects id hm).trans (Nat.lt_succ_self _)
  all_goals exact h.rects id

/-- Reachable compositors have composited scenes. -/
theorem compositorSystem_composed : compositorSystem.Invariant Compositor.Composed where
  base c hc := by
    refine ⟨compositorSystem_wf.base c hc, ?_, ?_⟩
    · obtain ⟨config, rfl⟩ := hc
      refine ⟨fun tree ↦ ?_, ⟨[], [], ?_⟩, fun role tree hd ↦ ?_⟩
      · simp [playosCompositorStarted, playosCompositorInit, playosStateInit, trees, Scene.create,
          Stacking.empty]
      · rfl
      · cases role <;> cases hd
    · obtain ⟨config, rfl⟩ := hc
      exact fun id hm ↦ absurd hm List.not_mem_nil
  step c e c' h hs := by
    refine ⟨compositorSystem_wf.step c e c' h.wf hs, composited_step h hs, ?_⟩
    by_cases he : ∀ calls, e ≠ .newOutput calls
    · exact (keepsRects_step hs he).rects h
    · obtain ⟨calls, rfl⟩ : ∃ calls, e = .newOutput calls := by simpa using he
      cases Option.some.inj hs
      exact rects_handleNewOutput h calls

end PlayosCompositor
