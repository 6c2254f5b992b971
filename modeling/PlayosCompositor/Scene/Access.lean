import PlayosCompositor.Model.Effects
import PlayosCompositor.Scene.Invariant

/-!
# Access to scene trees

Handlers that stop where `playos_state_refresh` or `compositor_restack` would follow a pointer to
a tree that is no longer in the scene. From well-formed states the checked handlers never stop, so
the pointers never dangle, not even half-way through a handler.
-/

namespace PlayosCompositor

open Foreground

/-- Every tree that a pointer names is in the scene. -/
def Alive (c : Compositor) : Prop := ∀ tree ∈ c.designatedTrees, .tree tree ∈ c.scene.order.items

instance (c : Compositor) : Decidable (Alive c) :=
  inferInstanceAs (Decidable (∀ tree ∈ c.designatedTrees, _))

namespace Alive

variable {c c' : Compositor}

private theorem of_pointers (h : Alive c) (hs : c'.shellTree = c.shellTree)
    (hg : c'.gameTree = c.gameTree) (ho : c'.overlayTree = c.overlayTree)
    (hsc : c'.scene.order = c.scene.order) : Alive c' := by
  have hd : c'.designatedTrees = c.designatedTrees := by
    simp [designatedTrees, List.filterMap_cons, designated, hs, hg, ho]
  unfold Alive
  rw [hd, hsc]
  exact h

private theorem of_refreshed (h : Alive c) (hw : SameWindows c.toForeground c'.toForeground)
    (hr : Refreshed c c') : Alive c' :=
  h.of_pointers hw.shellTree hw.gameTree hw.overlayTree hr.order

private theorem of_tracks {outdated : ClientId → Prop} (h : c.WFExcept outdated)
    (ht : Tracks c.toForeground c.scene) : Alive c :=
  fun tree hm ↦ (ht tree).mpr (h.designatedTrees_subset hm)

private theorem restack (h : Alive c) : Alive (compositorRestack c) := by
  intro tree hm
  rw [scene_compositorRestack]
  exact Stacking.mem_raiseAll.mpr (h tree hm)

end Alive

/-- `playos_state_refresh` and `compositor_restack` are stopped by a dangling pointer. -/
def checkedAccess : Effects Option where
  refresh c := if Alive c then some (playosStateRefresh c) else none
  restack c := if Alive c then some (compositorRestack c) else none
  send c message := some (playosCompositorIpcSend c message)

namespace Checked

/-- One event under checked access; `none` when it cannot occur or when it is stopped. -/
def step (c : Compositor) (e : Event) : Option Compositor := (checkedAccess.step c e).join

/-! ### Live pointers never stop a handler -/

variable {c : Compositor}

private theorem refresh_eq (h : Alive c) :
    checkedAccess.refresh c = some (playosStateRefresh c) := if_pos h

private theorem restack_eq (h : Alive c) :
    checkedAccess.restack c = some (compositorRestack c) := if_pos h

private theorem playosStateTransition_eq (h : Alive c) (state : ForegroundState) :
    checkedAccess.playosStateTransition c state = some (playosStateTransition c state) := by
  unfold Effects.playosStateTransition playosStateTransition
  split
  · rfl
  · dsimp only
    rw [refresh_eq]
    · rfl
    · unfold playosOverlaySendAboutToHide
      repeat' split
      all_goals apply h.of_pointers <;> simp

private theorem playosOverlayManagerShow_eq (h : Alive c) :
    checkedAccess.playosOverlayManagerShow c = some (playosOverlayManagerShow c) := by
  unfold Effects.playosOverlayManagerShow playosOverlayManagerShow
  split
  · rfl
  · have ha : Alive (playosOverlaySendAboutToShow
        (playosOverlaySendOutputInfo { c with overlayVisible := true })) := by
      unfold playosOverlaySendAboutToShow playosOverlaySendOutputInfo
      apply h.of_pointers <;> simp
    dsimp only
    split
    · exact playosStateTransition_eq ha _
    · exact refresh_eq ha

private theorem playosOverlayManagerHide_eq (h : Alive c) :
    checkedAccess.playosOverlayManagerHide c = some (playosOverlayManagerHide c) := by
  unfold Effects.playosOverlayManagerHide playosOverlayManagerHide
  split
  · rfl
  · have ha : Alive (playosOverlaySendAboutToHide { c with overlayVisible := false }) := by
      unfold playosOverlaySendAboutToHide
      apply h.of_pointers <;> simp
    dsimp only
    split
    · exact playosStateTransition_eq ha _
    · exact refresh_eq ha

private theorem ipcDispatch_eq (h : Alive c) (command : IpcCommand) :
    checkedAccess.ipcDispatch c command = some (ipcDispatch c command) := by
  cases command with
  | setExpectedGame launchToken gameId =>
    refine playosStateTransition_eq ?_ .gameStarting
    exact h.of_pointers rfl rfl rfl rfl
  | clearExpectedGame =>
    simp only [Effects.ipcDispatch, Effects.playosStateHandleClearExpected, ipcDispatch,
      playosStateHandleClearExpected]
    split
    · refine playosStateTransition_eq ?_ .shellForeground
      exact h.of_pointers rfl rfl rfl rfl
    · rfl
  | forceTerminateGame =>
    simp only [Effects.ipcDispatch, Effects.playosStateHandleForceTerminate,
      playosStateTransition_eq h]
    rfl
  | showOverlay => exact playosOverlayManagerShow_eq h
  | hideOverlay => exact playosOverlayManagerHide_eq h

private theorem ipcFdHandler_eq (h : Alive c) (mask : FdMask) (read : IpcRead) :
    checkedAccess.ipcFdHandler c mask read = some (ipcFdHandler c mask read) := by
  rcases mask with ⟨hangup, readable⟩
  cases hangup
  case true => rfl
  cases readable
  case false => rfl
  cases read
  case failed => rfl
  case dropped => rfl
  case command command => exact ipcDispatch_eq h command

private theorem handleKeyboardKey_eq (h : Alive c) (keycode : UInt32) (state : KeyState) :
    checkedAccess.handleKeyboardKey c keycode state =
      some (handleKeyboardKey c keycode state) := by
  unfold Effects.handleKeyboardKey handleKeyboardKey
  repeat' split
  all_goals first
    | rfl
    | exact playosOverlayManagerShow_eq h
    | exact playosOverlayManagerHide_eq h

private theorem playosOverlayRequest_eq (h : Alive c) (client : ClientId)
    (request : OverlayRequest) :
    checkedAccess.playosOverlayRequest c client request =
      some (playosOverlayRequest c client request) := by
  unfold Effects.playosOverlayRequest playosOverlayRequest
  by_cases ho : some client = c.overlayClient
  · simp only [ho, ne_eq, not_true_eq_false, ↓reduceIte]
    cases request with
    | setSurface => rfl
    | surfaceReady => rfl
    | requestDismiss => exact playosOverlayManagerHide_eq h
  · simp only [ho, ne_eq, not_false_eq_true, ↓reduceIte]
    rfl

private theorem handleToplevelCommit_eq_some (h : Alive c) (track : ToplevelTrack)
    (surface : SurfaceCommit) : checkedAccess.handleToplevelCommit c track surface =
      some (handleToplevelCommit c track surface) := by
  have hc := sameBut_configureInitial c track surface
  have hn := sameBut_countCommit (configureInitial c track surface) track surface
  have ha : Alive (countCommit (configureInitial c track surface) track surface) := by
    apply h.of_pointers <;> simp [hn.foreground, hc.foreground, hn.scene, hc.scene]
  unfold Effects.handleToplevelCommit handleToplevelCommit
  split
  · rfl
  · dsimp only
    split
    · unfold Effects.playosStateGameSurfaceReady playosStateGameSurfaceReady
      repeat' split
      · rfl
      · rfl
      · refine playosStateTransition_eq ?_ .gameForeground
        exact ha.of_pointers rfl rfl rfl rfl
    · rfl

private theorem playosStateGameExited_eq (h : Alive c) :
    checkedAccess.playosStateGameExited c false = some (playosStateGameExited c false) := by
  unfold Effects.playosStateGameExited playosStateGameExited
  dsimp only
  split
  · rw [playosStateTransition_eq h]
    rfl
  · rfl

private theorem playosCompositorReclassifyToplevels_eq (hw : c.classify.WF)
    (ht : Tracks c.toForeground c.scene) : checkedAccess.playosCompositorReclassifyToplevels c =
      some (playosCompositorReclassifyToplevels c) := by
  unfold Effects.playosCompositorReclassifyToplevels
    playosCompositorReclassifyToplevels
  have hf := toForeground_playosCompositorReclassifyToplevels c
  unfold playosCompositorReclassifyToplevels at hf
  dsimp only at hf ⊢
  generalize hd : ({ c with
    toplevels := (reclassifyLoop c.toForeground c.toplevels ⟨none, none, none⟩).1
    shellTree := (reclassifyLoop c.toForeground c.toplevels ⟨none, none, none⟩).2.shellTree
    gameTree := (reclassifyLoop c.toForeground c.toplevels ⟨none, none, none⟩).2.gameTree
    overlayTree := (reclassifyLoop c.toForeground c.toplevels ⟨none, none, none⟩).2.overlayTree } :
      Compositor) = d at hf ⊢
  have hdf : d.toForeground = c.classify := hf
  have hds : d.scene = c.scene := by rw [← hd]
  have ha : Alive d := by
    have hwd : d.WFExcept fun _ ↦ False := hdf ▸ hw
    apply Alive.of_tracks hwd
    rw [hdf, hds]
    exact fun tree ↦ by rw [ht tree, trees_classify]
  rw [restack_eq ha]
  exact refresh_eq ha.restack

private theorem handleNewXdgToplevel_eq (h : c.Composed) (client : ClientId)
    (alloc : ToplevelAlloc) :
    checkedAccess.handleNewXdgToplevel c client alloc =
      some (handleNewXdgToplevel c client alloc) := by
  cases alloc with
  | noTree => rfl
  | noTrack => rfl
  | ok =>
    refine playosCompositorReclassifyToplevels_eq
      (wf_map h.wf.foreground h.wf.linked.nextId_not_mem client) ?_
    intro tree
    change .tree tree ∈ (c.scene.order.push (.tree c.nextId)).items ↔
      tree ∈ (c.toplevels ++ [(⟨c.nextId, client, .none⟩ : ToplevelTrack)]).map _
    rw [Stacking.mem_push, h.composited.tracks tree]
    simp [trees]

private theorem handleToplevelDestroy_eq {outdated : ClientId → Prop} (hf : c.WFExcept outdated)
    (ht : Tracks c.toForeground c.scene) {track : ToplevelTrack} (hm : track ∈ c.toplevels) :
    checkedAccess.handleToplevelDestroy c track =
      some (handleToplevelDestroy c track) := by
  unfold Effects.handleToplevelDestroy handleToplevelDestroy
  dsimp only
  generalize hu : untrackToplevel { c with scene := c.scene.destroy (.tree track.tree) } track = u
  have hfu : u.toForeground = c.release track := by rw [← hu, toForeground_untrackToplevel]
  have hsu : u.scene = c.scene.destroy (.tree track.tree) := by rw [← hu, scene_untrackToplevel]
  have ha : Alive u := by
    have hwu : u.WFExcept outdated := hfu ▸ wfExcept_release hf hm
    apply Alive.of_tracks hwu
    rw [hfu, hsu]
    exact tracks_release ht track
  split
  · rw [playosStateGameExited_eq ha]
    refine restack_eq (ha.of_refreshed ?_ (refreshed_playosStateGameExited u false))
    rw [toForeground_playosStateGameExited]
    exact sameWindows_exited _
  · rw [refresh_eq ha]
    exact restack_eq (ha.of_refreshed (SameWindows.refl _) (Or.inl rfl))

private theorem foldlM_destroyObject_eq {outdated : ClientId → Prop} (hf : c.WFExcept outdated)
    (h : Composited c.toForeground c.scene) (order : List ClientObject) :
    order.foldlM checkedAccess.destroyObject c = some (order.foldl destroyObject c) := by
  induction order generalizing c with
  | nil => rfl
  | cons object order ih =>
    have hobject : checkedAccess.destroyObject c object = some (destroyObject c object) := by
      cases object with
      | toplevel tree =>
        simp only [Effects.destroyObject, destroyObject]
        cases ht : c.track? tree with
        | none => rfl
        | some track => exact handleToplevelDestroy_eq hf h.tracks (track?_some ht).1
      | overlayBinding resource => rfl
    rw [List.foldlM_cons, hobject, List.foldl_cons]
    refine ih ?_ (composited_destroyObject hf h object)
    rw [toForeground_destroyObject]
    cases object with
    | toplevel tree => exact wfExcept_unmap hf tree
    | overlayBinding resource => exact hf

private theorem wlClientDestroy_eq (h : c.Composed) (client : ClientId)
    (order : List ClientObject) :
    checkedAccess.wlClientDestroy c client order =
      some (wlClientDestroy c client order) := by
  have hr := h.wf.linked.toForeground_runDestroyListeners client
  have hs : (runDestroyListeners c client).scene = c.scene := by rw [runDestroyListeners_eq]
  have hf : (runDestroyListeners c client).WFExcept (· = client) := by
    rw [hr]
    exact wfExcept_resign h.wf.foreground client
  have hc : Composited (runDestroyListeners c client).toForeground
      (runDestroyListeners c client).scene := by
    rw [hr, hs]
    exact ⟨h.composited.tracks, h.composited.layered, h.composited.shown⟩
  rw [Effects.wlClientDestroy, foldlM_destroyObject_eq hf hc]
  rfl

private theorem playosManagerRegisterShell_eq (h : c.Composed) (client : ClientId) :
    checkedAccess.playosManagerRegisterShell c client =
      some (playosManagerRegisterShell c client) := by
  cases hc : c.shellClient with
  | some holder =>
    simp [Effects.playosManagerRegisterShell, Effects.playosTrustedClientClaim, hc,
      playosManagerRegisterShell_of_taken hc]
  | none =>
    have hw := wf_claimShell h.wf.foreground client
    rw [claimShell_of_free hc] at hw
    have he := playosCompositorReclassifyToplevels_eq
      (c := { c with shellClient := some client, shellClientDestroy := some client }) hw
      h.composited.tracks
    simp [Effects.playosManagerRegisterShell, Effects.playosTrustedClientClaim, hc, he,
      playosManagerRegisterShell_of_free hc]

private theorem playosManagerRegisterOverlay_eq (h : c.Composed) (client : ClientId) :
    checkedAccess.playosManagerRegisterOverlay c client =
      some (playosManagerRegisterOverlay c client) := by
  cases hc : c.overlayClient with
  | some holder =>
    simp [Effects.playosManagerRegisterOverlay, Effects.playosTrustedClientClaim, hc,
      playosManagerRegisterOverlay_of_taken hc]
  | none =>
    have hw := wf_claimOverlay h.wf.foreground client
    rw [claimOverlay_of_free hc] at hw
    have he := playosCompositorReclassifyToplevels_eq
      (c := { c with overlayClient := some client, overlayClientDestroy := some client }) hw
      h.composited.tracks
    simp [Effects.playosManagerRegisterOverlay, Effects.playosTrustedClientClaim, hc, he,
      playosManagerRegisterOverlay_of_free hc]

private theorem effects_step_eq (h : c.Composed) (e : Event) :
    checkedAccess.step c e = (PlayosCompositor.step c e).map some := by
  have ha : Alive c := .of_tracks h.wf.foreground h.composited.tracks
  cases e with
  | ipcFd mask read =>
    simp only [Effects.step, PlayosCompositor.step, ipcFdHandler_eq ha, apply_ite (Option.map some),
      Option.map_some, Option.map_none]
  | disconnect client order =>
    simp only [Effects.step, PlayosCompositor.step, wlClientDestroy_eq h,
      apply_ite (Option.map some), Option.map_some, Option.map_none]
  | registerShell client =>
    simp only [Effects.step, PlayosCompositor.step, playosManagerRegisterShell_eq h,
      apply_ite (Option.map some), Option.map_some, Option.map_none]
  | registerOverlay client =>
    simp only [Effects.step, PlayosCompositor.step, playosManagerRegisterOverlay_eq h,
      apply_ite (Option.map some), Option.map_some, Option.map_none]
  | overlayRequest resource request =>
    simp only [Effects.step, PlayosCompositor.step, playosOverlayRequest_eq ha, Option.map_map,
      Function.comp_def]
  | newToplevel client alloc =>
    simp only [Effects.step, PlayosCompositor.step, handleNewXdgToplevel_eq h,
      apply_ite (Option.map some), Option.map_some, Option.map_none]
  | commit tree surface =>
    simp only [Effects.step, PlayosCompositor.step, handleToplevelCommit_eq_some ha,
      Option.map_map, Function.comp_def]
  | destroyToplevel tree =>
    simp only [Effects.step, PlayosCompositor.step]
    cases ht : c.track? tree with
    | none => rfl
    | some track =>
      exact congrArg some
        (handleToplevelDestroy_eq h.wf.foreground h.composited.tracks (track?_some ht).1)
  | key keycode state => exact congrArg some (handleKeyboardKey_eq ha keycode state)
  | _ => rfl

/-- So they are the events of the model. -/
theorem step_eq (h : c.Composed) (e : Event) : step c e = PlayosCompositor.step c e := by
  rw [step, effects_step_eq h]
  cases PlayosCompositor.step c e <;> rfl

end Checked

end PlayosCompositor
