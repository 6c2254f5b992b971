import PlayosCompositor.Foreground.View

/-!
# What the start has settled

The backend and the recorded geometry of the output are written by `playos_compositor_start`
and by nothing that runs after it.
-/

namespace PlayosCompositor

/-- The backend and the output's recorded geometry; `include/compositor.h:92,142–145`. -/
structure Settings where
  backendType : Backend
  outputWidth : Int
  outputHeight : Int
  outputRefreshMhz : Int
  outputScale100 : Int

/-- The settings of a compositor. -/
def Compositor.settings (c : Compositor) : Settings :=
  ⟨c.backendType, c.outputWidth, c.outputHeight, c.outputRefreshMhz, c.outputScale100⟩

/-! ### State machine and overlay manager -/

@[simp] theorem settings_sendOverlayEvent (c : Compositor) (event : OverlayEvent) :
    (sendOverlayEvent c event).settings = c.settings := by
  unfold sendOverlayEvent
  split <;> rfl

@[simp] theorem settings_playosStateTransition (c : Compositor) (state : ForegroundState) :
    (playosStateTransition c state).settings = c.settings := by
  unfold playosStateTransition playosOverlaySendAboutToHide
  repeat' split
  all_goals first | rfl | exact settings_sendOverlayEvent c _

@[simp] theorem settings_playosStateGameSurfaceReady (c : Compositor) :
    (playosStateGameSurfaceReady c).settings = c.settings := by
  unfold playosStateGameSurfaceReady
  repeat' split
  all_goals first | rfl | exact settings_playosStateTransition _ _

@[simp] theorem settings_playosStateGameExited (c : Compositor) (crashed : Bool) :
    (playosStateGameExited c crashed).settings = c.settings := by
  unfold playosStateGameExited
  dsimp only
  split
  · exact settings_playosStateTransition c _
  · rfl

@[simp] theorem settings_playosOverlayManagerShow (c : Compositor) :
    (playosOverlayManagerShow c).settings = c.settings := by
  have hsent : (playosOverlaySendAboutToShow
      (playosOverlaySendOutputInfo { c with overlayVisible := true })).settings = c.settings := by
    unfold playosOverlaySendAboutToShow playosOverlaySendOutputInfo
    rw [settings_sendOverlayEvent, settings_sendOverlayEvent]
    rfl
  unfold playosOverlayManagerShow
  split
  · rfl
  · dsimp only
    split
    · rw [settings_playosStateTransition, hsent]
    · exact hsent

@[simp] theorem settings_playosOverlayManagerHide (c : Compositor) :
    (playosOverlayManagerHide c).settings = c.settings := by
  have hsent : (playosOverlaySendAboutToHide { c with overlayVisible := false }).settings =
      c.settings := settings_sendOverlayEvent _ _
  unfold playosOverlayManagerHide
  split
  · rfl
  · dsimp only
    split
    · rw [settings_playosStateTransition, hsent]
    · exact hsent

@[simp] theorem settings_ipcDispatch (c : Compositor) (command : IpcCommand) :
    (ipcDispatch c command).settings = c.settings := by
  cases command with
  | setExpectedGame launchToken gameId => exact settings_playosStateTransition _ _
  | clearExpectedGame =>
    simp only [ipcDispatch, playosStateHandleClearExpected]
    split
    · exact settings_playosStateTransition _ _
    · rfl
  | forceTerminateGame => exact settings_playosStateTransition c _
  | showOverlay => exact settings_playosOverlayManagerShow c
  | hideOverlay => exact settings_playosOverlayManagerHide c

/-! ### Toplevels and clients -/

@[simp] theorem settings_handleToplevelCommit (c : Compositor) (track : ToplevelTrack)
    (surface : SurfaceCommit) : (handleToplevelCommit c track surface).settings = c.settings := by
  have hcounted : (countCommit (configureInitial c track surface) track surface).settings =
      c.settings := by
    unfold countCommit configureInitial
    repeat' split
    all_goals rfl
  unfold handleToplevelCommit
  dsimp only
  repeat' split
  · rfl
  · rw [settings_playosStateGameSurfaceReady, hcounted]
  · exact hcounted

@[simp] theorem settings_handleToplevelDestroy (c : Compositor) (track : ToplevelTrack) :
    (handleToplevelDestroy c track).settings = c.settings := by
  have huntracked : (untrackToplevel { c with scene := c.scene.destroy (.tree track.tree) }
      track).settings = c.settings := by
    unfold untrackToplevel
    dsimp only
    repeat' split
    all_goals rfl
  unfold handleToplevelDestroy
  dsimp only
  split
  · exact (settings_playosStateGameExited _ false).trans huntracked
  · exact huntracked

@[simp] theorem settings_playosOverlayResolveResource (c : Compositor) (client : ClientId) :
    (playosOverlayResolveResource c client).settings = c.settings := by
  unfold playosOverlayResolveResource
  split
  · rfl
  · exact settings_sendOverlayEvent _ _

@[simp] theorem settings_wlClientDestroy (c : Compositor) (client : ClientId)
    (order : List ClientObject) : (wlClientDestroy c client order).settings = c.settings := by
  change (order.foldl destroyObject (runDestroyListeners c client)).settings = c.settings
  apply List.foldlRecOn order destroyObject (motive := fun d ↦ d.settings = c.settings)
  · rw [runDestroyListeners_eq]
    rfl
  · intro d hd object _
    rw [← hd]
    cases object with
    | toplevel tree =>
      simp only [destroyObject]
      split
      · rfl
      · exact settings_handleToplevelDestroy d _
    | overlayBinding resource =>
      simp only [destroyObject, playosOverlayResourceDestroy]
      split <;> rfl

/-! ### Steps -/

/-- No event changes the settings. -/
theorem settings_step {c c' : Compositor} {e : Event} (hs : step c e = some c') :
    c'.settings = c.settings := by
  cases handled_of_step hs with
  | ipcFd mask read _ =>
    unfold ipcFdHandler
    repeat' split
    all_goals first | rfl | exact settings_ipcDispatch c _
  | ipcTimer result _ _ => rfl
  | ipcLink link _ => rfl
  | connect client _ => rfl
  | disconnect client order _ _ => exact settings_wlClientDestroy c client order
  | bindManager client created _ => cases created <;> rfl
  | registerShell client _ =>
    cases hc : c.shellClient with
    | some holder => rw [playosManagerRegisterShell_of_taken hc]; rfl
    | none => rw [playosManagerRegisterShell_of_free hc]; rfl
  | registerOverlay client _ =>
    cases hc : c.overlayClient with
    | some holder => rw [playosManagerRegisterOverlay_of_taken hc]; rfl
    | none =>
      rw [playosManagerRegisterOverlay_of_free hc, settings_playosOverlayResolveResource]
      rfl
  | bindOverlay client created _ =>
    unfold playosOverlayBind
    dsimp only
    repeat' split
    · rfl
    · exact settings_playosOverlayResolveResource _ _
    · rfl
  | overlayRequest resource request bound _ =>
    unfold playosOverlayRequest
    repeat' split
    all_goals first | rfl | exact settings_playosOverlayManagerHide c
  | newToplevel client alloc _ => cases alloc <;> rfl
  | commit tree surface track _ => exact settings_handleToplevelCommit c track surface
  | destroyToplevel tree track _ => exact settings_handleToplevelDestroy c track
  | key keycode state =>
    unfold handleKeyboardKey
    repeat' split
    all_goals first
      | rfl
      | exact settings_playosOverlayManagerShow c
      | exact settings_playosOverlayManagerHide c
  | newOutput calls =>
    unfold handleNewOutput
    repeat' split
    all_goals rfl
  | frame sceneOutput windowElapsed =>
    unfold handleFrame
    repeat' split
    all_goals rfl

/-- No run changes the settings. -/
theorem settings_run {c c' : Compositor} {es : List Event}
    (hr : compositorSystem.run c es = some c') : c'.settings = c.settings := by
  induction es generalizing c with
  | nil => rw [Option.some.inj hr]
  | cons e es ih =>
    obtain ⟨c₁, hs, hr⟩ := compositorSystem.run_cons_some.mp hr
    exact (ih hr).trans (settings_step hs)

end PlayosCompositor
