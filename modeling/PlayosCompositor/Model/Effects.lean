import PlayosCompositor.Model.System

/-!
# Handlers over their effects

The handlers once more, for questions about the middle of a handler: a parameter says what comes
of the calls that touch the scene trees and of the sends to playos-init, in any monad. With calls
that always return they are the handlers of the model (`step_plain`).
-/

namespace PlayosCompositor

/-- What comes of `playos_state_refresh`, `compositor_restack` and `playos_compositor_ipc_send`. -/
structure Effects (m : Type → Type) where
  refresh : Compositor → m Compositor
  restack : Compositor → m Compositor
  send : Compositor → IpcMessage → m Compositor

/-- Each of the calls does what the model says, and returns. -/
def Effects.plain : Effects Id :=
  ⟨playosStateRefresh, compositorRestack, playosCompositorIpcSend⟩

namespace Effects

variable {m : Type → Type} [Monad m] (fx : Effects m)

/-! ### State machine and overlay manager -/

/-- `playos_state_transition`. -/
def playosStateTransition (c : Compositor) (state : ForegroundState) : m Compositor :=
  if c.fgState = state then return c
  else do
    let c :=
      if state = .shellForeground ∨ state = .terminatingGame then
        let c := if c.overlayVisible then playosOverlaySendAboutToHide c else c
        { c with overlayVisible := false }
      else c
    let c ← fx.refresh { c with fgState := state }
    fx.send c (.stateChanged state)

/-- `playos_state_handle_set_expected_game`. -/
def playosStateHandleSetExpectedGame (c : Compositor) (launchToken gameId : Option CString) :
    m Compositor :=
  let c := { c with
    expectedLaunchToken := (launchToken.getD .empty).store 64
    expectedGameId := (gameId.getD .empty).store 256
    gameSurfaceReady := false }
  fx.playosStateTransition c .gameStarting

/-- `playos_state_handle_clear_expected`. -/
def playosStateHandleClearExpected (c : Compositor) : m Compositor :=
  let c := forgetExpected c
  if c.fgState = .gameStarting ∨ c.fgState = .gameForeground ∨
      c.fgState = .playosUiForegroundWithGameBackground then
    fx.playosStateTransition c .shellForeground
  else return c

/-- `playos_state_handle_force_terminate`. -/
def playosStateHandleForceTerminate (c : Compositor) : m Compositor := do
  let c ← fx.playosStateTransition c .terminatingGame
  return forgetExpected c

/-- `playos_state_game_surface_ready`. -/
def playosStateGameSurfaceReady (c : Compositor) : m Compositor :=
  if c.gameSurfaceReady then return c
  else if c.fgState ≠ .gameStarting then return c
  else do
    let c := { c with gameSurfaceReady := true }
    let c ← fx.send c (.gameSurfaceReady c.expectedLaunchToken)
    fx.playosStateTransition c .gameForeground

/-- `playos_state_game_exited`. -/
def playosStateGameExited (c : Compositor) (_crashed : Bool) : m Compositor := do
  let c ← (if c.fgState = .gameStarting ∨ c.fgState = .gameForeground ∨
        c.fgState = .playosUiForegroundWithGameBackground ∨ c.fgState = .terminatingGame then
      fx.playosStateTransition c .shellForeground
    else return c)
  return forgetExpected c

/-- `playos_overlay_manager_show`. -/
def playosOverlayManagerShow (c : Compositor) : m Compositor :=
  if c.overlayVisible then return c
  else
    let c := { c with overlayVisible := true }
    let c := playosOverlaySendOutputInfo c
    let c := playosOverlaySendAboutToShow c
    if c.fgState = .gameForeground then
      fx.playosStateTransition c .playosUiForegroundWithGameBackground
    else fx.refresh c

/-- `playos_overlay_manager_hide`. -/
def playosOverlayManagerHide (c : Compositor) : m Compositor :=
  if !c.overlayVisible then return c
  else
    let c := { c with overlayVisible := false }
    let c := playosOverlaySendAboutToHide c
    if c.fgState = .playosUiForegroundWithGameBackground then
      let next := if c.gameTree.isSome then .gameForeground else .shellForeground
      fx.playosStateTransition c next
    else fx.refresh c

/-! ### Toplevels and trusted roles -/

/-- `playos_compositor_reclassify_toplevels`. -/
def playosCompositorReclassifyToplevels (c : Compositor) : m Compositor := do
  let walked := reclassifyLoop c.toForeground c.toplevels ⟨none, none, none⟩
  let c := { c with
    toplevels := walked.1
    shellTree := walked.2.shellTree
    gameTree := walked.2.gameTree
    overlayTree := walked.2.overlayTree }
  let c ← fx.restack c
  fx.refresh c

/-- `handle_new_xdg_toplevel`. -/
def handleNewXdgToplevel (c : Compositor) (client : ClientId) (alloc : ToplevelAlloc) :
    m Compositor :=
  match alloc with
  | .noTree => return c
  | .noTrack => return PlayosCompositor.handleNewXdgToplevel c client .noTrack
  | .ok =>
    let tree := c.nextId
    let track : ToplevelTrack := ⟨tree, client, .none⟩
    let c := { c with
      nextId := c.nextId + 1
      scene := c.scene.add (.tree tree)
      toplevels := c.toplevels ++ [track] }
    fx.playosCompositorReclassifyToplevels c

/-- `handle_toplevel_commit`. -/
def handleToplevelCommit (c : Compositor) (track : ToplevelTrack) (surface : SurfaceCommit) :
    m Compositor :=
  if !surface.xdgToplevel then return c
  else
    let c := configureInitial c track surface
    let c := countCommit c track surface
    if track.role = .game ∧ surface.buffer then fx.playosStateGameSurfaceReady c else return c

/-- `handle_toplevel_destroy`. -/
def handleToplevelDestroy (c : Compositor) (track : ToplevelTrack) : m Compositor := do
  let c := { c with scene := c.scene.destroy (.tree track.tree) }
  let c := untrackToplevel c track
  let c ← (if track.role = .game then fx.playosStateGameExited c false else fx.refresh c)
  fx.restack c

/-- `playos_trusted_client_claim`. -/
def playosTrustedClientClaim (c : Compositor) (client : ClientId) (role : TrustedRole) :
    m (Option Compositor) :=
  if role = .shell ∧ c.shellClient.isSome then return none
  else if role = .overlay ∧ c.overlayClient.isSome then return none
  else do
    let c :=
      match role with
      | .shell => { c with shellClient := some client, shellClientDestroy := some client }
      | .overlay => { c with overlayClient := some client, overlayClientDestroy := some client }
      | _ => c
    let c ← fx.playosCompositorReclassifyToplevels c
    return some c

/-- `playos_manager_register_shell`. -/
def playosManagerRegisterShell (c : Compositor) (client : ClientId) : m Compositor := do
  match ← fx.playosTrustedClientClaim c client .shell with
  | none => return { c with
      wire := c.wire ++ [.error client .roleAlreadyTaken "shell role already taken"] }
  | some c => return c

/-- `playos_manager_register_overlay`. -/
def playosManagerRegisterOverlay (c : Compositor) (client : ClientId) : m Compositor := do
  match ← fx.playosTrustedClientClaim c client .overlay with
  | none => return { c with
      wire := c.wire ++ [.error client .roleAlreadyTaken "overlay role already taken"] }
  | some c => return playosOverlayResolveResource c client

/-- `playos_overlay_request_dismiss` and its siblings. -/
def playosOverlayRequest (c : Compositor) (client : ClientId) (request : OverlayRequest) :
    m Compositor :=
  if some client ≠ c.overlayClient then return c
  else
    match request with
    | .setSurface => return c
    | .surfaceReady => return c
    | .requestDismiss => fx.playosOverlayManagerHide c

/-! ### Events -/

/-- `ipc_dispatch`. -/
def ipcDispatch (c : Compositor) : IpcCommand → m Compositor
  | .setExpectedGame launchToken gameId =>
    fx.playosStateHandleSetExpectedGame c (some launchToken) (some gameId)
  | .clearExpectedGame => fx.playosStateHandleClearExpected c
  | .forceTerminateGame => fx.playosStateHandleForceTerminate c
  | .showOverlay => fx.playosOverlayManagerShow c
  | .hideOverlay => fx.playosOverlayManagerHide c

/-- `ipc_fd_handler`. -/
def ipcFdHandler (c : Compositor) (mask : FdMask) (read : IpcRead) : m Compositor :=
  if mask.hangupOrError then return { c with ipc := c.ipc.ipcDisconnect.ipcScheduleReconnect }
  else if !mask.readable then return c
  else
    match read with
    | .failed => return { c with ipc := c.ipc.ipcDisconnect.ipcScheduleReconnect }
    | .dropped => return c
    | .command command => fx.ipcDispatch c command

/-- `handle_keyboard_key`. -/
def handleKeyboardKey (c : Compositor) (keycode : UInt32) (state : KeyState) : m Compositor :=
  if isReservedKeycode keycode ∧ state = .pressed then
    if systemKeycodes.contains keycode then
      if c.fgState = .gameForeground then fx.playosOverlayManagerShow c
      else if c.fgState = .playosUiForegroundWithGameBackground then fx.playosOverlayManagerHide c
      else return c
    else return c
  else return c

/-- Destruction of one object. -/
def destroyObject (c : Compositor) : ClientObject → m Compositor
  | .toplevel tree =>
    match c.track? tree with
    | none => return c
    | some track => fx.handleToplevelDestroy c track
  | .overlayBinding resource => return playosOverlayResourceDestroy c resource

/-- `wl_client_destroy`. -/
def wlClientDestroy (c : Compositor) (client : ClientId) (order : List ClientObject) :
    m Compositor := do
  let c ← order.foldlM fx.destroyObject (runDestroyListeners c client)
  return { c with
    clients := c.clients.filter (· ≠ client)
    managers := c.managers.filter (· ≠ client) }

/-- One event, or `none` when it cannot occur. -/
def step (c : Compositor) : Event → Option (m Compositor)
  | .ipcFd mask read => if c.ipc.ipcSource.isSome then some (fx.ipcFdHandler c mask read) else none
  | .disconnect client order =>
    if client ∈ c.clients ∧ order.Perm (ownedObjects c client) then
      some (fx.wlClientDestroy c client order)
    else none
  | .registerShell client =>
    if client ∈ c.managers then some (fx.playosManagerRegisterShell c client) else none
  | .registerOverlay client =>
    if client ∈ c.managers then some (fx.playosManagerRegisterOverlay c client) else none
  | .overlayRequest resource request =>
    (c.overlayResources.find? fun bound ↦ bound.resource = resource).map fun bound ↦
      fx.playosOverlayRequest c bound.client request
  | .newToplevel client alloc =>
    if client ∈ c.clients then some (fx.handleNewXdgToplevel c client alloc) else none
  | .commit tree surface =>
    (c.track? tree).map fun track ↦ fx.handleToplevelCommit c track surface
  | .destroyToplevel tree => (c.track? tree).map fun track ↦ fx.handleToplevelDestroy c track
  | .key keycode state => some (fx.handleKeyboardKey c keycode state)
  | .ipcTimer result => (PlayosCompositor.step c (.ipcTimer result)).map pure
  | .ipcLink link => (PlayosCompositor.step c (.ipcLink link)).map pure
  | .connect client => (PlayosCompositor.step c (.connect client)).map pure
  | .bindManager client created => (PlayosCompositor.step c (.bindManager client created)).map pure
  | .bindOverlay client created => (PlayosCompositor.step c (.bindOverlay client created)).map pure
  | .newOutput calls => (PlayosCompositor.step c (.newOutput calls)).map pure
  | .frame sceneOutput windowElapsed =>
    (PlayosCompositor.step c (.frame sceneOutput windowElapsed)).map pure

/-- With calls that return, the handlers are those of the model. -/
theorem step_plain (c : Compositor) (e : Event) : plain.step c e = PlayosCompositor.step c e := by
  cases e with
  | disconnect client order =>
    have hfold : order.foldlM plain.destroyObject (runDestroyListeners c client) =
        order.foldl PlayosCompositor.destroyObject (runDestroyListeners c client) :=
      List.idRun_foldlM
    simp only [step, wlClientDestroy, hfold]
    rfl
  | ipcTimer result => exact Option.map_id'
  | ipcLink link => exact Option.map_id'
  | connect client => exact Option.map_id'
  | bindManager client created => exact Option.map_id'
  | bindOverlay client created => exact Option.map_id'
  | _ => rfl

/-- Whether an event can occur does not depend on the effects. -/
theorem isSome_step (c : Compositor) (e : Event) :
    (fx.step c e).isSome = (PlayosCompositor.step c e).isSome := by
  cases e with
  | key keycode state => rfl
  | _ => simp only [step, PlayosCompositor.step, Option.isSome_map] <;> split <;> rfl

end Effects

end PlayosCompositor
