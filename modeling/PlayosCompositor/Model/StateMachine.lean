import PlayosCompositor.Model.IpcClient

/-!
# Foreground state machine and overlay visibility

`src/state_machine.c`, `src/overlay_manager.c` and the event helpers of
`src/playos_manager.c:290–313`. Each function takes the compositor and returns it changed.
-/

namespace PlayosCompositor

/-! ### Overlay event helpers -/

/-- The common body of the three helpers: nothing is sent while no resource is bound. -/
def sendOverlayEvent (c : Compositor) (event : OverlayEvent) : Compositor :=
  match c.overlayResource with
  | none => c
  | some resource => { c with wire := c.wire ++ [.overlay resource event] }

/-- `playos_overlay_send_about_to_show`, `src/playos_manager.c:291`. -/
def playosOverlaySendAboutToShow (c : Compositor) : Compositor := sendOverlayEvent c .aboutToShow

/-- `playos_overlay_send_about_to_hide`, `src/playos_manager.c:298`. -/
def playosOverlaySendAboutToHide (c : Compositor) : Compositor := sendOverlayEvent c .aboutToHide

/-- `playos_overlay_send_output_info`, `src/playos_manager.c:305`. -/
def playosOverlaySendOutputInfo (c : Compositor) : Compositor :=
  sendOverlayEvent c (.outputInfo c.outputWidth c.outputHeight (.ofInt c.outputRefreshMhz)
    (.ofInt c.outputScale100))

/-! ### `src/state_machine.c` -/

namespace ForegroundState

/-- States in which the shell's tree is shown. -/
def shellVisible (state : ForegroundState) : Bool :=
  state == .shellForeground || state == .gameStarting || state == .terminatingGame

/-- States in which the game's tree is shown. -/
def gameVisible (state : ForegroundState) : Bool :=
  state == .gameForeground || state == .playosUiForegroundWithGameBackground

/-- Whether the overlay's tree is shown, given the requested visibility. -/
def overlayVisible (state : ForegroundState) (requested : Bool) : Bool :=
  requested && state == .playosUiForegroundWithGameBackground

end ForegroundState

/-- `set_tree_enabled`, `src/state_machine.c:34`. -/
def setTreeEnabled (scene : Scene) (tree : Option TreeId) (enabled : Bool) : Scene :=
  match tree with
  | none => scene
  | some tree => scene.setEnabled (.tree tree) enabled

/-- `playos_state_refresh`, `src/state_machine.c:42`. -/
def playosStateRefresh (c : Compositor) : Compositor :=
  let scene := setTreeEnabled c.scene c.shellTree c.fgState.shellVisible
  let scene := setTreeEnabled scene c.gameTree c.fgState.gameVisible
  let scene := setTreeEnabled scene c.overlayTree (c.fgState.overlayVisible c.overlayVisible)
  { c with scene }

/-- `playos_state_transition`, `src/state_machine.c:76`. -/
def playosStateTransition (c : Compositor) (state : ForegroundState) : Compositor :=
  if c.fgState = state then c
  else
    let c :=
      if state = .shellForeground ∨ state = .terminatingGame then
        let c := if c.overlayVisible then playosOverlaySendAboutToHide c else c
        { c with overlayVisible := false }
      else c
    let c := { c with fgState := state }
    let c := playosStateRefresh c
    playosCompositorIpcSend c (.stateChanged state)

/-- `playos_state_handle_set_expected_game`, `src/state_machine.c:112`; `none` is NULL. -/
def playosStateHandleSetExpectedGame (c : Compositor) (launchToken gameId : Option CString) :
    Compositor :=
  let c := { c with
    expectedLaunchToken := (launchToken.getD .empty).store 64
    expectedGameId := (gameId.getD .empty).store 256
    gameSurfaceReady := false }
  playosStateTransition c .gameStarting

/-- The three assignments that forget the expected game; they recur in
`src/state_machine.c:131–133,148–150,186–188`. -/
def forgetExpected (c : Compositor) : Compositor :=
  { c with
    expectedLaunchToken := .clear
    expectedGameId := .clear
    gameSurfaceReady := false }

/-- `playos_state_handle_clear_expected`, `src/state_machine.c:129`. -/
def playosStateHandleClearExpected (c : Compositor) : Compositor :=
  let c := forgetExpected c
  if c.fgState = .gameStarting ∨ c.fgState = .gameForeground ∨
      c.fgState = .playosUiForegroundWithGameBackground then
    playosStateTransition c .shellForeground
  else c

/-- `playos_state_handle_force_terminate`, `src/state_machine.c:143`. -/
def playosStateHandleForceTerminate (c : Compositor) : Compositor :=
  forgetExpected (playosStateTransition c .terminatingGame)

/-- `playos_state_game_surface_ready`, `src/state_machine.c:154`. -/
def playosStateGameSurfaceReady (c : Compositor) : Compositor :=
  if c.gameSurfaceReady then c
  else if c.fgState ≠ .gameStarting then c
  else
    let c := { c with gameSurfaceReady := true }
    let c := playosCompositorIpcSend c (.gameSurfaceReady c.expectedLaunchToken)
    playosStateTransition c .gameForeground

/-- `playos_state_game_exited`, `src/state_machine.c:173`; its `crashed` is unused. -/
def playosStateGameExited (c : Compositor) (_crashed : Bool) : Compositor :=
  let c :=
    if c.fgState = .gameStarting ∨ c.fgState = .gameForeground ∨
        c.fgState = .playosUiForegroundWithGameBackground ∨ c.fgState = .terminatingGame then
      playosStateTransition c .shellForeground
    else c
  forgetExpected c

/-! ### `src/overlay_manager.c` -/

/-- `playos_overlay_manager_show`, `src/overlay_manager.c:14`. -/
def playosOverlayManagerShow (c : Compositor) : Compositor :=
  if c.overlayVisible then c
  else
    let c := { c with overlayVisible := true }
    let c := playosOverlaySendOutputInfo c
    let c := playosOverlaySendAboutToShow c
    if c.fgState = .gameForeground then
      playosStateTransition c .playosUiForegroundWithGameBackground
    else playosStateRefresh c

/-- `playos_overlay_manager_hide`, `src/overlay_manager.c:36`. -/
def playosOverlayManagerHide (c : Compositor) : Compositor :=
  if !c.overlayVisible then c
  else
    let c := { c with overlayVisible := false }
    let c := playosOverlaySendAboutToHide c
    if c.fgState = .playosUiForegroundWithGameBackground then
      let next := if c.gameTree.isSome then .gameForeground else .shellForeground
      playosStateTransition c next
    else playosStateRefresh c

end PlayosCompositor
