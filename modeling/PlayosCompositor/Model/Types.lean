import PlayosCompositor.Base.CString
import PlayosCompositor.Base.Stacking

/-!
# Data model

The part of `struct playos_compositor` (`include/compositor.h:78–152`) that the event
handlers read and write, the tracked toplevels (`src/compositor.c:40–49`), the scene list
of wlroots and what the compositor has sent. A pointer is an identity; identities of scene
trees and resources are never given out twice, so a stale pointer names nothing that lives.
-/

namespace PlayosCompositor

/-- The size of `expected_launch_token`; `include/compositor.h:111`. -/
instance neZero_launchToken : NeZero 64 := ⟨by decide⟩

/-- The size of `expected_game_id`; `include/compositor.h:112`. -/
instance neZero_gameId : NeZero 256 := ⟨by decide⟩

/-- A connected Wayland client (`struct wl_client *`). -/
abbrev ClientId := Nat

/-- The scene tree of a toplevel (`struct wlr_scene_tree *`). -/
abbrev TreeId := Nat

/-- A bound `playos_overlay_v1` object (`struct wl_resource *`). -/
abbrev ResourceId := Nat

/-- Backend selection; `include/compositor.h:24`. -/
inductive Backend
  | headless
  | wayland
  | drm
  deriving DecidableEq, Repr

/-- Foreground state machine; `include/compositor.h:46`. -/
inductive ForegroundState
  | shellForeground
  | gameStarting
  | gameForeground
  | playosUiForegroundWithGameBackground
  | terminatingGame
  deriving DecidableEq, Repr

/-- Trusted client roles; `include/compositor.h:57`. -/
inductive TrustedRole
  | none
  | shell
  | overlay
  | game
  deriving DecidableEq, Repr

/-- Names of the IPC wire; `foreground_state_name`, `src/state_machine.c:16`. -/
def foregroundStateName : ForegroundState → String
  | .shellForeground => "SHELL_FOREGROUND"
  | .gameStarting => "GAME_STARTING"
  | .gameForeground => "GAME_FOREGROUND"
  | .playosUiForegroundWithGameBackground => "PLAYOS_UI_FOREGROUND_WITH_GAME_BACKGROUND"
  | .terminatingGame => "TERMINATING_GAME"

/-! ### Scene list of wlroots -/

/-- A direct child of the scene's root: a toplevel's tree or a background rect. -/
inductive SceneNode
  | tree (id : TreeId)
  | rect (id : Nat)
  deriving DecidableEq, Repr

/-- Children of the scene's root from bottom to top, with their enabled flags. -/
structure Scene where
  order : Stacking SceneNode
  enabled : SceneNode → Bool

namespace Scene

/-- Scenes with the same stacking and the same flags are equal. -/
@[ext] theorem ext {s t : Scene} (ho : s.order = t.order) (he : s.enabled = t.enabled) :
    s = t := by
  cases s
  cases t
  cases ho
  cases he
  rfl

/-- `wlr_scene_create`: no children. -/
def create : Scene := ⟨Stacking.empty, fun _ ↦ true⟩

/-- `wlr_scene_node_set_enabled`. -/
def setEnabled (s : Scene) (n : SceneNode) (b : Bool) : Scene :=
  { s with enabled := fun x ↦ if x = n then b else s.enabled x }

/-- `wlr_scene_xdg_surface_create` and `wlr_scene_rect_create`: on top, enabled. -/
def add (s : Scene) (n : SceneNode) : Scene :=
  { s.setEnabled n true with order := s.order.push n }

/-- `wlr_scene_node_raise_to_top`. -/
def raiseToTop (s : Scene) (n : SceneNode) : Scene := { s with order := s.order.raise n }

/-- `wlr_scene_node_lower_to_bottom`. -/
def lowerToBottom (s : Scene) (n : SceneNode) : Scene := { s with order := s.order.lower n }

/-- `wlr_scene_node_destroy`. -/
def destroy (s : Scene) (n : SceneNode) : Scene := { s with order := s.order.remove n }

end Scene

/-! ### What the compositor sends -/

/-- Messages to playos-init; `include/compositor.h:72–73`. -/
inductive IpcMessage
  | stateChanged (state : ForegroundState)
  | gameSurfaceReady (launchToken : CharBuf 64)
  deriving DecidableEq

namespace IpcMessage

/-- The `type` member; `PLAYOS_COMPOSITOR_MSG_*`. -/
def type : IpcMessage → String
  | .stateChanged _ => "CompositorStateChanged"
  | .gameSurfaceReady _ => "GameSurfaceReady"

private def stateText (state : ForegroundState) : CString :=
  .ofString "\"state\":\"" ++ .ofString (foregroundStateName state) ++ .ofString "\""

private def tokenText (launchToken : CharBuf 64) : CString :=
  .ofString "\"launch_token\":\"" ++ launchToken.toCString ++ .ofString "\""

/-- The extra JSON member, formatted into `extra[160]` (`src/state_machine.c:106`) or
`extra[192]` (`src/state_machine.c:163`). -/
def extraJson : IpcMessage → CString
  | .stateChanged state => ((stateText state).store 160).toCString
  | .gameSurfaceReady launchToken => ((tokenText launchToken).store 192).toCString

/-- Every state name fits its format buffer. -/
theorem extraJson_stateChanged (state : ForegroundState) :
    (stateChanged state).extraJson = stateText state := by
  apply CString.store_of_fits
  cases state <;> decide

/-- Every launch token fits its format buffer, so the member carries it whole. -/
theorem extraJson_gameSurfaceReady (launchToken : CharBuf 64) :
    (gameSurfaceReady launchToken).extraJson = tokenText launchToken := by
  apply CString.store_of_fits
  have hfits := launchToken.fits
  have hopen : (CString.ofString "\"launch_token\":\"").bytes.length = 16 := by decide
  have hclose : (CString.ofString "\"").bytes.length = 1 := by decide
  simp only [tokenText, CString.bytes_append, List.length_append, hopen, hclose]
  omega

end IpcMessage

/-- Outcome of one attempted send to playos-init. -/
inductive SendResult
  | notConnected
  | delivered
  | brokenPipe
  | failed
  deriving DecidableEq, Repr

/-- One call of `playos_compositor_ipc_send` with what became of it. -/
structure IpcAttempt where
  message : IpcMessage
  result : SendResult
  deriving DecidableEq

/-- Events of `playos_overlay_v1`; `protocols/playos-v1.xml`. -/
inductive OverlayEvent
  | aboutToShow
  | aboutToHide
  | outputInfo (width height : Int) (refreshMhz scale100 : UInt32)
  deriving DecidableEq

/-- Errors of `playos_manager_v1`; `protocols/playos-v1.xml`. -/
inductive ManagerError
  | roleAlreadyTaken
  | permissionDenied
  deriving DecidableEq, Repr

/-- What the compositor's own code sends to Wayland clients. -/
inductive WireEvent
  | overlay (resource : ResourceId) (event : OverlayEvent)
  | configure (tree : TreeId) (width height : Int)
  | error (client : ClientId) (code : ManagerError) (message : String)
  | noMemory (client : ClientId)
  deriving DecidableEq

/-! ### The compositor -/

/-- A tracked toplevel; `struct playos_toplevel_track`, `src/compositor.c:41`. -/
structure ToplevelTrack where
  tree : TreeId
  client : ClientId
  role : TrustedRole
  deriving DecidableEq, Repr

/-- A remembered binding; `struct playos_overlay_bound`, `src/playos_manager.c:148`. -/
structure OverlayBound where
  client : ClientId
  resource : ResourceId
  deriving DecidableEq, Repr

/-- Role holders and foreground state machine; `include/compositor.h:98–119`. -/
structure Foreground where
  shellClient : Option ClientId
  overlayClient : Option ClientId
  fgState : ForegroundState
  expectedLaunchToken : CharBuf 64
  expectedGameId : CharBuf 256
  shellTree : Option TreeId
  gameTree : Option TreeId
  overlayTree : Option TreeId
  toplevels : List ToplevelTrack
  gameSurfaceReady : Bool
  overlayVisible : Bool

/-- How the kernel answers `send` on the connected socket. -/
inductive Link
  | up
  | peerClosed
  | failing
  deriving DecidableEq, Repr

/-- The reconnect timer source; a timer that has fired is disarmed until updated. -/
structure Timer where
  armedMs : Option Nat
  deriving DecidableEq, Repr

/-- `compositor.sock` client; `include/compositor.h:122–125`. `openFds` and `link` stand
for the kernel's side: the sockets this client has open and the state of the connection. -/
structure IpcClient where
  compositorSockFd : Option Nat
  ipcSource : Option Nat
  ipcReconnectTimer : Option Timer
  ipcReconnectDelayMs : Nat
  openFds : List Nat
  link : Link
  deriving DecidableEq, Repr

/-- Protocol objects and connections; `include/compositor.h:100–107`. The last three
fields are kept by libwayland and the allocator: the connected clients, those that hold a
`playos_manager_v1` object, and the next fresh identity. -/
structure Registry where
  overlayResource : Option ResourceId
  overlayResources : List OverlayBound
  shellClientDestroy : Option ClientId
  overlayClientDestroy : Option ClientId
  clients : List ClientId
  managers : List ClientId
  nextId : Nat

/-- `struct playos_compositor`, with the scene, the messages sent to playos-init and the
events sent to Wayland clients. -/
structure Compositor extends Foreground, Registry where
  backendType : Backend
  ipc : IpcClient
  fpsCommitsShell : UInt32
  fpsCommitsGame : UInt32
  outputWidth : Int
  outputHeight : Int
  outputRefreshMhz : Int
  outputScale100 : Int
  scene : Scene
  sent : List IpcAttempt
  wire : List WireEvent

end PlayosCompositor
