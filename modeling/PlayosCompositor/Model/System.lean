import PlayosCompositor.Base.Transition
import PlayosCompositor.Model.TrustedClient

/-!
# The compositor as a transition system

Every callback that libwayland and wlroots run on the compositor is an event; `step` is
`none` when the event cannot occur. A client's disconnect runs its destroy listeners and
then destroys its objects in any order (`wl_client_destroy`), all within one event.
-/

namespace PlayosCompositor

/-! ### IPC commands -/

/-- The five message types that `ipc_dispatch` acts on; `src/compositor_ipc.c:149–166`. -/
inductive IpcCommand
  | setExpectedGame (launchToken gameId : CString)
  | clearExpectedGame
  | forceTerminateGame
  | showOverlay
  | hideOverlay
  deriving DecidableEq

/-- `ipc_dispatch`, `src/compositor_ipc.c:140`, once the message's type is known. -/
def ipcDispatch (c : Compositor) : IpcCommand → Compositor
  | .setExpectedGame launchToken gameId =>
    playosStateHandleSetExpectedGame c (some launchToken) (some gameId)
  | .clearExpectedGame => playosStateHandleClearExpected c
  | .forceTerminateGame => playosStateHandleForceTerminate c
  | .showOverlay => playosOverlayManagerShow c
  | .hideOverlay => playosOverlayManagerHide c

/-- Condition bits that the event loop passes to `ipc_fd_handler`. -/
structure FdMask where
  hangupOrError : Bool
  readable : Bool
  deriving DecidableEq, Repr

/-- What `read` yields in `ipc_fd_handler`: end of file or an error, a frame that is
dropped (short, invalid, without a type, or of another type), or a command. -/
inductive IpcRead
  | failed
  | dropped
  | command (command : IpcCommand)
  deriving DecidableEq

/-- `ipc_fd_handler`, `src/compositor_ipc.c:252`. -/
def ipcFdHandler (c : Compositor) (mask : FdMask) (read : IpcRead) : Compositor :=
  if mask.hangupOrError then { c with ipc := c.ipc.ipcDisconnect.ipcScheduleReconnect }
  else if !mask.readable then c
  else
    match read with
    | .failed => { c with ipc := c.ipc.ipcDisconnect.ipcScheduleReconnect }
    | .dropped => c
    | .command command => ipcDispatch c command

/-! ### System button -/

/-- `WL_KEYBOARD_KEY_STATE_*`. -/
inductive KeyState
  | released
  | pressed
  deriving DecidableEq, Repr

/-- The aliases of the SYSTEM button: `BTN_MODE`, `KEY_PROG1`, `BTN_TRIGGER_HAPPY1`,
`KEY_F17`. -/
def systemKeycodes : List UInt32 := [0x13c, 148, 0x2c0, 187]

/-- The aliases of the QUICK_MENU button: `KEY_PROG2`, `BTN_TRIGGER_HAPPY2`, `KEY_F16`. -/
def quickMenuKeycodes : List UInt32 := [149, 0x2c1, 186]

/-- `is_reserved_keycode`, `src/system_button.c:47`. -/
def isReservedKeycode (keycode : UInt32) : Bool :=
  systemKeycodes.contains keycode || quickMenuKeycodes.contains keycode

/-- `handle_keyboard_key`, `src/system_button.c:64`. -/
def handleKeyboardKey (c : Compositor) (keycode : UInt32) (state : KeyState) : Compositor :=
  if isReservedKeycode keycode ∧ state = .pressed then
    if systemKeycodes.contains keycode then
      if c.fgState = .gameForeground then playosOverlayManagerShow c
      else if c.fgState = .playosUiForegroundWithGameBackground then playosOverlayManagerHide c
      else c
    else c
  else c

/-! ### Objects of a client -/

/-- An object whose destruction runs code of the compositor. -/
inductive ClientObject
  | toplevel (tree : TreeId)
  | overlayBinding (resource : ResourceId)
  deriving DecidableEq, Repr

/-- The tracked toplevel with a given tree. -/
def Foreground.track? (c : Foreground) (tree : TreeId) : Option ToplevelTrack :=
  c.toplevels.find? fun track ↦ track.tree = tree

/-- Destruction of one object, whoever asks for it. -/
def destroyObject (c : Compositor) : ClientObject → Compositor
  | .toplevel tree =>
    match c.track? tree with
    | none => c
    | some track => handleToplevelDestroy c track
  | .overlayBinding resource => playosOverlayResourceDestroy c resource

/-- The objects that a client owns. -/
def ownedObjects (c : Compositor) (client : ClientId) : List ClientObject :=
  (c.toplevels.filter fun track ↦ track.client = client).map (fun track ↦ .toplevel track.tree) ++
    (c.overlayResources.filter fun bound ↦ bound.client = client).map
      fun bound ↦ .overlayBinding bound.resource

/-- The destroy listeners that are linked to a client, run when it goes. -/
def runDestroyListeners (c : Compositor) (client : ClientId) : Compositor :=
  let c := if c.shellClientDestroy = some client then playosTrustedShellClientGone c else c
  if c.overlayClientDestroy = some client then playosTrustedOverlayClientGone c else c

/-- `wl_client_destroy`: listeners first, then the objects in the given order. -/
def wlClientDestroy (c : Compositor) (client : ClientId) (order : List ClientObject) :
    Compositor :=
  let c := order.foldl destroyObject (runDestroyListeners c client)
  { c with
    clients := c.clients.filter (· ≠ client)
    managers := c.managers.filter (· ≠ client) }

/-! ### Events -/

/-- What can happen to the compositor. -/
inductive Event
  | ipcFd (mask : FdMask) (read : IpcRead)
  | ipcTimer (result : ConnectResult)
  | ipcLink (link : Link)
  | connect (client : ClientId)
  | disconnect (client : ClientId) (order : List ClientObject)
  | bindManager (client : ClientId) (created : Bool)
  | registerShell (client : ClientId)
  | registerOverlay (client : ClientId)
  | bindOverlay (client : ClientId) (created : Bool)
  | overlayRequest (resource : ResourceId) (request : OverlayRequest)
  | newToplevel (client : ClientId) (alloc : ToplevelAlloc)
  | commit (tree : TreeId) (surface : SurfaceCommit)
  | destroyToplevel (tree : TreeId)
  | key (keycode : UInt32) (state : KeyState)
  | newOutput (calls : OutputCalls)
  | frame (sceneOutput windowElapsed : Bool)
  deriving DecidableEq

/-- A readable socket that delivers one command. -/
abbrev Event.command (command : IpcCommand) : Event := .ipcFd ⟨false, true⟩ (.command command)

/-- One event, or `none` when it cannot occur: requests come from connected clients on
objects they have bound, socket events from an open connection, and a timer fires when it
is armed. A new connection gets a descriptor that is not in use. -/
def step (c : Compositor) : Event → Option Compositor
  | .ipcFd mask read =>
    if c.ipc.ipcSource.isSome then some (ipcFdHandler c mask read) else none
  | .ipcTimer result =>
    if (c.ipc.ipcReconnectTimer.bind Timer.armedMs).isSome ∧
        ∀ fd ∈ c.ipc.openFds, result ≠ .connected fd then
      let fired := { c.ipc with ipcReconnectTimer := some ⟨none⟩ }
      some { c with ipc := fired.ipcReconnectHandler result }
    else none
  | .ipcLink link =>
    if c.ipc.compositorSockFd.isSome then some { c with ipc := { c.ipc with link } } else none
  | .connect client =>
    if client ∈ c.clients then none else some { c with clients := client :: c.clients }
  | .disconnect client order =>
    if client ∈ c.clients ∧ order.Perm (ownedObjects c client) then
      some (wlClientDestroy c client order)
    else none
  | .bindManager client created =>
    if client ∈ c.clients then some (playosManagerBind c client created) else none
  | .registerShell client =>
    if client ∈ c.managers then some (playosManagerRegisterShell c client) else none
  | .registerOverlay client =>
    if client ∈ c.managers then some (playosManagerRegisterOverlay c client) else none
  | .bindOverlay client created =>
    if client ∈ c.clients then some (playosOverlayBind c client created) else none
  | .overlayRequest resource request =>
    (c.overlayResources.find? fun bound ↦ bound.resource = resource).map fun bound ↦
      playosOverlayRequest c bound.client request
  | .newToplevel client alloc =>
    if client ∈ c.clients then some (handleNewXdgToplevel c client alloc) else none
  | .commit tree surface =>
    (c.track? tree).map fun track ↦ handleToplevelCommit c track surface
  | .destroyToplevel tree =>
    (c.track? tree).map fun track ↦ handleToplevelDestroy c track
  | .key keycode state => some (handleKeyboardKey c keycode state)
  | .newOutput calls => some (handleNewOutput c calls)
  | .frame sceneOutput windowElapsed => some (handleFrame c sceneOutput windowElapsed)

/-- What an event that occurs does: its guard held and its handler ran. -/
inductive Handled (c : Compositor) : Event → Compositor → Prop
  | ipcFd (mask : FdMask) (read : IpcRead) (h : c.ipc.ipcSource.isSome) :
    Handled c (.ipcFd mask read) (ipcFdHandler c mask read)
  | ipcTimer (result : ConnectResult) (h : (c.ipc.ipcReconnectTimer.bind Timer.armedMs).isSome)
      (hfd : ∀ fd ∈ c.ipc.openFds, result ≠ .connected fd) :
    Handled c (.ipcTimer result) { c with
      ipc := IpcClient.ipcReconnectHandler { c.ipc with ipcReconnectTimer := some ⟨none⟩ } result }
  | ipcLink (link : Link) (h : c.ipc.compositorSockFd.isSome) :
    Handled c (.ipcLink link) { c with ipc := { c.ipc with link } }
  | connect (client : ClientId) (h : client ∉ c.clients) :
    Handled c (.connect client) { c with clients := client :: c.clients }
  | disconnect (client : ClientId) (order : List ClientObject) (h : client ∈ c.clients)
      (ho : order.Perm (ownedObjects c client)) :
    Handled c (.disconnect client order) (wlClientDestroy c client order)
  | bindManager (client : ClientId) (created : Bool) (h : client ∈ c.clients) :
    Handled c (.bindManager client created) (playosManagerBind c client created)
  | registerShell (client : ClientId) (h : client ∈ c.managers) :
    Handled c (.registerShell client) (playosManagerRegisterShell c client)
  | registerOverlay (client : ClientId) (h : client ∈ c.managers) :
    Handled c (.registerOverlay client) (playosManagerRegisterOverlay c client)
  | bindOverlay (client : ClientId) (created : Bool) (h : client ∈ c.clients) :
    Handled c (.bindOverlay client created) (playosOverlayBind c client created)
  | overlayRequest (resource : ResourceId) (request : OverlayRequest) (bound : OverlayBound)
      (h : (c.overlayResources.find? fun bound ↦ bound.resource = resource) = some bound) :
    Handled c (.overlayRequest resource request) (playosOverlayRequest c bound.client request)
  | newToplevel (client : ClientId) (alloc : ToplevelAlloc) (h : client ∈ c.clients) :
    Handled c (.newToplevel client alloc) (handleNewXdgToplevel c client alloc)
  | commit (tree : TreeId) (surface : SurfaceCommit) (track : ToplevelTrack)
      (h : c.track? tree = some track) :
    Handled c (.commit tree surface) (handleToplevelCommit c track surface)
  | destroyToplevel (tree : TreeId) (track : ToplevelTrack) (h : c.track? tree = some track) :
    Handled c (.destroyToplevel tree) (handleToplevelDestroy c track)
  | key (keycode : UInt32) (state : KeyState) :
    Handled c (.key keycode state) (handleKeyboardKey c keycode state)
  | newOutput (calls : OutputCalls) : Handled c (.newOutput calls) (handleNewOutput c calls)
  | frame (sceneOutput windowElapsed : Bool) :
    Handled c (.frame sceneOutput windowElapsed) (handleFrame c sceneOutput windowElapsed)

/-- Every step is an event that is handled. -/
theorem handled_of_step {c c' : Compositor} {e : Event} (hs : step c e = some c') :
    Handled c e c' := by
  cases e with
  | ipcFd mask read =>
    obtain ⟨h, hc⟩ := Option.ite_none_right_eq_some.mp hs
    exact Option.some.inj hc ▸ .ipcFd mask read h
  | ipcTimer result =>
    obtain ⟨⟨h, hfd⟩, hc⟩ := Option.ite_none_right_eq_some.mp hs
    exact Option.some.inj hc ▸ .ipcTimer result h hfd
  | ipcLink link =>
    obtain ⟨h, hc⟩ := Option.ite_none_right_eq_some.mp hs
    exact Option.some.inj hc ▸ .ipcLink link h
  | connect client =>
    obtain ⟨h, hc⟩ := Option.ite_none_left_eq_some.mp hs
    exact Option.some.inj hc ▸ .connect client h
  | disconnect client order =>
    obtain ⟨⟨h, ho⟩, hc⟩ := Option.ite_none_right_eq_some.mp hs
    exact Option.some.inj hc ▸ .disconnect client order h ho
  | bindManager client created =>
    obtain ⟨h, hc⟩ := Option.ite_none_right_eq_some.mp hs
    exact Option.some.inj hc ▸ .bindManager client created h
  | registerShell client =>
    obtain ⟨h, hc⟩ := Option.ite_none_right_eq_some.mp hs
    exact Option.some.inj hc ▸ .registerShell client h
  | registerOverlay client =>
    obtain ⟨h, hc⟩ := Option.ite_none_right_eq_some.mp hs
    exact Option.some.inj hc ▸ .registerOverlay client h
  | bindOverlay client created =>
    obtain ⟨h, hc⟩ := Option.ite_none_right_eq_some.mp hs
    exact Option.some.inj hc ▸ .bindOverlay client created h
  | overlayRequest resource request =>
    obtain ⟨bound, h, rfl⟩ := Option.map_eq_some_iff.mp hs
    exact .overlayRequest resource request bound h
  | newToplevel client alloc =>
    obtain ⟨h, hc⟩ := Option.ite_none_right_eq_some.mp hs
    exact Option.some.inj hc ▸ .newToplevel client alloc h
  | commit tree surface =>
    obtain ⟨track, h, rfl⟩ := Option.map_eq_some_iff.mp hs
    exact .commit tree surface track h
  | destroyToplevel tree =>
    obtain ⟨track, h, rfl⟩ := Option.map_eq_some_iff.mp hs
    exact .destroyToplevel tree track h
  | key keycode state => exact Option.some.inj hs ▸ .key keycode state
  | newOutput calls => exact Option.some.inj hs ▸ .newOutput calls
  | frame sceneOutput windowElapsed =>
    exact Option.some.inj hs ▸ .frame sceneOutput windowElapsed

/-! ### Start -/

/-- What discovery and the first connection attempt have settled when the event loop
starts: backend, recorded output geometry and the state of `compositor.sock`. -/
structure StartConfig where
  backendType : Backend
  outputWidth : Int
  outputHeight : Int
  outputRefreshMhz : Int
  outputScale100 : Int
  connect : ConnectResult
  deriving DecidableEq, Repr

/-- `playos_state_init`, `src/state_machine.c:63`, with `playos_trusted_client_init`,
`src/trusted_client.c:15`. -/
def playosStateInit : Foreground where
  shellClient := none
  overlayClient := none
  fgState := .shellForeground
  expectedLaunchToken := .clear
  expectedGameId := .clear
  shellTree := none
  gameTree := none
  overlayTree := none
  toplevels := []
  gameSurfaceReady := false
  overlayVisible := false

/-- `playos_compositor_init`, `src/compositor.c:116`: zeroes, then `playos_state_init`. -/
def playosCompositorInit (backend : Backend) : Compositor where
  toForeground := playosStateInit
  overlayResource := none
  overlayResources := []
  shellClientDestroy := none
  overlayClientDestroy := none
  clients := []
  managers := []
  nextId := 0
  backendType := backend
  ipc := ⟨none, none, none, 100, [], .up⟩
  fpsCommitsShell := 0
  fpsCommitsGame := 0
  outputWidth := 0
  outputHeight := 0
  outputRefreshMhz := 0
  outputScale100 := 0
  scene := .create
  sent := []
  wire := []

/-- The compositor when `playos_compositor_start` has succeeded and before any event. -/
def playosCompositorStarted (config : StartConfig) : Compositor :=
  let c := playosCompositorInit config.backendType
  { c with
    outputWidth := config.outputWidth
    outputHeight := config.outputHeight
    outputRefreshMhz := config.outputRefreshMhz
    outputScale100 := config.outputScale100
    ipc := c.ipc.playosCompositorIpcStart config.connect }

/-- The compositor's runs start once it has been started, with any configuration. -/
def compositorSystem : Transition.System Compositor Event where
  initial c := ∃ config, c = playosCompositorStarted config
  step := step

end PlayosCompositor
