import PlayosCompositor.Base.EarlyReturn
import PlayosCompositor.Outputs.Graphics
import PlayosCompositor.Outputs.Shutdown

/-!
# From the start to the exit

`main` with `playos_compositor_start`, `playos_compositor_run` and `playos_compositor_destroy`,
over any outcome of the calls that they make and any outputs that are announced. What is done is
kept in a log, together with the environment that wlroots reads when it creates a backend or a
renderer. `wl_display_destroy` is taken to return, whatever is still linked by then.
-/

namespace PlayosCompositor

open EarlyReturn

/-! ### State -/

/-- A directory that can hold the socket. -/
inductive Directory
  | runPlayos
  | other (id : Nat)
  deriving DecidableEq, Repr

/-- The environment variables that the start reads or sets; `WLR_DRM_DEVICES`, which only
wlroots reads, is left out. -/
structure Environment where
  playosBackend : Option String
  playosRenderer : Option String
  xdgRuntimeDir : Option Directory
  wlrBackends : Option String
  wlrRenderer : Option String
  deriving DecidableEq, Repr

/-- Lifecycle states; `include/compositor.h:33`. -/
inductive CompositorState
  | starting
  | ready
  | running
  | shuttingDown
  deriving DecidableEq, Repr

/-- What is created after the backend, in this order; `src/compositor.c:382–445`. -/
inductive DisplayObject
  | scene
  | outputLayout
  | compositor
  | xdgShell
  | screencopy
  | seat
  | playosManager
  | playosOverlay
  deriving DecidableEq, Repr

/-- The start ends without it. -/
def DisplayObject.required : DisplayObject → Bool
  | .compositor | .screencopy => false
  | _ => true

/-- One thing that is done. Backends and renderers are created with what `WLR_BACKENDS` and
`WLR_RENDERER` say at that moment; `listen` stands for the three listeners that the start adds,
and `unlisten` for the five removals, with whether they have left every signal's list empty. -/
inductive SessionOp
  | displayCreate
  | backendAutocreate (backends : Option String) (created : Bool)
  | rendererAutocreate (renderer : Option String) (created : Bool)
  | rendererInitDisplay
  | allocatorAutocreate (created : Bool)
  | create (object : DisplayObject) (created : Bool)
  | listen
  | addSocket (dir : Directory)
  | chmodSocket (dir : Directory)
  | backendStart
  | readiness (text : String)
  | ipcStart
  | displayRun
  | unlisten (emptied : Bool)
  | ipcStop
  | displayDestroy
  deriving DecidableEq, Repr

/-- The environment, the graphics stack, the two fields for the lifecycle and the log. -/
structure Session where
  env : Environment
  graphics : Graphics
  state : CompositorState
  running : Bool
  log : List SessionOp
  deriving DecidableEq, Repr

/-- The outcomes of the calls, the process identity, and those of the handlers of the outputs that
are announced until the display is terminated. -/
structure StartCalls where
  graphics : GraphicsCalls
  creates : DisplayObject → Bool
  addSocket : Bool
  chmod : Bool
  backendStart : Bool
  readinessFile : Bool
  pid : Nat
  outputs : List OutputCalls

/-- How a session ends. -/
inductive SessionEnd
  | failure
  | crash
  | success
  deriving DecidableEq, Repr

namespace Session

/-- After `playos_compositor_init`. -/
def initial (env : Environment) : Session := ⟨env, .zeroed, .starting, false, []⟩

/-! ### Calls -/

/-- One more entry in the log. -/
def note (op : SessionOp) : Code Session Unit := change fun s ↦ { s with log := s.log ++ [op] }

/-- `wl_display_destroy` and the return of -1. -/
def giveUp : Code Session Unit := do
  note .displayDestroy
  leave

/-- `setenv("WLR_BACKENDS", …, 1)`. -/
def setBackends (backends : String) : Code Session Unit :=
  change fun s ↦ { s with env := { s.env with wlrBackends := some backends } }

/-- `setenv("WLR_RENDERER", …, 1)`. -/
def setRenderer (renderer : String) : Code Session Unit :=
  change fun s ↦ { s with env := { s.env with wlrRenderer := some renderer } }

/-- `wlr_backend_autocreate`. -/
def wlrBackendAutocreate (created : Bool) : Code Session Bool := do
  change fun s ↦ { s with
    graphics := { s.graphics with backend := created }
    log := s.log ++ [.backendAutocreate s.env.wlrBackends created] }
  return created

/-- `wlr_renderer_autocreate`. -/
def wlrRendererAutocreate (created : Bool) : Code Session Bool := do
  change fun s ↦ { s with
    graphics := { s.graphics with renderer := created }
    log := s.log ++ [.rendererAutocreate s.env.wlrRenderer created] }
  return created

/-- `wlr_renderer_init_wl_display`. -/
def wlrRendererInitWlDisplay : Code Session Unit :=
  change fun s ↦ { s with
    graphics := { s.graphics with displayInits := s.graphics.displayInits + 1 }
    log := s.log ++ [.rendererInitDisplay] }

/-- `wlr_allocator_autocreate`. -/
def wlrAllocatorAutocreate (created : Bool) : Code Session Bool := do
  change fun s ↦ { s with
    graphics := { s.graphics with allocator := created }
    log := s.log ++ [.allocatorAutocreate created] }
  return created

/-! ### The start -/

/-- `compositor_apply_renderer_preference`, `src/compositor.c:153`. -/
def compositorApplyRendererPreference : Code Session Unit := change fun s ↦
  match s.env.playosRenderer with
  | none => s
  | some pref =>
    if pref = "" ∨ pref = "auto" then s
    else { s with env := { s.env with wlrRenderer := some pref } }

/-- `playos_drm_backend_start`, `src/drm_backend.c:15`: whether it returned 0. -/
def playosDrmBackendStart (calls : DrmCalls) : Code Session Bool := do
  setBackends "drm"
  let backend ← wlrBackendAutocreate calls.backend
  if !backend then return false
  else do
    let renderer ← wlrRendererAutocreate calls.renderer
    let renderer ← (if renderer then return true else do
      setRenderer "pixman"
      wlrRendererAutocreate calls.softwareRenderer)
    if !renderer then return false
    else do
      wlrRendererInitWlDisplay
      wlrAllocatorAutocreate calls.allocator

/-- The headless backend where no card was found, `src/compositor.c:275–301`. -/
def headlessFallback (calls : CreateCalls) : Code Session Unit := do
  setBackends "headless"
  let backend ← wlrBackendAutocreate calls.backend
  if !backend then giveUp
  else do
    setRenderer "pixman"
    let renderer ← wlrRendererAutocreate calls.renderer
    if renderer then wlrRendererInitWlDisplay
    let allocator ← wlrAllocatorAutocreate calls.allocator
    if !renderer || !allocator then giveUp

/-- The headless backend after a failed start on the GPU, `src/compositor.c:331–344`. -/
def headlessAfterDrm (calls : CreateCalls) : Code Session Unit := do
  setBackends "headless"
  let backend ← wlrBackendAutocreate calls.backend
  if !backend then giveUp
  else do
    let renderer ← wlrRendererAutocreate calls.renderer
    if renderer then wlrRendererInitWlDisplay
    let _ ← wlrAllocatorAutocreate calls.allocator

/-- The headless and nested paths, `src/compositor.c:347–371`. -/
def autocreate (backendType : Backend) (calls : CreateCalls) : Code Session Unit := do
  setBackends (if backendType = .headless then "headless" else "wayland")
  let backend ← wlrBackendAutocreate calls.backend
  if !backend then giveUp
  else do
    let renderer ← wlrRendererAutocreate calls.renderer
    if !renderer then giveUp
    else do
      wlrRendererInitWlDisplay
      let allocator ← wlrAllocatorAutocreate calls.allocator
      if !allocator then giveUp

/-- Backend selection, `src/compositor.c:243–372`. -/
def selectBackend (backendType : Backend) (calls : GraphicsCalls) : Code Session Unit :=
  if backendType = .drm then
    if !discoverGpu calls.discovery 10 false then
      match compositorProbeDrmCard calls.probe with
      | none => headlessFallback calls.others
      | some size => do
        change fun s ↦
          let (pw, ph) := size.getD (0, 0)
          if pw ≠ 0 ∧ ph ≠ 0 then
            { s with graphics := { s.graphics with outputWidth := pw, outputHeight := ph } }
          else s
        let started ← playosDrmBackendStart calls.drm
        if !started then giveUp
    else do
      change fun s ↦
        match calls.gpuOutput with
        | none => s
        | some output => { s with graphics := { s.graphics with
          outputWidth := output.width
          outputHeight := output.height
          outputRefreshMhz := output.refreshMhz
          outputScale100 := output.scale100 } }
      let started ← playosDrmBackendStart calls.drm
      if !started then headlessAfterDrm calls.others
  else autocreate backendType calls.others

/-- The objects that are created with the display, `src/compositor.c:382–445`. -/
def createObjects (creates : DisplayObject → Bool) : List DisplayObject → Code Session Unit
  | [] => return ()
  | object :: objects => do
    note (.create object (creates object))
    if object.required && !creates object then giveUp else createObjects creates objects

/-- The order of the creation calls. -/
def displayObjects : List DisplayObject :=
  [.scene, .outputLayout, .compositor, .xdgShell, .screencopy, .seat, .playosManager,
    .playosOverlay]

/-- The socket, `src/compositor.c:459–488`: it is created in `XDG_RUNTIME_DIR`, which is set
unless it is there, and opened in `/run/playos`. -/
def addSocket (added opened : Bool) : Code Session Unit := do
  change fun s ↦ { s with env := { s.env with
    xdgRuntimeDir := some (s.env.xdgRuntimeDir.getD .runPlayos) } }
  if !added then giveUp
  else do
    change fun s ↦ { s with
      log := s.log ++ [.addSocket (s.env.xdgRuntimeDir.getD .runPlayos)] }
    if !opened then giveUp else note (.chmodSocket .runPlayos)

/-- The name of the requested backend; `src/readiness.c:28–29`. -/
def backendName : Backend → String
  | .headless => "headless"
  | .wayland => "wayland"
  | .drm => "drm"

/-- What is written to `/run/playos/compositor-ready`. -/
def readinessText (pid : Nat) (backendType : Backend) : String :=
  "pid=" ++ toString pid ++ "\nsocket=playos-0\nbackend=" ++ backendName backendType ++
    "\nready=true\n"

/-- `playos_readiness_signal`, `src/readiness.c:17`; a file that cannot be written is no
error. -/
def playosReadinessSignal (backendType : Backend) (calls : StartCalls) : Code Session Unit :=
  if !calls.readinessFile then return ()
  else note (.readiness (readinessText calls.pid backendType))

/-- `playos_compositor_start` up to the start of the backend, `src/compositor.c:218–498`. -/
def bringUp (backendType : Backend) (calls : StartCalls) : Code Session Unit :=
  if !calls.graphics.display then leave
  else do
    note .displayCreate
    compositorApplyRendererPreference
    selectBackend backendType calls.graphics
    createObjects calls.creates displayObjects
    note .listen
    addSocket calls.addSocket calls.chmod
    if !calls.backendStart then giveUp else note .backendStart

/-- `playos_compositor_start`, `src/compositor.c:218`. -/
def playosCompositorStart (backendType : Backend) (calls : StartCalls) : Code Session Unit := do
  bringUp backendType calls
  playosReadinessSignal backendType calls
  change fun s ↦ { s with state := .ready, running := true, log := s.log ++ [.ipcStart] }

/-! ### The rest of the session -/

/-- `playos_compositor_run`, `src/compositor.c:521`, until the display is terminated. -/
def playosCompositorRun (s : Session) : Session := { s with log := s.log ++ [.displayRun] }

/-- `playos_compositor_destroy`, `src/compositor.c:528`; it goes no further than a NULL pointer
that a removal follows. -/
def playosCompositorDestroy (backendType : Backend) (outputs : List OutputCalls) :
    Code Session Unit := do
  change fun s ↦ { s with running := false, state := .shuttingDown }
  match (linksAtDestroy backendType outputs).bind Listeners.unlisten with
  | none => leave
  | some emptied => do
    note (.unlisten emptied)
    note .ipcStop
    note .displayDestroy

/-- The backend that `PLAYOS_BACKEND` asks for, `src/main.c:9–17`. -/
def requestedBackend (env : Environment) : Backend :=
  match env.playosBackend with
  | none => .headless
  | some name =>
    if name = "wayland" then .wayland else if name = "drm" then .drm else .headless

/-- `main`, `src/main.c:7`: the session at its end, and how it ends. -/
def main (env : Environment) (calls : StartCalls) : Session × SessionEnd :=
  match playosCompositorStart (requestedBackend env) calls (initial env) with
  | (none, s) => (s, .failure)
  | (some _, s) =>
    match playosCompositorDestroy (requestedBackend env) calls.outputs (playosCompositorRun s) with
    | (none, s) => (s, .crash)
    | (some _, s) => (s, .success)

end Session

end PlayosCompositor
