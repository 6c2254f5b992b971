import PlayosCompositor.Model.Types

/-!
# `compositor.sock` client

Connection, reconnection with back-off and the outcome of sends;
`src/compositor_ipc.c:171–249,291–335`. Every function below works on the four fields of
the connection and on the sockets the kernel keeps for it. The path check of
`src/compositor_ipc.c:181` never fails for the fixed `IPC_SOCK_PATH`.
-/

namespace PlayosCompositor

/-- Outcome of the system calls of one connection attempt. -/
inductive ConnectResult
  | noSocket
  | refused
  | connected (fd : Nat)
  deriving DecidableEq, Repr

namespace IpcClient

/-- `ipc_connect`, `src/compositor_ipc.c:172`: a refused socket is closed at once. -/
def ipcConnect (s : IpcClient) : ConnectResult → Option Nat × IpcClient
  | .noSocket => (none, s)
  | .refused => (none, s)
  | .connected fd => (some fd, { s with openFds := fd :: s.openFds, link := .up })

/-- `ipc_disconnect`, `src/compositor_ipc.c:196`. -/
def ipcDisconnect (s : IpcClient) : IpcClient :=
  let s := { s with ipcSource := none }
  match s.compositorSockFd with
  | none => s
  | some fd => { s with compositorSockFd := none, openFds := s.openFds.erase fd }

/-- `ipc_schedule_reconnect`, `src/compositor_ipc.c:237`. -/
def ipcScheduleReconnect (s : IpcClient) : IpcClient :=
  match s.ipcReconnectTimer with
  | some _ => s
  | none => { s with ipcReconnectTimer := some ⟨some s.ipcReconnectDelayMs⟩ }

/-- `ipc_reconnect_handler`, `src/compositor_ipc.c:209`, run by the expired timer. -/
def ipcReconnectHandler (s : IpcClient) (r : ConnectResult) : IpcClient :=
  match s.ipcConnect r with
  | (some fd, s) =>
    { s with
      compositorSockFd := some fd
      ipcSource := some fd
      ipcReconnectDelayMs := 100
      ipcReconnectTimer := none }
  | (none, s) =>
    let delay := if s.ipcReconnectDelayMs < 5000 then s.ipcReconnectDelayMs * 2
      else s.ipcReconnectDelayMs
    let delay := if delay > 5000 then 5000 else delay
    { s with
      ipcReconnectDelayMs := delay
      ipcReconnectTimer := s.ipcReconnectTimer.map fun _ ↦ ⟨some delay⟩ }

/-- `playos_compositor_ipc_start`, `src/compositor_ipc.c:292`. -/
def playosCompositorIpcStart (s : IpcClient) (r : ConnectResult) : IpcClient :=
  let s := { s with
    compositorSockFd := none
    ipcSource := none
    ipcReconnectTimer := none
    ipcReconnectDelayMs := 100 }
  match s.ipcConnect r with
  | (some fd, s) => { s with compositorSockFd := some fd, ipcSource := some fd }
  | (none, s) => s.ipcScheduleReconnect

/-- `playos_compositor_ipc_stop`, `src/compositor_ipc.c:314`. -/
def playosCompositorIpcStop (s : IpcClient) : IpcClient :=
  { s.ipcDisconnect with ipcReconnectTimer := none }

/-- What `send` reports in `frame_send`, `src/compositor_ipc.c:124–134`. The messages of
this program never exceed the size that `frame_send` rejects. -/
def sendResult (s : IpcClient) : SendResult :=
  match s.compositorSockFd, s.link with
  | none, _ => .notConnected
  | some _, .up => .delivered
  | some _, .peerClosed => .brokenPipe
  | some _, .failing => .failed

end IpcClient

/-- `playos_compositor_ipc_send`, `src/compositor_ipc.c:324`; no caller reads its result. -/
def playosCompositorIpcSend (c : Compositor) (message : IpcMessage) : Compositor :=
  { c with sent := c.sent ++ [⟨message, c.ipc.sendResult⟩] }

end PlayosCompositor
