import PlayosCompositor.Model.Effects

/-!
# Sends that can end the process

The kernel decides at every send how it finds the connection: also between two sends of one
handler, when playos-init may have closed it already. Where a broken pipe raises SIGPIPE, the send
ends the process.
-/

namespace PlayosCompositor

/-- The signals that matter here. -/
inductive Signal
  | term
  | int
  | pipe
  deriving DecidableEq, Repr

/-- The flag of `send` that keeps the kernel from raising SIGPIPE. -/
inductive SendFlag
  | noSignal
  deriving DecidableEq, Repr

/-- The signals whose default action is replaced; `src/compositor.c:514–515`. -/
def handledSignals : List Signal := [.term, .int]

/-- The flags that `frame_send` passes; `src/compositor_ipc.c:124–126`. -/
def frameSendFlags : List SendFlag := []

/-- How the connection is at each send, counted from the start of the compositor, and whether a
send on a connection that the peer has closed raises SIGPIPE when it is not asked to refrain. POSIX
says that it does; Linux raises none on a local socket of the type used here, `SOCK_SEQPACKET`. -/
structure Kernel where
  link : Nat → Link
  raisesSigpipe : Bool

/-- A broken pipe ends the process, unless the kernel raises no signal or the send or the process
declines it. -/
def Kernel.Kills (k : Kernel) (result : SendResult) : Prop :=
  result = .brokenPipe ∧ k.raisesSigpipe ∧ .noSignal ∉ frameSendFlags ∧ .pipe ∉ handledSignals

instance (k : Kernel) (result : SendResult) : Decidable (k.Kills result) :=
  inferInstanceAs (Decidable (_ ∧ _ ∧ _ ∧ _))

/-- The result of a send that finds the connection in this state. -/
def IpcClient.sendResultOn (s : IpcClient) (link : Link) : SendResult :=
  { s with link }.sendResult

/-- Sends end as the kernel says; everything else is as in the model. -/
def Kernel.effects (k : Kernel) : Effects Option where
  refresh c := some (playosStateRefresh c)
  restack c := some (compositorRestack c)
  send c message :=
    let result := c.ipc.sendResultOn (k.link c.sent.length)
    if k.Kills result then none else some { c with sent := c.sent ++ [⟨message, result⟩] }

/-- The process: the compositor, or `none` once a signal has ended it. -/
def processSystem (k : Kernel) : Transition.System (Option Compositor) Event where
  initial p := ∃ config, p = some (playosCompositorStarted config)
  step p e := p.bind fun c ↦ k.effects.step c e

end PlayosCompositor
