import PlayosCompositor.Overlay.Events
import PlayosCompositor.Runs.Foreground

/-!
# Commands at the close of a connection

One connection of `compositor.sock`: playos-init sends frames and closes, and the event loop
calls `ipc_fd_handler` with what holds of the socket. The handler looks at the hangup before
it reads, so the frames that are still queued then are lost.
-/

namespace PlayosCompositor

/-- A valid frame: a command, or one of a type that `ipc_dispatch` ignores. -/
inductive IpcFrame
  | known (command : IpcCommand)
  | other
  deriving DecidableEq

namespace IpcFrame

/-- What `ipc_fd_handler` reads of it. -/
def read : IpcFrame → IpcRead
  | .known command => .command command
  | .other => .dropped

/-- `ipc_dispatch` on the frame, `src/compositor_ipc.c:140`. -/
def dispatch (c : Compositor) : IpcFrame → Compositor
  | .known command => ipcDispatch c command
  | .other => c

private theorem ipc_dispatch (c : Compositor) (frame : IpcFrame) :
    (dispatch c frame).ipc = c.ipc := by
  cases frame with
  | known command => exact (emits_ipcDispatch c command).ipc
  | other => rfl

private theorem ipcFdHandler_read (c : Compositor) (frame : IpcFrame) :
    ipcFdHandler c ⟨false, true⟩ frame.read = dispatch c frame := by
  cases frame <;> rfl

end IpcFrame

/-- A connection: the compositor, the frames that wait in the socket, whether the peer has
closed it, and the frames sent and dispatched so far. -/
structure Connection where
  compositor : Compositor
  queue : List IpcFrame
  peerClosed : Bool
  sent : List IpcFrame
  dispatched : List IpcFrame

/-- What can happen on a connection. -/
inductive ConnectionEvent
  | send (frame : IpcFrame)
  | close
  | handle
  deriving DecidableEq

/-- The mask lets `ipc_fd_handler` get to its `read`. -/
def FdMask.reads (mask : FdMask) : Bool := !mask.hangupOrError && mask.readable

namespace Connection

/-- A connection on which nothing has been sent yet. -/
def opened (c : Compositor) : Connection := ⟨c, [], false, [], []⟩

/-- The compositor still watches the socket. -/
def Watched (s : Connection) : Prop := s.compositor.ipc.ipcSource ≠ none

/-- The conditions that the event loop reports: a queued message makes the socket readable,
a closed peer hangs it up. -/
def mask (s : Connection) : FdMask := ⟨s.peerClosed, !s.queue.isEmpty⟩

/-- What `read` returns: the oldest queued frame, or the end of the connection. -/
def nextRead (s : Connection) : IpcRead :=
  match s.queue with
  | [] => .failed
  | frame :: _ => frame.read

/-- One event; a peer that has closed sends no more, and a socket that is not watched is not
handled. -/
def step (s : Connection) : ConnectionEvent → Option Connection
  | .send frame =>
    if s.peerClosed then none
    else some { s with queue := s.queue ++ [frame], sent := s.sent ++ [frame] }
  | .close => if s.peerClosed then none else some { s with peerClosed := true }
  | .handle => (PlayosCompositor.step s.compositor (.ipcFd s.mask s.nextRead)).map fun c ↦
    if s.mask.reads then
      { s with
        compositor := c
        queue := s.queue.tail
        dispatched := s.dispatched ++ s.queue.take 1 }
    else { s with compositor := c }

end Connection

/-- The connections of a compositor that watches its socket. -/
def connectionSystem (c : Compositor) : Transition.System Connection ConnectionEvent where
  initial s := s = .opened c ∧ s.Watched
  step := Connection.step

namespace Connection

private theorem step_handle {s t : Connection} (hs : s.step .handle = some t) :
    s.Watched ∧
    ((s.peerClosed = true ∧ t = { s with compositor := { s.compositor with
        ipc := s.compositor.ipc.ipcDisconnect.ipcScheduleReconnect } }) ∨
      (s.peerClosed = false ∧ s.queue = [] ∧ t = s) ∨
      ∃ frame rest, s.peerClosed = false ∧ s.queue = frame :: rest ∧
        t = { s with
          compositor := frame.dispatch s.compositor
          queue := rest
          dispatched := s.dispatched ++ [frame] }) := by
  obtain ⟨c, hc, rfl⟩ := Option.map_eq_some_iff.mp hs
  obtain ⟨hw, hd⟩ := Option.ite_none_right_eq_some.mp hc
  cases Option.some.inj hd
  refine ⟨Option.isSome_iff_ne_none.mp hw, ?_⟩
  rcases s with ⟨compositor, queue, peerClosed, sent, dispatched⟩
  cases peerClosed with
  | true => exact Or.inl ⟨rfl, rfl⟩
  | false =>
    right
    cases queue with
    | nil => exact Or.inl ⟨rfl, rfl, rfl⟩
    | cons frame rest =>
      refine Or.inr ⟨frame, rest, rfl, rfl, ?_⟩
      rw [← frame.ipcFdHandler_read]
      rfl

/-- Frames are dispatched in order or still queued, dispatching them is all that happened to
the compositor, and only a closed peer ends the watch. -/
structure Conserved (c : Compositor) (s : Connection) : Prop where
  frames : s.dispatched ++ s.queue = s.sent
  effect : s.compositor =
    { s.dispatched.foldl IpcFrame.dispatch c with ipc := s.compositor.ipc }
  watched : s.peerClosed = false → s.Watched ∧ s.compositor.ipc = c.ipc

variable {c : Compositor} {s t : Connection} {e : ConnectionEvent}

private theorem ipc_foldl_dispatch (c : Compositor) (frames : List IpcFrame) :
    (frames.foldl IpcFrame.dispatch c).ipc = c.ipc :=
  List.foldlRecOn frames IpcFrame.dispatch (motive := fun d ↦ d.ipc = c.ipc) rfl
    fun d hd frame _ ↦ (IpcFrame.ipc_dispatch d frame).trans hd

/-- Every event conserves frames. -/
theorem conserved_step (h : Conserved c s) (hs : s.step e = some t) : Conserved c t := by
  cases e with
  | send frame =>
    obtain ⟨hp, ht⟩ := Option.ite_none_left_eq_some.mp hs
    cases Option.some.inj ht
    refine ⟨?_, h.effect, h.watched⟩
    change s.dispatched ++ (s.queue ++ [frame]) = s.sent ++ [frame]
    rw [← List.append_assoc, h.frames]
  | close =>
    obtain ⟨hp, ht⟩ := Option.ite_none_left_eq_some.mp hs
    cases Option.some.inj ht
    exact ⟨h.frames, h.effect, fun hc ↦ Bool.noConfusion hc⟩
  | handle =>
    obtain ⟨-, ⟨hp, rfl⟩ | ⟨-, -, rfl⟩ | ⟨frame, rest, hp, hq, rfl⟩⟩ := step_handle hs
    · refine ⟨h.frames, ?_, fun hc ↦ absurd (hp.symm.trans hc) (by simp)⟩
      dsimp only
      rw [h.effect]
    · exact h
    · obtain ⟨hw, hi⟩ := h.watched hp
      have hc : s.compositor = s.dispatched.foldl IpcFrame.dispatch c := by
        have he := h.effect
        rw [hi, ← ipc_foldl_dispatch c s.dispatched] at he
        exact he
      have hd := IpcFrame.ipc_dispatch s.compositor frame
      refine ⟨?_, ?_, fun _ ↦ ⟨?_, hd.trans hi⟩⟩
      · rw [← h.frames, hq, List.append_assoc]
        rfl
      · dsimp only
        rw [List.foldl_append, ← hc]
        rfl
      · unfold Watched
        rw [hd]
        exact hw

/-- The frames that were sent are dispatched once each, in order and with the effect that each
has, and all of them before the compositor disconnects. -/
def NothingLost (c : Compositor) (s : Connection) : Prop :=
  s.dispatched <+: s.sent ∧
    s.compositor = { s.dispatched.foldl IpcFrame.dispatch c with ipc := s.compositor.ipc } ∧
    (s.compositor.ipc.ipcSource = none → s.dispatched = s.sent)

private theorem nothingLost_iff (h : Conserved c s) :
    NothingLost c s ↔ (¬ s.Watched → s.queue = []) := by
  have hinit : s.dispatched <+: s.sent := ⟨s.queue, h.frames⟩
  have hall : s.dispatched = s.sent ↔ s.queue = [] := by
    rw [← h.frames, List.self_eq_append_right]
  unfold NothingLost Watched
  rw [not_not, hall]
  exact ⟨fun hn ↦ hn.2.2, fun hn ↦ ⟨hinit, h.effect, hn⟩⟩

private theorem nothingLost_step_iff (h : Conserved c s) (hn : NothingLost c s)
    (hs : s.step e = some t) :
    NothingLost c t ↔ (e = .handle → s.peerClosed = true → s.queue = []) := by
  rw [nothingLost_iff (conserved_step h hs)]
  cases e with
  | send frame =>
    obtain ⟨hp, ht⟩ := Option.ite_none_left_eq_some.mp hs
    cases Option.some.inj ht
    have hw : s.Watched := (h.watched (by simpa using hp)).1
    exact iff_of_true (fun hnw ↦ absurd hw hnw) (by simp)
  | close =>
    obtain ⟨hp, ht⟩ := Option.ite_none_left_eq_some.mp hs
    cases Option.some.inj ht
    have hw : s.Watched := (h.watched (by simpa using hp)).1
    exact iff_of_true (fun hnw ↦ absurd hw hnw) (by simp)
  | handle =>
    have ht := conserved_step h hs
    obtain ⟨-, ⟨hp, rfl⟩ | ⟨hp, -, rfl⟩ | ⟨frame, rest, hp, hq, rfl⟩⟩ := step_handle hs
    · have hgone : ¬ Watched { s with compositor := { s.compositor with
          ipc := s.compositor.ipc.ipcDisconnect.ipcScheduleReconnect } } := by
        unfold Watched IpcClient.ipcDisconnect IpcClient.ipcScheduleReconnect
        dsimp only
        repeat' split
        all_goals simp
      exact ⟨fun hn _ _ ↦ hn hgone, fun hn _ ↦ hn rfl hp⟩
    · exact iff_of_true (fun hnw ↦ absurd (h.watched hp).1 hnw) (by simp [hp])
    · exact iff_of_true (fun hnw ↦ absurd (ht.watched hp).1 hnw) (by simp [hp])

end Connection

private theorem connectionSystem_conserved (c : Compositor) :
    (connectionSystem c).Invariant (Connection.Conserved c) where
  base := by
    rintro s ⟨rfl, hw⟩
    exact ⟨rfl, rfl, fun _ ↦ ⟨hw, rfl⟩⟩
  step _ _ _ h hs := Connection.conserved_step h hs

/-- A connection loses nothing exactly in the schedules where the handler never meets a hangup
with a frame in the queue. -/
theorem always_nothingLost_iff {c : Compositor} (hc : c.ipc.ipcSource ≠ none)
    (es : List ConnectionEvent) :
    (connectionSystem c).Always (Connection.NothingLost c) (.opened c) es ↔
      (connectionSystem c).Each
        (fun s e _ ↦ e = .handle → s.peerClosed = true → s.queue = []) (.opened c) es := by
  refine (connectionSystem c).always_iff_each (connectionSystem_conserved c) ?_ ?_ ?_ es
  · exact fun _ _ _ h hn hs ↦ Connection.nothingLost_step_iff h hn hs
  · exact (connectionSystem_conserved c).base _ ⟨rfl, hc⟩
  · exact ⟨List.prefix_rfl, rfl, fun _ ↦ rfl⟩

/-- Two frames in a row, handled one by one before the close is noticed. -/
def patientSchedule : List ConnectionEvent :=
  [.send (.known .showOverlay), .send .other, .handle, .handle, .close, .handle]

/-- The theorem in a schedule that loses nothing. -/
theorem always_nothingLost_iff_patient :
    (connectionSystem (playosCompositorStarted headlessStart)).Always
        (Connection.NothingLost (playosCompositorStarted headlessStart))
        (.opened (playosCompositorStarted headlessStart)) patientSchedule ↔
      (connectionSystem (playosCompositorStarted headlessStart)).Each
        (fun s e _ ↦ e = .handle → s.peerClosed = true → s.queue = [])
        (.opened (playosCompositorStarted headlessStart)) patientSchedule :=
  always_nothingLost_iff (by decide) patientSchedule

/-- A command that is sent right before the close is never dispatched. -/
theorem nothingLost_fails :
    ∃ s ∈ (connectionSystem (playosCompositorStarted headlessStart)).run
        (.opened (playosCompositorStarted headlessStart))
        [.send (.known .forceTerminateGame), .close, .handle],
      s.compositor.ipc.ipcSource = none ∧ s.sent = [.known .forceTerminateGame] ∧
        s.dispatched = [] := by
  decide

end PlayosCompositor
