import PlayosCompositor.Overlay.Events
import PlayosCompositor.Runs.Foreground

/-!
# Connection and reconnection

Between two events the client of `compositor.sock` is either connected or waits for its next
attempt with one armed timer. No handler outside of `src/compositor_ipc.c` touches it, so
this holds along every run of the compositor, until the client is stopped.
-/

namespace PlayosCompositor

namespace IpcClient

/-! ### Descriptors of an attempt -/

/-- Results of the system calls of `ipc_connect`: the descriptor that `socket` returns, and
whether `connect` succeeds. -/
structure ConnectCalls where
  socket : Option Nat
  connect : Bool

/-- The outcome of an attempt. -/
def ConnectCalls.result : ConnectCalls → ConnectResult
  | ⟨none, _⟩ => .noSocket
  | ⟨some _, false⟩ => .refused
  | ⟨some fd, true⟩ => .connected fd

/-- `IPC_SOCK_PATH`. -/
def ipcSockPath : CString := .ofString "/run/playos/compositor.sock"

/-- `ipc_connect`, `src/compositor_ipc.c:172`, with every descriptor that it opens and
closes; `sun_path` has 108 bytes. -/
def ipcConnectCalls (s : IpcClient) (calls : ConnectCalls) : Option Nat × IpcClient :=
  match calls.socket with
  | none => (none, s)
  | some fd =>
    let s := { s with openFds := fd :: s.openFds }
    if ipcSockPath.bytes.length ≥ 108 then (none, { s with openFds := s.openFds.erase fd })
    else if !calls.connect then (none, { s with openFds := s.openFds.erase fd })
    else (some fd, { s with link := .up })

/-- A failed attempt leaves no descriptor behind. -/
theorem ipcConnectCalls_eq (s : IpcClient) (calls : ConnectCalls) :
    s.ipcConnectCalls calls = s.ipcConnect calls.result := by
  have hpath : ¬ ipcSockPath.bytes.length ≥ 108 := by decide
  rcases calls with ⟨socket, connect⟩
  cases socket with
  | none => rfl
  | some fd =>
    unfold ipcConnectCalls
    dsimp only
    rw [if_neg hpath]
    cases connect with
    | true => rfl
    | false => rw [List.erase_cons_head]; rfl

/-! ### The two situations -/

/-- A socket is open and watched, and no attempt is planned. -/
structure Connected (s : IpcClient) : Prop where
  watched : ∃ fd, s.compositorSockFd = some fd ∧ s.ipcSource = some fd ∧ s.openFds = [fd]
  noTimer : s.ipcReconnectTimer = none
  delay : s.ipcReconnectDelayMs = 100

/-- No socket is open, and the next attempt is planned after the current delay. -/
structure Waiting (s : IpcClient) : Prop where
  closed : s.compositorSockFd = none ∧ s.ipcSource = none ∧ s.openFds = []
  armed : s.ipcReconnectTimer = some ⟨some s.ipcReconnectDelayMs⟩
  delay : 100 ≤ s.ipcReconnectDelayMs ∧ s.ipcReconnectDelayMs ≤ 5000

/-- One situation or the other. -/
def Live (s : IpcClient) : Prop := s.Connected ∨ s.Waiting

variable {s : IpcClient}

private theorem Connected.not_waiting (h : s.Connected) : ¬ s.Waiting := by
  intro hw
  have ha := hw.armed
  rw [h.noTimer] at ha
  exact nomatch ha

private theorem Live.delay (h : s.Live) :
    100 ≤ s.ipcReconnectDelayMs ∧ s.ipcReconnectDelayMs ≤ 5000 := by
  rcases h with h | h
  · rw [h.delay]
    decide
  · exact h.delay

private theorem Live.openFds (h : s.Live) {fd : Nat} (hm : fd ∈ s.openFds) :
    s.compositorSockFd = some fd := by
  rcases h with ⟨⟨fd', hs, -, ho⟩, -, -⟩ | ⟨⟨-, -, ho⟩, -, -⟩
  · rw [ho, List.mem_singleton] at hm
    rw [hs, hm]
  · rw [ho] at hm
    exact nomatch hm

/-- The client is live from its start. -/
theorem live_start (r : ConnectResult) (s : IpcClient) (ho : s.openFds = []) :
    (s.playosCompositorIpcStart r).Live := by
  have hdelay : 100 ≤ 100 ∧ 100 ≤ 5000 := by decide
  unfold playosCompositorIpcStart
  cases r with
  | connected fd =>
    refine Or.inl ⟨⟨fd, rfl, rfl, ?_⟩, rfl, rfl⟩
    change fd :: s.openFds = [fd]
    rw [ho]
  | noSocket => exact Or.inr ⟨⟨rfl, rfl, ho⟩, rfl, hdelay⟩
  | refused => exact Or.inr ⟨⟨rfl, rfl, ho⟩, rfl, hdelay⟩

/-- A lost connection is closed, and the next attempt is planned. -/
theorem Connected.lost (h : s.Connected) : s.ipcDisconnect.ipcScheduleReconnect.Waiting ∧
    s.ipcDisconnect.ipcScheduleReconnect.ipcReconnectDelayMs = s.ipcReconnectDelayMs := by
  obtain ⟨⟨fd, hs, -, ho⟩, ht, hd⟩ := h
  have hdelay : 100 ≤ 100 ∧ 100 ≤ 5000 := by decide
  rcases s with ⟨sock, source, timer, delay, openFds, link⟩
  cases hs
  cases ho
  cases ht
  cases hd
  exact ⟨⟨⟨rfl, rfl, by simp [ipcDisconnect, ipcScheduleReconnect]⟩, rfl, hdelay⟩, rfl⟩

/-- An expired timer ends in a connection, with the delay set back. -/
theorem Waiting.succeeds (h : s.Waiting) (fd : Nat) :
    (ipcReconnectHandler { s with ipcReconnectTimer := some ⟨none⟩ }
      (.connected fd)).Connected := by
  refine ⟨⟨fd, rfl, rfl, ?_⟩, rfl, rfl⟩
  change fd :: s.openFds = [fd]
  rw [h.closed.2.2]

/-- Otherwise it is armed again, with a delay that does not decrease. -/
theorem Waiting.fails (h : s.Waiting) {r : ConnectResult} (hr : ∀ fd, r ≠ .connected fd) :
    (ipcReconnectHandler { s with ipcReconnectTimer := some ⟨none⟩ } r).Waiting ∧
      s.ipcReconnectDelayMs ≤
        (ipcReconnectHandler { s with
          ipcReconnectTimer := some ⟨none⟩ } r).ipcReconnectDelayMs := by
  obtain ⟨⟨hs, hsource, ho⟩, -, hd⟩ := h
  have hdelay : ∀ d : Nat, 100 ≤ d → d ≤ 5000 →
      100 ≤ (if (if d < 5000 then d * 2 else d) > 5000 then 5000
        else if d < 5000 then d * 2 else d) ∧
      (if (if d < 5000 then d * 2 else d) > 5000 then 5000
        else if d < 5000 then d * 2 else d) ≤ 5000 ∧
      d ≤ (if (if d < 5000 then d * 2 else d) > 5000 then 5000
        else if d < 5000 then d * 2 else d) := by
    intro d h₁ h₂
    split <;> split <;> omega
  have hnew := hdelay _ hd.1 hd.2
  cases r with
  | connected fd => exact absurd rfl (hr fd)
  | noSocket => exact ⟨⟨⟨hs, hsource, ho⟩, rfl, hnew.1, hnew.2.1⟩, hnew.2.2⟩
  | refused => exact ⟨⟨⟨hs, hsource, ho⟩, rfl, hnew.1, hnew.2.1⟩, hnew.2.2⟩

private theorem Live.stop (h : s.Live) : s.playosCompositorIpcStop.openFds = [] ∧
    s.playosCompositorIpcStop.compositorSockFd = none ∧
    s.playosCompositorIpcStop.ipcSource = none ∧
    s.playosCompositorIpcStop.ipcReconnectTimer = none := by
  rcases s with ⟨sock, source, timer, delay, openFds, link⟩
  rcases h with ⟨⟨fd, hs, -, ho⟩, -, -⟩ | ⟨⟨hs, -, ho⟩, -, -⟩
  · cases hs
    cases ho
    exact ⟨by simp [playosCompositorIpcStop, ipcDisconnect], rfl, rfl, rfl⟩
  · cases hs
    cases ho
    exact ⟨rfl, rfl, rfl, rfl⟩

end IpcClient

/-! ### Events -/

/-- What an event does to the client. -/
def clientAfter (s : IpcClient) : Event → IpcClient
  | .ipcFd mask read =>
    if mask.hangupOrError ∨ mask.readable ∧ read = .failed then s.ipcDisconnect.ipcScheduleReconnect
    else s
  | .ipcTimer result =>
    IpcClient.ipcReconnectHandler { s with ipcReconnectTimer := some ⟨none⟩ } result
  | .ipcLink link => { s with link }
  | _ => s

private theorem ipc_destroyObject (c : Compositor) (object : ClientObject) :
    (destroyObject c object).ipc = c.ipc := by
  cases object with
  | toplevel tree =>
    simp only [destroyObject]
    split
    · rfl
    · exact (emits_handleToplevelDestroy c _).ipc
  | overlayBinding resource =>
    simp only [destroyObject, playosOverlayResourceDestroy]
    split <;> rfl

private theorem ipc_wlClientDestroy (c : Compositor) (client : ClientId)
    (order : List ClientObject) : (wlClientDestroy c client order).ipc = c.ipc := by
  change (order.foldl destroyObject (runDestroyListeners c client)).ipc = c.ipc
  apply List.foldlRecOn order destroyObject (motive := fun d ↦ d.ipc = c.ipc)
  · rw [runDestroyListeners_eq]
  · exact fun d hd object _ ↦ (ipc_destroyObject d object).trans hd

private theorem ipc_ipcFdHandler (c : Compositor) (mask : FdMask) (read : IpcRead) :
    (ipcFdHandler c mask read).ipc = clientAfter c.ipc (.ipcFd mask read) := by
  rcases mask with ⟨hangup, readable⟩
  cases hangup with
  | true => rfl
  | false =>
    cases readable with
    | false => rfl
    | true =>
      cases read with
      | failed => rfl
      | dropped => rfl
      | command command => exact (emits_ipcDispatch c command).ipc

private theorem ipc_playosOverlayResolveResource (c : Compositor) (client : ClientId) :
    (playosOverlayResolveResource c client).ipc = c.ipc := by
  unfold playosOverlayResolveResource playosOverlaySendOutputInfo sendOverlayEvent
  repeat' split
  all_goals rfl

private theorem ipc_playosManagerRegisterOverlay (c : Compositor) (client : ClientId) :
    (playosManagerRegisterOverlay c client).ipc = c.ipc := by
  cases ho : c.overlayClient with
  | none =>
    rw [playosManagerRegisterOverlay_of_free ho]
    exact ipc_playosOverlayResolveResource _ _
  | some holder => rw [playosManagerRegisterOverlay_of_taken ho]

private theorem ipc_playosOverlayBind (c : Compositor) (client : ClientId) (created : Bool) :
    (playosOverlayBind c client created).ipc = c.ipc := by
  unfold playosOverlayBind
  dsimp only
  repeat' split
  · rfl
  · exact ipc_playosOverlayResolveResource _ _
  · rfl

/-- The client changes by its own events only. -/
theorem ipc_step {c c' : Compositor} {e : Event} (hs : step c e = some c') :
    c'.ipc = clientAfter c.ipc e := by
  cases handled_of_step hs with
  | ipcFd mask read _ => exact ipc_ipcFdHandler c mask read
  | ipcTimer result _ _ => rfl
  | ipcLink link _ => rfl
  | connect client _ => rfl
  | disconnect client order _ _ => exact ipc_wlClientDestroy c client order
  | bindManager client created _ => cases created <;> rfl
  | registerShell client _ => exact (emits_playosManagerRegisterShell c client).ipc
  | registerOverlay client _ => exact ipc_playosManagerRegisterOverlay c client
  | bindOverlay client created _ => exact ipc_playosOverlayBind c client created
  | overlayRequest resource request bound _ =>
    exact (emits_playosOverlayRequest c bound.client request).ipc
  | newToplevel client alloc _ => exact (emits_handleNewXdgToplevel c client alloc).ipc
  | commit tree surface track _ => exact (emits_handleToplevelCommit c track surface).ipc
  | destroyToplevel tree track _ => exact (emits_handleToplevelDestroy c track).ipc
  | key keycode state => exact (emits_handleKeyboardKey c keycode state).ipc
  | newOutput calls =>
    change (handleNewOutput c calls).ipc = c.ipc
    unfold handleNewOutput
    repeat' split
    all_goals rfl
  | frame sceneOutput windowElapsed =>
    change (handleFrame c sceneOutput windowElapsed).ipc = c.ipc
    unfold handleFrame
    repeat' split
    all_goals rfl

/-- The event is an attempt that succeeds. -/
def Reconnects (e : Event) : Prop := ∃ fd, e = .ipcTimer (.connected fd)

/-- Every event leaves the client live; only a success lowers the delay. -/
theorem live_step {c c' : Compositor} {e : Event} (h : c.ipc.Live) (hs : step c e = some c') :
    c'.ipc.Live ∧ (¬ Reconnects e → c.ipc.ipcReconnectDelayMs ≤ c'.ipc.ipcReconnectDelayMs) := by
  rw [ipc_step hs]
  cases handled_of_step hs with
  | ipcFd mask read hw =>
    simp only [clientAfter]
    split
    · -- the event came from the socket, so the client was connected
      have hc : c.ipc.Connected := h.resolve_right fun hwait ↦ by
        rw [hwait.closed.2.1] at hw
        exact nomatch hw
      exact ⟨Or.inr hc.lost.1, fun _ ↦ hc.lost.2.ge⟩
    · exact ⟨h, fun _ ↦ Nat.le_refl _⟩
  | ipcTimer result ha _ =>
    have hw : c.ipc.Waiting := h.resolve_left fun hc ↦ by
      rw [hc.noTimer] at ha
      exact nomatch ha
    cases result with
    | connected fd => exact ⟨Or.inl (hw.succeeds fd), fun hn ↦ absurd ⟨fd, rfl⟩ hn⟩
    | noSocket =>
      obtain ⟨hn, hle⟩ := hw.fails (r := .noSocket) (by simp)
      exact ⟨Or.inr hn, fun _ ↦ hle⟩
    | refused =>
      obtain ⟨hn, hle⟩ := hw.fails (r := .refused) (by simp)
      exact ⟨Or.inr hn, fun _ ↦ hle⟩
  | ipcLink link _ =>
    refine ⟨h.imp (fun hc ↦ ?_) fun hw ↦ ?_, fun _ ↦ Nat.le_refl _⟩
    · exact ⟨hc.watched, hc.noTimer, hc.delay⟩
    · exact ⟨hw.closed, hw.armed, hw.delay⟩
  | _ => exact ⟨h, fun _ ↦ Nat.le_refl _⟩

/-- The client is live in every reachable state. -/
theorem compositorSystem_live : compositorSystem.Invariant fun c ↦ c.ipc.Live where
  base := by
    rintro c ⟨config, rfl⟩
    exact IpcClient.live_start config.connect _ rfl
  step _ _ _ h hs := (live_step h hs).1

/-- Along a run without a success the delay does not decrease. -/
theorem delay_run {c d : Compositor} {es : List Event} (h : c.ipc.Live)
    (he : ∀ e ∈ es, ¬ Reconnects e) (hr : compositorSystem.run c es = some d) :
    c.ipc.ipcReconnectDelayMs ≤ d.ipc.ipcReconnectDelayMs := by
  induction es generalizing c with
  | nil => rw [Option.some.inj hr]
  | cons e es ih =>
    obtain ⟨c₁, hs, hr⟩ := compositorSystem.run_cons_some.mp hr
    obtain ⟨h₁, hle⟩ := live_step h hs
    exact (hle (he e List.mem_cons_self)).trans
      (ih h₁ (fun e' he' ↦ he e' (List.mem_cons_of_mem e he')) hr)

/-- What the client of `compositor.sock` promises between two events of a run that goes on
with any further events. -/
structure KeepsTrying (c : Compositor) : Prop where
  connected_or_waiting : c.ipc.Connected ∨ c.ipc.Waiting
  not_both : ¬ (c.ipc.Connected ∧ c.ipc.Waiting)
  bounded : 100 ≤ c.ipc.ipcReconnectDelayMs ∧ c.ipc.ipcReconnectDelayMs ≤ 5000
  monotone : ∀ es d, (∀ e ∈ es, ¬ Reconnects e) → compositorSystem.run c es = some d →
    c.ipc.ipcReconnectDelayMs ≤ d.ipc.ipcReconnectDelayMs
  reset : ∀ e d, Reconnects e → compositorSystem.step c e = some d →
    d.ipc.Connected ∧ d.ipc.ipcReconnectDelayMs = 100
  sockets : ∀ fd ∈ c.ipc.openFds, c.ipc.compositorSockFd = some fd
  stop : c.ipc.playosCompositorIpcStop.openFds = [] ∧
    c.ipc.playosCompositorIpcStop.ipcReconnectTimer = none

/-- After the start and any sequence of events the client keeps trying. -/
theorem keepsTrying (config : StartConfig) {es : List Event} {c : Compositor}
    (hr : compositorSystem.run (playosCompositorStarted config) es = some c) : KeepsTrying c := by
  have h : c.ipc.Live := compositorSystem_live.reachable ⟨_, es, ⟨config, rfl⟩, hr⟩
  refine ⟨h, fun hb ↦ hb.1.not_waiting hb.2, h.delay, fun es d he hd ↦ delay_run h he hd, ?_,
    fun fd hm ↦ h.openFds hm, h.stop.1, h.stop.2.2.2⟩
  rintro e d ⟨fd, rfl⟩ hs
  have hstep : step c (.ipcTimer (.connected fd)) = some d := hs
  obtain ⟨ha, -⟩ := (Option.ite_none_right_eq_some.mp hs).1
  have hw : c.ipc.Waiting := h.resolve_left fun hc ↦ by
    rw [hc.noTimer] at ha
    exact nomatch ha
  rw [ipc_step hstep]
  exact ⟨hw.succeeds fd, (hw.succeeds fd).delay⟩

/-- The connection hangs up and the first attempt fails. -/
def hangupRun : List Event := [.ipcFd ⟨true, false⟩ .failed, .ipcTimer .refused]

/-- The theorem after an outage and a failed attempt. -/
theorem keepsTrying_outage :
    ∃ c ∈ compositorSystem.run (playosCompositorStarted headlessStart) hangupRun,
      KeepsTrying c := by
  obtain ⟨c, hc⟩ := Option.isSome_iff_exists.mp (show (compositorSystem.run
    (playosCompositorStarted headlessStart) hangupRun).isSome by decide)
  exact ⟨c, hc, keepsTrying headlessStart hc⟩

end PlayosCompositor
