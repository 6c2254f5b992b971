import PlayosCompositor.Base.Backoff
import PlayosCompositor.Ipc.Reconnect

/-!
# How fast the client gives up hurrying

The delay before an attempt is settled by the number of attempts that failed since the start or
the last connection: 100 ms doubled each time, and 5 s at most. An outage therefore costs one
attempt every 5 s after the first six, which take 6.3 s together.
-/

namespace PlayosCompositor

variable {c c' : Compositor} {e : Event}

/-- The attempts that failed since the start or the last connection, and the time for which their
timers were armed. -/
structure Attempts where
  failed : Nat
  waitedMs : Nat
  deriving DecidableEq, Repr

/-- The attempts after one more event. -/
def noteAttempt (attempts : Attempts) (c : Compositor) : Event → Attempts
  | .ipcTimer (.connected _) => ⟨0, 0⟩
  | .ipcTimer _ =>
    ⟨attempts.failed + 1,
      attempts.waitedMs + ((c.ipc.ipcReconnectTimer.bind Timer.armedMs).getD 0)⟩
  | _ => attempts

/-- The compositor together with its attempts. -/
def attemptSystem : Transition.System (Compositor × Attempts) Event :=
  compositorSystem.withHistory ⟨0, 0⟩ noteAttempt

/-- The delay and the time waited are those of the attempts. -/
structure Paced (s : IpcClient) (attempts : Attempts) : Prop where
  live : s.Live
  delay : s.ipcReconnectDelayMs = Backoff.delay 100 5000 attempts.failed
  waited : attempts.waitedMs = Backoff.total 100 5000 attempts.failed

private theorem ipcReconnectDelayMs_failed (s : IpcClient) {r : ConnectResult}
    (hr : ∀ fd, r ≠ .connected fd) (h : s.ipcReconnectDelayMs ≤ 5000) :
    (s.ipcReconnectHandler r).ipcReconnectDelayMs = min 5000 (2 * s.ipcReconnectDelayMs) := by
  have hdelay : ∀ d : Nat, d ≤ 5000 → (if (if d < 5000 then d * 2 else d) > 5000 then 5000
      else if d < 5000 then d * 2 else d) = min 5000 (2 * d) := by
    intro d hd
    split <;> split <;> omega
  cases r with
  | connected fd => exact absurd rfl (hr fd)
  | noSocket => exact hdelay _ h
  | refused => exact hdelay _ h

private theorem Paced.fails {s : IpcClient} {attempts : Attempts} {armed : Nat} {r : ConnectResult}
    (h : Paced s attempts) (hw : s.Waiting) (hr : ∀ fd, r ≠ .connected fd)
    (ha : armed = s.ipcReconnectDelayMs) :
    Paced (IpcClient.ipcReconnectHandler { s with ipcReconnectTimer := some ⟨none⟩ } r)
      ⟨attempts.failed + 1, attempts.waitedMs + armed⟩ where
  live := Or.inr (hw.fails hr).1
  delay := by
    have hfailed := ipcReconnectDelayMs_failed { s with ipcReconnectTimer := some ⟨none⟩ } hr
      hw.delay.2
    rw [hfailed, Backoff.delay_succ, ← h.delay]
  waited := by
    rw [ha, h.waited, h.delay]
    rfl

private theorem Paced.step {attempts : Attempts} (h : Paced c.ipc attempts)
    (hs : step c e = some c') :
    Paced c'.ipc (noteAttempt attempts c e) := by
  have hl := (live_step h.live hs).1
  rw [ipc_step hs] at hl ⊢
  cases handled_of_step hs with
  | ipcTimer result ha _ =>
    have hw : c.ipc.Waiting := h.live.resolve_left fun hc ↦ by
      rw [hc.noTimer] at ha
      cases ha
    have harmed : (c.ipc.ipcReconnectTimer.bind Timer.armedMs).getD 0 =
        c.ipc.ipcReconnectDelayMs := by
      rw [hw.armed]
      rfl
    cases result with
    | connected fd => exact ⟨hl, (hw.succeeds fd).delay, rfl⟩
    | noSocket => exact h.fails (r := .noSocket) hw (by simp) harmed
    | refused => exact h.fails (r := .refused) hw (by simp) harmed
  | ipcFd mask read hw =>
    refine ⟨hl, ?_, h.waited⟩
    simp only [clientAfter]
    split
    · -- the event came from the socket, so the client was connected
      have hc : c.ipc.Connected := h.live.resolve_right fun hwait ↦ by
        rw [hwait.closed.2.1] at hw
        cases hw
      exact hc.lost.2.trans h.delay
    · exact h.delay
  | ipcLink link _ => exact ⟨hl, h.delay, h.waited⟩
  | _ => exact h

/-- In every run the delay before the next attempt is 100 ms, doubled for every attempt that
failed since the start or the last connection, and 5 s at most; the timer is armed with it, no
attempt has failed while connected, and six failures cost 6.3 s, any further one 5 s. -/
theorem backoff_exact {p : Compositor × Attempts} (hp : attemptSystem.Reachable p) :
    p.1.ipc.ipcReconnectDelayMs = min 5000 (100 * 2 ^ p.2.failed) ∧
      (p.1.ipc.ipcReconnectTimer.isSome →
        p.1.ipc.ipcReconnectTimer = some ⟨some (min 5000 (100 * 2 ^ p.2.failed))⟩) ∧
      (p.1.ipc.compositorSockFd.isSome → p.2.failed = 0) ∧
      (6 ≤ p.2.failed → p.2.waitedMs = 6300 + 5000 * (p.2.failed - 6)) := by
  have hpaced : attemptSystem.Invariant fun p ↦ Paced p.1.ipc p.2 := {
    base := by
      rintro ⟨c, attempts⟩ ⟨⟨config, rfl⟩, rfl⟩
      refine ⟨IpcClient.live_start config.connect _ rfl, ?_, rfl⟩
      cases config with | mk _ _ _ _ _ connect => cases connect <;> rfl
    step := by
      rintro p e q h hs
      obtain ⟨hstep, hn⟩ := compositorSystem.withHistory_step_some.mp hs
      exact hn ▸ h.step hstep }
  have h := hpaced.reachable hp
  refine ⟨h.delay, ?_, ?_, ?_⟩
  · intro ht
    have hw : p.1.ipc.Waiting := h.live.resolve_left fun hc ↦ by
      rw [hc.noTimer] at ht
      cases ht
    rw [hw.armed, h.delay]
    rfl
  · intro hfd
    have hc : p.1.ipc.Connected := h.live.resolve_right fun hw ↦ by
      rw [hw.closed.1] at hfd
      cases hfd
    have hdelay := hc.delay.symm.trans h.delay
    cases hf : p.2.failed with
    | zero => rfl
    | succ n =>
      have hbase := Backoff.base_le_delay (show 100 ≤ 5000 by decide) n
      rw [hf, Backoff.delay_succ] at hdelay
      omega
  · intro hsix
    obtain ⟨more, hmore⟩ := Nat.exists_eq_add_of_le hsix
    rw [h.waited, hmore, Backoff.total_add (by decide), Nat.add_sub_cancel_left]
    rfl

/-- The theorem after the connection is lost and an attempt fails. -/
theorem backoff_exact_outage :
    ∃ p ∈ attemptSystem.run (playosCompositorStarted headlessStart, ⟨0, 0⟩) hangupRun,
      p.2 = ⟨1, 100⟩ ∧ p.1.ipc.ipcReconnectDelayMs = min 5000 (100 * 2 ^ p.2.failed) := by
  obtain ⟨p, hp, hattempts⟩ :
      ∃ p ∈ attemptSystem.run (playosCompositorStarted headlessStart, ⟨0, 0⟩) hangupRun,
        p.2 = ⟨1, 100⟩ := by decide
  exact ⟨p, hp, hattempts, (backoff_exact ⟨_, _, ⟨⟨headlessStart, rfl⟩, rfl⟩, hp⟩).1⟩

end PlayosCompositor
