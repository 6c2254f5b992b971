import PlayosCompositor.Foreground.NextState
import PlayosCompositor.Ipc.Pipe
import PlayosCompositor.Runs.Foreground

/-!
# Surviving playos-init

How many messages a handler sends is known before it runs. Where the kernel raises SIGPIPE, the
process therefore survives exactly the runs in which no message is due on a connection that
playos-init has closed; a survived event ends as if all its messages had been delivered.
-/

namespace PlayosCompositor

/-- The messages that an event makes the compositor send. -/
def dueMessages (c : Compositor) (e : Event) : List IpcMessage :=
  readyMessages c e ++ announce c.fgState (c.nextState (foregroundInput c e))

/-- Every step sends the messages that were due. -/
theorem messages_step_due {c c' : Compositor} {e : Event} (h : c.WF) (hs : step c e = some c') :
    c'.messages = c.messages ++ dueMessages c e := by
  rw [messages_step h hs, dueMessages,
    Foreground.fgState_step h.foreground (toForeground_step h.linked hs)]

/-- The process handles an event by sending what is due, and ends as the compositor does
unless it is killed. -/
theorem effects_step_eq {c c' : Compositor} {e : Event} (h : c.WF) (hs : step c e = some c')
    (k : Kernel) : k.effects.step c e =
      some ((deliver k c.ipc c.sent (dueMessages c e)).map fun sent ↦ { c' with sent }) := by
  obtain ⟨reading, ⟨messages, hsent, hr⟩, hstep⟩ := effects_step hs
  have hm := messages_step_due h hs
  have hd : messages = dueMessages c e := by
    unfold Compositor.messages at hm
    rw [hsent, List.map_append, List.map_map] at hm
    simpa [Function.comp_def] using List.append_cancel_left hm
  rw [hstep, hr, hd]

private theorem processSystem_wf (k : Kernel) :
    (processSystem k).Invariant fun p ↦ ∀ c, p = some c → c.WF where
  base := by
    rintro p ⟨config, rfl⟩ c hc
    exact Option.some.inj hc ▸ compositorSystem_wf.base _ ⟨config, rfl⟩
  step := by
    intro p e q h hs d hd
    obtain ⟨c, rfl, hp⟩ := Option.bind_eq_some_iff.mp hs
    obtain ⟨c', hc⟩ := step_of_effects hp
    have hw : c'.WF := compositorSystem_wf.step c e c' (h c rfl) hc
    rw [effects_step_eq (h c rfl) hc] at hp
    obtain ⟨sent, -, rfl⟩ := Option.map_eq_some_iff.mp ((Option.some.inj hp).trans hd)
    exact ⟨hw.linked.of_toForeground rfl rfl rfl le_rfl, hw.foreground⟩

/-! ### Every run -/

/-- Every send finds the peer there. -/
def peerPresent : Kernel := ⟨fun _ ↦ .up, true⟩

/-- The process goes on, and ends the event in the foreground state, the flags of the trees
and the launch token in which it would have ended had every send succeeded. -/
def PeerCloseHarmless (p : Option Compositor) (e : Event) (q : Option Compositor) : Prop :=
  ∃ c d, q = some c ∧ (processSystem peerPresent).step p e = some (some d) ∧
    c.fgState = d.fgState ∧ c.scene.enabled = d.scene.enabled ∧
    c.expectedLaunchToken = d.expectedLaunchToken

/-- None of the messages that are due finds the connection open on this side only. -/
def NothingDueOnClosed (k : Kernel) (p : Option Compositor) (e : Event) : Prop :=
  ∀ c, p = some c → c.ipc.compositorSockFd.isSome →
    ∀ n < (dueMessages c e).length, k.link (c.sent.length + n) ≠ .peerClosed

/-- One event is survived exactly if no signal is raised or nothing is due on a closed
connection. -/
theorem peerCloseHarmless_iff {k : Kernel} {p q : Option Compositor} {e : Event}
    (h : ∀ c, p = some c → c.WF) (hs : (processSystem k).step p e = some q) :
    PeerCloseHarmless p e q ↔ k.raisesSigpipe = false ∨ NothingDueOnClosed k p e := by
  obtain ⟨c, rfl, hp⟩ := Option.bind_eq_some_iff.mp hs
  have hw := h c rfl
  obtain ⟨c', hc⟩ := step_of_effects hp
  have hq := Option.some.inj ((effects_step_eq hw hc k).symm.trans hp)
  have halive : k.raisesSigpipe = false ∨ NothingDueOnClosed k (some c) e ↔
      (deliver k c.ipc c.sent (dueMessages c e)).isSome := by
    rw [deliver_isSome_iff]
    simp only [NothingDueOnClosed, kills_sendResultOn, not_and, Option.some.injEq, forall_eq']
    cases k.raisesSigpipe with
    | false => simp
    | true =>
      simp only [Bool.true_eq_false, false_or, forall_const]
      exact ⟨fun hd n hn ho ↦ hd ho n hn, fun hd ho n hn ↦ hd n hn ho⟩
  rw [halive]
  constructor
  · rintro ⟨d, -, rfl, -, -⟩
    rw [← Option.isSome_map, hq]
    rfl
  · intro hd
    obtain ⟨sent, hsent⟩ := Option.isSome_iff_exists.mp hd
    have hup : (deliver peerPresent c.ipc c.sent (dueMessages c e)).isSome :=
      (deliver_isSome_iff _ _ _ _).mpr fun n _ hk ↦ nomatch ((kills_sendResultOn _ _ _).mp hk).2.2
    obtain ⟨sent', hsent'⟩ := Option.isSome_iff_exists.mp hup
    refine ⟨{ c' with sent := sent }, { c' with sent := sent' }, ?_, ?_, rfl, rfl, rfl⟩
    · rw [← hq, hsent]
      rfl
    · change peerPresent.effects.step c e = _
      rw [effects_step_eq hw hc, hsent']
      rfl

/-- Whenever playos-init closes the connection, also in the middle of a handler, a run is
survived with every transition complete exactly if the kernel raises no signal or none of its
events has a message due on a connection that is open on this side only. -/
theorem each_peerCloseHarmless_iff (k : Kernel) (config : StartConfig) (es : List Event) :
    (processSystem k).Each PeerCloseHarmless (some (playosCompositorStarted config)) es ↔
      k.raisesSigpipe = false ∨ (processSystem k).Each (fun p e _ ↦ NothingDueOnClosed k p e)
        (some (playosCompositorStarted config)) es := by
  rw [(processSystem k).each_congr (processSystem_wf k)
    (fun _ _ _ h hs ↦ peerCloseHarmless_iff h hs) ((processSystem_wf k).base _ ⟨config, rfl⟩) es]
  cases k.raisesSigpipe with
  | false =>
    have heach := ((processSystem k).each_iff_run
      (fun p e _ ↦ false = false ∨ NothingDueOnClosed k p e) (some (playosCompositorStarted config))
      es).mpr fun _ _ _ _ _ _ _ ↦ Or.inl rfl
    exact iff_of_true heach (Or.inl rfl)
  | true => simp only [Bool.true_eq_false, false_or]

/-- A game is launched and maps its window. -/
def mappedGameRun : List Event :=
  [.connect 1, .command (.setExpectedGame (.ofString "t") (.ofString "g")), .newToplevel 1 .ok]

/-- playos-init is gone after the first message, and the hangup has not been handled yet; the
kernel signals a broken pipe. -/
def closedAfterFirst : Kernel := ⟨fun n ↦ if n = 0 then .up else .peerClosed, true⟩

/-- The report of the game's first frame ends the compositor. -/
theorem peerCloseHarmless_fails :
    (processSystem closedAfterFirst).run (some (playosCompositorStarted headlessStart))
        (mappedGameRun ++ [.commit 0 bufferCommit]) = some none ∧
      ¬ (processSystem closedAfterFirst).Each PeerCloseHarmless
        (some (playosCompositorStarted headlessStart))
        (mappedGameRun ++ [.commit 0 bufferCommit]) := by
  have hrun : ((processSystem closedAfterFirst).run (some (playosCompositorStarted headlessStart))
      (mappedGameRun ++ [.commit 0 bufferCommit])).map Option.isSome = some false := by decide
  obtain ⟨q, hq, hnone⟩ := Option.map_eq_some_iff.mp hrun
  cases Option.isSome_eq_false_iff.mp hnone |> Option.isNone_iff_eq_none.mp
  refine ⟨hq, fun h ↦ ?_⟩
  rw [Transition.System.run_append, Option.bind_eq_some_iff] at hq
  obtain ⟨p, hp, hlast⟩ := hq
  rw [Transition.System.run_singleton] at hlast
  obtain ⟨c, -, hc, -⟩ := (Transition.System.each_iff_run _ _ _ _).mp h mappedGameRun _ p none
    (List.prefix_refl _) hp hlast
  exact nomatch hc

end PlayosCompositor
