import PlayosCompositor.Overlay.Events
import PlayosCompositor.Runs.Launch

/-!
# What playos-init is told

Readiness is reported once a launch, right before the state that it leads to. Every
transition is announced once, on whatever connection there is then: what was delivered last
is the state of the last transition that got through, and nothing is sent again.
-/

namespace PlayosCompositor

open Foreground

variable {c c' : Compositor} {e : Event}

/-! ### Readiness -/

/-- The launch tokens that were reported ready, oldest first. -/
def readyTokens (messages : List IpcMessage) : List (CharBuf 64) :=
  messages.filterMap fun
    | .gameSurfaceReady launchToken => some launchToken
    | .stateChanged _ => none

/-- Announced states report no readiness. -/
@[simp] theorem readyTokens_announce (old new : ForegroundState) :
    readyTokens (announce old new) = [] := by
  unfold announce
  split <;> rfl

/-- Tokens are reported message by message. -/
@[simp] theorem readyTokens_append (first second : List IpcMessage) :
    readyTokens (first ++ second) = readyTokens first ++ readyTokens second :=
  List.filterMap_append

private theorem foregroundInput_eq_launch {launchToken : CharBuf 64} {gameId : CharBuf 256}
    (h : foregroundInput c e = .launch launchToken gameId) :
    ∃ t i, e = .command (.setExpectedGame t i) ∧ launchToken = t.store 64 := by
  have hc := comesFrom_foregroundInput c e
  rw [h] at hc
  obtain ⟨t, i, he, ht, -⟩ := hc
  exact ⟨t, i, he, ht⟩

/-- A step reports readiness exactly when it brings a starting game to the front. -/
theorem readyMessages_eq (h : c.WF) (hs : step c e = some c') : readyMessages c e =
    if c.fgState = .gameStarting ∧ c'.fgState = .gameForeground then
      [.gameSurfaceReady c.expectedLaunchToken]
    else [] := by
  have hf := toForeground_step h.linked hs
  by_cases hg : c.fgState = .gameStarting ∧ c'.fgState = .gameForeground
  · obtain ⟨tree, hi, ha⟩ := activates_of_step h.foreground hf hg.1 hg.2
    obtain ⟨surface, rfl, hx, hb⟩ := foregroundInput_eq_frame.mp hi
    rw [if_pos hg]
    exact if_pos ⟨hx, hb, ha⟩
  · rw [if_neg hg]
    apply List.eq_nil_iff_forall_not_mem.mpr
    intro message hm
    obtain ⟨-, tree, surface, rfl, hx, hb, ha⟩ := mem_readyMessages.mp hm
    have hi : foregroundInput c (.commit tree surface) = .frame tree := if_pos ⟨hx, hb⟩
    rw [hi] at hf
    have hc := Option.some.inj hf
    rw [frame_eq h.foreground, if_pos ha] at hc
    refine hg ⟨ha.1, ?_⟩
    rw [← hc, fgState_goto]

/-- While no launch is announced, readiness is reported at most once, and only for the game
that was starting. -/
theorem readyTokens_run {es : List Event} (h : c.WF)
    (hl : ∀ t i, .command (.setExpectedGame t i) ∉ es)
    (hr : compositorSystem.run c es = some c') :
    ∃ messages, c'.messages = c.messages ++ messages ∧
      (readyTokens messages = [] ∨
        c.fgState = .gameStarting ∧ readyTokens messages = [c.expectedLaunchToken]) := by
  induction es generalizing c with
  | nil =>
    cases Option.some.inj hr
    exact ⟨[], by simp, Or.inl rfl⟩
  | cons e es ih =>
    obtain ⟨c₁, hstep, hrest⟩ := compositorSystem.run_cons_some.mp hr
    have hs : step c e = some c₁ := hstep
    obtain ⟨messages, hm, ht⟩ := ih (compositorSystem_wf.step _ _ _ h hstep)
      (fun t i hmem ↦ hl t i (List.mem_cons_of_mem _ hmem)) hrest
    refine ⟨readyMessages c e ++ announce c.fgState c₁.fgState ++ messages, ?_, ?_⟩
    · rw [hm, messages_step h hs, List.append_assoc]
    · have hstill := stillStarting_step h.foreground (toForeground_step h.linked hs)
        fun launchToken gameId hi ↦ by
          obtain ⟨t, i, rfl, -⟩ := foregroundInput_eq_launch hi
          exact hl t i List.mem_cons_self
      rw [readyTokens_append, readyTokens_append, readyTokens_announce, readyMessages_eq h hs]
      split
      · next hg =>
        refine Or.inr ⟨hg.1, ?_⟩
        rcases ht with ht | ⟨hc, -⟩
        · rw [ht]
          rfl
        · rw [hg.2] at hc
          cases hc
      · rcases ht with ht | ⟨hc, ht⟩
        · exact Or.inl (by rw [ht]; rfl)
        · obtain ⟨hst, htok⟩ := hstill hc
          exact Or.inr ⟨hst, by rw [ht, htok]; rfl⟩

/-- Every step sends the readiness of the game that it brings from starting to the front,
under the expected token, and then the state that it enters, nothing else; between two
launches at most one readiness is sent, under the token of the first; before any launch none
is. -/
theorem gameSurfaceReady_once (hc : compositorSystem.Reachable c) :
    (∀ e c', step c e = some c' → c'.messages = c.messages ++
      ((if c.fgState = .gameStarting ∧ c'.fgState = .gameForeground then
          [.gameSurfaceReady c.expectedLaunchToken] else []) ++ announce c.fgState c'.fgState)) ∧
    (∀ t i c₁ es c', step c (.command (.setExpectedGame t i)) = some c₁ →
      (∀ t i, .command (.setExpectedGame t i) ∉ es) → compositorSystem.run c₁ es = some c' →
        ∃ messages, c'.messages = c₁.messages ++ messages ∧
          (readyTokens messages = [] ∨ readyTokens messages = [t.store 64])) ∧
    ∀ config es, (∀ t i, .command (.setExpectedGame t i) ∉ es) →
      compositorSystem.run (playosCompositorStarted config) es = some c →
        readyTokens c.messages = [] := by
  have h := compositorSystem_wf.reachable hc
  refine ⟨?_, ?_, ?_⟩
  · intro e c' hs
    rw [messages_step h hs, readyMessages_eq h hs]
  · intro t i c₁ es c' hs hl hr
    have hstep : compositorSystem.step c (.command (.setExpectedGame t i)) = some c₁ := hs
    obtain ⟨messages, hm, ht⟩ := readyTokens_run (compositorSystem_wf.step _ _ _ h hstep) hl hr
    refine ⟨messages, hm, ht.imp_right ?_⟩
    rintro ⟨-, ht⟩
    obtain ⟨-, hd⟩ := Option.ite_none_right_eq_some.mp hs
    have htok : c₁.expectedLaunchToken = t.store 64 := by
      rw [← Option.some.inj hd]
      simp [ipcFdHandler, ipcDispatch, Foreground.launch]
    rw [ht, htok]
  · intro config es hl hr
    obtain ⟨messages, hm, ht⟩ := readyTokens_run (compositorSystem_wf.base _ ⟨config, rfl⟩) hl hr
    rw [hm]
    rcases ht with ht | ⟨hst, -⟩
    · exact ht
    · cases hst

/-- A launch is announced, its game maps a window and commits twice. -/
def readyRun : List Event :=
  [.connect 1, .newToplevel 1 .ok, .commit 0 bufferCommit, .commit 0 bufferCommit]

/-- The theorem between the launch of a fresh compositor and its game's second commit. -/
theorem gameSurfaceReady_once_fresh :
    ∃ c ∈ step (playosCompositorStarted headlessStart)
        (.command (.setExpectedGame (.ofString "t") (.ofString "g"))),
      ∃ c' ∈ compositorSystem.run c readyRun,
        c'.fgState = .gameForeground ∧ ∃ messages, c'.messages = c.messages ++ messages ∧
          (readyTokens messages = [] ∨
            readyTokens messages = [(CString.ofString "t").store 64]) := by
  obtain ⟨c, hc, c', hc', hg⟩ :
      ∃ c ∈ step (playosCompositorStarted headlessStart)
          (.command (.setExpectedGame (.ofString "t") (.ofString "g"))),
        ∃ c' ∈ compositorSystem.run c readyRun, c'.fgState = .gameForeground := by
    decide
  have hreach : compositorSystem.Reachable (playosCompositorStarted headlessStart) :=
    ⟨_, [], ⟨headlessStart, rfl⟩, rfl⟩
  exact ⟨c, hc, c', hc', hg,
    (gameSurfaceReady_once hreach).2.1 _ _ c readyRun c' hc (by simp [readyRun]) hc'⟩

/-! ### Announced and delivered states -/

/-- The state that the last CompositorStateChanged names, or the initial one. -/
def lastState (messages : List IpcMessage) : ForegroundState :=
  (messages.filterMap fun
    | .stateChanged state => some state
    | .gameSurfaceReady _ => none).getLast?.getD .shellForeground

/-- The state that was announced last, whatever became of the message. -/
def Compositor.announced (c : Compositor) : ForegroundState := lastState c.messages

/-- The state that playos-init was told last, over any connection. -/
def Compositor.reported (c : Compositor) : ForegroundState :=
  lastState ((c.sent.filter fun attempt ↦ attempt.result = .delivered).map IpcAttempt.message)

private theorem lastState_append_announce (messages : List IpcMessage) (old new : ForegroundState) :
    lastState (messages ++ announce old new) =
      if old = new then lastState messages else new := by
  unfold announce
  split
  · rw [List.append_nil]
  · simp [lastState, List.filterMap_append]

private theorem lastState_append_readyMessages (messages : List IpcMessage) (c : Compositor)
    (e : Event) :
    lastState (messages ++ readyMessages c e) = lastState messages := by
  have hr : ∀ message ∈ readyMessages c e, message = .gameSurfaceReady c.expectedLaunchToken :=
    fun message hm ↦ (mem_readyMessages.mp hm).1
  have hn : (readyMessages c e).filterMap (fun
      | .stateChanged state => some state
      | .gameSurfaceReady _ => none) = ([] : List ForegroundState) := by
    rw [List.filterMap_eq_nil_iff]
    intro message hm
    rw [hr message hm]
  rw [lastState, List.filterMap_append, hn, List.append_nil]
  rfl

/-- Every step attempts its messages on the connection that it finds. -/
theorem sent_step (h : c.WF ∧ Bound c) (hs : step c e = some c') : c'.sent = c.sent ++
    (readyMessages c e ++ announce c.fgState c'.fgState).map fun message ↦
      ⟨message, c.ipc.sendResult⟩ := by
  obtain ⟨attempts, ha, hr⟩ : ∃ attempts, c'.sent = c.sent ++ attempts ∧
      ∀ attempt ∈ attempts, attempt.result = c.ipc.sendResult := by
    cases emission_step h.1 h.2 hs with
    | emits hp he => exact he.sent
    | connection hp ipc he => exact ⟨[], by rw [he, List.append_nil], by simp⟩
    | released hp he hr => exact ⟨[], by rw [he.sent, List.append_nil], by simp⟩
    | promotes hp resource he origin => exact ⟨[], by rw [he.sent, List.append_nil], by simp⟩
  have hm := messages_step h.1 hs
  unfold Compositor.messages at hm
  rw [ha, List.map_append] at hm
  rw [ha, ← List.append_cancel_left hm, List.map_map]
  congr 1
  conv_lhs => rw [← List.map_id attempts]
  apply List.map_congr_left
  intro attempt hmem
  simp [← hr attempt hmem]

/-- The announced state after a step. -/
theorem announced_step (h : c.WF) (hs : step c e = some c') :
    c'.announced = if c.fgState = c'.fgState then c.announced else c'.fgState := by
  unfold Compositor.announced
  rw [messages_step h hs, ← List.append_assoc, lastState_append_announce,
    lastState_append_readyMessages]

private theorem delivered_map (messages : List IpcMessage) (result : SendResult) :
    ((messages.map fun message ↦ (⟨message, result⟩ : IpcAttempt)).filter
      (fun attempt ↦ attempt.result = .delivered)).map IpcAttempt.message =
      if result = .delivered then messages else [] := by
  rw [List.filter_map, List.map_map]
  by_cases h : result = .delivered <;> simp [h, Function.comp_def]

/-- The reported state after a step: that of a delivered transition. -/
theorem reported_step (h : c.WF ∧ Bound c) (hs : step c e = some c') :
    c'.reported =
      if c.fgState = c'.fgState ∨ c.ipc.sendResult ≠ .delivered then c.reported
      else c'.fgState := by
  unfold Compositor.reported
  rw [sent_step h hs, List.filter_append, List.map_append, delivered_map]
  by_cases hd : c.ipc.sendResult = .delivered
  · rw [if_pos hd, ← List.append_assoc, lastState_append_announce, lastState_append_readyMessages]
    simp [hd]
  · simp [hd]

/-- What the last transitions' messages came to: the state of the last delivered one, and
whether a later one was lost. -/
structure Delivery where
  state : ForegroundState
  lost : Bool

/-- The delivery after one more event. -/
def noteDelivery (delivery : Delivery) (c : Compositor) (e : Event) : Delivery :=
  match step c e with
  | none => delivery
  | some c' =>
    if c.fgState = c'.fgState then delivery
    else if c.ipc.sendResult = .delivered then ⟨c'.fgState, false⟩
    else { delivery with lost := true }

/-- The compositor together with the delivery of its transitions. -/
def deliverySystem : Transition.System (Compositor × Delivery) Event :=
  compositorSystem.withHistory ⟨.shellForeground, false⟩ noteDelivery

/-- Announcements name the present state, reports the one that was delivered. -/
structure DeliveryNoted (p : Compositor × Delivery) : Prop where
  wf : p.1.WF ∧ Bound p.1
  announced : p.1.announced = p.1.fgState
  reported : p.1.reported = p.2.state
  current : p.2.lost = false → p.2.state = p.1.fgState

private theorem deliverySystem_noted : deliverySystem.Invariant DeliveryNoted where
  base p hp := by
    have h := compositorSystem_bound.base p.1 hp.1
    obtain ⟨⟨config, hc⟩, hd⟩ := hp
    refine ⟨h, ?_, ?_, ?_⟩
    · rw [hc]
      rfl
    · rw [hc, hd]
      rfl
    · rw [hc, hd]
      exact fun _ ↦ rfl
  step p e q hp hs := by
    obtain ⟨hstep, hn⟩ := compositorSystem.withHistory_step_some.mp hs
    have hc : step p.1 e = some q.1 := hstep
    rw [noteDelivery, hc] at hn
    dsimp only at hn
    refine ⟨compositorSystem_bound.step _ _ _ hp.wf hstep, ?_, ?_, ?_⟩
    · rw [announced_step hp.wf.1 hc, hp.announced]
      split
      · assumption
      · rfl
    · rw [reported_step hp.wf hc, hn, hp.reported]
      by_cases hf : p.1.fgState = q.1.fgState
      · simp [hf]
      · by_cases hd : p.1.ipc.sendResult = .delivered <;> simp [hf, hd]
    · rw [hn]
      split
      · next hf => exact fun hl ↦ (hp.current hl).trans hf
      · split
        · exact fun _ ↦ rfl
        · exact fun hl ↦ Bool.noConfusion hl

/-- At every event boundary the last announcement names the present state, and the last
delivered one the state of the last transition whose message got through: the present state,
unless a later transition was lost. An event attempts the messages of its own transition only, on
the connection that it finds, and a connection attempt sends nothing: what was lost stays lost. -/
theorem reported_last_delivered {p : Compositor × Delivery} (hp : deliverySystem.Reachable p) :
    p.1.announced = p.1.fgState ∧ p.1.reported = p.2.state ∧
      (p.2.lost = false → p.1.reported = p.1.fgState) ∧
      (∀ e c', step p.1 e = some c' → c'.sent = p.1.sent ++
        (readyMessages p.1 e ++ announce p.1.fgState c'.fgState).map fun message ↦
          ⟨message, p.1.ipc.sendResult⟩) ∧
      ∀ result c', step p.1 (.ipcTimer result) = some c' → c'.sent = p.1.sent := by
  have h := deliverySystem_noted.reachable hp
  refine ⟨h.announced, h.reported, fun hl ↦ ?_, fun e c' hs ↦ sent_step h.wf hs,
    fun result c' hs ↦ ?_⟩
  · rw [h.reported, h.current hl]
  · obtain ⟨-, hc⟩ := Option.ite_none_right_eq_some.mp hs
    rw [← Option.some.inj hc]

/-- The connection breaks while a game starts, and the game comes to the front. -/
def lossRun : List Event :=
  [.command (.setExpectedGame (.ofString "t") (.ofString "g")), .connect 1, .newToplevel 1 .ok,
    .ipcFd ⟨true, false⟩ .failed, .commit 0 bufferCommit]

/-- The client connects again. -/
def outageRun : List Event := lossRun ++ [.ipcTimer (.connected 3)]

/-- The theorem after the loss, and at the attempt that ends the outage. -/
theorem reported_last_delivered_outage :
    ∃ p ∈ deliverySystem.run (playosCompositorStarted headlessStart, ⟨.shellForeground, false⟩)
        lossRun,
      p.2.lost = true ∧ p.1.announced = p.1.fgState ∧ p.1.reported = p.2.state ∧
        ∃ c ∈ step p.1 (.ipcTimer (.connected 3)), c.sent = p.1.sent := by
  obtain ⟨p, hp, hl, hc⟩ :
      ∃ p ∈ deliverySystem.run (playosCompositorStarted headlessStart, ⟨.shellForeground, false⟩)
          lossRun, p.2.lost = true ∧ (step p.1 (.ipcTimer (.connected 3))).isSome := by
    decide
  obtain ⟨c, hc⟩ := Option.isSome_iff_exists.mp hc
  have h := reported_last_delivered (p := p) ⟨_, _, ⟨⟨headlessStart, rfl⟩, rfl⟩, hp⟩
  exact ⟨p, hp, hl, h.1, h.2.1, c, hc, h.2.2.2.2 _ c hc⟩

/-- After the reconnection playos-init still believes that the game is starting. -/
theorem reported_current_fails :
    ∃ c ∈ compositorSystem.run (playosCompositorStarted headlessStart) outageRun,
      c.ipc.compositorSockFd = some 3 ∧ c.ipc.sendResult = .delivered ∧
        c.reported = .gameStarting ∧ c.fgState = .gameForeground := by
  decide

end PlayosCompositor
