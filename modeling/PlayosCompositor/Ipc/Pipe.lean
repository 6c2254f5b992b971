import PlayosCompositor.Foreground.Messages
import PlayosCompositor.Ipc.Kernel

/-!
# A connection that the peer has closed

What the sends of a handler come to, one after the other (`deliver`), and that a handler
makes the same messages and ends in the same compositor whatever they come to (`Sends`). So a
process lives on exactly as long as nothing is sent on a connection that playos-init has
closed.
-/

namespace PlayosCompositor

/-- The attempts after some further messages, or `none` when one of them ends the process. -/
def deliver (k : Kernel) (s : IpcClient) :
    List IpcAttempt → List IpcMessage → Option (List IpcAttempt)
  | sent, [] => some sent
  | sent, message :: rest =>
    let result := s.sendResultOn (k.link sent.length)
    if k.Kills result then none else deliver k s (sent ++ [⟨message, result⟩]) rest

private theorem deliver_append (k : Kernel) (s : IpcClient) (sent : List IpcAttempt)
    (first second : List IpcMessage) : deliver k s sent (first ++ second) =
      (deliver k s sent first).bind fun sent ↦ deliver k s sent second := by
  induction first generalizing sent with
  | nil => rfl
  | cons message first ih =>
    simp only [List.cons_append, deliver]
    split
    · rfl
    · exact ih _

/-- A send breaks the pipe where the connection is open on this side only. -/
theorem kills_sendResultOn (k : Kernel) (s : IpcClient) (link : Link) :
    k.Kills (s.sendResultOn link) ↔
      k.raisesSigpipe = true ∧ s.compositorSockFd.isSome ∧ link = .peerClosed := by
  rcases s with ⟨sock, source, timer, delay, openFds, link'⟩
  cases sock <;> cases link <;> simp [Kernel.Kills, IpcClient.sendResultOn,
    IpcClient.sendResult, frameSendFlags, handledSignals]

/-- Messages are survived when none of them finds the connection closed by the peer. -/
theorem deliver_isSome_iff (k : Kernel) (s : IpcClient) (sent : List IpcAttempt)
    (messages : List IpcMessage) : (deliver k s sent messages).isSome ↔
      ∀ n < messages.length, ¬ k.Kills (s.sendResultOn (k.link (sent.length + n))) := by
  induction messages generalizing sent with
  | nil => simp [deliver]
  | cons message rest ih =>
    simp only [deliver]
    split
    · next hk => exact iff_of_false (by simp) fun h ↦ h 0 (Nat.succ_pos _) hk
    · next hk =>
      rw [ih]
      simp only [List.length_append, List.length_cons, List.length_nil, Nat.zero_add]
      constructor
      · intro h n hn
        cases n with
        | zero => exact hk
        | succ n =>
          have hr := h n (Nat.lt_of_succ_lt_succ hn)
          rwa [Nat.add_assoc, Nat.add_comm 1 n] at hr
      · intro h n hn
        rw [Nat.add_assoc, Nat.add_comm 1 n]
        exact h (n + 1) (Nat.succ_lt_succ hn)

/-! ### Handlers and their sends -/

/-- The function neither sends nor looks at what was sent, and keeps the connection. -/
structure Unsent (f : Compositor → Compositor) : Prop where
  sent : ∀ c sent, f { c with sent } = { f c with sent }
  ipc : ∀ c, (f c).ipc = c.ipc

/-- The condition does not look at what was sent. -/
def UnsentTest (p : Compositor → Prop) : Prop := ∀ c sent, p { c with sent } ↔ p c

namespace Unsent

variable {f g : Compositor → Compositor}

private theorem skip : Unsent fun c ↦ c := ⟨fun _ _ ↦ rfl, fun _ ↦ rfl⟩

private theorem comp (hf : Unsent f) (hg : Unsent g) : Unsent fun c ↦ f (g c) where
  sent c sent := by rw [hg.sent, hf.sent]
  ipc c := by rw [hf.ipc, hg.ipc]

private theorem ite {p : Compositor → Prop} [DecidablePred p] (hp : UnsentTest p) (hf : Unsent f)
    (hg : Unsent g) : Unsent fun c ↦ if p c then f c else g c where
  sent c sent := by
    have hpc := hp c sent
    by_cases h : p c
    · rw [if_pos h, if_pos (hpc.mpr h), hf.sent]
    · rw [if_neg h, if_neg (mt hpc.mp h), hg.sent]
  ipc c := by
    split
    · exact hf.ipc c
    · exact hg.ipc c

end Unsent

/-- `p` is the reading of `f` in which the kernel answers: both send the same messages, and
`p` ends as `f` does unless the process is ended. -/
structure Sends (p : Kernel → Compositor → Option Compositor) (f : Compositor → Compositor) :
    Prop where
  messages : ∀ c, ∃ messages, ∀ sent,
    f { c with sent } =
      { f c with sent := sent ++ messages.map fun message ↦ ⟨message, c.ipc.sendResult⟩ } ∧
    ∀ k, p k { c with sent } = (deliver k c.ipc sent messages).map fun sent ↦ { f c with sent }
  ipc : ∀ c, (f c).ipc = c.ipc

namespace Sends

variable {p q : Kernel → Compositor → Option Compositor} {f g : Compositor → Compositor}

private theorem of_unsent (hf : Unsent f) : Sends (fun _ c ↦ some (f c)) f where
  messages c := ⟨[], fun sent ↦ ⟨by rw [hf.sent, List.map_nil, List.append_nil],
    fun k ↦ by rw [hf.sent]; rfl⟩⟩
  ipc := hf.ipc

private theorem send (message : Compositor → IpcMessage)
    (hm : ∀ c sent, message { c with sent } = message c) :
    Sends (fun k c ↦ k.effects.send c (message c))
      fun c ↦ playosCompositorIpcSend c (message c) where
  messages c := by
    refine ⟨[message c], fun sent ↦ ⟨?_, fun k ↦ ?_⟩⟩
    · rw [hm]
      rfl
    · rw [hm]
      simp only [Kernel.effects, deliver]
      split <;> rfl
  ipc _ := rfl

private theorem comp (hq : Sends q g) (hp : Sends p f) :
    Sends (fun k c ↦ (p k c).bind (q k)) fun c ↦ g (f c) where
  messages c := by
    obtain ⟨first, hf⟩ := hp.messages c
    obtain ⟨second, hg⟩ := hq.messages (f c)
    refine ⟨first ++ second, fun sent ↦ ⟨?_, fun k ↦ ?_⟩⟩
    · rw [(hf sent).1, (hg _).1, hp.ipc, List.map_append, List.append_assoc]
    · rw [(hf sent).2, Option.bind_map, deliver_append]
      cases deliver k c.ipc sent first with
      | none => rfl
      | some sent =>
        change q k { f c with sent } = _
        rw [(hg sent).2, hp.ipc]
        rfl
  ipc c := by rw [hq.ipc, hp.ipc]

private theorem after (hp : Sends p f) (hg : Unsent g) :
    Sends (fun k c ↦ p k (g c)) fun c ↦ f (g c) :=
  hp.comp (of_unsent hg)

private theorem before (hg : Unsent g) (hp : Sends p f) :
    Sends (fun k c ↦ (p k c).bind fun c ↦ some (g c)) fun c ↦ g (f c) :=
  (of_unsent hg).comp hp

private theorem ite {b : Compositor → Prop} [DecidablePred b] (hb : UnsentTest b) (hp : Sends p f)
    (hq : Sends q g) :
    Sends (fun k c ↦ if b c then p k c else q k c) fun c ↦ if b c then f c else g c where
  messages c := by
    have hbc := hb c
    by_cases h : b c
    · simp only [h, (hbc _).mpr h, ↓reduceIte]
      exact hp.messages c
    · simp only [h, fun sent ↦ mt (hbc sent).mp h, ↓reduceIte]
      exact hq.messages c
  ipc c := by
    split
    · exact hp.ipc c
    · exact hq.ipc c

private theorem pick {α : Type} {p : α → Kernel → Compositor → Option Compositor}
    {f : α → Compositor → Compositor} (h : ∀ a, Sends (p a) (f a)) (a : Compositor → α)
    (ha : ∀ c sent, a { c with sent } = a c) :
    Sends (fun k c ↦ p (a c) k c) fun c ↦ f (a c) c where
  messages c := by
    simp only [ha]
    exact (h (a c)).messages c
  ipc c := (h (a c)).ipc c

end Sends

/-! ### State machine and overlay manager -/

private theorem unsent_sendOverlayEvent (event : OverlayEvent) :
    Unsent (sendOverlayEvent · event) where
  sent c sent := by
    unfold sendOverlayEvent
    cases c.overlayResource <;> rfl
  ipc c := by
    unfold sendOverlayEvent
    cases c.overlayResource <;> rfl

private theorem sends_playosStateTransition (state : ForegroundState) :
    Sends (fun k c ↦ k.effects.playosStateTransition c state) (playosStateTransition · state) := by
  refine .ite (fun _ _ ↦ Iff.rfl) (.of_unsent .skip) ?_
  refine Sends.after (.send (fun _ ↦ .stateChanged state) fun _ _ ↦ rfl) ?_
  refine .comp (f := playosStateRefresh) ⟨fun _ _ ↦ rfl, fun _ ↦ rfl⟩ ?_
  refine .comp (f := fun c ↦ { c with fgState := state }) ⟨fun _ _ ↦ rfl, fun _ ↦ rfl⟩ ?_
  refine .ite (fun _ _ ↦ Iff.rfl) ?_ .skip
  refine .comp (f := fun c ↦ { c with overlayVisible := false }) ⟨fun _ _ ↦ rfl, fun _ ↦ rfl⟩ ?_
  exact .ite (fun _ _ ↦ Iff.rfl) (unsent_sendOverlayEvent _) .skip

private theorem unsent_forgetExpected : Unsent forgetExpected := ⟨fun _ _ ↦ rfl, fun _ ↦ rfl⟩

private theorem unsent_playosStateRefresh : Unsent playosStateRefresh :=
  ⟨fun _ _ ↦ rfl, fun _ ↦ rfl⟩

private theorem sends_playosStateHandleClearExpected :
    Sends (fun k ↦ k.effects.playosStateHandleClearExpected) playosStateHandleClearExpected := by
  have hleave := (sends_playosStateTransition .shellForeground).ite
    (b := fun c ↦ c.fgState = .gameStarting ∨ c.fgState = .gameForeground ∨
      c.fgState = .playosUiForegroundWithGameBackground) (fun _ _ ↦ Iff.rfl) (.of_unsent .skip)
  exact hleave.after unsent_forgetExpected

private theorem sends_playosStateGameSurfaceReady :
    Sends (fun k ↦ k.effects.playosStateGameSurfaceReady) playosStateGameSurfaceReady := by
  refine .ite (fun _ _ ↦ Iff.rfl) (.of_unsent .skip) ?_
  refine .ite (fun _ _ ↦ Iff.rfl) (.of_unsent .skip) ?_
  refine Sends.after (p := fun k c ↦
      (k.effects.send c (.gameSurfaceReady c.expectedLaunchToken)).bind fun c ↦
        k.effects.playosStateTransition c .gameForeground)
    (f := fun c ↦ playosStateTransition
      (playosCompositorIpcSend c (.gameSurfaceReady c.expectedLaunchToken)) .gameForeground)
    ?_ (g := fun c ↦ { c with gameSurfaceReady := true }) ⟨fun _ _ ↦ rfl, fun _ ↦ rfl⟩
  exact (sends_playosStateTransition _).comp (.send _ fun _ _ ↦ rfl)

private theorem sends_playosStateGameExited (crashed : Bool) :
    Sends (fun k c ↦ k.effects.playosStateGameExited c crashed) (playosStateGameExited · crashed) :=
  .before unsent_forgetExpected
    (.ite (fun _ _ ↦ Iff.rfl) (sends_playosStateTransition _) (.of_unsent .skip))

private theorem sends_playosOverlayManagerShow :
    Sends (fun k ↦ k.effects.playosOverlayManagerShow) playosOverlayManagerShow := by
  refine .ite (fun _ _ ↦ Iff.rfl) (.of_unsent .skip) ?_
  have hinfo : Unsent playosOverlaySendOutputInfo :=
    ⟨fun c sent ↦ (unsent_sendOverlayEvent (.outputInfo _ _ _ _)).sent c sent,
      fun c ↦ (unsent_sendOverlayEvent _).ipc c⟩
  have hshown : Unsent fun c ↦ { c with overlayVisible := true } :=
    ⟨fun _ _ ↦ rfl, fun _ ↦ rfl⟩
  have henter := (sends_playosStateTransition .playosUiForegroundWithGameBackground).ite
    (b := fun c ↦ c.fgState = .gameForeground) (fun _ _ ↦ Iff.rfl)
    (.of_unsent unsent_playosStateRefresh)
  exact henter.after ((unsent_sendOverlayEvent _).comp (hinfo.comp hshown))

private theorem sends_playosOverlayManagerHide :
    Sends (fun k ↦ k.effects.playosOverlayManagerHide) playosOverlayManagerHide := by
  refine .ite (fun _ _ ↦ Iff.rfl) (.of_unsent .skip) ?_
  have hhidden : Unsent fun c ↦ { c with overlayVisible := false } :=
    ⟨fun _ _ ↦ rfl, fun _ ↦ rfl⟩
  have hnext := Sends.pick sends_playosStateTransition
    (fun c ↦ if c.gameTree.isSome then .gameForeground else .shellForeground) fun _ _ ↦ rfl
  have hleave := hnext.ite (b := fun c ↦ c.fgState = .playosUiForegroundWithGameBackground)
    (fun _ _ ↦ Iff.rfl) (.of_unsent unsent_playosStateRefresh)
  exact hleave.after ((unsent_sendOverlayEvent _).comp hhidden)

/-! ### Handlers of events -/

private theorem sends_ipcDispatch (command : IpcCommand) :
    Sends (fun k c ↦ k.effects.ipcDispatch c command) (ipcDispatch · command) := by
  cases command with
  | setExpectedGame launchToken gameId =>
    exact (sends_playosStateTransition _).after ⟨fun _ _ ↦ rfl, fun _ ↦ rfl⟩
  | clearExpectedGame => exact sends_playosStateHandleClearExpected
  | forceTerminateGame => exact .before unsent_forgetExpected (sends_playosStateTransition _)
  | showOverlay => exact sends_playosOverlayManagerShow
  | hideOverlay => exact sends_playosOverlayManagerHide

private theorem sends_handleKeyboardKey (keycode : UInt32) (state : KeyState) :
    Sends (fun k c ↦ k.effects.handleKeyboardKey c keycode state)
      (handleKeyboardKey · keycode state) := by
  refine .ite (fun _ _ ↦ Iff.rfl) ?_ (.of_unsent .skip)
  refine .ite (fun _ _ ↦ Iff.rfl) ?_ (.of_unsent .skip)
  refine .ite (fun _ _ ↦ Iff.rfl) sends_playosOverlayManagerShow ?_
  exact .ite (fun _ _ ↦ Iff.rfl) sends_playosOverlayManagerHide (.of_unsent .skip)

private theorem sends_playosOverlayRequest (client : ClientId) (request : OverlayRequest) :
    Sends (fun k c ↦ k.effects.playosOverlayRequest c client request)
      (playosOverlayRequest · client request) := by
  refine .ite (fun _ _ ↦ Iff.rfl) (.of_unsent .skip) ?_
  cases request with
  | requestDismiss => exact sends_playosOverlayManagerHide
  | _ => exact .of_unsent .skip

private theorem sends_handleToplevelCommit (track : ToplevelTrack) (surface : SurfaceCommit) :
    Sends (fun k c ↦ k.effects.handleToplevelCommit c track surface)
      (handleToplevelCommit · track surface) := by
  have hconfigure : Unsent (configureInitial · track surface) :=
    .ite (fun _ _ ↦ Iff.rfl) ⟨fun _ _ ↦ rfl, fun _ ↦ rfl⟩ .skip
  have hcount : Unsent (countCommit · track surface) := by
    refine .ite (fun _ _ ↦ Iff.rfl) ?_ .skip
    cases track.role <;> exact ⟨fun _ _ ↦ rfl, fun _ ↦ rfl⟩
  refine .ite (fun _ _ ↦ Iff.rfl) (.of_unsent .skip) ?_
  have hready := sends_playosStateGameSurfaceReady.ite
    (b := fun _ ↦ track.role = .game ∧ surface.buffer) (fun _ _ ↦ Iff.rfl) (.of_unsent .skip)
  exact hready.after (hcount.comp hconfigure)

private theorem sends_handleToplevelDestroy (track : ToplevelTrack) :
    Sends (fun k c ↦ k.effects.handleToplevelDestroy c track) (handleToplevelDestroy · track) := by
  have hgone : Unsent fun c ↦ { c with scene := c.scene.destroy (.tree track.tree) } :=
    ⟨fun _ _ ↦ rfl, fun _ ↦ rfl⟩
  have huntrack : Unsent (untrackToplevel · track) := by
    refine .comp
      (f := fun c ↦ { c with toplevels := c.toplevels.filter fun t ↦ t.tree ≠ track.tree })
      ⟨fun _ _ ↦ rfl, fun _ ↦ rfl⟩ ?_
    refine .ite (fun _ _ ↦ Iff.rfl) ⟨fun _ _ ↦ rfl, fun _ ↦ rfl⟩ ?_
    refine .ite (fun _ _ ↦ Iff.rfl) ⟨fun _ _ ↦ rfl, fun _ ↦ rfl⟩ ?_
    exact .ite (fun _ _ ↦ Iff.rfl) ⟨fun _ _ ↦ rfl, fun _ ↦ rfl⟩ .skip
  have hrestack : Unsent compositorRestack := ⟨fun _ _ ↦ rfl, fun _ ↦ rfl⟩
  have hexit := (sends_playosStateGameExited false).ite (b := fun _ ↦ track.role = .game)
    (fun _ _ ↦ Iff.rfl) (.of_unsent unsent_playosStateRefresh)
  exact .before hrestack (hexit.after (huntrack.comp hgone))

private theorem sends_destroyObject (object : ClientObject) :
    Sends (fun k c ↦ k.effects.destroyObject c object) (destroyObject · object) := by
  cases object with
  | toplevel tree =>
    have hpiped : ∀ (k : Kernel) (c : Compositor), k.effects.destroyObject c (.toplevel tree) =
        (c.track? tree).elim (some c) (k.effects.handleToplevelDestroy c) := by
      intro k c
      simp only [Effects.destroyObject]
      cases c.track? tree <;> rfl
    have hplain : ∀ c, destroyObject c (.toplevel tree) =
        (c.track? tree).elim c (handleToplevelDestroy c) := by
      intro c
      simp only [destroyObject]
      cases c.track? tree <;> rfl
    simp only [hpiped, hplain]
    refine .pick
      (p := fun track? k c ↦ track?.elim (some c) (k.effects.handleToplevelDestroy c))
      (f := fun track? c ↦ track?.elim c (handleToplevelDestroy c))
      ?_ (fun c ↦ c.track? tree) fun _ _ ↦ rfl
    intro track?
    cases track? with
    | none => exact .of_unsent .skip
    | some track => exact sends_handleToplevelDestroy track
  | overlayBinding resource =>
    refine .of_unsent (Unsent.comp
      (f := fun c ↦ { c with
        overlayResources := c.overlayResources.filter fun bound ↦ bound.resource ≠ resource })
      ⟨fun _ _ ↦ rfl, fun _ ↦ rfl⟩
      (g := fun c ↦ if c.overlayResource = some resource then { c with overlayResource := none }
        else c) ?_)
    exact .ite (fun _ _ ↦ Iff.rfl) ⟨fun _ _ ↦ rfl, fun _ ↦ rfl⟩ .skip

private theorem sends_foldl_destroyObject (order : List ClientObject) :
    Sends (fun k c ↦ order.foldlM k.effects.destroyObject c)
      fun c ↦ order.foldl destroyObject c := by
  induction order with
  | nil => exact .of_unsent .skip
  | cons object order ih => exact ih.comp (sends_destroyObject object)

private theorem sends_wlClientDestroy (client : ClientId) (order : List ClientObject) :
    Sends (fun k c ↦ k.effects.wlClientDestroy c client order)
      (wlClientDestroy · client order) := by
  have hlisteners : Unsent (runDestroyListeners · client) := by
    refine Unsent.comp
      (f := fun c ↦ if c.overlayClientDestroy = some client then playosTrustedOverlayClientGone c
        else c) ?_ ?_
    · exact .ite (fun _ _ ↦ Iff.rfl) ⟨fun _ _ ↦ rfl, fun _ ↦ rfl⟩ .skip
    · exact .ite (fun _ _ ↦ Iff.rfl) ⟨fun _ _ ↦ rfl, fun _ ↦ rfl⟩ .skip
  have hforget : Unsent fun c ↦ { c with
      clients := c.clients.filter (· ≠ client)
      managers := c.managers.filter (· ≠ client) } := ⟨fun _ _ ↦ rfl, fun _ ↦ rfl⟩
  exact .before hforget ((sends_foldl_destroyObject order).after hlisteners)

private theorem effects_playosTrustedClientClaim (k : Kernel) (c : Compositor) (client : ClientId)
    (role : TrustedRole) : k.effects.playosTrustedClientClaim c client role =
      some (playosTrustedClientClaim c client role) := by
  unfold Effects.playosTrustedClientClaim playosTrustedClientClaim
  split
  · rfl
  · split <;> rfl

/-! ### Steps of the process -/

/-- `d` is `c` after some messages on the connection as it was, and the kernel's reading of
the same handler ends in `d` unless the process is ended. -/
def Sent (c d : Compositor) (reading : Kernel → Option Compositor) : Prop :=
  ∃ messages, d.sent = c.sent ++ messages.map (fun message ↦ ⟨message, c.ipc.sendResult⟩) ∧
    ∀ k, reading k = (deliver k c.ipc c.sent messages).map fun sent ↦ { d with sent }

private theorem Sends.apply {p : Kernel → Compositor → Option Compositor}
    {f : Compositor → Compositor}
    (h : Sends p f) (c : Compositor) : Sent c (f c) fun k ↦ p k c := by
  obtain ⟨messages, hm⟩ := h.messages c
  refine ⟨messages, ?_, fun k ↦ (hm c.sent).2 k⟩
  exact congrArg Compositor.sent (hm c.sent).1

private theorem Sent.quiet {c d : Compositor} (h : d.sent = c.sent) : Sent c d fun _ ↦ some d := by
  refine ⟨[], by rw [h, List.map_nil, List.append_nil], fun k ↦ ?_⟩
  rw [deliver, ← h]
  rfl

/-- Every event is read as its handler, by the same messages. -/
theorem effects_step {c c' : Compositor} {e : Event} (hs : step c e = some c') :
    ∃ reading : Kernel → Option Compositor, Sent c c' reading ∧
      ∀ k, k.effects.step c e = some (reading k) := by
  cases handled_of_step hs with
  | ipcFd mask read h =>
    refine ⟨fun k ↦ k.effects.ipcFdHandler c mask read, ?_, fun k ↦ if_pos h⟩
    rcases mask with ⟨hangup, readable⟩
    cases hangup
    case true => exact .quiet rfl
    cases readable
    case false => exact .quiet rfl
    cases read with
    | failed => exact .quiet rfl
    | dropped => exact .quiet rfl
    | command command => exact (sends_ipcDispatch command).apply c
  | disconnect client order h ho =>
    exact ⟨_, (sends_wlClientDestroy client order).apply c, fun k ↦ if_pos ⟨h, ho⟩⟩
  | overlayRequest resource request bound hb =>
    refine ⟨_, (sends_playosOverlayRequest bound.client request).apply c, fun k ↦ ?_⟩
    simp only [Effects.step, hb, Option.map_some]
  | commit tree surface track ht =>
    refine ⟨_, (sends_handleToplevelCommit track surface).apply c, fun k ↦ ?_⟩
    simp only [Effects.step, ht, Option.map_some]
  | destroyToplevel tree track ht =>
    refine ⟨_, (sends_handleToplevelDestroy track).apply c, fun k ↦ ?_⟩
    simp only [Effects.step, ht, Option.map_some]
  | key keycode state => exact ⟨_, (sends_handleKeyboardKey keycode state).apply c, fun k ↦ rfl⟩
  | ipcTimer result _ _ =>
    exact ⟨_, .quiet rfl, fun k ↦ by rw [Effects.step, hs]; rfl⟩
  | ipcLink link _ => exact ⟨_, .quiet rfl, fun k ↦ by rw [Effects.step, hs]; rfl⟩
  | connect client _ => exact ⟨_, .quiet rfl, fun k ↦ by rw [Effects.step, hs]; rfl⟩
  | bindManager client created _ =>
    exact ⟨_, .quiet (by simp), fun k ↦ by rw [Effects.step, hs]; rfl⟩
  | registerShell client h =>
    refine ⟨_, .quiet (by simp), fun k ↦ (if_pos h).trans (congrArg some ?_)⟩
    rw [Effects.playosManagerRegisterShell, effects_playosTrustedClientClaim]
    unfold playosManagerRegisterShell
    cases playosTrustedClientClaim c client .shell <;> rfl
  | registerOverlay client h =>
    refine ⟨_, .quiet (by simp), fun k ↦ (if_pos h).trans (congrArg some ?_)⟩
    rw [Effects.playosManagerRegisterOverlay, effects_playosTrustedClientClaim]
    unfold playosManagerRegisterOverlay
    cases playosTrustedClientClaim c client .overlay <;> rfl
  | bindOverlay client created _ =>
    exact ⟨_, .quiet (by simp), fun k ↦ by rw [Effects.step, hs]; rfl⟩
  | newToplevel client alloc h =>
    refine ⟨_, .quiet (by simp), fun k ↦ (if_pos h).trans (congrArg some ?_)⟩
    cases alloc <;> rfl
  | newOutput calls => exact ⟨_, .quiet (by simp), fun k ↦ by rw [Effects.step, hs]; rfl⟩
  | frame sceneOutput windowElapsed =>
    exact ⟨_, .quiet (by simp), fun k ↦ by rw [Effects.step, hs]; rfl⟩

/-- An event that occurs to the process occurs to the compositor. -/
theorem step_of_effects {k : Kernel} {c : Compositor} {e : Event} {q : Option Compositor}
    (hs : k.effects.step c e = some q) : ∃ c', step c e = some c' := by
  apply Option.isSome_iff_exists.mp
  rw [← k.effects.isSome_step, hs]
  rfl

end PlayosCompositor
