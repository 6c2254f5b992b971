import PlayosCompositor.Foreground.Guarantees
import PlayosCompositor.Foreground.Refinement

/-!
# Messages to playos-init

What each event adds to the messages that the compositor tries to send: GameSurfaceReady
when a frame activates a game, then CompositorStateChanged when the foreground state is
another one (`messages_step`). `sent` also records what became of each attempt, which no
step reads.
-/

namespace PlayosCompositor

/-- The messages that the compositor has tried to send, oldest first. -/
def Compositor.messages (c : Compositor) : List IpcMessage := c.sent.map IpcAttempt.message

/-- A new foreground state is announced. -/
def announce (old new : ForegroundState) : List IpcMessage :=
  if old = new then [] else [.stateChanged new]

/-- A frame that activates a game is reported under the expected token. -/
def readyMessages (c : Compositor) : Event → List IpcMessage
  | .commit tree surface =>
    if surface.xdgToplevel ∧ surface.buffer ∧ c.Activates tree then
      [.gameSurfaceReady c.expectedLaunchToken]
    else []
  | _ => []

/-- Between the two compositors only the new foreground state, if any, was announced. -/
def Reports (c c' : Compositor) : Prop :=
  c'.messages = c.messages ++ announce c.fgState c'.fgState

/-- A frame is reported as ready when it activates a game, under the expected token. -/
theorem mem_readyMessages {c : Compositor} {e : Event} {message : IpcMessage} :
    message ∈ readyMessages c e ↔ message = .gameSurfaceReady c.expectedLaunchToken ∧
      ∃ tree surface, e = .commit tree surface ∧
        surface.xdgToplevel ∧ surface.buffer ∧ c.Activates tree := by
  cases e with
  | commit tree surface =>
    simp only [readyMessages]
    split
    · next ha => simp [ha]
    · next ha => simpa using fun _ hx hb ↦ not_and.mp (not_and.mp ha hx) hb
  | _ => simp [readyMessages]

/-- An unchanged state is not announced. -/
@[simp] theorem announce_self (state : ForegroundState) : announce state state = [] := by
  simp [announce]

/-! ### What is not sent -/

@[simp] theorem sent_sendOverlayEvent (c : Compositor) (event : OverlayEvent) :
    (sendOverlayEvent c event).sent = c.sent := by
  unfold sendOverlayEvent
  split <;> rfl

@[simp] theorem sent_playosStateRefresh (c : Compositor) :
    (playosStateRefresh c).sent = c.sent := rfl

@[simp] theorem sent_compositorRestack (c : Compositor) : (compositorRestack c).sent = c.sent :=
  rfl

@[simp] theorem sent_playosCompositorReclassifyToplevels (c : Compositor) :
    (playosCompositorReclassifyToplevels c).sent = c.sent := rfl

@[simp] theorem sent_untrackToplevel (c : Compositor) (track : ToplevelTrack) :
    (untrackToplevel c track).sent = c.sent := by
  unfold untrackToplevel
  dsimp only
  repeat' split
  all_goals rfl

@[simp] theorem sent_handleNewXdgToplevel (c : Compositor) (client : ClientId)
    (alloc : ToplevelAlloc) : (handleNewXdgToplevel c client alloc).sent = c.sent := by
  cases alloc <;> rfl

@[simp] theorem sent_playosOverlayResolveResource (c : Compositor) (client : ClientId) :
    (playosOverlayResolveResource c client).sent = c.sent := by
  unfold playosOverlayResolveResource
  split <;> simp [playosOverlaySendOutputInfo]

@[simp] theorem sent_playosManagerRegisterShell (c : Compositor) (client : ClientId) :
    (playosManagerRegisterShell c client).sent = c.sent := by
  unfold playosManagerRegisterShell playosTrustedClientClaim
  cases c.shellClient <;> simp

@[simp] theorem sent_playosManagerRegisterOverlay (c : Compositor) (client : ClientId) :
    (playosManagerRegisterOverlay c client).sent = c.sent := by
  unfold playosManagerRegisterOverlay playosTrustedClientClaim
  cases c.overlayClient <;> simp

@[simp] theorem sent_playosManagerBind (c : Compositor) (client : ClientId) (created : Bool) :
    (playosManagerBind c client created).sent = c.sent := by
  cases created <;> rfl

@[simp] theorem sent_playosOverlayBind (c : Compositor) (client : ClientId) (created : Bool) :
    (playosOverlayBind c client created).sent = c.sent := by
  unfold playosOverlayBind
  dsimp only
  repeat' split
  all_goals simp

@[simp] theorem sent_playosOverlayResourceDestroy (c : Compositor) (resource : ResourceId) :
    (playosOverlayResourceDestroy c resource).sent = c.sent := by
  unfold playosOverlayResourceDestroy
  dsimp only
  split <;> rfl

@[simp] theorem sent_runDestroyListeners (c : Compositor) (client : ClientId) :
    (runDestroyListeners c client).sent = c.sent := by
  rw [runDestroyListeners_eq]

@[simp] theorem sent_handleNewOutput (c : Compositor) (calls : OutputCalls) :
    (handleNewOutput c calls).sent = c.sent := by
  unfold handleNewOutput
  repeat' split
  all_goals rfl

@[simp] theorem sent_handleFrame (c : Compositor) (sceneOutput windowElapsed : Bool) :
    (handleFrame c sceneOutput windowElapsed).sent = c.sent := by
  unfold handleFrame
  repeat' split
  all_goals rfl

private theorem Reports.of_sent {c c' : Compositor} (hs : c'.sent = c.sent)
    (hf : c'.fgState = c.fgState) : Reports c c' := by
  unfold Reports Compositor.messages
  rw [hs, hf, announce_self, List.append_nil]

/-! ### What is sent -/

@[simp] theorem messages_playosCompositorIpcSend (c : Compositor) (message : IpcMessage) :
    (playosCompositorIpcSend c message).messages = c.messages ++ [message] := by
  simp [playosCompositorIpcSend, Compositor.messages]

/-- A transition announces the state that it enters. -/
@[simp] theorem messages_playosStateTransition (c : Compositor) (state : ForegroundState) :
    (playosStateTransition c state).messages = c.messages ++ announce c.fgState state := by
  unfold playosStateTransition announce
  by_cases h : c.fgState = state
  · simp [h]
  · cases hv : c.overlayVisible <;> cases state <;>
      simp [h, hv, playosOverlaySendAboutToHide, playosCompositorIpcSend, Compositor.messages]

private theorem reports_playosStateTransition (c : Compositor) (state : ForegroundState) :
    Reports c (playosStateTransition c state) := by
  unfold Reports
  simp

private theorem Reports.after {c c₁ c' : Compositor} (h : Reports c₁ c') (hs : c₁.sent = c.sent)
    (hf : c₁.fgState = c.fgState) : Reports c c' := by
  unfold Reports Compositor.messages at h ⊢
  rw [← hs, ← hf]
  exact h

private theorem Reports.before {c c₁ c' : Compositor} (h : Reports c c₁) (hs : c'.sent = c₁.sent)
    (hf : c'.fgState = c₁.fgState) : Reports c c' := by
  unfold Reports Compositor.messages at h ⊢
  rw [hs, hf]
  exact h

private theorem Reports.trans {c c₁ c' : Compositor} (h : Reports c c₁) (h' : Reports c₁ c')
    (ho : c₁.fgState = c.fgState ∨ c'.fgState = c₁.fgState) : Reports c c' := by
  unfold Reports at h h' ⊢
  rw [h', h, List.append_assoc]
  rcases ho with ho | ho <;> rw [ho] <;> simp

private theorem reports_playosOverlayManagerShow (c : Compositor) :
    Reports c (playosOverlayManagerShow c) := by
  unfold playosOverlayManagerShow
  split
  · exact .of_sent rfl rfl
  · dsimp only
    split
    · exact (reports_playosStateTransition _ _).after
        (by simp [playosOverlaySendOutputInfo, playosOverlaySendAboutToShow])
        (by simp [playosOverlaySendOutputInfo, playosOverlaySendAboutToShow])
    · exact .of_sent (by simp [playosOverlaySendOutputInfo, playosOverlaySendAboutToShow])
        (by simp [playosOverlaySendOutputInfo, playosOverlaySendAboutToShow])

private theorem reports_playosOverlayManagerHide (c : Compositor) :
    Reports c (playosOverlayManagerHide c) := by
  unfold playosOverlayManagerHide
  split
  · exact .of_sent rfl rfl
  · dsimp only
    split
    · exact (reports_playosStateTransition _ _).after (by simp [playosOverlaySendAboutToHide])
        (by simp [playosOverlaySendAboutToHide])
    · exact .of_sent (by simp [playosOverlaySendAboutToHide])
        (by simp [playosOverlaySendAboutToHide])

/-- Every command reports truly. -/
theorem reports_ipcDispatch (c : Compositor) (command : IpcCommand) :
    Reports c (ipcDispatch c command) := by
  cases command with
  | setExpectedGame launchToken gameId =>
    exact (reports_playosStateTransition _ _).after rfl rfl
  | clearExpectedGame =>
    simp only [ipcDispatch, playosStateHandleClearExpected]
    split
    · exact (reports_playosStateTransition _ _).after rfl rfl
    · exact .of_sent rfl rfl
  | forceTerminateGame => exact (reports_playosStateTransition c _).before rfl rfl
  | showOverlay => exact reports_playosOverlayManagerShow c
  | hideOverlay => exact reports_playosOverlayManagerHide c

private theorem reports_handleKeyboardKey (c : Compositor) (keycode : UInt32) (state : KeyState) :
    Reports c (handleKeyboardKey c keycode state) := by
  unfold handleKeyboardKey
  repeat' split
  all_goals first
    | exact reports_playosOverlayManagerShow c
    | exact reports_playosOverlayManagerHide c
    | exact .of_sent rfl rfl

private theorem reports_playosOverlayRequest (c : Compositor) (client : ClientId)
    (request : OverlayRequest) : Reports c (playosOverlayRequest c client request) := by
  unfold playosOverlayRequest
  repeat' split
  all_goals first
    | exact reports_playosOverlayManagerHide c
    | exact .of_sent rfl rfl

private theorem reports_playosStateGameExited (c : Compositor) (crashed : Bool) :
    Reports c (playosStateGameExited c crashed) := by
  unfold playosStateGameExited
  dsimp only
  split
  · exact (reports_playosStateTransition c _).before rfl rfl
  · exact .of_sent rfl rfl

private theorem reports_handleToplevelDestroy (c : Compositor) (track : ToplevelTrack) :
    Reports c (handleToplevelDestroy c track) := by
  unfold handleToplevelDestroy
  dsimp only
  split
  · refine ((reports_playosStateGameExited _ false).after ?_ ?_).before rfl rfl
    · exact sent_untrackToplevel _ _
    · rw [toForeground_untrackToplevel]
      rfl
  · refine .of_sent (sent_untrackToplevel _ _) ?_
    change (untrackToplevel _ track).fgState = _
    rw [toForeground_untrackToplevel]
    rfl

private theorem reports_destroyObject (c : Compositor) (object : ClientObject) :
    Reports c (destroyObject c object) := by
  cases object with
  | toplevel tree =>
    simp only [destroyObject]
    split
    · exact .of_sent rfl rfl
    · exact reports_handleToplevelDestroy c _
  | overlayBinding resource =>
    refine .of_sent (sent_playosOverlayResourceDestroy c resource) ?_
    simp [destroyObject]

private theorem fgState_destroyObject (c : Compositor) (object : ClientObject) :
    (destroyObject c object).fgState = c.fgState ∨
      (destroyObject c object).fgState = .shellForeground := by
  rw [toForeground_destroyObject]
  cases object with
  | toplevel tree =>
    dsimp only
    rcases Foreground.unmap_cases c.toForeground tree with he | ⟨track, -, ⟨-, he⟩ | ⟨-, he⟩⟩
    · exact Or.inl (congrArg _ he)
    · right
      rw [he]
      exact Foreground.exited_fgState _
    · left
      rw [he]
      rfl
  | overlayBinding resource => exact Or.inl rfl

private theorem fgState_foldl_destroyObject {c : Compositor} (h : c.fgState = .shellForeground)
    (order : List ClientObject) :
    (order.foldl destroyObject c).fgState = .shellForeground := by
  apply List.foldlRecOn order destroyObject (motive := fun d ↦ d.fgState = _) h
  intro d hd object _
  rcases fgState_destroyObject d object with he | he
  · exact he.trans hd
  · exact he

private theorem reports_foldl_destroyObject (c : Compositor) (order : List ClientObject) :
    Reports c (order.foldl destroyObject c) := by
  induction order generalizing c with
  | nil => exact .of_sent rfl rfl
  | cons object order ih =>
    apply (reports_destroyObject c object).trans (ih (destroyObject c object))
    rcases fgState_destroyObject c object with he | he
    · exact Or.inl he
    · right
      rw [he]
      exact fgState_foldl_destroyObject he order

private theorem reports_wlClientDestroy (c : Compositor) (client : ClientId)
    (order : List ClientObject) :
    Reports c (wlClientDestroy c client order) := by
  refine ((reports_foldl_destroyObject (runDestroyListeners c client) order).after
    (sent_runDestroyListeners c client) ?_).before rfl rfl
  rw [runDestroyListeners_eq]

/-- Readiness is reported under the expected token, then the new state. -/
theorem messages_playosStateGameSurfaceReady (c : Compositor) :
    (playosStateGameSurfaceReady c).messages =
      if c.gameSurfaceReady = false ∧ c.fgState = .gameStarting then
        c.messages ++ [.gameSurfaceReady c.expectedLaunchToken, .stateChanged .gameForeground]
      else c.messages := by
  unfold playosStateGameSurfaceReady
  cases hr : c.gameSurfaceReady
  · by_cases hs : c.fgState = .gameStarting
    · simp only [hs, Bool.false_eq_true, ↓reduceIte, not_true_eq_false, ne_eq, and_self,
        messages_playosStateTransition, messages_playosCompositorIpcSend, List.append_assoc]
      simp [announce, playosCompositorIpcSend, Compositor.messages]
    · simp [hs]
  · simp

/-- Only a buffer of a game's window reports anything. -/
theorem messages_handleToplevelCommit (c : Compositor) (track : ToplevelTrack)
    (surface : SurfaceCommit) : (handleToplevelCommit c track surface).messages =
      if surface.xdgToplevel ∧ surface.buffer ∧ track.role = .game then
        (playosStateGameSurfaceReady c).messages
      else c.messages := by
  obtain ⟨c₀, hc, he⟩ := handleToplevelCommit_eq c track surface
  have hm : c₀.messages = c.messages := congrArg (List.map IpcAttempt.message) hc.sent
  rw [he, apply_ite Compositor.messages, messages_playosStateGameSurfaceReady,
    messages_playosStateGameSurfaceReady, hm, hc.foreground]

/-! ### Steps -/

/-- Every step other than a commit reports truly. -/
theorem reports_step {c c' : Compositor} {e : Event} (hs : step c e = some c')
    (hc : ∀ tree surface, e ≠ .commit tree surface) : Reports c c' := by
  cases handled_of_step hs with
  | ipcFd mask read _ =>
    unfold ipcFdHandler
    repeat' split
    all_goals first | exact reports_ipcDispatch c _ | exact .of_sent rfl rfl
  | ipcTimer result _ _ => exact .of_sent rfl rfl
  | ipcLink link _ => exact .of_sent rfl rfl
  | connect client _ => exact .of_sent rfl rfl
  | disconnect client order _ _ => exact reports_wlClientDestroy c client order
  | bindManager client created _ => exact .of_sent (by simp) (by simp)
  | registerShell client _ =>
    refine .of_sent (by simp) ?_
    rw [toForeground_playosManagerRegisterShell]
    unfold Foreground.claimShell
    split <;> rfl
  | registerOverlay client _ =>
    refine .of_sent (by simp) ?_
    rw [toForeground_playosManagerRegisterOverlay]
    unfold Foreground.claimOverlay
    split <;> rfl
  | bindOverlay client created _ => exact .of_sent (by simp) (by simp)
  | overlayRequest resource request bound _ =>
    exact reports_playosOverlayRequest c bound.client request
  | newToplevel client alloc _ =>
    cases alloc <;> exact .of_sent rfl rfl
  | commit tree surface track _ => exact absurd rfl (hc tree surface)
  | destroyToplevel tree track _ => exact reports_handleToplevelDestroy c track
  | key keycode state => exact reports_handleKeyboardKey c keycode state
  | newOutput calls => exact .of_sent (by simp) (by simp)
  | frame sceneOutput windowElapsed => exact .of_sent (by simp) (by simp)

/-- Every step adds the readiness of a game that it activates, then its new state. -/
theorem messages_step {c c' : Compositor} {e : Event} (h : c.WF) (hs : step c e = some c') :
    c'.messages = c.messages ++ (readyMessages c e ++ announce c.fgState c'.fgState) := by
  by_cases hc : ∀ tree surface, e ≠ .commit tree surface
  · have hr : readyMessages c e = [] := by
      cases e <;> first | rfl | exact absurd rfl (hc _ _)
    rw [hr]
    exact reports_step hs hc
  · obtain ⟨tree, surface, rfl⟩ : ∃ tree surface, e = .commit tree surface := by
      simpa using hc
    obtain ⟨track, ht, rfl⟩ := Option.map_eq_some_iff.mp hs
    have hf := h.foreground
    have hr : c.Activates tree ↔ c.fgState = .gameStarting ∧ track.role = .game :=
      and_congr_right fun _ ↦ Foreground.isGame_iff hf.nodup ht
    rw [messages_handleToplevelCommit, toForeground_handleToplevelCommit,
      messages_playosStateGameSurfaceReady]
    simp only [readyMessages, hr]
    by_cases hg : surface.xdgToplevel ∧ surface.buffer ∧ track.role = .game
    · by_cases hst : c.fgState = .gameStarting
      · simp [hg, hst, hf.starting hst, announce, Foreground.activate]
      · simp [hg, hst, Foreground.activate]
    · have hn : ¬ (surface.xdgToplevel ∧ surface.buffer ∧ c.fgState = .gameStarting ∧
          track.role = .game) := fun hx ↦ hg ⟨hx.1, hx.2.1, hx.2.2.2⟩
      rw [if_neg hg, if_neg hn, if_neg hg]
      simp

end PlayosCompositor
