import PlayosCompositor.Foreground.Invariant
import PlayosCompositor.Foreground.View

/-!
# The compositor refines the foreground automaton

`foregroundInput` names what an event means to the foreground. Under `Linked`, which ties
the destroy listeners to the role holders and keeps fresh identities fresh, every step of
the compositor is the automaton's step on that input, so reachable compositors are
well-formed.
-/

namespace PlayosCompositor

/-! ### What an event means -/

/-- The meaning of an IPC command. -/
def commandInput : IpcCommand → Foreground.Input
  | .setExpectedGame launchToken gameId => .launch (launchToken.store 64) (gameId.store 256)
  | .clearExpectedGame => .withdraw
  | .forceTerminateGame => .terminate
  | .showOverlay => .showOverlay
  | .hideOverlay => .hideOverlay

/-- The meaning of a SYSTEM press: it shows the overlay over a game and hides it again. -/
def systemPressInput (f : Foreground) : Foreground.Input :=
  if f.fgState = .gameForeground then .showOverlay
  else if f.fgState = .playosUiForegroundWithGameBackground then .hideOverlay
  else .idle

/-- The meaning of an overlay request: only the role holder's dismissal counts. -/
def overlayRequestInput (c : Compositor) (resource : ResourceId) (request : OverlayRequest) :
    Foreground.Input :=
  match c.overlayResources.find? fun bound ↦ bound.resource = resource with
  | none => .idle
  | some bound =>
    if some bound.client = c.overlayClient ∧ request = .requestDismiss then .hideOverlay else .idle

/-- The meaning of an event. -/
def foregroundInput (c : Compositor) : Event → Foreground.Input
  | .ipcFd mask read =>
    if mask.hangupOrError || !mask.readable then .idle
    else
      match read with
      | .failed => .idle
      | .dropped => .idle
      | .command command => commandInput command
  | .disconnect client order => .leave client (treesOf order)
  | .registerShell client => .claimShell client
  | .registerOverlay client => .claimOverlay client
  | .overlayRequest resource request => overlayRequestInput c resource request
  | .newToplevel client alloc =>
    match alloc with
    | .ok => .map c.nextId client
    | .noTree => .idle
    | .noTrack => .idle
  | .commit tree surface => if surface.xdgToplevel ∧ surface.buffer then .frame tree else .idle
  | .destroyToplevel tree => .unmap tree
  | .key keycode state =>
    if keycode ∈ systemKeycodes ∧ state = .pressed then systemPressInput c.toForeground else .idle
  | .ipcTimer _ | .ipcLink _ | .connect _ | .bindManager _ _ | .bindOverlay _ _ | .newOutput _
  | .frame _ _ => .idle

/-- The event behind an input, where the input tells it. -/
def Foreground.Input.ComesFrom (e : Event) : Foreground.Input → Prop
  | .launch launchToken gameId => ∃ t i, e = .command (.setExpectedGame t i) ∧
      launchToken = t.store 64 ∧ gameId = i.store 256
  | .frame tree => ∃ surface, e = .commit tree surface ∧ surface.xdgToplevel ∧ surface.buffer
  | .map _ client => e = .newToplevel client .ok
  | .claimShell client => e = .registerShell client
  | .claimOverlay client => e = .registerOverlay client
  | _ => True

/-- An event is behind its own meaning. -/
theorem comesFrom_foregroundInput (c : Compositor) (e : Event) :
    (foregroundInput c e).ComesFrom e := by
  cases e with
  | ipcFd mask read =>
    rcases mask with ⟨hangup, readable⟩
    cases hangup
    case true => trivial
    case false =>
      cases readable
      case false => trivial
      case true =>
        cases read with
        | failed => trivial
        | dropped => trivial
        | command command =>
          cases command with
          | setExpectedGame launchToken gameId => exact ⟨launchToken, gameId, rfl, rfl, rfl⟩
          | _ => trivial
  | registerShell client => rfl
  | registerOverlay client => rfl
  | overlayRequest resource request =>
    simp only [foregroundInput, overlayRequestInput]
    repeat' split
    all_goals trivial
  | newToplevel client alloc =>
    cases alloc
    case ok => rfl
    all_goals trivial
  | commit tree surface =>
    simp only [foregroundInput]
    split
    · next hs => exact ⟨surface, rfl, hs⟩
    · trivial
  | key keycode state =>
    simp only [foregroundInput, systemPressInput]
    repeat' split
    all_goals trivial
  | _ => trivial

/-- Frames come from commits of toplevels that carry a buffer. -/
theorem foregroundInput_eq_frame {c : Compositor} {e : Event} {tree : TreeId} :
    foregroundInput c e = .frame tree ↔
      ∃ surface, e = .commit tree surface ∧ surface.xdgToplevel ∧ surface.buffer := by
  constructor
  · intro h
    have hc := comesFrom_foregroundInput c e
    rwa [h] at hc
  · rintro ⟨surface, rfl, hs⟩
    exact if_pos hs

/-! ### Destroy listeners and fresh identities -/

/-- The destroy listeners hang on the role holders, and no tracked tree is still to come. -/
structure Linked (c : Compositor) : Prop where
  shell : c.shellClientDestroy = c.shellClient
  overlay : c.overlayClientDestroy = c.overlayClient
  fresh : ∀ tree ∈ c.trees, tree < c.nextId

namespace Linked

variable {c c' : Compositor}

private theorem started (config : StartConfig) : Linked (playosCompositorStarted config) where
  shell := rfl
  overlay := rfl
  fresh _ h := nomatch h

/-- The next tree is not tracked yet. -/
theorem nextId_not_mem (h : Linked c) : c.nextId ∉ c.trees := fun hm ↦ (h.fresh _ hm).false

private theorem of_view (h : Linked c) (hr : c'.toRegistry = c.toRegistry)
    (hs : c'.shellClient = c.shellClient) (ho : c'.overlayClient = c.overlayClient)
    (ht : c'.trees ⊆ c.trees) : Linked c' where
  shell := by
    rw [hs, ← h.shell]
    exact congrArg Registry.shellClientDestroy hr
  overlay := by
    rw [ho, ← h.overlay]
    exact congrArg Registry.overlayClientDestroy hr
  fresh tree hm := by
    rw [congrArg Registry.nextId hr]
    exact h.fresh tree (ht hm)

private theorem of_sameWindows (h : Linked c) (hr : c'.toRegistry = c.toRegistry)
    (hw : Foreground.SameWindows c.toForeground c'.toForeground) : Linked c' := by
  apply h.of_view hr hw.shellClient hw.overlayClient
  intro tree hm
  rwa [Foreground.trees, hw.toplevels] at hm

/-- Events that reach neither the foreground nor the destroy listeners keep the links. -/
theorem of_toForeground (h : Linked c) (hf : c'.toForeground = c.toForeground)
    (hs : c'.shellClientDestroy = c.shellClientDestroy)
    (ho : c'.overlayClientDestroy = c.overlayClientDestroy) (hn : c.nextId ≤ c'.nextId) :
    Linked c' where
  shell := by rw [hs, hf, h.shell]
  overlay := by rw [ho, hf, h.overlay]
  fresh tree hm := by
    rw [hf] at hm
    exact (h.fresh tree hm).trans_le hn

end Linked

variable {c : Compositor}

/-- Every command only moves the foreground. -/
theorem sameWindows_ipcDispatch (c : Compositor) (command : IpcCommand) :
    Foreground.SameWindows c.toForeground (ipcDispatch c command).toForeground := by
  cases command <;> simp only [ipcDispatch, toForeground_playosStateHandleSetExpectedGame,
    toForeground_playosStateHandleClearExpected, toForeground_playosStateHandleForceTerminate,
    toForeground_playosOverlayManagerShow, toForeground_playosOverlayManagerHide]
  case setExpectedGame launchToken gameId => exact Foreground.sameWindows_launch _ _ _
  case clearExpectedGame => exact Foreground.sameWindows_withdraw _
  case forceTerminateGame => exact Foreground.sameWindows_terminate _
  case showOverlay => exact Foreground.sameWindows_showOverlay _
  case hideOverlay => exact Foreground.sameWindows_hideOverlay _

/-- A command leaves the registry alone. -/
@[simp] theorem toRegistry_ipcDispatch (c : Compositor) (command : IpcCommand) :
    (ipcDispatch c command).toRegistry = c.toRegistry := by
  cases command <;> simp [ipcDispatch]

/-- An overlay request only moves the foreground. -/
theorem sameWindows_playosOverlayRequest (c : Compositor) (client : ClientId)
    (request : OverlayRequest) :
    Foreground.SameWindows c.toForeground
      (playosOverlayRequest c client request).toForeground := by
  rw [toForeground_playosOverlayRequest]
  split
  · exact Foreground.sameWindows_hideOverlay _
  · exact Foreground.SameWindows.refl _

/-- A commit only moves the foreground. -/
theorem sameWindows_handleToplevelCommit (c : Compositor) (track : ToplevelTrack)
    (surface : SurfaceCommit) :
    Foreground.SameWindows c.toForeground
      (handleToplevelCommit c track surface).toForeground := by
  rw [toForeground_handleToplevelCommit]
  split
  · exact Foreground.sameWindows_activate _
  · exact Foreground.SameWindows.refl _

/-- A key only moves the foreground. -/
theorem sameWindows_handleKeyboardKey (c : Compositor) (keycode : UInt32) (state : KeyState) :
    Foreground.SameWindows c.toForeground
      (handleKeyboardKey c keycode state).toForeground := by
  rw [toForeground_handleKeyboardKey]
  repeat' split
  all_goals first
    | exact Foreground.SameWindows.refl _
    | exact Foreground.sameWindows_showOverlay _
    | exact Foreground.sameWindows_hideOverlay _

private theorem linked_playosManagerRegisterShell (h : Linked c) (client : ClientId) :
    Linked (playosManagerRegisterShell c client) := by
  have hf := toForeground_playosManagerRegisterShell c client
  have hr := toRegistry_playosManagerRegisterShell c client
  unfold Foreground.claimShell at hf
  split at hf
  · next hc =>
    rw [if_pos hc] at hr
    exact h.of_view hr (congrArg _ hf) (congrArg _ hf) (by rw [hf]; exact fun _ ↦ id)
  · next hc =>
    rw [if_neg hc] at hr
    refine ⟨?_, ?_, ?_⟩
    · rw [hf, hr]
      rfl
    · rw [hf, hr]
      exact h.overlay
    · rw [hf, hr, Foreground.trees_classify]
      exact h.fresh

private theorem linked_playosManagerRegisterOverlay (h : Linked c) (client : ClientId) :
    Linked (playosManagerRegisterOverlay c client) := by
  have hf := toForeground_playosManagerRegisterOverlay c client
  have hr := toRegistry_playosManagerRegisterOverlay c client
  unfold Foreground.claimOverlay at hf
  split at hf
  · next hc =>
    rw [if_pos hc] at hr
    exact h.of_view hr (congrArg _ hf) (congrArg _ hf) (by rw [hf]; exact fun _ ↦ id)
  · next hc =>
    rw [if_neg hc] at hr
    refine ⟨?_, ?_, ?_⟩
    · rw [hf, hr]
      exact h.shell
    · rw [hf, hr]
      rfl
    · rw [hf, hr, Foreground.trees_classify]
      exact h.fresh

private theorem linked_handleNewXdgToplevel (h : Linked c) (client : ClientId)
    (alloc : ToplevelAlloc) :
    Linked (handleNewXdgToplevel c client alloc) := by
  have hr := toRegistry_handleNewXdgToplevel c client alloc
  cases alloc with
  | noTree => exact h.of_toForeground rfl rfl rfl (by rw [hr]; exact le_rfl)
  | noTrack => exact h.of_toForeground rfl rfl rfl (by rw [hr]; exact Nat.le_succ _)
  | ok =>
    have hf := toForeground_handleNewXdgToplevel_ok c client
    refine ⟨?_, ?_, ?_⟩
    · rw [hf, hr]
      exact h.shell
    · rw [hf, hr]
      exact h.overlay
    · intro tree hm
      rw [hf, Foreground.trees_map, List.mem_append, List.mem_singleton] at hm
      rw [hr]
      rcases hm with hm | rfl
      · exact (h.fresh tree hm).trans (Nat.lt_succ_self _)
      · exact Nat.lt_succ_self _

private theorem linked_destroyObject (h : Linked c) (object : ClientObject) :
    Linked (destroyObject c object) := by
  have hf := toForeground_destroyObject c object
  cases object with
  | toplevel tree =>
    have hr : (destroyObject c (.toplevel tree)).toRegistry = c.toRegistry := by
      simp only [destroyObject]
      split <;> simp
    apply h.of_view hr
    · rw [hf, Foreground.shellClient_unmap]
    · rw [hf, Foreground.overlayClient_unmap]
    · rw [hf, Foreground.trees, Foreground.toplevels_unmap]
      exact List.map_subset _ List.filter_sublist.subset
  | overlayBinding resource =>
    apply h.of_toForeground hf
    all_goals
      simp only [destroyObject, playosOverlayResourceDestroy]
      split <;> rfl

/-- The listeners that run when a client goes take its roles away. -/
theorem Linked.toForeground_runDestroyListeners (h : Linked c) (client : ClientId) :
    (runDestroyListeners c client).toForeground = c.toForeground.resign client := by
  rw [runDestroyListeners_eq, h.shell, h.overlay]
  rfl

/-- A listener that has run is unlinked. -/
theorem linked_runDestroyListeners (h : Linked c) (client : ClientId) :
    Linked (runDestroyListeners c client) := by
  rw [runDestroyListeners_eq, h.shell, h.overlay]
  exact ⟨rfl, rfl, h.fresh⟩

private theorem linked_foldl_destroyObject (h : Linked c) (order : List ClientObject) :
    Linked (order.foldl destroyObject c) := by
  induction order generalizing c with
  | nil => exact h
  | cons object order ih => exact ih (linked_destroyObject h object)

/-- A leaving client gives up its roles, then its windows. -/
theorem Linked.toForeground_wlClientDestroy (h : Linked c) (client : ClientId)
    (order : List ClientObject) : (wlClientDestroy c client order).toForeground =
      c.toForeground.leave client (treesOf order) := by
  simp only [wlClientDestroy, toForeground_foldl_destroyObject,
    h.toForeground_runDestroyListeners, Foreground.leave]

/-- A leaving client is unlinked before its objects are destroyed. -/
theorem linked_wlClientDestroy (h : Linked c) (client : ClientId) (order : List ClientObject) :
    Linked (wlClientDestroy c client order) :=
  (linked_foldl_destroyObject (linked_runDestroyListeners h client) order).of_toForeground rfl rfl
    rfl le_rfl

/-! ### Refinement -/

/-- A dispatched command is the automaton's step on its meaning. -/
theorem step_commandInput (c : Compositor) (command : IpcCommand) :
    c.toForeground.step (commandInput command) = some (ipcDispatch c command).toForeground := by
  cases command <;> simp [ipcDispatch, commandInput, Foreground.step]

/-- A window is among a client's trees when its toplevel is among the client's objects. -/
theorem mem_treesOf {order : List ClientObject} {tree : TreeId} :
    tree ∈ treesOf order ↔ .toplevel tree ∈ order := by
  unfold treesOf
  rw [List.mem_filterMap]
  constructor
  · rintro ⟨object, hm, hs⟩
    cases object with
    | toplevel t => exact Option.some.inj hs ▸ hm
    | overlayBinding resource => exact nomatch hs
  · exact fun hm ↦ ⟨_, hm, rfl⟩

/-- A client owns the toplevels that are tracked for it. -/
theorem toplevel_mem_ownedObjects {client : ClientId} {tree : TreeId} :
    .toplevel tree ∈ ownedObjects c client ↔
      ∃ track ∈ c.toplevels, track.client = client ∧ track.tree = tree := by
  simp [ownedObjects, and_assoc]

/-- What the guards of `step` let through keeps the links. -/
theorem linked_step {c' : Compositor} {e : Event} (h : Linked c) (hs : step c e = some c') :
    Linked c' := by
  cases handled_of_step hs with
  | ipcFd mask read _ =>
    unfold ipcFdHandler
    repeat' split
    all_goals first
      | exact h
      | exact h.of_sameWindows (toRegistry_ipcDispatch c _) (sameWindows_ipcDispatch c _)
      | exact h.of_toForeground rfl rfl rfl le_rfl
  | ipcTimer result _ _ => exact h.of_toForeground rfl rfl rfl le_rfl
  | ipcLink link _ => exact h.of_toForeground rfl rfl rfl le_rfl
  | connect client _ => exact h.of_toForeground rfl rfl rfl le_rfl
  | disconnect client order _ _ => exact linked_wlClientDestroy h client order
  | bindManager client created _ =>
    exact h.of_toForeground (by simp) (by simp) (by simp) (by simp)
  | registerShell client _ => exact linked_playosManagerRegisterShell h client
  | registerOverlay client _ => exact linked_playosManagerRegisterOverlay h client
  | bindOverlay client created _ =>
    have hr := toRegistry_playosOverlayBind c client created
    apply h.of_toForeground (toForeground_playosOverlayBind c client created)
    all_goals
      rw [hr]
      split <;> simp
  | overlayRequest resource request bound _ =>
    exact h.of_sameWindows (toRegistry_playosOverlayRequest c bound.client request)
      (sameWindows_playosOverlayRequest c bound.client request)
  | newToplevel client alloc _ => exact linked_handleNewXdgToplevel h client alloc
  | commit tree surface track _ =>
    exact h.of_sameWindows (toRegistry_handleToplevelCommit c track surface)
      (sameWindows_handleToplevelCommit c track surface)
  | destroyToplevel tree track ht =>
    have hd : destroyObject c (.toplevel tree) = handleToplevelDestroy c track := by
      simp only [destroyObject, ht]
    exact hd ▸ linked_destroyObject h (.toplevel tree)
  | key keycode state =>
    exact h.of_sameWindows (toRegistry_handleKeyboardKey c keycode state)
      (sameWindows_handleKeyboardKey c keycode state)
  | newOutput calls =>
    obtain ⟨n, hn, hr⟩ := toRegistry_handleNewOutput c calls
    apply h.of_toForeground (toForeground_handleNewOutput c calls)
    all_goals rw [hr]
    exact hn
  | frame sceneOutput windowElapsed =>
    exact h.of_view (toRegistry_handleFrame c sceneOutput windowElapsed) (by simp) (by simp)
      (by simp)

/-- Every step of the compositor is the automaton's step on what the event means. -/
theorem toForeground_step {c' : Compositor} {e : Event} (h : Linked c)
    (hs : step c e = some c') :
    c.toForeground.step (foregroundInput c e) = some c'.toForeground := by
  cases handled_of_step hs with
  | ipcFd mask read _ =>
    rcases mask with ⟨hangup, readable⟩
    cases hangup
    case true => rfl
    cases readable
    case false => rfl
    cases read
    case failed => rfl
    case dropped => rfl
    case command command => exact step_commandInput c command
  | ipcTimer result _ _ => exact rfl
  | ipcLink link _ => exact rfl
  | connect client _ => exact rfl
  | disconnect client order _ ho =>
    rw [h.toForeground_wlClientDestroy]
    apply if_pos
    intro track ht hclient
    exact mem_treesOf.mpr (ho.mem_iff.mpr (toplevel_mem_ownedObjects.mpr ⟨track, ht, hclient, rfl⟩))
  | bindManager client created _ =>
    rw [toForeground_playosManagerBind]
    rfl
  | registerShell client _ =>
    rw [toForeground_playosManagerRegisterShell]
    rfl
  | registerOverlay client _ =>
    rw [toForeground_playosManagerRegisterOverlay]
    rfl
  | bindOverlay client created _ =>
    rw [toForeground_playosOverlayBind]
    rfl
  | overlayRequest resource request bound hb =>
    rw [toForeground_playosOverlayRequest]
    simp only [foregroundInput, overlayRequestInput, hb]
    split <;> rfl
  | newToplevel client alloc _ =>
    cases alloc with
    | ok =>
      rw [toForeground_handleNewXdgToplevel_ok]
      exact if_neg h.nextId_not_mem
    | noTree => rfl
    | noTrack => rfl
  | commit tree surface track ht =>
    rw [toForeground_handleToplevelCommit]
    simp only [foregroundInput]
    by_cases hf : surface.xdgToplevel ∧ surface.buffer
    · simp only [hf, and_self, true_and, ↓reduceIte, Foreground.step, Foreground.frame, ht]
    · rw [if_neg hf, if_neg fun h ↦ hf ⟨h.1, h.2.1⟩]
      rfl
  | destroyToplevel tree track ht =>
    rw [toForeground_handleToplevelDestroy]
    simp only [foregroundInput, Foreground.step, Foreground.unmap, ht]
  | key keycode state =>
    rw [toForeground_handleKeyboardKey]
    simp only [foregroundInput, systemPressInput]
    repeat' split
    all_goals rfl
  | newOutput calls =>
    rw [toForeground_handleNewOutput]
    rfl
  | frame sceneOutput windowElapsed =>
    rw [toForeground_handleFrame]
    rfl

/-- The compositor refines the foreground automaton. -/
theorem compositor_refines_foreground :
    compositorSystem.Refines foregroundSystem Linked Compositor.toForeground foregroundInput where
  invariant := {
    base := by
      rintro c ⟨config, rfl⟩
      exact Linked.started config
    step := fun _ _ _ h hs ↦ linked_step h hs }
  initial := by
    rintro c ⟨config, rfl⟩
    rfl
  step _ _ _ h hs := toForeground_step h hs

/-- The automaton reaches the foreground of every reachable compositor. -/
theorem foreground_reachable {c : Compositor} (hc : compositorSystem.Reachable c) :
    foregroundSystem.Reachable c.toForeground :=
  compositor_refines_foreground.reachable hc

/-- Compositors whose foreground is well-formed and whose listeners are linked. -/
structure Compositor.WF (c : Compositor) : Prop where
  linked : Linked c
  foreground : c.toForeground.WF

/-- Reachable compositors are well-formed. -/
theorem compositorSystem_wf : compositorSystem.Invariant Compositor.WF := by
  have h := compositor_refines_foreground.transfer foregroundSystem_wf
  exact {
    base := fun c hc ↦ ⟨(h.base c hc).1, (h.base c hc).2⟩
    step := fun c e c' hw hs ↦
      have ht := h.step c e c' ⟨hw.linked, hw.foreground⟩ hs
      ⟨ht.1, ht.2⟩ }

end PlayosCompositor
