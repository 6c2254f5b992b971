import PlayosCompositor.Foreground.Automaton

/-!
# What each handler does to the foreground and to the registry

One lemma a function: its effect seen through `toForeground` is the automaton's operation
of the same purpose, and the registry changes only where clients and resources come or go.
Scene, sockets, counters and logs never matter to either.
-/

namespace PlayosCompositor

/-! ### State machine and overlay manager -/

@[simp] theorem toForeground_sendOverlayEvent (c : Compositor) (event : OverlayEvent) :
    (sendOverlayEvent c event).toForeground = c.toForeground := by
  unfold sendOverlayEvent
  split <;> rfl

@[simp] theorem toRegistry_sendOverlayEvent (c : Compositor) (event : OverlayEvent) :
    (sendOverlayEvent c event).toRegistry = c.toRegistry := by
  unfold sendOverlayEvent
  split <;> rfl

@[simp] theorem toForeground_playosCompositorIpcSend (c : Compositor) (message : IpcMessage) :
    (playosCompositorIpcSend c message).toForeground = c.toForeground := rfl

@[simp] theorem toRegistry_playosCompositorIpcSend (c : Compositor) (message : IpcMessage) :
    (playosCompositorIpcSend c message).toRegistry = c.toRegistry := rfl

@[simp] theorem toForeground_playosStateRefresh (c : Compositor) :
    (playosStateRefresh c).toForeground = c.toForeground := rfl

@[simp] theorem toRegistry_playosStateRefresh (c : Compositor) :
    (playosStateRefresh c).toRegistry = c.toRegistry := rfl

/-- A transition moves the foreground and hides the overlay where the shell returns. -/
@[simp] theorem toForeground_playosStateTransition (c : Compositor) (state : ForegroundState) :
    (playosStateTransition c state).toForeground = c.toForeground.goto state := by
  unfold playosStateTransition Foreground.goto
  by_cases h : c.fgState = state
  · simp only [h, ↓reduceIte]
  · cases hv : c.overlayVisible <;> cases state <;>
      simp [h, hv, playosOverlaySendAboutToHide]

/-- A transition leaves the registry alone. -/
@[simp] theorem toRegistry_playosStateTransition (c : Compositor) (state : ForegroundState) :
    (playosStateTransition c state).toRegistry = c.toRegistry := by
  unfold playosStateTransition
  by_cases h : c.fgState = state
  · simp only [h, ↓reduceIte]
  · cases hv : c.overlayVisible <;> cases state <;>
      simp [h, hv, playosOverlaySendAboutToHide]

@[simp] theorem toForeground_forgetExpected (c : Compositor) :
    (forgetExpected c).toForeground = c.toForeground.forget := rfl

@[simp] theorem toRegistry_forgetExpected (c : Compositor) :
    (forgetExpected c).toRegistry = c.toRegistry := rfl

/-- SetExpectedGame announces a launch with what fits the two buffers. -/
@[simp] theorem toForeground_playosStateHandleSetExpectedGame (c : Compositor)
    (launchToken gameId : CString) :
    (playosStateHandleSetExpectedGame c (some launchToken) (some gameId)).toForeground =
      c.toForeground.launch (launchToken.store 64) (gameId.store 256) := by
  simp [playosStateHandleSetExpectedGame, Foreground.launch]

@[simp] theorem toRegistry_playosStateHandleSetExpectedGame (c : Compositor)
    (launchToken gameId : Option CString) :
    (playosStateHandleSetExpectedGame c launchToken gameId).toRegistry = c.toRegistry := by
  simp [playosStateHandleSetExpectedGame]

/-- ClearExpectedGame withdraws the launch. -/
@[simp] theorem toForeground_playosStateHandleClearExpected (c : Compositor) :
    (playosStateHandleClearExpected c).toForeground = c.toForeground.withdraw := by
  unfold playosStateHandleClearExpected Foreground.withdraw
  cases h : c.fgState <;> simp [h, Foreground.goto, Foreground.forget]

@[simp] theorem toRegistry_playosStateHandleClearExpected (c : Compositor) :
    (playosStateHandleClearExpected c).toRegistry = c.toRegistry := by
  unfold playosStateHandleClearExpected
  dsimp only
  split <;> simp

@[simp] theorem toForeground_playosStateHandleForceTerminate (c : Compositor) :
    (playosStateHandleForceTerminate c).toForeground = c.toForeground.terminate := by
  simp [playosStateHandleForceTerminate, Foreground.terminate]

@[simp] theorem toRegistry_playosStateHandleForceTerminate (c : Compositor) :
    (playosStateHandleForceTerminate c).toRegistry = c.toRegistry := by
  simp [playosStateHandleForceTerminate]

/-- The readiness check is the automaton's activation. -/
@[simp] theorem toForeground_playosStateGameSurfaceReady (c : Compositor) :
    (playosStateGameSurfaceReady c).toForeground = c.toForeground.activate := by
  unfold playosStateGameSurfaceReady Foreground.activate
  cases hr : c.gameSurfaceReady
  · by_cases hs : c.fgState = .gameStarting
    · simp [hs]
    · simp [hs]
  · simp

@[simp] theorem toRegistry_playosStateGameSurfaceReady (c : Compositor) :
    (playosStateGameSurfaceReady c).toRegistry = c.toRegistry := by
  unfold playosStateGameSurfaceReady
  split
  · rfl
  · split <;> simp

/-- The game's exit brings the shell back from every other state. -/
@[simp] theorem toForeground_playosStateGameExited (c : Compositor) (crashed : Bool) :
    (playosStateGameExited c crashed).toForeground = c.toForeground.exited := by
  unfold playosStateGameExited Foreground.exited
  cases h : c.fgState <;> simp [h, Foreground.goto]

@[simp] theorem toRegistry_playosStateGameExited (c : Compositor) (crashed : Bool) :
    (playosStateGameExited c crashed).toRegistry = c.toRegistry := by
  simp only [playosStateGameExited, toRegistry_forgetExpected]
  split <;> simp

@[simp] theorem toForeground_playosOverlayManagerShow (c : Compositor) :
    (playosOverlayManagerShow c).toForeground = c.toForeground.showOverlay := by
  unfold playosOverlayManagerShow Foreground.showOverlay
  cases hv : c.overlayVisible
  · by_cases h : c.fgState = .gameForeground <;>
      simp [h, playosOverlaySendOutputInfo, playosOverlaySendAboutToShow]
  · simp

@[simp] theorem toRegistry_playosOverlayManagerShow (c : Compositor) :
    (playosOverlayManagerShow c).toRegistry = c.toRegistry := by
  unfold playosOverlayManagerShow
  split
  · rfl
  · dsimp only
    split <;> simp [playosOverlaySendOutputInfo, playosOverlaySendAboutToShow]

@[simp] theorem toForeground_playosOverlayManagerHide (c : Compositor) :
    (playosOverlayManagerHide c).toForeground = c.toForeground.hideOverlay := by
  unfold playosOverlayManagerHide Foreground.hideOverlay
  cases hv : c.overlayVisible
  · simp
  · by_cases h : c.fgState = .playosUiForegroundWithGameBackground <;>
      simp [h, playosOverlaySendAboutToHide]

@[simp] theorem toRegistry_playosOverlayManagerHide (c : Compositor) :
    (playosOverlayManagerHide c).toRegistry = c.toRegistry := by
  unfold playosOverlayManagerHide
  split
  · rfl
  · dsimp only
    split <;> simp [playosOverlaySendAboutToHide]

/-! ### Toplevels -/

@[simp] theorem toForeground_compositorRestack (c : Compositor) :
    (compositorRestack c).toForeground = c.toForeground := rfl

@[simp] theorem toRegistry_compositorRestack (c : Compositor) :
    (compositorRestack c).toRegistry = c.toRegistry := rfl

private def oldest (tracks : List ToplevelTrack) (role : TrustedRole) : Option TreeId :=
  (tracks.find? fun track ↦ track.role = role).map ToplevelTrack.tree

private theorem oldest_cons (track : ToplevelTrack) (rest : List ToplevelTrack)
    (role : TrustedRole) : oldest (track :: rest) role =
      if track.role = role then some track.tree else oldest rest role := by
  unfold oldest
  rw [List.find?_cons]
  by_cases h : track.role = role <;> simp [h]

private theorem visit_or (d : Designation) (track : ToplevelTrack) (rest : List ToplevelTrack) :
    Designation.mk ((d.visit track).shellTree.or (oldest rest .shell))
        ((d.visit track).gameTree.or (oldest rest .game))
        ((d.visit track).overlayTree.or (oldest rest .overlay)) =
      ⟨d.shellTree.or (oldest (track :: rest) .shell),
        d.gameTree.or (oldest (track :: rest) .game),
        d.overlayTree.or (oldest (track :: rest) .overlay)⟩ := by
  rcases d with ⟨shell, game, overlay⟩
  rcases track with ⟨tree, client, role⟩
  cases role
  case none => simp [Designation.visit, oldest_cons]
  case shell => cases shell <;> simp [Designation.visit, oldest_cons]
  case game => cases game <;> simp [Designation.visit, oldest_cons]
  case overlay => cases overlay <;> simp [Designation.visit, oldest_cons]

-- The accumulator keeps what it has; the walked tracks only fill the roles still open.
private theorem reclassifyLoop_eq (f : Foreground) (tracks : List ToplevelTrack)
    (d : Designation) (relabelled : List ToplevelTrack) (h : relabelled = tracks.map fun track ↦
      { track with role := compositorRoleForClient f track.client }) :
    reclassifyLoop f tracks d =
      (relabelled, ⟨d.shellTree.or (oldest relabelled .shell),
        d.gameTree.or (oldest relabelled .game),
        d.overlayTree.or (oldest relabelled .overlay)⟩) := by
  subst h
  induction tracks generalizing d with
  | nil => simp [reclassifyLoop, oldest]
  | cons track rest ih =>
    simp only [reclassifyLoop, ih, List.map_cons]
    rw [visit_or]

/-- The loop computes every role anew and designates the oldest window of each. -/
@[simp] theorem toForeground_playosCompositorReclassifyToplevels (c : Compositor) :
    (playosCompositorReclassifyToplevels c).toForeground = c.toForeground.classify := by
  simp only [playosCompositorReclassifyToplevels, toForeground_playosStateRefresh,
    toForeground_compositorRestack, reclassifyLoop_eq _ _ _ _ rfl]
  rfl

@[simp] theorem toRegistry_playosCompositorReclassifyToplevels (c : Compositor) :
    (playosCompositorReclassifyToplevels c).toRegistry = c.toRegistry := rfl

/-- A mapped window is tracked under a fresh tree and classified. -/
@[simp] theorem toForeground_handleNewXdgToplevel_ok (c : Compositor) (client : ClientId) :
    (handleNewXdgToplevel c client .ok).toForeground = c.toForeground.map c.nextId client := by
  simp [handleNewXdgToplevel, Foreground.map]

@[simp] theorem toForeground_handleNewXdgToplevel_noTree (c : Compositor) (client : ClientId) :
    (handleNewXdgToplevel c client .noTree).toForeground = c.toForeground := rfl

@[simp] theorem toForeground_handleNewXdgToplevel_noTrack (c : Compositor) (client : ClientId) :
    (handleNewXdgToplevel c client .noTrack).toForeground = c.toForeground := rfl

/-- A tree costs an identity even when its track cannot be allocated. -/
@[simp] theorem toRegistry_handleNewXdgToplevel (c : Compositor) (client : ClientId)
    (alloc : ToplevelAlloc) : (handleNewXdgToplevel c client alloc).toRegistry =
      { c.toRegistry with nextId := if alloc = .noTree then c.nextId else c.nextId + 1 } := by
  cases alloc <;> rfl

/-- At most counters and the events for clients differ. -/
structure SameBut (c c' : Compositor) : Prop where
  foreground : c'.toForeground = c.toForeground
  registry : c'.toRegistry = c.toRegistry
  scene : c'.scene = c.scene
  sent : c'.sent = c.sent

/-- An initial commit is answered with a configure event. -/
theorem sameBut_configureInitial (c : Compositor) (track : ToplevelTrack)
    (surface : SurfaceCommit) : SameBut c (configureInitial c track surface) := by
  unfold configureInitial
  split <;> exact ⟨rfl, rfl, rfl, rfl⟩

/-- A later commit is counted. -/
theorem sameBut_countCommit (c : Compositor) (track : ToplevelTrack)
    (surface : SurfaceCommit) : SameBut c (countCommit c track surface) := by
  unfold countCommit
  repeat' split
  all_goals exact ⟨rfl, rfl, rfl, rfl⟩

/-- A commit is answered and counted, and a buffer of a game's window may be its first. -/
theorem handleToplevelCommit_eq (c : Compositor) (track : ToplevelTrack)
    (surface : SurfaceCommit) : ∃ c₀, SameBut c c₀ ∧ handleToplevelCommit c track surface =
      if surface.xdgToplevel ∧ surface.buffer ∧ track.role = .game then
        playosStateGameSurfaceReady c₀
      else c₀ := by
  by_cases ht : surface.xdgToplevel
  · have hc := sameBut_configureInitial c track surface
    have hn := sameBut_countCommit (configureInitial c track surface) track surface
    refine ⟨_, ⟨hn.foreground.trans hc.foreground, hn.registry.trans hc.registry,
      hn.scene.trans hc.scene, hn.sent.trans hc.sent⟩, ?_⟩
    simp only [handleToplevelCommit, ht, Bool.not_true, Bool.false_eq_true, ↓reduceIte, true_and,
      and_comm]
  · exact ⟨c, ⟨rfl, rfl, rfl, rfl⟩, by simp [handleToplevelCommit, ht]⟩

/-- A buffer of a game's window may activate the game; no other commit matters. -/
@[simp] theorem toForeground_handleToplevelCommit (c : Compositor) (track : ToplevelTrack)
    (surface : SurfaceCommit) : (handleToplevelCommit c track surface).toForeground =
      if surface.xdgToplevel ∧ surface.buffer ∧ track.role = .game then c.toForeground.activate
      else c.toForeground := by
  obtain ⟨c₀, hc, he⟩ := handleToplevelCommit_eq c track surface
  rw [he, apply_ite Compositor.toForeground, toForeground_playosStateGameSurfaceReady,
    hc.foreground]

@[simp] theorem toRegistry_handleToplevelCommit (c : Compositor) (track : ToplevelTrack)
    (surface : SurfaceCommit) :
    (handleToplevelCommit c track surface).toRegistry = c.toRegistry := by
  obtain ⟨c₀, hc, he⟩ := handleToplevelCommit_eq c track surface
  rw [he, apply_ite Compositor.toRegistry, toRegistry_playosStateGameSurfaceReady, hc.registry,
    ite_self]

@[simp] theorem toForeground_untrackToplevel (c : Compositor) (track : ToplevelTrack) :
    (untrackToplevel c track).toForeground = c.toForeground.release track := by
  unfold untrackToplevel Foreground.release
  cases h : track.role
  case none => simp
  case shell => by_cases ht : c.shellTree = some track.tree <;> simp [ht]
  case game => by_cases ht : c.gameTree = some track.tree <;> simp [ht]
  case overlay => by_cases ht : c.overlayTree = some track.tree <;> simp [ht]

@[simp] theorem toRegistry_untrackToplevel (c : Compositor) (track : ToplevelTrack) :
    (untrackToplevel c track).toRegistry = c.toRegistry := by
  simp only [untrackToplevel]
  repeat' split
  all_goals rfl

/-- A destroyed window of a game takes the game along, whichever window it was. -/
@[simp] theorem toForeground_handleToplevelDestroy (c : Compositor) (track : ToplevelTrack) :
    (handleToplevelDestroy c track).toForeground =
      if track.role = .game then (c.toForeground.release track).exited
      else c.toForeground.release track := by
  unfold handleToplevelDestroy
  split <;> simp

@[simp] theorem toRegistry_handleToplevelDestroy (c : Compositor) (track : ToplevelTrack) :
    (handleToplevelDestroy c track).toRegistry = c.toRegistry := by
  unfold handleToplevelDestroy
  dsimp only
  split <;> simp

/-! ### Clients, roles and bindings -/

/-- A free shell role is taken and linked, and every window is classified again. -/
theorem playosManagerRegisterShell_of_free {c : Compositor} (h : c.shellClient = none)
    (client : ClientId) : playosManagerRegisterShell c client =
      playosCompositorReclassifyToplevels
        { c with shellClient := some client, shellClientDestroy := some client } := by
  simp [playosManagerRegisterShell, playosTrustedClientClaim, h]

/-- A second shell gets an error. -/
theorem playosManagerRegisterShell_of_taken {c : Compositor} {holder : ClientId}
    (h : c.shellClient = some holder) (client : ClientId) : playosManagerRegisterShell c client =
      { c with
        wire := c.wire ++ [.error client .roleAlreadyTaken "shell role already taken"] } := by
  simp [playosManagerRegisterShell, playosTrustedClientClaim, h]

/-- A free overlay role is taken and linked, every window is classified again, and the
overlay's newest binding is resolved. -/
theorem playosManagerRegisterOverlay_of_free {c : Compositor} (h : c.overlayClient = none)
    (client : ClientId) : playosManagerRegisterOverlay c client =
      playosOverlayResolveResource (playosCompositorReclassifyToplevels
        { c with overlayClient := some client, overlayClientDestroy := some client }) client := by
  simp [playosManagerRegisterOverlay, playosTrustedClientClaim, h]

/-- A second overlay gets an error. -/
theorem playosManagerRegisterOverlay_of_taken {c : Compositor} {holder : ClientId}
    (h : c.overlayClient = some holder) (client : ClientId) :
    playosManagerRegisterOverlay c client = { c with
      wire := c.wire ++ [.error client .roleAlreadyTaken "overlay role already taken"] } := by
  simp [playosManagerRegisterOverlay, playosTrustedClientClaim, h]

/-- register_shell takes a free role and classifies every window again. -/
@[simp] theorem toForeground_playosManagerRegisterShell (c : Compositor) (client : ClientId) :
    (playosManagerRegisterShell c client).toForeground = c.toForeground.claimShell client := by
  unfold playosManagerRegisterShell playosTrustedClientClaim Foreground.claimShell
  cases h : c.shellClient <;> simp

/-- A successful claim of the shell role links its destroy listener. -/
@[simp] theorem toRegistry_playosManagerRegisterShell (c : Compositor) (client : ClientId) :
    (playosManagerRegisterShell c client).toRegistry =
      if c.shellClient.isSome then c.toRegistry
      else { c.toRegistry with shellClientDestroy := some client } := by
  unfold playosManagerRegisterShell playosTrustedClientClaim
  cases c.shellClient <;> simp

@[simp] theorem toForeground_playosOverlayResolveResource (c : Compositor) (client : ClientId) :
    (playosOverlayResolveResource c client).toForeground = c.toForeground := by
  unfold playosOverlayResolveResource
  split <;> simp [playosOverlaySendOutputInfo]

/-- The newest binding of the client becomes the overlay resource, if there is one. -/
@[simp] theorem toRegistry_playosOverlayResolveResource (c : Compositor) (client : ClientId) :
    (playosOverlayResolveResource c client).toRegistry = { c.toRegistry with
      overlayResource := ((c.overlayResources.find? fun bound ↦ bound.client = client).map
        OverlayBound.resource).or c.overlayResource } := by
  unfold playosOverlayResolveResource
  split
  · next h => simp [h]
  · next bound h => simp [h, playosOverlaySendOutputInfo]

/-- register_overlay takes a free role and classifies every window again. -/
@[simp] theorem toForeground_playosManagerRegisterOverlay (c : Compositor) (client : ClientId) :
    (playosManagerRegisterOverlay c client).toForeground =
      c.toForeground.claimOverlay client := by
  unfold playosManagerRegisterOverlay playosTrustedClientClaim Foreground.claimOverlay
  cases h : c.overlayClient <;> simp

/-- A successful claim of the overlay role links its destroy listener and resolves the
resource. -/
@[simp] theorem toRegistry_playosManagerRegisterOverlay (c : Compositor) (client : ClientId) :
    (playosManagerRegisterOverlay c client).toRegistry =
      if c.overlayClient.isSome then c.toRegistry
      else { c.toRegistry with
        overlayClientDestroy := some client
        overlayResource := ((c.overlayResources.find? fun bound ↦ bound.client = client).map
          OverlayBound.resource).or c.overlayResource } := by
  unfold playosManagerRegisterOverlay playosTrustedClientClaim
  cases c.overlayClient
  · simp only [reduceCtorEq, false_and, ↓reduceIte, Option.isSome_none, Bool.false_eq_true,
      and_false, toRegistry_playosOverlayResolveResource,
      toRegistry_playosCompositorReclassifyToplevels]
  · simp

@[simp] theorem toForeground_playosManagerBind (c : Compositor) (client : ClientId)
    (created : Bool) : (playosManagerBind c client created).toForeground = c.toForeground := by
  unfold playosManagerBind
  split <;> rfl

@[simp] theorem toRegistry_playosManagerBind (c : Compositor) (client : ClientId)
    (created : Bool) : (playosManagerBind c client created).toRegistry =
      { c.toRegistry with managers := if created then client :: c.managers else c.managers } := by
  cases created <;> rfl

@[simp] theorem toForeground_playosOverlayBind (c : Compositor) (client : ClientId)
    (created : Bool) : (playosOverlayBind c client created).toForeground = c.toForeground := by
  unfold playosOverlayBind
  split
  · rfl
  · dsimp only
    split <;> simp

/-- The overlay client's newest binding becomes the overlay resource. -/
@[simp] theorem toRegistry_playosOverlayBind (c : Compositor) (client : ClientId)
    (created : Bool) : (playosOverlayBind c client created).toRegistry =
      if created then { c.toRegistry with
        nextId := c.nextId + 1
        overlayResources := ⟨client, c.nextId⟩ :: c.overlayResources
        overlayResource := if c.overlayClient = some client then some c.nextId
          else c.overlayResource }
      else c.toRegistry := by
  unfold playosOverlayBind
  cases created
  · rfl
  · by_cases h : c.overlayClient = some client <;> simp [h]

@[simp] theorem toForeground_playosOverlayResourceDestroy (c : Compositor)
    (resource : ResourceId) :
    (playosOverlayResourceDestroy c resource).toForeground = c.toForeground := by
  unfold playosOverlayResourceDestroy
  dsimp only
  split <;> rfl

/-- Only the overlay's own request to be dismissed reaches the foreground. -/
@[simp] theorem toForeground_playosOverlayRequest (c : Compositor) (client : ClientId)
    (request : OverlayRequest) : (playosOverlayRequest c client request).toForeground =
      if some client = c.overlayClient ∧ request = .requestDismiss then
        c.toForeground.hideOverlay
      else c.toForeground := by
  unfold playosOverlayRequest
  by_cases h : some client = c.overlayClient <;> cases request <;> simp [h]

@[simp] theorem toRegistry_playosOverlayRequest (c : Compositor) (client : ClientId)
    (request : OverlayRequest) :
    (playosOverlayRequest c client request).toRegistry = c.toRegistry := by
  unfold playosOverlayRequest
  by_cases h : some client = c.overlayClient <;> cases request <;> simp [h]

/-- The listeners of a client that goes free the roles that they hang on, and nothing else. -/
theorem runDestroyListeners_eq (c : Compositor) (client : ClientId) :
    runDestroyListeners c client = { c with
      shellClient := if c.shellClientDestroy = some client then none else c.shellClient
      overlayClient := if c.overlayClientDestroy = some client then none else c.overlayClient
      shellClientDestroy :=
        if c.shellClientDestroy = some client then none else c.shellClientDestroy
      overlayClientDestroy :=
        if c.overlayClientDestroy = some client then none else c.overlayClientDestroy } := by
  unfold runDestroyListeners playosTrustedShellClientGone playosTrustedOverlayClientGone
  by_cases hs : c.shellClientDestroy = some client <;>
    by_cases ho : c.overlayClientDestroy = some client <;> simp [hs, ho]

/-- A destroyed toplevel is unmapped; a destroyed binding is no window. -/
theorem toForeground_destroyObject (c : Compositor) (object : ClientObject) :
    (destroyObject c object).toForeground =
      match object with
      | .toplevel tree => c.toForeground.unmap tree
      | .overlayBinding _ => c.toForeground := by
  cases object with
  | toplevel tree =>
    simp only [destroyObject, Foreground.unmap]
    cases c.track? tree with
    | none => rfl
    | some track => simp only [toForeground_handleToplevelDestroy]
  | overlayBinding resource => simp [destroyObject]

/-- The trees among the objects that a leaving client's destruction visits. -/
def treesOf (order : List ClientObject) : List TreeId :=
  order.filterMap fun
    | .toplevel tree => some tree
    | .overlayBinding _ => none

/-- Objects are destroyed one after the other, and only trees are windows. -/
theorem toForeground_foldl_destroyObject (c : Compositor) (order : List ClientObject) :
    (order.foldl destroyObject c).toForeground =
      (treesOf order).foldl Foreground.unmap c.toForeground := by
  induction order generalizing c with
  | nil => rfl
  | cons object order ih =>
    rw [List.foldl_cons, ih, toForeground_destroyObject]
    cases object <;> rfl

/-- A pressed SYSTEM button moves the overlay while a game is in front. -/
@[simp] theorem toForeground_handleKeyboardKey (c : Compositor) (keycode : UInt32)
    (state : KeyState) : (handleKeyboardKey c keycode state).toForeground =
      if keycode ∈ systemKeycodes ∧ state = .pressed then
        if c.fgState = .gameForeground then c.toForeground.showOverlay
        else if c.fgState = .playosUiForegroundWithGameBackground then
          c.toForeground.hideOverlay
        else c.toForeground
      else c.toForeground := by
  simp only [handleKeyboardKey, isReservedKeycode, Bool.or_eq_true, List.contains_iff_mem]
  by_cases hs : state = .pressed
  · by_cases hk : keycode ∈ systemKeycodes
    · simp only [hk, hs, true_or, and_self, ↓reduceIte]
      split
      · simp
      · split <;> simp
    · simp only [hk, hs, false_or, and_true, ↓reduceIte]
      split <;> rfl
  · simp [hs]

@[simp] theorem toRegistry_handleKeyboardKey (c : Compositor) (keycode : UInt32)
    (state : KeyState) : (handleKeyboardKey c keycode state).toRegistry = c.toRegistry := by
  unfold handleKeyboardKey
  repeat' split
  all_goals simp

@[simp] theorem toForeground_handleNewOutput (c : Compositor) (calls : OutputCalls) :
    (handleNewOutput c calls).toForeground = c.toForeground := by
  unfold handleNewOutput
  repeat' split
  all_goals rfl

/-- A background rect costs an identity. -/
theorem toRegistry_handleNewOutput (c : Compositor) (calls : OutputCalls) :
    ∃ n, c.nextId ≤ n ∧
      (handleNewOutput c calls).toRegistry = { c.toRegistry with nextId := n } := by
  unfold handleNewOutput
  repeat' split
  all_goals first | exact ⟨c.nextId, le_rfl, rfl⟩ | exact ⟨c.nextId + 1, Nat.le_succ _, rfl⟩

@[simp] theorem toForeground_handleFrame (c : Compositor) (sceneOutput windowElapsed : Bool) :
    (handleFrame c sceneOutput windowElapsed).toForeground = c.toForeground := by
  unfold handleFrame
  repeat' split
  all_goals rfl

@[simp] theorem toRegistry_handleFrame (c : Compositor) (sceneOutput windowElapsed : Bool) :
    (handleFrame c sceneOutput windowElapsed).toRegistry = c.toRegistry := by
  unfold handleFrame
  repeat' split
  all_goals rfl

end PlayosCompositor
