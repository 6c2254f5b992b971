import Mathlib.Logic.Function.Conjugate
import PlayosCompositor.Foreground.View

/-!
# Handlers that ignore the overlay bindings

Most handlers neither read nor change the list of overlay bindings, and add to the events sent
to clients without reading them. `Framed` says so of a function, and is closed under the ways
in which handlers are put together. The handlers left out are the ones that resolve, add or
drop bindings.
-/

namespace PlayosCompositor

/-- The compositor among other overlay bindings and after other events. -/
def Compositor.among (c : Compositor) (bindings : List OverlayBound) (earlier : List WireEvent) :
    Compositor :=
  { c with
    overlayResources := bindings
    wire := earlier ++ c.wire }

/-- A function of the compositor that depends on neither the bindings nor the events so far. -/
def Framed (f : Compositor → Compositor) : Prop :=
  ∀ bindings earlier, Function.Commute f (Compositor.among · bindings earlier)

/-- A condition on the compositor that depends on neither. -/
def FramedTest (p : Compositor → Prop) : Prop :=
  ∀ c bindings earlier, p (Compositor.among c bindings earlier) ↔ p c

namespace Framed

variable {f g : Compositor → Compositor}

/-- Doing nothing is framed. -/
theorem skip : Framed fun c ↦ c := fun _ _ _ ↦ rfl

/-- Framed functions compose. -/
theorem comp (hf : Framed f) (hg : Framed g) : Framed fun c ↦ f (g c) :=
  fun bindings earlier ↦ (hf bindings earlier).comp_left (hg bindings earlier)

/-- A framed condition chooses between framed functions. -/
theorem ite {p : Compositor → Prop} [DecidablePred p] (hp : FramedTest p) (hf : Framed f)
    (hg : Framed g) : Framed fun c ↦ if p c then f c else g c := by
  intro bindings earlier c
  have hpc := hp c bindings earlier
  dsimp only
  by_cases h : p c
  · rw [if_pos h, if_pos (hpc.mpr h)]
    exact hf bindings earlier c
  · rw [if_neg h, if_neg (mt hpc.mp h)]
    exact hg bindings earlier c

private theorem const_ite {p : Prop} [Decidable p] (hf : p → Framed f) (hg : ¬ p → Framed g) :
    Framed fun c ↦ if p then f c else g c := by
  by_cases h : p
  · simp only [h, ↓reduceIte]
    exact hf h
  · simp only [h, ↓reduceIte]
    exact hg h

/-- Events are sent after those that were sent before. -/
theorem send (event : WireEvent) : Framed fun c ↦ { c with wire := c.wire ++ [event] } := by
  intro bindings earlier c
  simp only [Compositor.among, List.append_assoc]

/-- A framed function applied to a framed copy. -/
theorem apply (hf : Framed f) (c : Compositor) (bindings : List OverlayBound)
    (earlier : List WireEvent) : f (c.among bindings earlier) = (f c).among bindings earlier :=
  hf bindings earlier c

end Framed

/-! ### State machine and overlay manager -/

private theorem framed_sendOverlayEvent (event : OverlayEvent) :
    Framed (sendOverlayEvent · event) := by
  intro bindings earlier c
  cases h : c.overlayResource <;> simp [sendOverlayEvent, Compositor.among, h]

theorem framed_playosOverlaySendOutputInfo : Framed playosOverlaySendOutputInfo :=
  fun bindings earlier c ↦ framed_sendOverlayEvent _ bindings earlier c

private theorem framed_playosStateRefresh : Framed playosStateRefresh := fun _ _ _ ↦ rfl

private theorem framed_playosCompositorIpcSend (message : IpcMessage) :
    Framed (playosCompositorIpcSend · message) := fun _ _ _ ↦ rfl

private theorem framed_playosStateTransition (state : ForegroundState) :
    Framed (playosStateTransition · state) := by
  refine .ite (fun _ _ _ ↦ Iff.rfl) .skip ?_
  refine (framed_playosCompositorIpcSend _).comp (framed_playosStateRefresh.comp ?_)
  refine .comp (f := fun c ↦ { c with fgState := state }) (fun _ _ _ ↦ rfl) ?_
  refine .const_ite (fun _ ↦ ?_) (fun _ ↦ .skip)
  refine .comp (f := fun c ↦ { c with overlayVisible := false }) (fun _ _ _ ↦ rfl) ?_
  exact .ite (fun _ _ _ ↦ Iff.rfl) (framed_sendOverlayEvent _) .skip

private theorem framed_playosStateHandleSetExpectedGame (launchToken gameId : Option CString) :
    Framed (playosStateHandleSetExpectedGame · launchToken gameId) :=
  (framed_playosStateTransition _).comp fun _ _ _ ↦ rfl

private theorem framed_forgetExpected : Framed forgetExpected := fun _ _ _ ↦ rfl

private theorem framed_playosStateHandleClearExpected : Framed playosStateHandleClearExpected :=
  Framed.comp
    (f := fun c ↦ if c.fgState = .gameStarting ∨ c.fgState = .gameForeground ∨
        c.fgState = .playosUiForegroundWithGameBackground then
      playosStateTransition c .shellForeground
    else c)
    (.ite (fun _ _ _ ↦ Iff.rfl) (framed_playosStateTransition _) .skip) framed_forgetExpected

private theorem framed_playosStateHandleForceTerminate : Framed playosStateHandleForceTerminate :=
  framed_forgetExpected.comp (framed_playosStateTransition _)

private theorem framed_playosStateGameSurfaceReady : Framed playosStateGameSurfaceReady := by
  refine .ite (fun _ _ _ ↦ Iff.rfl) .skip (.ite (fun _ _ _ ↦ Iff.rfl) .skip ?_)
  exact (framed_playosStateTransition _).comp fun _ _ _ ↦ rfl

private theorem framed_playosStateGameExited (crashed : Bool) :
    Framed (playosStateGameExited · crashed) :=
  framed_forgetExpected.comp
    (.ite (fun _ _ _ ↦ Iff.rfl) (framed_playosStateTransition _) .skip)

private theorem framed_playosOverlayManagerShow : Framed playosOverlayManagerShow := by
  refine .ite (fun _ _ _ ↦ Iff.rfl) .skip ?_
  have hshown : Framed fun c ↦ { c with overlayVisible := true } := fun _ _ _ ↦ rfl
  refine Framed.comp
    (f := fun c ↦ if c.fgState = .gameForeground then
        playosStateTransition c .playosUiForegroundWithGameBackground
      else playosStateRefresh c) ?_
    ((framed_sendOverlayEvent _).comp (framed_playosOverlaySendOutputInfo.comp hshown))
  exact .ite (fun _ _ _ ↦ Iff.rfl) (framed_playosStateTransition _) framed_playosStateRefresh

theorem framed_playosOverlayManagerHide : Framed playosOverlayManagerHide := by
  refine .ite (fun _ _ _ ↦ Iff.rfl) .skip ?_
  have hhidden : Framed fun c ↦ { c with overlayVisible := false } := fun _ _ _ ↦ rfl
  refine Framed.comp
    (f := fun c ↦ if c.fgState = .playosUiForegroundWithGameBackground then
        playosStateTransition c (if c.gameTree.isSome then .gameForeground else .shellForeground)
      else playosStateRefresh c) ?_
    ((framed_sendOverlayEvent _).comp hhidden)
  refine .ite (fun _ _ _ ↦ Iff.rfl) ?_ framed_playosStateRefresh
  exact fun bindings earlier c ↦ framed_playosStateTransition _ bindings earlier c

/-! ### Toplevels -/

theorem framed_playosCompositorReclassifyToplevels :
    Framed playosCompositorReclassifyToplevels := fun _ _ _ ↦ rfl

theorem framed_handleNewXdgToplevel (client : ClientId) (alloc : ToplevelAlloc) :
    Framed (handleNewXdgToplevel · client alloc) := by
  cases alloc <;> exact fun _ _ _ ↦ rfl

theorem framed_handleToplevelCommit (track : ToplevelTrack) (surface : SurfaceCommit) :
    Framed (handleToplevelCommit · track surface) := by
  have hconfigure : Framed (configureInitial · track surface) := by
    refine .const_ite (fun _ ↦ ?_) (fun _ ↦ .skip)
    exact fun bindings earlier c ↦ Framed.send _ bindings earlier c
  have hcount : Framed (countCommit · track surface) := by
    refine .const_ite (fun _ ↦ ?_) (fun _ ↦ .skip)
    cases track.role <;> exact fun _ _ _ ↦ rfl
  refine .const_ite (fun _ ↦ .skip) (fun _ ↦ ?_)
  refine Framed.comp
    (f := fun c ↦ if track.role = .game ∧ surface.buffer then playosStateGameSurfaceReady c
      else c) ?_ (hcount.comp hconfigure)
  exact .const_ite (fun _ ↦ framed_playosStateGameSurfaceReady) (fun _ ↦ .skip)

theorem framed_handleToplevelDestroy (track : ToplevelTrack) :
    Framed (handleToplevelDestroy · track) := by
  have hgone : Framed fun c ↦ { c with scene := c.scene.destroy (.tree track.tree) } :=
    fun _ _ _ ↦ rfl
  have huntrack : Framed (untrackToplevel · track) := by
    refine .comp
      (f := fun c ↦ { c with toplevels := c.toplevels.filter fun t ↦ t.tree ≠ track.tree })
      (fun _ _ _ ↦ rfl) ?_
    refine .ite (fun _ _ _ ↦ Iff.rfl) (fun _ _ _ ↦ rfl) ?_
    refine .ite (fun _ _ _ ↦ Iff.rfl) (fun _ _ _ ↦ rfl) ?_
    exact .ite (fun _ _ _ ↦ Iff.rfl) (fun _ _ _ ↦ rfl) .skip
  have hrestack : Framed compositorRestack := fun _ _ _ ↦ rfl
  refine hrestack.comp (Framed.comp
    (f := fun c ↦ if track.role = .game then playosStateGameExited c false
      else playosStateRefresh c) ?_ (huntrack.comp hgone))
  exact .const_ite (fun _ ↦ framed_playosStateGameExited _) (fun _ ↦ framed_playosStateRefresh)

theorem framed_handleNewOutput (calls : OutputCalls) : Framed (handleNewOutput · calls) := by
  refine .const_ite (fun _ ↦ .skip) (fun _ ↦ .ite (fun _ _ _ ↦ Iff.rfl) .skip ?_)
  refine .const_ite (fun _ ↦ .skip) (fun _ ↦ .const_ite (fun _ ↦ .skip) (fun _ ↦ ?_))
  exact .const_ite (fun _ _ _ _ ↦ rfl) (fun _ ↦ .skip)

theorem framed_handleFrame (sceneOutput windowElapsed : Bool) :
    Framed (handleFrame · sceneOutput windowElapsed) := by
  refine .const_ite (fun _ ↦ .skip) (fun _ ↦ ?_)
  exact .const_ite (fun _ _ _ _ ↦ rfl) (fun _ ↦ .skip)

/-! ### Clients, commands and keys -/

theorem framed_playosManagerBind (client : ClientId) (created : Bool) :
    Framed (playosManagerBind · client created) :=
  .const_ite (fun _ ↦ .send _) (fun _ _ _ _ ↦ rfl)

theorem framed_playosManagerRegisterShell (client : ClientId) :
    Framed (playosManagerRegisterShell · client) := by
  intro bindings earlier c
  dsimp only
  cases h : c.shellClient with
  | none =>
    have h' : (c.among bindings earlier).shellClient = none := h
    rw [playosManagerRegisterShell_of_free h, playosManagerRegisterShell_of_free h']
    rfl
  | some holder =>
    have h' : (c.among bindings earlier).shellClient = some holder := h
    rw [playosManagerRegisterShell_of_taken h, playosManagerRegisterShell_of_taken h']
    exact Framed.send _ bindings earlier c

theorem framed_ipcFdHandler (mask : FdMask) (read : IpcRead) :
    Framed (ipcFdHandler · mask read) := by
  refine .const_ite (fun _ _ _ _ ↦ rfl) (fun _ ↦ .const_ite (fun _ ↦ .skip) (fun _ ↦ ?_))
  cases read with
  | failed => exact fun _ _ _ ↦ rfl
  | dropped => exact .skip
  | command command =>
    cases command with
    | setExpectedGame launchToken gameId => exact framed_playosStateHandleSetExpectedGame _ _
    | clearExpectedGame => exact framed_playosStateHandleClearExpected
    | forceTerminateGame => exact framed_playosStateHandleForceTerminate
    | showOverlay => exact framed_playosOverlayManagerShow
    | hideOverlay => exact framed_playosOverlayManagerHide

theorem framed_handleKeyboardKey (keycode : UInt32) (state : KeyState) :
    Framed (handleKeyboardKey · keycode state) := by
  refine .const_ite (fun _ ↦ .const_ite (fun _ ↦ ?_) (fun _ ↦ .skip)) (fun _ ↦ .skip)
  refine .ite (fun _ _ _ ↦ Iff.rfl) framed_playosOverlayManagerShow ?_
  exact .ite (fun _ _ _ ↦ Iff.rfl) framed_playosOverlayManagerHide .skip

theorem framed_runDestroyListeners (client : ClientId) :
    Framed (runDestroyListeners · client) := by
  refine Framed.comp
    (f := fun c ↦ if c.overlayClientDestroy = some client then playosTrustedOverlayClientGone c
      else c)
    (.ite (fun _ _ _ ↦ Iff.rfl) (fun _ _ _ ↦ rfl) .skip) ?_
  exact .ite (fun _ _ _ ↦ Iff.rfl) (fun _ _ _ ↦ rfl) .skip

end PlayosCompositor
