import PlayosCompositor.Runs.Departure

/-!
# Frame statistics

The line that `handle_frame` logs once a second, with the counters that `handle_toplevel_commit`
and `handle_output_present` keep for it. The lines and the counters of the present second divide
the frames of a run among them: none is lost between two lines, none is counted twice, and the
numbers wrap around.
-/

namespace PlayosCompositor

/-- What a frame is counted as. -/
inductive FrameKind
  | shell
  | game
  | zeroCopy
  | copied
  deriving DecidableEq, Repr

/-- The numbers of one line. -/
@[ext] structure FrameCounts where
  shell : UInt32
  game : UInt32
  zeroCopy : UInt32
  copied : UInt32
  deriving DecidableEq, Repr

/-- The compositor with its counters of presented frames and the lines that it has logged. -/
structure Screen where
  compositor : Compositor
  presentZeroCopy : UInt32
  presentCopied : UInt32
  fpsLog : List FrameCounts

namespace Screen

/-- The four counters. -/
def counts (s : Screen) : FrameCounts where
  shell := s.compositor.fpsCommitsShell
  game := s.compositor.fpsCommitsGame
  zeroCopy := s.presentZeroCopy
  copied := s.presentCopied

/-- `handle_output_present`, `src/compositor.c:799`. -/
def handleOutputPresent (s : Screen) (presented zeroCopy : Bool) : Screen :=
  if !presented then s
  else if zeroCopy then { s with presentZeroCopy := s.presentZeroCopy + 1 }
  else { s with presentCopied := s.presentCopied + 1 }

/-- The line of `handle_frame` and its reset of the counters, `src/compositor.c:842–852`, together
with the compositor's own part. -/
def handleFrame (s : Screen) (sceneOutput windowElapsed : Bool) : Screen :=
  let compositor := PlayosCompositor.handleFrame s.compositor sceneOutput windowElapsed
  if sceneOutput && windowElapsed then ⟨compositor, 0, 0, s.fpsLog ++ [s.counts]⟩
  else { s with compositor }

end Screen

/-- What can happen to the compositor and its outputs. -/
inductive ScreenEvent
  | compositor (e : Event)
  | present (presented zeroCopy : Bool)

/-- One event. -/
def screenStep (s : Screen) : ScreenEvent → Option Screen
  | .compositor (.frame sceneOutput windowElapsed) => some (s.handleFrame sceneOutput windowElapsed)
  | .compositor e => (step s.compositor e).map fun compositor ↦ { s with compositor }
  | .present presented zeroCopy => some (s.handleOutputPresent presented zeroCopy)

/-- The compositor when it has been started, before any frame. -/
def startedScreen (config : StartConfig) : Screen := ⟨playosCompositorStarted config, 0, 0, []⟩

/-- The compositor with its statistics. -/
def screenSystem : Transition.System Screen ScreenEvent where
  initial s := ∃ config, s = startedScreen config
  step := screenStep

/-! ### What is to be counted -/

/-- A frame of a window with this role, as it is counted. -/
def roleFrames : TrustedRole → List FrameKind
  | .shell => [.shell]
  | .game => [.game]
  | _ => []

/-- The frame that an event is, if it is one: a commit of a shell's or a game's window that is not
its first, or a frame that has reached the panel. -/
def frameKinds (s : Screen) : ScreenEvent → List FrameKind
  | .compositor (.commit tree surface) =>
    if surface.xdgToplevel ∧ surface.initialCommit = false then
      (s.compositor.track? tree).elim [] fun track ↦ roleFrames track.role
    else []
  | .compositor _ => []
  | .present presented zeroCopy =>
    if presented then [if zeroCopy then .zeroCopy else .copied] else []

/-- What an event contributes to the log: a frame to be counted, or a line (`none`). -/
def frameMarks (s : Screen) : ScreenEvent → List (Option FrameKind)
  | .compositor (.frame true true) => [none]
  | e => (frameKinds s e).map some

/-- What a run has contributed when there was a line after each of the seconds. -/
def secondMarks (seconds : List (List FrameKind)) (current : List FrameKind) :
    List (Option FrameKind) :=
  (seconds.flatMap fun frames ↦ frames.map some ++ [none]) ++ current.map some

/-- The numbers of a second's frames. -/
def FrameCounts.of (frames : List FrameKind) : FrameCounts where
  shell := .ofNat (frames.count .shell)
  game := .ofNat (frames.count .game)
  zeroCopy := .ofNat (frames.count .zeroCopy)
  copied := .ofNat (frames.count .copied)

namespace FrameCounts

/-- Counters count on where they are, and wrap around. -/
instance : Add FrameCounts where
  add a b := ⟨a.shell + b.shell, a.game + b.game, a.zeroCopy + b.zeroCopy, a.copied + b.copied⟩

private theorem of_append (frames more : List FrameKind) :
    of (frames ++ more) = of frames + of more := by
  have hadd : ∀ kind, UInt32.ofNat ((frames ++ more).count kind) =
      .ofNat (frames.count kind) + .ofNat (more.count kind) := by
    intro kind
    rw [List.count_append, UInt32.ofNat_add]
  exact FrameCounts.ext (hadd .shell) (hadd .game) (hadd .zeroCopy) (hadd .copied)

private theorem of_roleFrames (role : TrustedRole) : of (roleFrames role) =
    ⟨if role = .shell then 1 else 0, if role = .game then 1 else 0, 0, 0⟩ := by
  cases role <;> rfl

private theorem add_of_nil (counts : FrameCounts) : counts + of [] = counts :=
  FrameCounts.ext (UInt32.add_zero _) (UInt32.add_zero _) (UInt32.add_zero _) (UInt32.add_zero _)

end FrameCounts

/-! ### The counters of the compositor -/

/-- The compositor's own counters. -/
def Compositor.frames (c : Compositor) : UInt32 × UInt32 := (c.fpsCommitsShell, c.fpsCommitsGame)

private theorem SameService.frames {c c' : Compositor} (h : SameService c c') :
    c'.frames = c.frames :=
  Prod.ext h.fpsCommitsShell h.fpsCommitsGame

@[simp] theorem frames_sendOverlayEvent (c : Compositor) (event : OverlayEvent) :
    (sendOverlayEvent c event).frames = c.frames := by
  unfold sendOverlayEvent
  split <;> rfl

@[simp] theorem frames_playosStateRefresh (c : Compositor) :
    (playosStateRefresh c).frames = c.frames := rfl

@[simp] theorem frames_playosStateTransition (c : Compositor) (state : ForegroundState) :
    (playosStateTransition c state).frames = c.frames :=
  (SameService.of_playosStateTransition c state).frames

private theorem frames_playosOverlayManagerShow (c : Compositor) :
    (playosOverlayManagerShow c).frames = c.frames := by
  unfold playosOverlayManagerShow
  split
  · rfl
  · dsimp only
    split <;> simp [playosOverlaySendAboutToShow, playosOverlaySendOutputInfo] <;> rfl

private theorem frames_playosOverlayManagerHide (c : Compositor) :
    (playosOverlayManagerHide c).frames = c.frames := by
  unfold playosOverlayManagerHide
  split
  · rfl
  · dsimp only
    split <;> simp [playosOverlaySendAboutToHide] <;> rfl

private theorem frames_ipcDispatch (c : Compositor) (command : IpcCommand) :
    (ipcDispatch c command).frames = c.frames := by
  cases command with
  | setExpectedGame launchToken gameId => exact frames_playosStateTransition _ _
  | clearExpectedGame =>
    simp only [ipcDispatch, playosStateHandleClearExpected]
    split
    · exact frames_playosStateTransition _ _
    · rfl
  | forceTerminateGame => exact frames_playosStateTransition c .terminatingGame
  | showOverlay => exact frames_playosOverlayManagerShow c
  | hideOverlay => exact frames_playosOverlayManagerHide c

private theorem frames_handleKeyboardKey (c : Compositor) (keycode : UInt32) (state : KeyState) :
    (handleKeyboardKey c keycode state).frames = c.frames := by
  unfold handleKeyboardKey
  repeat' split
  · exact frames_playosOverlayManagerShow c
  · exact frames_playosOverlayManagerHide c
  all_goals rfl

@[simp] theorem frames_playosOverlayResolveResource (c : Compositor) (client : ClientId) :
    (playosOverlayResolveResource c client).frames = c.frames := by
  unfold playosOverlayResolveResource
  split
  · rfl
  · exact frames_sendOverlayEvent _ _

/-- Only commits and rendered frames concern the counters. -/
theorem frames_step {c c' : Compositor} {e : Event} (hs : step c e = some c')
    (hc : ∀ tree surface, e ≠ .commit tree surface)
    (hf : ∀ sceneOutput windowElapsed, e ≠ .frame sceneOutput windowElapsed) :
    c'.frames = c.frames := by
  cases handled_of_step hs with
  | ipcFd mask read _ =>
    unfold ipcFdHandler
    repeat' split
    all_goals first | rfl | exact frames_ipcDispatch c _
  | ipcTimer result _ _ => rfl
  | ipcLink link _ => rfl
  | connect client _ => rfl
  | disconnect client order _ _ =>
    have h := SameService.of_foldl_destroyObject (runDestroyListeners c client) order
    apply Eq.trans h.frames
    rw [runDestroyListeners_eq]
    rfl
  | bindManager client created _ => cases created <;> rfl
  | registerShell client _ =>
    unfold playosManagerRegisterShell playosTrustedClientClaim
    cases c.shellClient <;> rfl
  | registerOverlay client _ =>
    unfold playosManagerRegisterOverlay playosTrustedClientClaim
    cases c.overlayClient with
    | none => exact frames_playosOverlayResolveResource _ _
    | some holder => rfl
  | bindOverlay client created _ =>
    unfold playosOverlayBind
    dsimp only
    repeat' split
    all_goals first | rfl | exact frames_playosOverlayResolveResource _ _
  | overlayRequest resource request bound _ =>
    unfold playosOverlayRequest
    repeat' split
    all_goals first | rfl | exact frames_playosOverlayManagerHide c
  | newToplevel client alloc _ => cases alloc <;> rfl
  | commit tree surface _ _ => exact absurd rfl (hc tree surface)
  | destroyToplevel tree track _ =>
    exact (SameService.of_handleToplevelDestroy c track).frames
  | key keycode state => exact frames_handleKeyboardKey c keycode state
  | newOutput calls =>
    unfold handleNewOutput
    repeat' split
    all_goals rfl
  | frame sceneOutput windowElapsed => exact absurd rfl (hf sceneOutput windowElapsed)

private theorem frames_handleToplevelCommit (c : Compositor) (track : ToplevelTrack)
    (surface : SurfaceCommit) : (handleToplevelCommit c track surface).frames =
      if surface.xdgToplevel ∧ surface.initialCommit = false then
        (c.fpsCommitsShell + (if track.role = .shell then 1 else 0),
          c.fpsCommitsGame + (if track.role = .game then 1 else 0))
      else c.frames := by
  have hready : ∀ d : Compositor, (playosStateGameSurfaceReady d).frames = d.frames := by
    intro d
    unfold playosStateGameSurfaceReady
    repeat' split
    · rfl
    · rfl
    · exact frames_playosStateTransition _ _
  have hcount : (countCommit (configureInitial c track surface) track surface).frames =
      if surface.initialCommit = false then
        (c.fpsCommitsShell + (if track.role = .shell then 1 else 0),
          c.fpsCommitsGame + (if track.role = .game then 1 else 0))
      else c.frames := by
    unfold countCommit configureInitial
    cases surface.initialCommit <;> cases track.role <;>
      simp [Compositor.frames]
  unfold handleToplevelCommit
  cases surface.xdgToplevel with
  | false => simp
  | true =>
    simp only [Bool.not_true, Bool.false_eq_true, if_false, true_and, ← hcount]
    split
    · exact hready _
    · rfl

/-! ### Lines and frames -/

/-- The lines have the numbers of the seconds that they end, and the counters those of the present
second. -/
def Screen.Counted (s : Screen) (marks : List (Option FrameKind)) : Prop :=
  ∃ seconds current, marks = secondMarks seconds current ∧
    s.fpsLog = seconds.map FrameCounts.of ∧ s.counts = FrameCounts.of current

namespace Screen

variable {s s' : Screen} {marks : List (Option FrameKind)}

private theorem Counted.more {more : List FrameKind} (h : s.Counted marks)
    (hl : s'.fpsLog = s.fpsLog)
    (hc : s'.counts = s.counts + .of more) : s'.Counted (marks ++ more.map some) := by
  obtain ⟨seconds, current, rfl, hlog, hcounts⟩ := h
  refine ⟨seconds, current ++ more, ?_, hl.trans hlog, ?_⟩
  · rw [secondMarks, secondMarks, List.map_append, List.append_assoc]
  · rw [hc, hcounts, FrameCounts.of_append]

private theorem Counted.still (h : s.Counted marks) (hl : s'.fpsLog = s.fpsLog)
    (hc : s'.counts = s.counts) : s'.Counted (marks ++ []) :=
  @Counted.more s s' marks [] h hl (hc.trans (FrameCounts.add_of_nil _).symm)

private theorem Counted.line (h : s.Counted marks) (hl : s'.fpsLog = s.fpsLog ++ [s.counts])
    (hc : s'.counts = FrameCounts.of []) : s'.Counted (marks ++ [none]) := by
  obtain ⟨seconds, current, rfl, hlog, hcounts⟩ := h
  refine ⟨seconds ++ [current], [], ?_, ?_, hc⟩
  · simp [secondMarks]
  · rw [hl, hlog, hcounts, List.map_append]
    rfl

private theorem Counted.present (h : s.Counted marks) (presented zeroCopy : Bool) :
    (s.handleOutputPresent presented zeroCopy).Counted
      (marks ++ frameMarks s (.present presented zeroCopy)) := by
  have hlog : (s.handleOutputPresent presented zeroCopy).fpsLog = s.fpsLog := by
    unfold handleOutputPresent
    repeat' split
    all_goals rfl
  apply h.more hlog
  cases presented with
  | false => exact (FrameCounts.add_of_nil _).symm
  | true =>
    cases zeroCopy
    · exact FrameCounts.ext (UInt32.add_zero _).symm (UInt32.add_zero _).symm
        (UInt32.add_zero _).symm rfl
    · exact FrameCounts.ext (UInt32.add_zero _).symm (UInt32.add_zero _).symm rfl
        (UInt32.add_zero _).symm

private theorem Counted.commit (h : s.Counted marks) {tree : TreeId} {surface : SurfaceCommit}
    {track : ToplevelTrack} (ht : s.compositor.track? tree = some track) :
    Screen.Counted { s with compositor := handleToplevelCommit s.compositor track surface }
      (marks ++ frameMarks s (.compositor (.commit tree surface))) := by
  have hframes := frames_handleToplevelCommit s.compositor track surface
  apply @Counted.more s { s with compositor := handleToplevelCommit s.compositor track surface } _
    _ h rfl
  rw [frameKinds, ht, Option.elim_some]
  split at hframes
  · next hcounted =>
    rw [if_pos hcounted, FrameCounts.of_roleFrames]
    exact FrameCounts.ext (congrArg Prod.fst hframes) (congrArg Prod.snd hframes)
      (UInt32.add_zero _).symm (UInt32.add_zero _).symm
  · next hcounted =>
    rw [if_neg hcounted, FrameCounts.add_of_nil]
    exact FrameCounts.ext (congrArg Prod.fst hframes) (congrArg Prod.snd hframes) rfl rfl

end Screen

/-- Every event is counted as what it is. -/
theorem counted_step {s s' : Screen} {marks : List (Option FrameKind)} {e : ScreenEvent}
    (h : s.Counted marks) (hs : screenSystem.step s e = some s') :
    s'.Counted (marks ++ frameMarks s e) := by
  cases e with
  | present presented zeroCopy =>
    cases Option.some.inj hs
    exact h.present presented zeroCopy
  | compositor e =>
    by_cases hf : ∃ sceneOutput windowElapsed, e = .frame sceneOutput windowElapsed
    · obtain ⟨sceneOutput, windowElapsed, rfl⟩ := hf
      cases Option.some.inj hs
      cases sceneOutput with
      | false => exact h.still rfl rfl
      | true =>
        cases windowElapsed with
        | false => exact h.still rfl rfl
        | true => exact h.line rfl rfl
    · have hstep : screenStep s (.compositor e) =
          (step s.compositor e).map fun compositor ↦ { s with compositor } := by
        cases e with
        | frame sceneOutput windowElapsed => exact absurd ⟨_, _, rfl⟩ hf
        | _ => rfl
      obtain ⟨c, hc, rfl⟩ := Option.map_eq_some_iff.mp (hstep.symm.trans hs)
      by_cases hcommit : ∃ tree surface, e = .commit tree surface
      · obtain ⟨tree, surface, rfl⟩ := hcommit
        obtain ⟨track, ht, rfl⟩ := Option.map_eq_some_iff.mp hc
        exact h.commit ht
      · have hnone : frameMarks s (.compositor e) = [] := by
          cases e with
          | commit tree surface => exact absurd ⟨_, _, rfl⟩ hcommit
          | frame sceneOutput windowElapsed => exact absurd ⟨_, _, rfl⟩ hf
          | _ => rfl
        have hframes := frames_step hc (fun _ _ he ↦ hcommit ⟨_, _, he⟩)
          fun _ _ he ↦ hf ⟨_, _, he⟩
        have hcounts : Screen.counts { s with compositor := c } = s.counts :=
          FrameCounts.ext (congrArg Prod.fst hframes) (congrArg Prod.snd hframes) rfl rfl
        rw [hnone]
        exact @Screen.Counted.still s { s with compositor := c } _ h rfl hcounts

/-- In every run each line that `handle_frame` logs has the numbers of the frames since the line
before it, modulo 2^32, and the counters those of the frames since the last line: none is lost or
counted twice. Frames are the commits of shell and game windows, but for initial ones, and what
has reached the panel. -/
theorem fps_exact {config : StartConfig} {es : List ScreenEvent} {s : Screen}
    (hr : screenSystem.run (startedScreen config) es = some s) :
    ∃ seconds current,
      screenSystem.edited frameMarks (startedScreen config) es = secondMarks seconds current ∧
        s.fpsLog = seconds.map FrameCounts.of ∧ s.counts = FrameCounts.of current := by
  have hrun : ∀ (fs : List ScreenEvent) (t : Screen) (marks : List (Option FrameKind)),
      t.Counted marks → screenSystem.run t fs = some s →
        s.Counted (marks ++ screenSystem.edited frameMarks t fs) := by
    intro fs
    induction fs with
    | nil =>
      intro t marks h ht
      cases Option.some.inj ht
      rwa [Transition.System.edited, List.append_nil]
    | cons e fs ih =>
      intro t marks h ht
      obtain ⟨t₁, hstep, ht₁⟩ := screenSystem.run_cons_some.mp ht
      have h₁ := ih t₁ _ (counted_step h hstep) ht₁
      rw [Transition.System.edited, hstep, Option.elim_some, ← List.append_assoc]
      exact h₁
  exact hrun es _ [] ⟨[], [], rfl, rfl, rfl⟩ hr

/-- A shell draws two frames, one of which reaches the panel within the second. -/
def drawnRun : List ScreenEvent :=
  [.compositor (.connect 1), .compositor (.bindManager 1 true), .compositor (.registerShell 1),
    .compositor (.newToplevel 1 .ok), .compositor (.commit 0 ⟨true, true, false⟩),
    .compositor (.commit 0 ⟨true, false, true⟩), .present true false, .present false false,
    .compositor (.frame true true), .compositor (.commit 0 ⟨true, false, true⟩)]

/-- The theorem for these two frames. -/
theorem fps_exact_drawn :
    ∃ s ∈ screenSystem.run (startedScreen headlessStart) drawnRun, ∃ seconds current,
      screenSystem.edited frameMarks (startedScreen headlessStart) drawnRun =
          secondMarks seconds current ∧
        s.fpsLog = seconds.map FrameCounts.of ∧ s.counts = FrameCounts.of current := by
  obtain ⟨s, hs⟩ := Option.isSome_iff_exists.mp (show (screenSystem.run
    (startedScreen headlessStart) drawnRun).isSome by decide)
  exact ⟨s, hs, fps_exact hs⟩

end PlayosCompositor
