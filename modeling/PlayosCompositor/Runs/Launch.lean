import PlayosCompositor.Foreground.Messages
import PlayosCompositor.Runs.Foreground

/-!
# Launches and the windows that were there before

The history of a run remembers the latest SetExpectedGame: what it installed and which
windows were tracked then. The compositor keeps no such record, so an old window of a game
can answer for the new launch, and take it along when it goes.
-/

namespace PlayosCompositor

open Foreground

/-- What SetExpectedGame installed, and the trees that were tracked when it arrived. -/
structure Launch where
  launchToken : CharBuf 64
  gameId : CharBuf 256
  older : List TreeId

/-- The latest launch after one more event. -/
def noteLaunch (latest : Option Launch) (c : Compositor) (e : Event) : Option Launch :=
  match foregroundInput c e with
  | .launch launchToken gameId => some ⟨launchToken, gameId, c.trees⟩
  | _ => latest

/-- The compositor together with the latest launch. -/
def launchSystem : Transition.System (Compositor × Option Launch) Event :=
  compositorSystem.withHistory none noteLaunch

/-! ### The launch that a starting game answers -/

namespace Foreground

/-- Only a launch brings the starting state about; otherwise it is the same launch still. -/
def StillStarting (f g : Foreground) : Prop :=
  g.fgState = .gameStarting →
    f.fgState = .gameStarting ∧ g.expectedLaunchToken = f.expectedLaunchToken

private theorem StillStarting.unmap {f g : Foreground} (h : StillStarting f g) (tree : TreeId) :
    StillStarting f (g.unmap tree) := by
  rcases unmap_cases g tree with he | ⟨track, -, ⟨-, he⟩ | ⟨-, he⟩⟩ <;> rw [he]
  · exact h
  · intro hs
    rw [exited_fgState] at hs
    exact nomatch hs
  · exact h

/-- A game starts because a launch was announced, or it was starting under the same token. -/
theorem stillStarting_step {f g : Foreground} {input : Input} (h : f.WF)
    (hs : f.step input = some g)
    (hl : ∀ launchToken gameId, input ≠ .launch launchToken gameId) : StillStarting f g := by
  cases moved_of_step hs with
  | launch launchToken gameId => exact absurd rfl (hl launchToken gameId)
  | idle => exact fun hg ↦ ⟨hg, rfl⟩
  | withdraw =>
    unfold Foreground.withdraw
    split
    · exact fun hg ↦ ⟨hg, nomatch ‹f.fgState = .terminatingGame›.symm.trans hg⟩
    · simp [StillStarting]
  | terminate =>
    simp [StillStarting, Foreground.terminate]
  | showOverlay =>
    unfold Foreground.showOverlay
    dsimp only
    repeat' split
    · exact fun hg ↦ ⟨hg, rfl⟩
    · simp [StillStarting]
    · exact fun hg ↦ ⟨hg, rfl⟩
  | hideOverlay =>
    unfold Foreground.hideOverlay
    dsimp only
    repeat' split
    · simp [StillStarting]
    · simp [StillStarting]
    · exact fun hg ↦ ⟨hg, rfl⟩
    · exact fun hg ↦ ⟨hg, rfl⟩
  | map tree client _ => exact fun hg ↦ ⟨hg, rfl⟩
  | frame tree =>
    rw [frame_eq h]
    split
    · simp [StillStarting]
    · exact fun hg ↦ ⟨hg, rfl⟩
  | unmap tree => exact StillStarting.unmap (fun hg ↦ ⟨hg, rfl⟩) tree
  | claimShell client =>
    unfold Foreground.claimShell
    split <;> exact fun hg ↦ ⟨hg, rfl⟩
  | claimOverlay client =>
    unfold Foreground.claimOverlay
    split <;> exact fun hg ↦ ⟨hg, rfl⟩
  | leave client order _ =>
    exact leave_of_unmap (P := StillStarting f) (fun hg ↦ ⟨hg, rfl⟩)
      (fun g tree hg ↦ hg.unmap tree) order

/-- A starting game comes to the front by a frame of a game's window only. -/
theorem activates_of_step {f g : Foreground} {input : Input} (h : f.WF)
    (hs : f.step input = some g) (hf : f.fgState = .gameStarting)
    (hg : g.fgState = .gameForeground) : ∃ tree, input = .frame tree ∧ f.Activates tree := by
  cases moved_of_step hs with
  | frame tree =>
    refine ⟨tree, rfl, ?_⟩
    rw [frame_eq h] at hg
    by_contra ha
    rw [if_neg ha, hf] at hg
    exact absurd hg (by decide)
  | idle => exact absurd (hf.symm.trans hg) (by decide)
  | launch launchToken gameId =>
    simp [Foreground.launch] at hg
  | withdraw =>
    simp [Foreground.withdraw, hf] at hg
  | terminate =>
    simp [Foreground.terminate] at hg
  | showOverlay =>
    unfold Foreground.showOverlay at hg
    split at hg <;> simp [hf] at hg
  | hideOverlay =>
    unfold Foreground.hideOverlay at hg
    split at hg <;> simp [hf] at hg
  | map tree client _ => exact absurd (hf.symm.trans hg) (by decide)
  | unmap tree =>
    rcases unmap_cases f tree with he | ⟨track, -, ⟨-, he⟩ | ⟨-, he⟩⟩ <;> rw [he] at hg
    · exact absurd (hf.symm.trans hg) (by decide)
    · exact absurd ((exited_fgState _).symm.trans hg) (by decide)
    · exact absurd (hf.symm.trans hg) (by decide)
  | claimShell client =>
    unfold Foreground.claimShell at hg
    split at hg <;> exact absurd (hf.symm.trans hg) (by decide)
  | claimOverlay client =>
    unfold Foreground.claimOverlay at hg
    split at hg <;> exact absurd (hf.symm.trans hg) (by decide)
  | leave client order _ =>
    refine absurd hg (leave_of_unmap (P := fun g ↦ g.fgState ≠ .gameForeground) ?_ ?_ order)
    · exact fun he ↦ absurd (hf.symm.trans he) (by decide)
    · intro g tree hn
      rcases unmap_cases g tree with he | ⟨track, -, ⟨-, he⟩ | ⟨-, he⟩⟩ <;> rw [he]
      · exact hn
      · rw [exited_fgState]
        decide
      · exact hn

end Foreground

/-- While a game starts, the latest launch is the one whose token is expected. -/
structure LaunchNoted (p : Compositor × Option Launch) : Prop where
  wf : p.1.WF
  latest : p.1.fgState = .gameStarting →
    ∃ launch ∈ p.2, launch.launchToken = p.1.expectedLaunchToken

private theorem launchSystem_noted : launchSystem.Invariant LaunchNoted where
  base p hp := ⟨compositorSystem_wf.base p.1 hp.1, by
    obtain ⟨config, hc⟩ := hp.1
    rw [hc]
    exact fun h ↦ nomatch h⟩
  step p e q hp hs := by
    obtain ⟨hc, hn⟩ := compositorSystem.withHistory_step_some.mp hs
    refine ⟨compositorSystem_wf.step _ _ _ hp.wf hc, fun hg ↦ ?_⟩
    have hf := toForeground_step hp.wf.linked hc
    rw [hn, noteLaunch]
    split
    · next launchToken gameId hi =>
      rw [hi] at hf
      refine ⟨_, rfl, ?_⟩
      rw [← Option.some.inj hf]
      simp [Foreground.launch]
    · next hi =>
      obtain ⟨hst, htok⟩ := stillStarting_step hp.wf.foreground hf hi hg
      rw [htok]
      exact hp.latest hst

/-! ### Which window activates a launch -/

/-- The event is a commit of a window that was created after the latest launch, and that
launch installed the token. -/
def CausedByNewWindow (p : Compositor × Option Launch) (e : Event) (launchToken : CharBuf 64) :
    Prop :=
  ∃ tree surface, e = .commit tree surface ∧
    ∃ launch ∈ p.2, launch.launchToken = launchToken ∧ tree ∉ launch.older

/-- Readiness and the game's way to the front come from a window of the latest launch. -/
def LaunchAttributed (p : Compositor × Option Launch) (e : Event)
    (q : Compositor × Option Launch) : Prop :=
  (∀ launchToken, .gameSurfaceReady launchToken ∈ q.1.messages.drop p.1.messages.length →
    CausedByNewWindow p e launchToken) ∧
  (p.1.fgState = .gameStarting → q.1.fgState = .gameForeground →
    CausedByNewWindow p e p.1.expectedLaunchToken)

/-- No buffer of a game's window that is older than the latest launch arrives while a game
is starting. -/
def NoStaleCommit (p : Compositor × Option Launch) : Event → Prop
  | .commit tree surface => surface.xdgToplevel ∧ surface.buffer ∧ p.1.Activates tree →
    ∀ launch ∈ p.2, tree ∉ launch.older
  | _ => True

private theorem launchAttributed_step_iff {p q : Compositor × Option Launch} {e : Event}
    (h : LaunchNoted p) (hs : launchSystem.step p e = some q) :
    LaunchAttributed p e q ↔ NoStaleCommit p e := by
  obtain ⟨hc, -⟩ := compositorSystem.withHistory_step_some.mp hs
  have hm : ∀ launchToken, .gameSurfaceReady launchToken ∈
      q.1.messages.drop p.1.messages.length ↔ launchToken = p.1.expectedLaunchToken ∧
        ∃ tree surface, e = .commit tree surface ∧
          surface.xdgToplevel ∧ surface.buffer ∧ p.1.Activates tree := by
    intro launchToken
    rw [messages_step h.wf hc, List.drop_left, List.mem_append, mem_readyMessages]
    simp [announce]
  by_cases ha : ∃ tree surface, e = .commit tree surface ∧
      surface.xdgToplevel ∧ surface.buffer ∧ p.1.Activates tree
  · obtain ⟨tree, surface, rfl, ha⟩ := ha
    obtain ⟨launch, hl, htok⟩ := h.latest ha.2.2.1
    constructor
    · rintro ⟨hready, -⟩ - launch' hl'
      obtain ⟨_, _, he, launch'', hl'', -, hn⟩ :=
        hready p.1.expectedLaunchToken ((hm _).mpr ⟨rfl, tree, surface, rfl, ha⟩)
      cases he
      rwa [Option.mem_unique hl' hl'']
    · intro hn
      have hcaused : CausedByNewWindow p (.commit tree surface) p.1.expectedLaunchToken :=
        ⟨tree, surface, rfl, launch, hl, htok, hn ha launch hl⟩
      refine ⟨fun launchToken ht ↦ ?_, fun _ _ ↦ hcaused⟩
      rwa [((hm _).mp ht).1]
  · refine iff_of_true ⟨fun launchToken ht ↦ absurd ((hm _).mp ht).2 ha, fun hst hg ↦ ?_⟩ ?_
    · obtain ⟨tree, hi, hact⟩ := activates_of_step h.wf.foreground
        (toForeground_step h.wf.linked hc) hst hg
      obtain ⟨surface, rfl, hx, hb⟩ := foregroundInput_eq_frame.mp hi
      exact absurd ⟨tree, surface, rfl, hx, hb, hact⟩ ha
    · cases e <;> first | trivial | exact fun hx ↦ absurd ⟨_, _, rfl, hx⟩ ha

/-- Every readiness and every activation of a run comes from a window of the latest launch
exactly when no window that is older than that launch commits a buffer as a game's window
while the game starts. -/
theorem each_launchAttributed_iff (config : StartConfig) (es : List Event) :
    launchSystem.Each LaunchAttributed (playosCompositorStarted config, none) es ↔
      launchSystem.Each (fun p e _ ↦ NoStaleCommit p e)
        (playosCompositorStarted config, none) es :=
  launchSystem.each_congr launchSystem_noted (fun _ _ _ h hs ↦ launchAttributed_step_iff h hs)
    (launchSystem_noted.base _ ⟨⟨config, rfl⟩, rfl⟩) es

/-- A game is in front when the next launch is announced. -/
def relaunchRun : List Event :=
  [.connect 1, .command (.setExpectedGame (.ofString "t1") (.ofString "g")),
    .newToplevel 1 .ok, .commit 0 bufferCommit,
    .command (.setExpectedGame (.ofString "t2") (.ofString "h"))]

/-- The old window's next frame is reported as the new launch's surface. -/
theorem launchAttributed_fails :
    ∃ p ∈ launchSystem.run (playosCompositorStarted headlessStart, none) relaunchRun,
      ∃ q ∈ launchSystem.step p (.commit 0 bufferCommit),
        .gameSurfaceReady ((CString.ofString "t2").store 64) ∈
            q.1.messages.drop p.1.messages.length ∧
          p.1.fgState = .gameStarting ∧ q.1.fgState = .gameForeground ∧
          ∃ launch ∈ p.2, launch.launchToken = (CString.ofString "t2").store 64 ∧
            0 ∈ launch.older := by
  decide

/-! ### Which launch an exit takes along -/

namespace Foreground

/-- What SetExpectedGame established is as it was. -/
def SameLaunch (f g : Foreground) : Prop :=
  g.expectedLaunchToken = f.expectedLaunchToken ∧ g.expectedGameId = f.expectedGameId ∧
    g.fgState = f.fgState

/-- The shell is in front and no game is expected. -/
def Idle (f : Foreground) : Prop :=
  f.fgState = .shellForeground ∧ f.expectedLaunchToken = .clear ∧ f.expectedGameId = .clear

private theorem Idle.unmap {f : Foreground} (h : f.Idle) (tree : TreeId) : (f.unmap tree).Idle := by
  rcases unmap_cases f tree with he | ⟨track, -, ⟨-, he⟩ | ⟨-, he⟩⟩ <;> rw [he]
  · exact h
  · exact ⟨exited_fgState _, rfl, rfl⟩
  · exact h

private theorem idle_unmap {f : Foreground} (hn : f.trees.Nodup) {track : ToplevelTrack}
    (ht : track ∈ f.toplevels) (hg : track.role = .game) : (f.unmap track.tree).Idle := by
  rcases unmap_cases f track.tree with he | ⟨found, hf, ⟨-, he⟩ | ⟨hr, -⟩⟩
  · have hm : track ∉ (f.unmap track.tree).toplevels := by simp
    rw [he] at hm
    exact absurd ht hm
  · rw [he]
    exact ⟨exited_fgState _, rfl, rfl⟩
  · rw [track?_of_mem hn ht] at hf
    exact absurd (Option.some.inj hf ▸ hg) hr

private theorem idle_foldl_unmap {f : Foreground} (hn : f.trees.Nodup) {track : ToplevelTrack}
    (ht : track ∈ f.toplevels) (hg : track.role = .game) {order : List TreeId}
    (ho : track.tree ∈ order) : (order.foldl unmap f).Idle := by
  induction order generalizing f with
  | nil => exact nomatch ho
  | cons tree order ih =>
    by_cases he : track.tree = tree
    · subst he
      exact List.foldlRecOn order unmap (idle_unmap hn ht hg) fun g hi t _ ↦ hi.unmap t
    · apply ih
      · rw [trees, toplevels_unmap]
        exact (List.Sublist.map _ List.filter_sublist).nodup hn
      · rw [toplevels_unmap, List.mem_filter]
        exact ⟨ht, by simpa using he⟩
      · exact (List.mem_cons.mp ho).resolve_left he

private theorem idle_leave {f : Foreground} (hn : f.trees.Nodup) {track : ToplevelTrack}
    (ht : track ∈ f.toplevels) (hg : track.role = .game) {order : List TreeId}
    (ho : track.tree ∈ order) (client : ClientId) : (f.leave client order).Idle :=
  idle_foldl_unmap (f := f.resign client) hn ht hg ho

private theorem sameLaunch_iff_of_idle {f g : Foreground} (h : g.Idle) :
    SameLaunch f g ↔ f.Idle := by
  obtain ⟨hs, ht, hi⟩ := h
  unfold SameLaunch Idle
  rw [hs, ht, hi]
  constructor
  · rintro ⟨h₁, h₂, h₃⟩
    exact ⟨h₃.symm, h₁.symm, h₂.symm⟩
  · rintro ⟨h₁, h₂, h₃⟩
    exact ⟨h₂.symm, h₃.symm, h₁.symm⟩

end Foreground

/-- A tracked game's window that was there before the latest launch. -/
def OldGameWindow (p : Compositor × Option Launch) (track : ToplevelTrack) : Prop :=
  track ∈ p.1.toplevels ∧ track.role = .game ∧ ∃ launch ∈ p.2, track.tree ∈ launch.older

instance (p : Compositor × Option Launch) (track : ToplevelTrack) :
    Decidable (OldGameWindow p track) :=
  inferInstanceAs (Decidable (_ ∧ _ ∧ ∃ launch ∈ p.2, _))

/-- When a game's window that is older than the latest launch is destroyed, by its client or
with it, the launch lasts exactly when nothing was left of it. -/
theorem sameLaunch_old_exit_iff {p q : Compositor × Option Launch}
    (hp : launchSystem.Reachable p) {track : ToplevelTrack} (ht : OldGameWindow p track)
    {e : Event} (he : e = .destroyToplevel track.tree ∨ ∃ order, e = .disconnect track.client order)
    (hs : launchSystem.step p e = some q) :
    SameLaunch p.1.toForeground q.1.toForeground ↔ p.1.Idle := by
  obtain ⟨ht, hg, -⟩ := ht
  have h : p.1.WF := (launchSystem_noted.reachable hp).wf
  have hc := (compositorSystem.withHistory_step_some.mp hs).1
  have hf := toForeground_step h.linked hc
  apply sameLaunch_iff_of_idle
  rcases he with rfl | ⟨order, rfl⟩
  · rw [← Option.some.inj hf]
    exact idle_unmap h.foreground.nodup ht hg
  · obtain ⟨ho, hf⟩ := Option.ite_none_right_eq_some.mp hf
    rw [← Option.some.inj hf]
    exact idle_leave h.foreground.nodup ht hg (ho track ht rfl) track.client

/-- The theorem at the destruction of the old game's window in a relaunch. -/
theorem sameLaunch_old_exit_relaunch :
    ∃ p ∈ launchSystem.run (playosCompositorStarted headlessStart, none) relaunchRun,
      ∃ q ∈ launchSystem.step p (.destroyToplevel 0),
        (SameLaunch p.1.toForeground q.1.toForeground ↔ p.1.Idle) := by
  obtain ⟨p, hp, q, hq, ht⟩ :
      ∃ p ∈ launchSystem.run (playosCompositorStarted headlessStart, none) relaunchRun,
        ∃ q ∈ launchSystem.step p (.destroyToplevel 0), OldGameWindow p ⟨0, 1, .game⟩ := by
    decide
  exact ⟨p, hp, q, hq, sameLaunch_old_exit_iff ⟨_, _, ⟨⟨headlessStart, rfl⟩, rfl⟩, hp⟩ ht
    (Or.inl rfl) hq⟩

/-- The late exit of the old game cancels the new launch. -/
theorem sameLaunch_old_exit_fails :
    ∃ p ∈ launchSystem.run (playosCompositorStarted headlessStart, none) relaunchRun,
      OldGameWindow p ⟨0, 1, .game⟩ ∧ p.1.fgState = .gameStarting ∧
        p.1.expectedLaunchToken = (CString.ofString "t2").store 64 ∧
        ∃ q ∈ launchSystem.step p (.destroyToplevel 0),
          q.1.fgState = .shellForeground ∧ q.1.expectedLaunchToken = .clear ∧
            q.1.expectedGameId = .clear := by
  decide

end PlayosCompositor
