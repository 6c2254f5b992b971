import Mathlib.Data.Fintype.EquivFin
import PlayosCompositor.Ipc.Reconnect
import PlayosCompositor.Runs.Order

/-!
# No dead ends

From every reachable compositor every foreground state can be entered again, whatever has been
lost before: the socket is connected again if it has to be, the overlay hidden, a launch
announced, and a new client draws the game. No client has to leave for it and no window to close.
-/

namespace PlayosCompositor

open Foreground

/-- The event makes a client or a window go. -/
def Event.takesAway : Event → Bool
  | .disconnect _ _ => true
  | .destroyToplevel _ => true
  | _ => false

variable {c : Compositor}

private theorem exists_connected (hl : c.ipc.Live) : ∃ es d, compositorSystem.run c es = some d ∧
    es.length ≤ 1 ∧ (∀ e ∈ es, e.takesAway = false) ∧ d.ipc.ipcSource.isSome := by
  rcases hl with hconn | hwait
  · obtain ⟨fd, -, hs, -⟩ := hconn.watched
    exact ⟨[], c, rfl, Nat.zero_le _, by simp, by rw [hs]; rfl⟩
  · have hfires : (c.ipc.ipcReconnectTimer.bind Timer.armedMs).isSome ∧
        ∀ fd ∈ c.ipc.openFds, ConnectResult.connected 0 ≠ .connected fd := by
      rw [hwait.armed, hwait.closed.2.2]
      exact ⟨rfl, by simp⟩
    refine ⟨[.ipcTimer (.connected 0)], _, compositorSystem.run_cons_some.mpr
      ⟨_, if_pos hfires, rfl⟩, le_rfl, by simp [Event.takesAway], rfl⟩

/-- A launch is announced, and a new client maps a window and draws. -/
def launchAndDraw (tree : TreeId) (client : ClientId) : List Event :=
  [.command (.setExpectedGame .empty .empty), .connect client] ++ mapAndCommit tree client false

/-- The way to every foreground state, over a connected socket. -/
def wayTo (tree : TreeId) (client : ClientId) : ForegroundState → List Event
  | .shellForeground =>
    [.command (.setExpectedGame .empty .empty), .command .clearExpectedGame]
  | .gameStarting => [.command (.setExpectedGame .empty .empty)]
  | .gameForeground => launchAndDraw tree client
  | .playosUiForegroundWithGameBackground =>
    .command .hideOverlay :: (launchAndDraw tree client ++ [.command .showOverlay])
  | .terminatingGame => [.command .forceTerminateGame]

private theorem takesAway_wayTo (tree : TreeId) (client : ClientId) (state : ForegroundState) :
    (wayTo tree client state).length ≤ 6 ∧
      ∀ e ∈ wayTo tree client state, e.takesAway = false := by
  cases state <;> simp [wayTo, launchAndDraw, mapAndCommit, Event.takesAway]

private theorem overlayVisible_activate (f : Foreground) :
    f.activate.overlayVisible = f.overlayVisible := by
  unfold activate goto
  split
  · split <;> simp
  · rfl

private theorem run_launchAndDraw (hw : c.WF) (hs : c.ipc.ipcSource.isSome) {client : ClientId}
    (hnew : client ∉ c.clients) (hu : ¬ c.Trusted client) :
    ∃ d, compositorSystem.run c (launchAndDraw c.nextId client) = some d ∧
      d.ipc = c.ipc ∧ d.fgState = .gameForeground ∧ d.overlayVisible = c.overlayVisible := by
  have hlaunch := step_command hs (.setExpectedGame .empty .empty)
  have hw₁ := compositorSystem_wf.step _ _ _ hw hlaunch
  have hi := (emits_ipcDispatch c (.setExpectedGame .empty .empty)).ipc
  have hr := toRegistry_setExpectedGame c .empty .empty
  have hf := toForeground_setExpectedGame c .empty .empty
  generalize ipcDispatch c (.setExpectedGame .empty .empty) = c₁ at hlaunch hw₁ hi hr hf
  have hstart : c₁.fgState = .gameStarting := by
    rw [hf]
    exact fgState_goto _ _
  have hready : c₁.gameSurfaceReady = false := by
    rw [hf]
    exact gameSurfaceReady_goto _ _
  have hvisible : c₁.overlayVisible = c.overlayVisible := by
    rw [hf]
    unfold launch goto
    split <;> simp
  have hu₁ : ¬ c₁.Trusted client := by
    have hsame :=
      sameWindows_launch c.toForeground (CString.empty.store 64) (CString.empty.store 256)
    rw [Trusted, hf, hsame.shellClient, hsame.overlayClient]
    exact hu
  have hnew₁ : client ∉ c₁.clients := by
    rw [hr]
    exact hnew
  have hconn : compositorSystem.step c₁ (.connect client) =
      some { c₁ with clients := client :: c₁.clients } := if_neg hnew₁
  have hw₂ := compositorSystem_wf.step _ _ _ hw₁ hconn
  have hdraw := run_mapAndCommit hw₂ List.mem_cons_self false
  let c₂ : Compositor := { c₁ with clients := client :: c₁.clients }
  have hg : (mappedAndCommitted c₂ client false).toForeground =
      (c₂.map c₂.nextId client).activate :=
    toForeground_mappedAndCommitted_of_starting (c := c₂) hu₁ hstart false
  have hnext : c₁.nextId = c.nextId := congrArg Registry.nextId hr
  refine ⟨mappedAndCommitted c₂ client false, ?_, ?_, ?_, ?_⟩
  · unfold launchAndDraw
    rw [← hnext]
    apply compositorSystem.run_cons_some.mpr
    exact ⟨c₁, hlaunch, compositorSystem.run_cons_some.mpr ⟨c₂, hconn, hdraw⟩⟩
  · have hmap := (emits_handleNewXdgToplevel c₂ client .ok).ipc
    have hcommit := (emits_handleToplevelCommit (handleNewXdgToplevel c₂ client .ok)
      ⟨c₂.nextId, client, compositorRoleForClient c₂.toForeground client⟩ ⟨true, false, true⟩).ipc
    exact hcommit.trans (hmap.trans hi)
  · rw [hg]
    exact fgState_activate hready hstart
  · rw [hg, ← hvisible]
    exact overlayVisible_activate _

private theorem run_wayTo (hw : c.WF) (hs : c.ipc.ipcSource.isSome) {client : ClientId}
    (hnew : client ∉ c.clients) (hu : ¬ c.Trusted client) (state : ForegroundState) :
    ∃ d, compositorSystem.run c (wayTo c.nextId client state) = some d ∧ d.fgState = state := by
  cases state with
  | shellForeground =>
    have hlaunch := step_command hs (.setExpectedGame .empty .empty)
    have hi := (emits_ipcDispatch c (.setExpectedGame .empty .empty)).ipc
    have hf := toForeground_setExpectedGame c .empty .empty
    generalize ipcDispatch c (.setExpectedGame .empty .empty) = c₁ at hlaunch hi hf
    have hclear := step_command (hi ▸ hs) .clearExpectedGame
    refine ⟨_, compositorSystem.run_cons_some.mpr ⟨c₁, hlaunch,
      compositorSystem.run_cons_some.mpr ⟨_, hclear, rfl⟩⟩, ?_⟩
    have hstart : c₁.fgState ≠ .terminatingGame := by
      rw [hf, launch, fgState_goto]
      decide
    change (playosStateHandleClearExpected c₁).fgState = _
    rw [toForeground_playosStateHandleClearExpected, withdraw, if_neg hstart]
    exact fgState_goto _ _
  | gameStarting =>
    refine ⟨_, compositorSystem.run_cons_some.mpr
      ⟨_, step_command hs (.setExpectedGame .empty .empty), rfl⟩, ?_⟩
    rw [toForeground_setExpectedGame]
    exact fgState_goto _ _
  | gameForeground =>
    obtain ⟨d, hr, -, hd, -⟩ := run_launchAndDraw hw hs hnew hu
    exact ⟨d, hr, hd⟩
  | playosUiForegroundWithGameBackground =>
    have hhide := step_command hs .hideOverlay
    have hw₁ := compositorSystem_wf.step _ _ _ hw hhide
    have hi := (emits_ipcDispatch c .hideOverlay).ipc
    have hr := toRegistry_ipcDispatch c .hideOverlay
    have hsame := sameWindows_ipcDispatch c .hideOverlay
    have hhidden : (ipcDispatch c .hideOverlay).overlayVisible = false := by
      change (playosOverlayManagerHide c).overlayVisible = false
      rw [toForeground_playosOverlayManagerHide]
      exact overlayVisible_hideOverlay _
    generalize ipcDispatch c .hideOverlay = c₁ at hhide hw₁ hi hr hsame hhidden
    have hnew₁ : client ∉ c₁.clients := by
      rw [hr]
      exact hnew
    have hu₁ : ¬ c₁.Trusted client := by
      rw [Trusted, hsame.shellClient, hsame.overlayClient]
      exact hu
    obtain ⟨d, hd, hdi, hgame, hdv⟩ := run_launchAndDraw hw₁ (hi ▸ hs) hnew₁ hu₁
    have hds : d.ipc.ipcSource.isSome := by
      rw [hdi, hi]
      exact hs
    have hnext : c₁.nextId = c.nextId := congrArg Registry.nextId hr
    refine ⟨ipcDispatch d .showOverlay, ?_, ?_⟩
    · refine compositorSystem.run_cons_some.mpr ⟨c₁, hhide, ?_⟩
      rw [compositorSystem.run_append, ← hnext, hd]
      exact compositorSystem.run_cons_some.mpr ⟨_, step_command hds .showOverlay, rfl⟩
    · have hv : ¬ d.overlayVisible = true := by simp [hdv, hhidden]
      change (playosOverlayManagerShow d).fgState = _
      rw [toForeground_playosOverlayManagerShow, showOverlay, if_neg hv, if_pos hgame]
      exact fgState_goto _ _
  | terminatingGame =>
    refine ⟨_, compositorSystem.run_cons_some.mpr
      ⟨_, step_command hs .forceTerminateGame, rfl⟩, ?_⟩
    change (playosStateHandleForceTerminate c).fgState = _
    rw [toForeground_playosStateHandleForceTerminate]
    exact fgState_goto _ _

private theorem exists_newClient (c : Compositor) :
    ∃ client, client ∉ c.clients ∧ ¬ c.Trusted client := by
  obtain ⟨client, hn⟩ := Infinite.exists_notMem_finset
    (c.clients ++ c.shellClient.toList ++ c.overlayClient.toList).toFinset
  simp only [List.mem_toFinset, List.mem_append, Option.mem_toList, not_or] at hn
  exact ⟨client, hn.1.1, fun h ↦ h.elim (fun hs ↦ hn.1.2 hs.symm) fun ho ↦ hn.2 ho.symm⟩

/-- From every reachable compositor every foreground state can be entered within seven events,
none of which makes a client or a window go. -/
theorem foreground_recoverable (hc : compositorSystem.Reachable c) (state : ForegroundState) :
    ∃ es d, compositorSystem.run c es = some d ∧ d.fgState = state ∧ es.length ≤ 7 ∧
      ∀ e ∈ es, e.takesAway = false := by
  obtain ⟨es₁, c₁, hr₁, hlen₁, hkeep₁, hs₁⟩ :=
    exists_connected (compositorSystem_live.reachable hc)
  have hw₁ : c₁.WF := compositorSystem_wf.run (compositorSystem_wf.reachable hc) hr₁
  obtain ⟨client, hnew, hu⟩ := exists_newClient c₁
  obtain ⟨d, hr, hd⟩ := run_wayTo hw₁ hs₁ hnew hu state
  obtain ⟨hlen, hkeep⟩ := takesAway_wayTo c₁.nextId client state
  refine ⟨es₁ ++ wayTo c₁.nextId client state, d, ?_, hd, ?_, ?_⟩
  · rw [compositorSystem.run_append, hr₁]
    exact hr
  · rw [List.length_append]
    omega
  · intro e he
    exact (List.mem_append.mp he).elim (hkeep₁ e) (hkeep e)

/-- The theorem where the connection is lost and a game that never came is being terminated. -/
theorem foreground_recoverable_wedged :
    ∃ c ∈ compositorSystem.run (playosCompositorStarted headlessStart) (wedgeRun ++ hangupRun),
      c.fgState = .terminatingGame ∧ c.ipc.ipcSource = none ∧
        ∃ es d, compositorSystem.run c es = some d ∧
          d.fgState = .playosUiForegroundWithGameBackground ∧ es.length ≤ 7 ∧
            ∀ e ∈ es, e.takesAway = false := by
  obtain ⟨c, hc, hstate, hsource⟩ : ∃ c ∈ compositorSystem.run
      (playosCompositorStarted headlessStart) (wedgeRun ++ hangupRun),
      c.fgState = .terminatingGame ∧ c.ipc.ipcSource = none := by decide
  exact ⟨c, hc, hstate, hsource, foreground_recoverable ⟨_, _, ⟨headlessStart, rfl⟩, hc⟩ _⟩

end PlayosCompositor
