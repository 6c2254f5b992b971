import Mathlib.Data.List.Find
import PlayosCompositor.Foreground.Messages
import PlayosCompositor.Runs.Foreground
import PlayosCompositor.Scene.Invariant

/-!
# Orders of arrival

A shell may map its window before or after it registers, and SetExpectedGame may arrive
before or after the game maps its window. The first order is irrelevant unless a game is
starting; the second one always matters.
-/

namespace PlayosCompositor

namespace Foreground

/-! ### Classifications absorb each other -/

private theorem classify_classify_shell (f : Foreground) (holder : Option ClientId) :
    classify { classify f with shellClient := holder } =
      classify { f with shellClient := holder } := by
  simp only [classify, List.map_map, Function.comp_def]
  rfl

private theorem classify_classify_append (f : Foreground) (tracks : List ToplevelTrack) :
    classify { classify f with toplevels := f.classify.toplevels ++ tracks } =
      classify { f with toplevels := f.toplevels ++ tracks } := by
  simp only [classify, List.map_map, List.map_append, Function.comp_def]
  rfl

/-- The oldest window whose client has a role at present. -/
def firstOwned (f : Foreground) (role : TrustedRole) : Option TreeId :=
  (f.toplevels.find? fun track ↦ compositorRoleForClient f track.client = role).map
    ToplevelTrack.tree

/-- A classification designates the oldest windows by the present roles of the clients. -/
theorem designated_classify_eq (f : Foreground) {role : TrustedRole} (h : role ≠ .none) :
    f.classify.designated role = f.firstOwned role := by
  rw [designated_classify f h]
  simp only [first, firstOwned, classify, List.find?_map, Option.map_map, Function.comp_def]

private theorem firstOwned_append (f : Foreground) (track : ToplevelTrack) (role : TrustedRole) :
    firstOwned { f with toplevels := f.toplevels ++ [track] } role =
      (f.firstOwned role).or
        (if compositorRoleForClient f track.client = role then some track.tree else none) := by
  change ((f.toplevels ++ [track]).find? fun track ↦
    compositorRoleForClient f track.client = role).map ToplevelTrack.tree = _
  rw [List.find?_append, Option.map_or, firstOwned]
  congr 1
  by_cases hr : compositorRoleForClient f track.client = role <;> simp [hr]

private theorem track?_map {f : Foreground} (h : f.WF) {tree : TreeId} (ht : tree ∉ f.trees)
    (client : ClientId) : (f.map tree client).track? tree =
      some ⟨tree, client, compositorRoleForClient f client⟩ := by
  have hm : ⟨tree, client, compositorRoleForClient f client⟩ ∈ (f.map tree client).toplevels :=
    List.mem_map.mpr ⟨⟨tree, client, .none⟩, by simp, rfl⟩
  exact track?_of_mem (wf_map h ht client).nodup hm

private theorem compositorRoleForClient_of_starting {f : Foreground} {client : ClientId}
    (hu : ¬ f.Trusted client) (hs : f.fgState = .gameStarting) :
    compositorRoleForClient f client = .game :=
  compositorRoleForClient_eq_game.mpr ⟨hu, by rw [hs]; decide⟩

/-- An activated game is in front. -/
theorem fgState_activate {f : Foreground} (hr : f.gameSurfaceReady = false)
    (hs : f.fgState = .gameStarting) : f.activate.fgState = .gameForeground := by
  rw [activate, if_pos ⟨hr, hs⟩]
  exact fgState_goto _ _

private theorem fgState_claimShell (f : Foreground) (client : ClientId) :
    (f.claimShell client).fgState = f.fgState := by
  unfold claimShell
  split <;> rfl

end Foreground

open Foreground

/-! ### Steps of the four runs -/

private theorem playosStateGameSurfaceReady_of_not_starting {c : Compositor}
    (h : c.fgState ≠ .gameStarting) : playosStateGameSurfaceReady c = c := by
  simp [playosStateGameSurfaceReady, h]

/-- A commit is only answered and counted while no game is starting, or from a window that
is not a game's. -/
theorem sameBut_handleToplevelCommit {c : Compositor} {track : ToplevelTrack}
    (h : c.fgState ≠ .gameStarting ∨ track.role ≠ .game) (surface : SurfaceCommit) :
    SameBut c (handleToplevelCommit c track surface) := by
  obtain ⟨c₀, hc, he⟩ := handleToplevelCommit_eq c track surface
  rw [he]
  split
  · next hs =>
    rw [playosStateGameSurfaceReady_of_not_starting]
    · exact hc
    · rw [hc.foreground]
      exact h.resolve_right fun hr ↦ hr hs.2.2
  · exact hc

/-- A client maps a window and commits a buffer. -/
def mapAndCommit (tree : TreeId) (client : ClientId) (initial : Bool) : List Event :=
  [.newToplevel client .ok, .commit tree ⟨true, initial, true⟩]

/-- What a client that maps a window and commits a buffer leads to. -/
def mappedAndCommitted (c : Compositor) (client : ClientId) (initial : Bool) : Compositor :=
  handleToplevelCommit (handleNewXdgToplevel c client .ok)
    ⟨c.nextId, client, compositorRoleForClient c.toForeground client⟩ ⟨true, initial, true⟩

/-- A connected client can map a window and commit a buffer. -/
theorem run_mapAndCommit {c : Compositor} (h : c.WF) {client : ClientId}
    (hc : client ∈ c.clients) (initial : Bool) :
    compositorSystem.run c (mapAndCommit c.nextId client initial) =
      some (mappedAndCommitted c client initial) := by
  have hn : c.nextId ∉ c.trees := h.linked.nextId_not_mem
  have ht := track?_map h.foreground hn client
  rw [← toForeground_handleNewXdgToplevel_ok] at ht
  apply compositorSystem.run_cons_some.mpr
  refine ⟨handleNewXdgToplevel c client .ok, if_pos hc, compositorSystem.run_cons_some.mpr ?_⟩
  exact ⟨_, congrArg (Option.map _) ht, rfl⟩

/-- While a game is starting, the window of a client without trusted role activates it. -/
theorem toForeground_mappedAndCommitted_of_starting {c : Compositor} {client : ClientId}
    (hu : ¬ c.Trusted client) (hs : c.fgState = .gameStarting) (initial : Bool) :
    (mappedAndCommitted c client initial).toForeground = (c.map c.nextId client).activate := by
  have hr := compositorRoleForClient_of_starting hu hs
  unfold mappedAndCommitted
  rw [toForeground_handleToplevelCommit, toForeground_handleNewXdgToplevel_ok, hr]
  rfl

@[simp] theorem managers_mappedAndCommitted (c : Compositor) (client : ClientId)
    (initial : Bool) : (mappedAndCommitted c client initial).managers = c.managers := by
  simp [mappedAndCommitted]

private theorem run_registerShell {c : Compositor} {client : ClientId} (hm : client ∈ c.managers) :
    compositorSystem.run c [.registerShell client] = some (playosManagerRegisterShell c client) :=
  compositorSystem.run_cons_some.mpr ⟨_, if_pos hm, rfl⟩

private theorem scene_handleNewXdgToplevel_ok (c : Compositor) (client : ClientId) :
    (handleNewXdgToplevel c client .ok).scene =
      presentScene (c.map c.nextId client) (c.scene.add (.tree c.nextId)) :=
  scene_reclassify _

private theorem scene_playosManagerRegisterShell_of_free {c : Compositor} (h : c.shellClient = none)
    (client : ClientId) : (playosManagerRegisterShell c client).scene =
      presentScene (c.claimShell client) c.scene := by
  rw [playosManagerRegisterShell_of_free h, scene_reclassify, claimShell_of_free h]

/-! ### A shell maps its window and registers -/

namespace Foreground

section Newcomer

variable {f : Foreground} (h : f.shellClient = none) {tree : TreeId} {client : ClientId}
include h

private theorem compositorRoleForClient_of_ne {other : ClientId} (hne : other ≠ client) :
    compositorRoleForClient { f with shellClient := some client } other =
      compositorRoleForClient f other := by
  simp [compositorRoleForClient, h, hne]

private theorem firstOwned_shell : f.firstOwned .shell = none := by
  unfold firstOwned
  rw [Option.map_eq_none_iff, List.find?_eq_none]
  intro track _
  unfold compositorRoleForClient
  rw [h, if_neg (by simp)]
  split
  · decide
  · split <;> decide

private theorem claimShell_map : (f.map tree client).claimShell client =
    (f.claimShell client).map tree client := by
  rw [claimShell_of_free (f := f.map tree client) h, claimShell_of_free h]
  unfold map
  rw [classify_classify_shell, classify_classify_append]

variable (ho : ∀ track ∈ f.toplevels, track.client ≠ client)
include ho

private theorem firstOwned_claim (role : TrustedRole) :
    firstOwned { f with shellClient := some client } role = f.firstOwned role := by
  unfold firstOwned
  congr 1
  apply List.find?_congr
  intro track ht
  rw [compositorRoleForClient_of_ne h (ho track ht)]

private theorem designated_claimShell {role : TrustedRole} (hr : role ≠ .none) :
    (f.claimShell client).designated role = f.firstOwned role := by
  rw [claimShell_of_free h, designated_classify_eq _ hr, firstOwned_claim h ho]

private theorem designated_claimShell_map {role : TrustedRole} (hr : role ≠ .none) :
    ((f.map tree client).claimShell client).designated role =
      (f.firstOwned role).or (if role = .shell then some tree else none) := by
  have hc : compositorRoleForClient { f with shellClient := some client } client = .shell := by
    simp [compositorRoleForClient]
  rw [claimShell_map h, claimShell_of_free h]
  unfold map
  rw [classify_classify_append, designated_classify_eq _ hr]
  rw [firstOwned_append { f with shellClient := some client }, firstOwned_claim h ho, hc]
  simp only [eq_comm]

private theorem designatedTrees_claimShell_subset (tree : TreeId) :
    (f.claimShell client).designatedTrees ⊆
      ((f.map tree client).claimShell client).designatedTrees := by
  intro t ht
  obtain ⟨role, hd⟩ := mem_designatedTrees.mp ht
  have hr := ne_none_of_designated hd
  rw [designated_claimShell h ho hr] at hd
  refine mem_designatedTrees.mpr ⟨role, ?_⟩
  rw [designated_claimShell_map h ho hr, hd, Option.some_or]

/-- What stands for a role before the newcomer registers does so afterwards, its own window
for the shell. -/
theorem designatedTrees_map_subset :
    (f.map tree client).designatedTrees ⊆
      ((f.map tree client).claimShell client).designatedTrees := by
  intro t ht
  obtain ⟨role, hd⟩ := mem_designatedTrees.mp ht
  have hr := ne_none_of_designated hd
  rw [map, designated_classify_eq _ hr, firstOwned_append] at hd
  rw [mem_designatedTrees]
  cases hf : f.firstOwned role with
  | some other =>
    refine ⟨role, ?_⟩
    rw [designated_claimShell_map h ho hr, hf]
    rwa [hf] at hd
  | none =>
    refine ⟨.shell, ?_⟩
    rw [designated_claimShell_map h ho (by decide), firstOwned_shell h, Option.none_or, if_pos rfl]
    rw [hf, Option.none_or] at hd
    exact (Option.ite_none_right_eq_some.mp hd).2

end Newcomer

end Foreground

private theorem mem_add {s : Scene} {node new : SceneNode} :
    node ∈ (s.add new).order.items ↔ node ∈ s.order.items ∨ node = new :=
  Stacking.mem_push

/-- The scene after the newcomer has mapped and registered, in either order: both scenes
differ from the old one only in trees that stand for a role in the end. -/
theorem presentScene_claimShell_map {f : Foreground} {s : Scene} (hw : f.WF) (ht : Tracks f s)
    (h : f.shellClient = none) {tree : TreeId} (hn : tree ∉ f.trees) {client : ClientId}
    (ho : ∀ track ∈ f.toplevels, track.client ≠ client) :
    presentScene ((f.map tree client).claimShell client)
        (presentScene (f.map tree client) (s.add (.tree tree))) =
      presentScene ((f.map tree client).claimShell client)
        ((presentScene (f.claimShell client) s).add (.tree tree)) := by
  have hwm := wf_map hw hn client
  have hwc := wf_claimShell hw client
  have hwa := wf_claimShell hwm client
  have hnode : .tree tree ∉ s.order.items := fun hm ↦ hn ((ht tree).mp hm)
  -- every designated tree is the new one or was tracked before
  have hin : ∀ {t}, t ∈ (f.map tree client).trees → .tree t ∈ (s.add (.tree tree)).order.items := by
    intro t hm
    rw [trees_map, List.mem_append, List.mem_singleton] at hm
    exact mem_add.mpr (hm.imp (ht t).mpr (congrArg SceneNode.tree))
  have hina : ∀ t ∈ ((f.map tree client).claimShell client).designatedTrees,
      .tree t ∈ (s.add (.tree tree)).order.items := by
    intro t hd
    apply hin
    have htrees := hwa.designatedTrees_subset hd
    rwa [claimShell_of_free (f := f.map tree client) h, trees_classify] at htrees
  have hinc : ∀ t ∈ (f.claimShell client).designatedTrees, .tree t ∈ s.order.items := by
    intro t hd
    have htrees := hwc.designatedTrees_subset hd
    rw [claimShell_of_free h, trees_classify] at htrees
    exact (ht t).mpr htrees
  have htop : tree ∈ ((f.map tree client).claimShell client).designatedTrees := by
    refine mem_designatedTrees.mpr ⟨.shell, ?_⟩
    rw [designated_claimShell_map h ho (by decide), firstOwned_shell h, Option.none_or, if_pos rfl]
  apply presentScene_eq hwa
  · have hmap := agreeOutside_presentScene hwm (fun t hd ↦ hin (hwm.designatedTrees_subset hd))
      (designatedTrees_map_subset h ho)
    have hclaim := agreeOutside_presentScene hwc hinc
      (designatedTrees_claimShell_subset h ho tree)
    have hadd := AgreeOutside.add htop hnode
    have hadd' := AgreeOutside.add htop (s := presentScene (f.claimShell client) s)
      fun hm ↦ hnode (mem_presentScene.mp hm)
    exact (hmap.trans hadd).trans (hadd'.trans hclaim).symm
  · exact fun t hd ↦ mem_presentScene.mpr (hina t hd)
  · intro t hd
    exact mem_add.mpr ((mem_add.mp (hina t hd)).imp_left mem_presentScene.mpr)

/-- A shell maps a window, commits a buffer and registers. -/
def mappedThenRegistered (tree : TreeId) (client : ClientId) (initial : Bool) : List Event :=
  mapAndCommit tree client initial ++ [.registerShell client]

/-- A shell registers, maps a window and commits a buffer. -/
def registeredThenMapped (tree : TreeId) (client : ClientId) (initial : Bool) : List Event :=
  .registerShell client :: mapAndCommit tree client initial

/-- The same foreground with its launch, windows, roles and pointers, the same stacking and
visibility, and the same messages to playos-init. -/
structure SameOutcome (a b : Compositor) : Prop where
  foreground : b.toForeground = a.toForeground
  scene : b.scene = a.scene
  sent : b.sent = a.sent

private theorem mappedThenRegistered_outcome {c : Compositor} (h : c.shellClient = none)
    (client : ClientId) (initial : Bool) (hs : c.fgState ≠ .gameStarting) :
    let a := playosManagerRegisterShell (mappedAndCommitted c client initial) client
    a.toForeground = (c.map c.nextId client).claimShell client ∧
      a.scene = presentScene ((c.map c.nextId client).claimShell client)
        (presentScene (c.map c.nextId client) (c.scene.add (.tree c.nextId))) ∧
      a.sent = c.sent := by
  have hm : SameBut (handleNewXdgToplevel c client .ok) (mappedAndCommitted c client initial) :=
    sameBut_handleToplevelCommit (c := handleNewXdgToplevel c client .ok) (Or.inl hs) _
  have hf := hm.foreground.trans (toForeground_handleNewXdgToplevel_ok c client)
  refine ⟨?_, ?_, ?_⟩
  · rw [toForeground_playosManagerRegisterShell, hf]
  · rw [scene_playosManagerRegisterShell_of_free, hf, hm.scene, scene_handleNewXdgToplevel_ok]
    rw [hf]
    exact h
  · rw [sent_playosManagerRegisterShell, hm.sent, sent_handleNewXdgToplevel]

private theorem registeredThenMapped_outcome {c : Compositor} (h : c.shellClient = none)
    (client : ClientId) (initial : Bool) :
    let b := mappedAndCommitted (playosManagerRegisterShell c client) client initial
    b.toForeground = (c.claimShell client).map c.nextId client ∧
      b.scene = presentScene ((c.claimShell client).map c.nextId client)
        ((presentScene (c.claimShell client) c.scene).add (.tree c.nextId)) ∧
      b.sent = c.sent := by
  have hf := toForeground_playosManagerRegisterShell c client
  have hn : (playosManagerRegisterShell c client).nextId = c.nextId := by simp [h]
  have hr : compositorRoleForClient (playosManagerRegisterShell c client).toForeground client =
      .shell := by
    rw [hf, claimShell_of_free h]
    simp [compositorRoleForClient, classify]
  have hm : SameBut (handleNewXdgToplevel (playosManagerRegisterShell c client) client .ok)
      (mappedAndCommitted (playosManagerRegisterShell c client) client initial) := by
    apply sameBut_handleToplevelCommit
    right
    rw [hr]
    simp
  refine ⟨?_, ?_, ?_⟩
  · rw [hm.foreground, toForeground_handleNewXdgToplevel_ok, hn, hf]
  · rw [hm.scene, scene_handleNewXdgToplevel_ok, hn, hf,
      scene_playosManagerRegisterShell_of_free h]
  · rw [hm.sent, sent_handleNewXdgToplevel, sent_playosManagerRegisterShell]

private theorem mappedThenRegistered_activates {c : Compositor} (hw : c.toForeground.WF)
    {client : ClientId} (hu : ¬ c.Trusted client) (hs : c.fgState = .gameStarting)
    (initial : Bool) : (playosManagerRegisterShell (mappedAndCommitted c client initial)
      client).fgState = .gameForeground := by
  rw [toForeground_playosManagerRegisterShell, fgState_claimShell,
    toForeground_mappedAndCommitted_of_starting hu hs]
  exact fgState_activate (f := c.map c.nextId client) (hw.starting hs) hs

/-- A shell can map and register. -/
def shellRun : List Event := [.connect 1, .bindManager 1 true]

/-- A launch is announced before the game maps its window and draws. -/
def expectedThenMapped (launchToken gameId : CString) (tree : TreeId) (client : ClientId)
    (initial : Bool) : List Event :=
  .command (.setExpectedGame launchToken gameId) :: mapAndCommit tree client initial

/-- A launch is announced after the game has mapped its window and before it draws. -/
def mappedThenExpected (launchToken gameId : CString) (tree : TreeId) (client : ClientId)
    (initial : Bool) : List Event :=
  [.newToplevel client .ok, .command (.setExpectedGame launchToken gameId),
    .commit tree ⟨true, initial, true⟩]

/-- The launch has come to the front with the new window, which was mapped in `c`. -/
structure LaunchActivated (c a : Compositor) (client : ClientId) (launchToken : CString) :
    Prop where
  fgState : a.fgState = .gameForeground
  track : a.track? c.nextId = some ⟨c.nextId, client, .game⟩
  gameTree : a.gameTree =
    ((c.toplevels.find? fun track ↦ ¬ c.Trusted track.client).map ToplevelTrack.tree).or
      (some c.nextId)
  messages : a.messages = c.messages ++ [.stateChanged .gameStarting,
    .gameSurfaceReady (launchToken.store 64), .stateChanged .gameForeground]

/-- The launch waits, and the new window, which was mapped in `c`, is not a game's. -/
structure LaunchWaits (c b : Compositor) (client : ClientId) : Prop where
  fgState : b.fgState = .gameStarting
  track : b.track? c.nextId = some ⟨c.nextId, client, .none⟩
  gameTree : b.gameTree = none
  messages : b.messages = c.messages ++ [.stateChanged .gameStarting]

/-- A command on the connected socket is carried out. -/
theorem step_command {c : Compositor} (h : c.ipc.ipcSource.isSome) (command : IpcCommand) :
    compositorSystem.step c (.command command) = some (ipcDispatch c command) :=
  if_pos h

@[simp] theorem toForeground_setExpectedGame (c : Compositor) (launchToken gameId : CString) :
    (ipcDispatch c (.setExpectedGame launchToken gameId)).toForeground =
      c.launch (launchToken.store 64) (gameId.store 256) :=
  toForeground_playosStateHandleSetExpectedGame c launchToken gameId

@[simp] theorem toRegistry_setExpectedGame (c : Compositor) (launchToken gameId : CString) :
    (ipcDispatch c (.setExpectedGame launchToken gameId)).toRegistry = c.toRegistry :=
  toRegistry_playosStateHandleSetExpectedGame c (some launchToken) (some gameId)

private theorem messages_setExpectedGame {c : Compositor} (hs : c.fgState = .shellForeground)
    (launchToken gameId : CString) :
    (ipcDispatch c (.setExpectedGame launchToken gameId)).messages =
      c.messages ++ [.stateChanged .gameStarting] := by
  rw [reports_ipcDispatch c (.setExpectedGame launchToken gameId), toForeground_setExpectedGame,
    launch, fgState_goto, hs]
  rfl

private theorem messages_mappedAndCommitted_of_starting {c : Compositor} (hw : c.toForeground.WF)
    {client : ClientId} (hu : ¬ c.Trusted client) (hs : c.fgState = .gameStarting)
    (initial : Bool) : (mappedAndCommitted c client initial).messages = c.messages ++
      [.gameSurfaceReady c.expectedLaunchToken, .stateChanged .gameForeground] := by
  have hr := compositorRoleForClient_of_starting hu hs
  have hready : (c.map c.nextId client).gameSurfaceReady = false ∧
      (c.map c.nextId client).fgState = .gameStarting := ⟨hw.starting hs, hs⟩
  unfold mappedAndCommitted
  rw [messages_handleToplevelCommit, if_pos ⟨rfl, rfl, hr⟩, messages_playosStateGameSurfaceReady,
    toForeground_handleNewXdgToplevel_ok, if_pos hready]
  exact congrArg (List.map IpcAttempt.message · ++ _) (sent_handleNewXdgToplevel c client .ok)

private theorem launchActivated_of_starting {c d : Compositor} (hd : d.WF)
    (hw : SameWindows c.toForeground d.toForeground) (hn : d.nextId = c.nextId)
    (hs : d.fgState = .gameStarting) {client : ClientId} (hu : ¬ c.Trusted client)
    {launchToken : CString} (ht : d.expectedLaunchToken = launchToken.store 64)
    (hm : d.messages = c.messages ++ [.stateChanged .gameStarting]) (initial : Bool) :
    LaunchActivated c (mappedAndCommitted d client initial) client launchToken := by
  have htr : ∀ other, d.Trusted other ↔ c.Trusted other := by
    intro other
    rw [Trusted, Trusted, hw.shellClient, hw.overlayClient]
  have hr : ∀ other, compositorRoleForClient d.toForeground other = .game ↔ ¬ c.Trusted other := by
    intro other
    rw [compositorRoleForClient_eq_game, htr]
    exact and_iff_left (by rw [hs]; decide)
  have hud : ¬ d.Trusted client := mt (htr client).mp hu
  have hfresh : d.nextId ∉ d.trees := hd.linked.nextId_not_mem
  have hf := toForeground_mappedAndCommitted_of_starting hud hs initial
  have ha := sameWindows_activate (d.map d.nextId client)
  refine ⟨?_, ?_, ?_, ?_⟩
  · rw [hf]
    exact fgState_activate (f := d.map d.nextId client) (hd.foreground.starting hs) hs
  · have htrack := track?_map hd.foreground hfresh client
    rw [(hr client).mpr hu, hn] at htrack
    rw [hf, track?, ha.toplevels, hn]
    exact htrack
  · rw [hf, ha.gameTree]
    change (d.map d.nextId client).designated .game = _
    rw [map, designated_classify_eq _ (by decide), firstOwned_append, if_pos ((hr client).mpr hu),
      firstOwned, hw.toplevels, hn]
    simp only [hr]
  · rw [messages_mappedAndCommitted_of_starting hd.foreground hud hs, hm, ht, List.append_assoc]
    rfl

private theorem launchWaits_setExpectedGame {c : Compositor} (hw : c.WF)
    (hs : c.fgState = .shellForeground) {client : ClientId} (hu : ¬ c.Trusted client)
    (launchToken gameId : CString) : LaunchWaits c (ipcDispatch
      (handleNewXdgToplevel c client .ok) (.setExpectedGame launchToken gameId)) client := by
  have hn : c.nextId ∉ c.trees := hw.linked.nextId_not_mem
  have hl := sameWindows_launch (c.map c.nextId client) (launchToken.store 64) (gameId.store 256)
  refine ⟨?_, ?_, ?_, ?_⟩
  · rw [toForeground_setExpectedGame, launch, fgState_goto]
  · rw [toForeground_setExpectedGame, toForeground_handleNewXdgToplevel_ok, track?, hl.toplevels]
    have ht := track?_map hw.foreground hn client
    rw [compositorRoleForClient_of_not_trusted hu, if_pos hs] at ht
    exact ht
  · rw [toForeground_setExpectedGame, toForeground_handleNewXdgToplevel_ok, hl.gameTree]
    by_contra hg
    exact ((hasGame_classify _).mp ((gameTree_classify _).mp hg)).1 hs
  · rw [messages_setExpectedGame]
    · exact congrArg (List.map IpcAttempt.message · ++ _) (sent_handleNewXdgToplevel c client .ok)
    · rw [toForeground_handleNewXdgToplevel_ok]
      exact hs

private theorem LaunchWaits.of_sameBut {c b b' : Compositor} {client : ClientId}
    (h : LaunchWaits c b client) (hb : SameBut b b') : LaunchWaits c b' client where
  fgState := by rw [hb.foreground, h.fgState]
  track := by rw [hb.foreground, h.track]
  gameTree := by rw [hb.foreground, h.gameTree]
  messages := (congrArg (List.map IpcAttempt.message) hb.sent).trans h.messages

/-- From every reachable state with the shell in front, a launch comes to the front when the
game maps its window after SetExpectedGame, and waits for another window when the game maps
it before. -/
theorem launch_order {c : Compositor} (hc : compositorSystem.Reachable c)
    (hs : c.fgState = .shellForeground) (hi : c.ipc.ipcSource.isSome) {client : ClientId}
    (hcl : client ∈ c.clients) (hu : ¬ c.Trusted client) (launchToken gameId : CString)
    (initial : Bool) :
    (∃ a ∈ compositorSystem.run c (expectedThenMapped launchToken gameId c.nextId client initial),
      LaunchActivated c a client launchToken) ∧
    ∃ b ∈ compositorSystem.run c (mappedThenExpected launchToken gameId c.nextId client initial),
      LaunchWaits c b client := by
  have hw := compositorSystem_wf.reachable hc
  constructor
  · have hstep := step_command hi (.setExpectedGame launchToken gameId)
    generalize hd : ipcDispatch c (.setExpectedGame launchToken gameId) = d at hstep
    have hf : d.toForeground = c.launch (launchToken.store 64) (gameId.store 256) := by
      rw [← hd, toForeground_setExpectedGame]
    have hreg : d.toRegistry = c.toRegistry := by rw [← hd, toRegistry_setExpectedGame]
    have hwd := compositorSystem_wf.step _ _ _ hw hstep
    have hrun := run_mapAndCommit hwd (by rw [hreg]; exact hcl : client ∈ d.clients) initial
    rw [hreg] at hrun
    refine ⟨_, compositorSystem.run_cons_some.mpr ⟨d, hstep, hrun⟩, ?_⟩
    apply launchActivated_of_starting hwd
    · rw [hf]
      exact sameWindows_launch _ _ _
    · rw [hreg]
    · rw [hf, launch, fgState_goto]
    · exact hu
    · rw [hf, launch, expectedLaunchToken_goto]
    · rw [← hd, messages_setExpectedGame hs]
  · have hwait := launchWaits_setExpectedGame hw hs hu launchToken gameId
    have hstep := step_command (c := handleNewXdgToplevel c client .ok) hi
      (.setExpectedGame launchToken gameId)
    generalize ipcDispatch _ _ = d at hwait hstep
    refine ⟨handleToplevelCommit d ⟨c.nextId, client, .none⟩ ⟨true, initial, true⟩, ?_, ?_⟩
    · apply compositorSystem.run_cons_some.mpr
      refine ⟨handleNewXdgToplevel c client .ok, if_pos hcl, ?_⟩
      apply compositorSystem.run_cons_some.mpr
      refine ⟨d, hstep, compositorSystem.run_cons_some.mpr ?_⟩
      exact ⟨_, congrArg (Option.map _) hwait.track, rfl⟩
    · apply hwait.of_sameBut
      apply sameBut_handleToplevelCommit
      right
      simp

/-- The theorem at a game of the first client. -/
theorem launch_order_start :
    ∃ c ∈ compositorSystem.run (playosCompositorStarted headlessStart) [.connect 1],
      (∃ a ∈ compositorSystem.run c
          (expectedThenMapped (.ofString "t1") (.ofString "g") c.nextId 1 false),
        LaunchActivated c a 1 (.ofString "t1")) ∧
      ∃ b ∈ compositorSystem.run c
          (mappedThenExpected (.ofString "t1") (.ofString "g") c.nextId 1 false),
        LaunchWaits c b 1 := by
  obtain ⟨c, hc, hs, hi, hcl, hu⟩ :
      ∃ c ∈ compositorSystem.run (playosCompositorStarted headlessStart) [.connect 1],
        c.fgState = .shellForeground ∧ c.ipc.ipcSource.isSome ∧ 1 ∈ c.clients ∧ ¬ c.Trusted 1 := by
    decide
  exact ⟨c, hc, launch_order ⟨_, _, ⟨headlessStart, rfl⟩, hc⟩ hs hi hcl hu _ _ false⟩

/-- A game that maps its window before it is expected is not brought to the front. -/
theorem launch_order_matters :
    ∃ c ∈ compositorSystem.run (playosCompositorStarted headlessStart) [.connect 1],
      ∃ a ∈ compositorSystem.run c
          (expectedThenMapped (.ofString "t1") (.ofString "g") c.nextId 1 false),
        ∃ b ∈ compositorSystem.run c
            (mappedThenExpected (.ofString "t1") (.ofString "g") c.nextId 1 false),
          c.fgState = .shellForeground ∧ c.toplevels = [] ∧ ¬ c.Trusted 1 ∧
            a.fgState = .gameForeground ∧ b.fgState = .gameStarting ∧
            a.gameTree = some c.nextId ∧ b.gameTree = none ∧
            .gameSurfaceReady ((CString.ofString "t1").store 64) ∈ a.messages ∧
            .gameSurfaceReady ((CString.ofString "t1").store 64) ∉ b.messages := by
  decide

end PlayosCompositor
