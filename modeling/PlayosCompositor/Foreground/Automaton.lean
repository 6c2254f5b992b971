import PlayosCompositor.Model.System

/-!
# The foreground automaton

What the compositor is for, without scene, sockets, bindings and logs: who holds a role,
which launch is expected, which window stands for shell, game and overlay, and which of
them is in the foreground. Inputs say what happened; an input that makes no sense in a
state (a tree that is already tracked, a leaving client that keeps a window) is refused.
-/

namespace PlayosCompositor

namespace Foreground

/-- A client that holds the shell or the overlay role. -/
def Trusted (f : Foreground) (client : ClientId) : Prop :=
  some client = f.shellClient ∨ some client = f.overlayClient

instance (f : Foreground) (client : ClientId) : Decidable (f.Trusted client) :=
  inferInstanceAs (Decidable (_ ∨ _))

/-- Some game owns the foreground: alone, or behind the PlayOS UI. -/
def GameInFront (f : Foreground) : Prop :=
  f.fgState = .gameForeground ∨ f.fgState = .playosUiForegroundWithGameBackground

instance (f : Foreground) : Decidable f.GameInFront := inferInstanceAs (Decidable (_ ∨ _))

/-- The tree of the oldest toplevel with a role. -/
def first (f : Foreground) (role : TrustedRole) : Option TreeId :=
  (f.toplevels.find? fun track ↦ track.role = role).map ToplevelTrack.tree

/-- The state in which the shell has the screen hides a shown overlay. -/
def goto (f : Foreground) (state : ForegroundState) : Foreground :=
  if f.fgState = state then f
  else { f with
    fgState := state
    overlayVisible := f.overlayVisible &&
      !(state == .shellForeground || state == .terminatingGame) }

/-- No launch is expected any more. -/
def forget (f : Foreground) : Foreground :=
  { f with
    expectedLaunchToken := .clear
    expectedGameId := .clear
    gameSurfaceReady := false }

/-- A launch is announced. -/
def launch (f : Foreground) (launchToken : CharBuf 64) (gameId : CharBuf 256) : Foreground :=
  goto { f with
    expectedLaunchToken := launchToken
    expectedGameId := gameId
    gameSurfaceReady := false } .gameStarting

/-- The announcement is taken back; a game that is being terminated stays so. -/
def withdraw (f : Foreground) : Foreground :=
  if f.fgState = .terminatingGame then f.forget else f.forget.goto .shellForeground

/-- The game is about to be killed. -/
def terminate (f : Foreground) : Foreground := (f.goto .terminatingGame).forget

/-- The first frame of a game arrives while one is expected. -/
def activate (f : Foreground) : Foreground :=
  if f.gameSurfaceReady = false ∧ f.fgState = .gameStarting then
    goto { f with gameSurfaceReady := true } .gameForeground
  else f

/-- The game is gone. -/
def exited (f : Foreground) : Foreground := (f.goto .shellForeground).forget

/-- The overlay is asked for. -/
def showOverlay (f : Foreground) : Foreground :=
  if f.overlayVisible then f
  else
    let f : Foreground := { f with overlayVisible := true }
    if f.fgState = .gameForeground then f.goto .playosUiForegroundWithGameBackground else f

/-- The overlay is dismissed; the game comes back to the front if its tree is known. -/
def hideOverlay (f : Foreground) : Foreground :=
  if f.overlayVisible then
    let f : Foreground := { f with overlayVisible := false }
    if f.fgState = .playosUiForegroundWithGameBackground then
      f.goto (if f.gameTree.isSome then .gameForeground else .shellForeground)
    else f
  else f

/-- Every window gets the role of its client, and each role its oldest window. -/
def classify (f : Foreground) : Foreground :=
  let f : Foreground := { f with toplevels := f.toplevels.map fun track ↦
    { track with role := compositorRoleForClient f track.client } }
  { f with
    shellTree := f.first .shell
    gameTree := f.first .game
    overlayTree := f.first .overlay }

/-- A client maps a window. -/
def map (f : Foreground) (tree : TreeId) (client : ClientId) : Foreground :=
  classify { f with toplevels := f.toplevels ++ [⟨tree, client, .none⟩] }

/-- A window draws a frame. -/
def frame (f : Foreground) (tree : TreeId) : Foreground :=
  match f.track? tree with
  | none => f
  | some track => if track.role = .game then f.activate else f

/-- A window is no longer tracked, nor designated. -/
def release (f : Foreground) (track : ToplevelTrack) : Foreground :=
  { f with
    shellTree := if track.role = .shell ∧ f.shellTree = some track.tree then none
      else f.shellTree
    gameTree := if track.role = .game ∧ f.gameTree = some track.tree then none else f.gameTree
    overlayTree := if track.role = .overlay ∧ f.overlayTree = some track.tree then none
      else f.overlayTree
    toplevels := f.toplevels.filter fun t ↦ t.tree ≠ track.tree }

/-- A window is destroyed. -/
def unmap (f : Foreground) (tree : TreeId) : Foreground :=
  match f.track? tree with
  | none => f
  | some track => if track.role = .game then (f.release track).exited else f.release track

/-- A client takes the shell role, if it is free. -/
def claimShell (f : Foreground) (client : ClientId) : Foreground :=
  if f.shellClient.isSome then f else classify { f with shellClient := some client }

/-- A client takes the overlay role, if it is free. -/
def claimOverlay (f : Foreground) (client : ClientId) : Foreground :=
  if f.overlayClient.isSome then f else classify { f with overlayClient := some client }

/-- The roles that a client holds become free. -/
def resign (f : Foreground) (client : ClientId) : Foreground :=
  { f with
    shellClient := if f.shellClient = some client then none else f.shellClient
    overlayClient := if f.overlayClient = some client then none else f.overlayClient }

/-- A client goes, and its windows one after the other. -/
def leave (f : Foreground) (client : ClientId) (order : List TreeId) : Foreground :=
  order.foldl unmap (f.resign client)

/-! ### What the moves leave alone -/

section Goto

variable (f : Foreground) (state : ForegroundState)

@[simp] theorem fgState_goto : (f.goto state).fgState = state := by
  unfold goto
  split
  · assumption
  · rfl

@[simp] theorem gameSurfaceReady_goto : (f.goto state).gameSurfaceReady = f.gameSurfaceReady := by
  unfold goto
  split <;> rfl

@[simp] theorem expectedLaunchToken_goto :
    (f.goto state).expectedLaunchToken = f.expectedLaunchToken := by
  unfold goto
  split <;> rfl

@[simp] theorem expectedGameId_goto : (f.goto state).expectedGameId = f.expectedGameId := by
  unfold goto
  split <;> rfl

@[simp] theorem gameTree_goto : (f.goto state).gameTree = f.gameTree := by
  unfold goto
  split <;> rfl

@[simp] theorem toplevels_goto : (f.goto state).toplevels = f.toplevels := by
  unfold goto
  split <;> rfl

end Goto

/-- Nothing is expected any more, and the foreground stays. -/
@[simp] theorem forget_fields (f : Foreground) : f.forget.fgState = f.fgState ∧
    f.forget.overlayVisible = f.overlayVisible ∧ f.forget.gameTree = f.gameTree ∧
    f.forget.toplevels = f.toplevels ∧ f.forget.gameSurfaceReady = false ∧
    f.forget.expectedLaunchToken = .clear ∧ f.forget.expectedGameId = .clear :=
  ⟨rfl, rfl, rfl, rfl, rfl, rfl, rfl⟩

private theorem overlayVisible_goto_of_hidden {f : Foreground} (h : f.overlayVisible = false)
    (state : ForegroundState) : (f.goto state).overlayVisible = false := by
  unfold goto
  split
  · exact h
  · rw [h, Bool.false_and]

/-- A dismissed overlay is hidden. -/
theorem overlayVisible_hideOverlay (f : Foreground) : f.hideOverlay.overlayVisible = false := by
  unfold hideOverlay
  split
  · dsimp only
    split
    · exact overlayVisible_goto_of_hidden rfl _
    · rfl
  · next hv => exact eq_false_of_ne_true hv

/-- An overlay that was asked for is shown. -/
theorem overlayVisible_showOverlay (f : Foreground) : f.showOverlay.overlayVisible = true := by
  unfold showOverlay
  split
  · next hv => exact hv
  · dsimp only
    split
    · unfold goto
      split <;> rfl
    · rfl

/-- A free shell role is taken. -/
theorem claimShell_of_free {f : Foreground} (h : f.shellClient = none) (client : ClientId) :
    f.claimShell client = classify { f with shellClient := some client } := by
  simp [claimShell, h]

/-- A taken shell role stays with its holder. -/
theorem claimShell_of_taken {f : Foreground} {holder : ClientId} (h : f.shellClient = some holder)
    (client : ClientId) : f.claimShell client = f := by
  simp [claimShell, h]

/-- A free overlay role is taken. -/
theorem claimOverlay_of_free {f : Foreground} (h : f.overlayClient = none) (client : ClientId) :
    f.claimOverlay client = classify { f with overlayClient := some client } := by
  simp [claimOverlay, h]

/-- A taken overlay role stays with its holder. -/
theorem claimOverlay_of_taken {f : Foreground} {holder : ClientId}
    (h : f.overlayClient = some holder) (client : ClientId) : f.claimOverlay client = f := by
  simp [claimOverlay, h]

/-- What can happen to the foreground. -/
inductive Input
  | idle
  | launch (launchToken : CharBuf 64) (gameId : CharBuf 256)
  | withdraw
  | terminate
  | showOverlay
  | hideOverlay
  | map (tree : TreeId) (client : ClientId)
  | frame (tree : TreeId)
  | unmap (tree : TreeId)
  | claimShell (client : ClientId)
  | claimOverlay (client : ClientId)
  | leave (client : ClientId) (order : List TreeId)

/-- One input, or `none` when it is refused. -/
def step (f : Foreground) : Input → Option Foreground
  | .idle => some f
  | .launch launchToken gameId => some (f.launch launchToken gameId)
  | .withdraw => some f.withdraw
  | .terminate => some f.terminate
  | .showOverlay => some f.showOverlay
  | .hideOverlay => some f.hideOverlay
  | .map tree client =>
    if tree ∈ f.toplevels.map ToplevelTrack.tree then none else some (f.map tree client)
  | .frame tree => some (f.frame tree)
  | .unmap tree => some (f.unmap tree)
  | .claimShell client => some (f.claimShell client)
  | .claimOverlay client => some (f.claimOverlay client)
  | .leave client order =>
    if ∀ track ∈ f.toplevels, track.client = client → track.tree ∈ order then
      some (f.leave client order)
    else none

/-- What an input that is not refused does. -/
inductive Moved (f : Foreground) : Input → Foreground → Prop
  | idle : Moved f .idle f
  | launch (launchToken : CharBuf 64) (gameId : CharBuf 256) :
    Moved f (.launch launchToken gameId) (f.launch launchToken gameId)
  | withdraw : Moved f .withdraw f.withdraw
  | terminate : Moved f .terminate f.terminate
  | showOverlay : Moved f .showOverlay f.showOverlay
  | hideOverlay : Moved f .hideOverlay f.hideOverlay
  | map (tree : TreeId) (client : ClientId) (h : tree ∉ f.toplevels.map ToplevelTrack.tree) :
    Moved f (.map tree client) (f.map tree client)
  | frame (tree : TreeId) : Moved f (.frame tree) (f.frame tree)
  | unmap (tree : TreeId) : Moved f (.unmap tree) (f.unmap tree)
  | claimShell (client : ClientId) : Moved f (.claimShell client) (f.claimShell client)
  | claimOverlay (client : ClientId) : Moved f (.claimOverlay client) (f.claimOverlay client)
  | leave (client : ClientId) (order : List TreeId)
      (h : ∀ track ∈ f.toplevels, track.client = client → track.tree ∈ order) :
    Moved f (.leave client order) (f.leave client order)

/-- Every step moves the foreground. -/
theorem moved_of_step {f g : Foreground} {input : Input} (hs : f.step input = some g) :
    Moved f input g := by
  cases input with
  | map tree client =>
    obtain ⟨h, hg⟩ := Option.ite_none_left_eq_some.mp hs
    exact Option.some.inj hg ▸ .map tree client h
  | leave client order =>
    obtain ⟨h, hg⟩ := Option.ite_none_right_eq_some.mp hs
    exact Option.some.inj hg ▸ .leave client order h
  | _ =>
    cases Option.some.inj hs
    constructor

end Foreground

/-- The foreground automaton starts with the shell in front and nothing else. -/
def foregroundSystem : Transition.System Foreground Foreground.Input where
  initial f := f = playosStateInit
  step := Foreground.step

end PlayosCompositor
