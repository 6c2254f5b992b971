import PlayosCompositor.Overlay.Binding
import PlayosCompositor.Runs.Reports

/-!
# What is under the overlay

The overlay lies over the foreground without being part of it. Whatever asks for it or
dismisses it (`playos-init`, a SYSTEM button, the overlay client) is deleted from a run, and
the run goes on as before: the same roles, windows, launches and bindings, and the same games
reported ready. One thing is needed for it: `game_tree` is set when a game is uncovered.
-/

namespace PlayosCompositor

namespace Foreground

/-- The foreground as if the overlay had never been asked for. -/
def beneath (f : Foreground) : Foreground :=
  { f with
    fgState := if f.fgState = .playosUiForegroundWithGameBackground then .gameForeground
      else f.fgState
    overlayVisible := false }

/-- The input asks for the overlay or dismisses it. -/
def Input.overlays : Input → Bool
  | .showOverlay => true
  | .hideOverlay => true
  | _ => false

variable {f g : Foreground}

/-- A state other than the PlayOS UI is under the overlay what it is. -/
theorem fgState_beneath_eq {state : ForegroundState} (hg : state ≠ .gameForeground)
    (hu : state ≠ .playosUiForegroundWithGameBackground) :
    f.beneath.fgState = state ↔ f.fgState = state := by
  simp only [beneath]
  split
  · next h => exact iff_of_false (Ne.symm hg) fun hs ↦ hu (hs.symm.trans h)
  · exact Iff.rfl

/-! ### Moves that overlay nothing -/

private theorem beneath_goto {state : ForegroundState}
    (hu : state ≠ .playosUiForegroundWithGameBackground) :
    (f.goto state).beneath = f.beneath.goto state := by
  by_cases hs : f.fgState = state
  · subst hs
    simp [goto, beneath, hu]
  · by_cases hb : f.beneath.fgState = state
    · rw [goto, if_neg hs, goto, if_pos hb]
      simp only [beneath] at hb ⊢
      rw [if_neg hu, hb]
    · rw [goto, if_neg hs, goto, if_neg hb]
      simp [beneath, hu]

private theorem beneath_launch (launchToken : CharBuf 64) (gameId : CharBuf 256) :
    (f.launch launchToken gameId).beneath = f.beneath.launch launchToken gameId := by
  rw [launch, beneath_goto (by decide)]
  rfl

private theorem beneath_withdraw : f.withdraw.beneath = f.beneath.withdraw := by
  have ht : f.beneath.fgState = .terminatingGame ↔ f.fgState = .terminatingGame :=
    fgState_beneath_eq (by decide) (by decide)
  unfold withdraw
  simp only [ht]
  split
  · rfl
  · rw [beneath_goto (by decide)]
    rfl

private theorem beneath_terminate : f.terminate.beneath = f.beneath.terminate := by
  rw [terminate, terminate, ← beneath_goto (by decide)]
  rfl

private theorem beneath_exited : f.exited.beneath = f.beneath.exited := by
  rw [exited, exited, ← beneath_goto (by decide)]
  rfl

private theorem beneath_activate : f.activate.beneath = f.beneath.activate := by
  have hs : f.beneath.fgState = .gameStarting ↔ f.fgState = .gameStarting :=
    fgState_beneath_eq (by decide) (by decide)
  have hr : f.beneath.gameSurfaceReady = f.gameSurfaceReady := rfl
  unfold activate
  simp only [hs, hr]
  split
  · rw [beneath_goto (by decide)]
    rfl
  · rfl

private theorem compositorRoleForClient_beneath (client : ClientId) :
    compositorRoleForClient f.beneath client = compositorRoleForClient f client := by
  cases hs : f.fgState <;> simp [compositorRoleForClient, beneath, hs]

private theorem beneath_classify : f.classify.beneath = f.beneath.classify := by
  simp only [classify, compositorRoleForClient_beneath]
  rfl

private theorem beneath_unmap (tree : TreeId) : (f.unmap tree).beneath = f.beneath.unmap tree := by
  have ht : f.beneath.track? tree = f.track? tree := rfl
  unfold unmap
  rw [ht]
  cases f.track? tree with
  | none => rfl
  | some track =>
    dsimp only
    split
    · rw [beneath_exited]
      rfl
    · rfl

private theorem beneath_foldl_unmap (order : List TreeId) :
    (order.foldl unmap f).beneath = order.foldl unmap f.beneath := by
  induction order generalizing f with
  | nil => rfl
  | cons tree order ih => rw [List.foldl_cons, ih, beneath_unmap, List.foldl_cons]

/-- A step that does not concern the overlay is the same step under it. -/
theorem step_beneath {input : Input} (hs : f.step input = some g)
    (ho : input.overlays = false) : f.beneath.step input = some g.beneath := by
  cases moved_of_step hs with
  | idle => rfl
  | launch launchToken gameId => exact congrArg some (beneath_launch launchToken gameId).symm
  | withdraw => exact congrArg some beneath_withdraw.symm
  | terminate => exact congrArg some beneath_terminate.symm
  | showOverlay => cases ho
  | hideOverlay => cases ho
  | map tree client h =>
    refine (if_neg h).trans (congrArg some ?_)
    rw [map, map, beneath_classify]
    rfl
  | frame tree =>
    refine congrArg some ?_
    have ht : f.beneath.track? tree = f.track? tree := rfl
    unfold frame
    rw [ht]
    cases f.track? tree with
    | none => rfl
    | some track =>
      dsimp only
      split
      · exact beneath_activate.symm
      · rfl
  | unmap tree => exact congrArg some (beneath_unmap tree).symm
  | claimShell client =>
    refine congrArg some ?_
    have hc : f.beneath.shellClient = f.shellClient := rfl
    rw [claimShell, claimShell, hc]
    split
    · rfl
    · rw [beneath_classify]
      rfl
  | claimOverlay client =>
    refine congrArg some ?_
    have hc : f.beneath.overlayClient = f.overlayClient := rfl
    rw [claimOverlay, claimOverlay, hc]
    split
    · rfl
    · rw [beneath_classify]
      rfl
  | leave client order h =>
    refine (if_pos h).trans (congrArg some ?_)
    rw [leave, leave, beneath_foldl_unmap]
    rfl

/-! ### Asking for the overlay and dismissing it -/

/-- The overlay is dismissed over a game while `game_tree` is NULL, so that the shell comes to the
front. -/
def Uncovers (f : Foreground) (input : Input) : Prop :=
  input = .hideOverlay ∧ f.fgState = .playosUiForegroundWithGameBackground ∧ f.gameTree = none

/-- Under the overlay nothing happens when it is asked for or dismissed, if `game_tree` is set
when a game is uncovered. -/
theorem beneath_of_overlays {input : Input} (hs : f.step input = some g)
    (ho : input.overlays = true) (hu : ¬ f.Uncovers input) : g.beneath = f.beneath := by
  cases moved_of_step hs with
  | showOverlay =>
    unfold showOverlay
    split
    · rfl
    · dsimp only
      split
      · next hg => simp [beneath, goto, hg]
      · rfl
  | hideOverlay =>
    unfold hideOverlay
    split
    · dsimp only
      split
      · next hp =>
        have hgame : f.gameTree.isSome := Option.isSome_iff_ne_none.mpr fun hn ↦ hu ⟨rfl, hp, hn⟩
        simp [beneath, goto, hp, hgame]
      · rfl
    · rfl
  | _ => cases ho

end Foreground

end PlayosCompositor
