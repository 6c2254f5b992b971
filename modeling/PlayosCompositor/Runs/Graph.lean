import Mathlib.Data.List.Chain
import PlayosCompositor.Ipc.Survival
import PlayosCompositor.Runs.Reports

/-!
# The graph of foreground states

Shell, launch and termination can follow every other state, a game comes to the front from its
start or from under the overlay, and the overlay only over a game: five of twenty changes are
impossible. What playos-init is told is a path of this graph, one message for every change, and
one before it where a game was started.
-/

namespace PlayosCompositor

open Foreground

/-! ### Changes of state -/

/-- The state can follow another one. -/
def ForegroundState.Follows (new old : ForegroundState) : Prop :=
  match new with
  | .gameForeground => old = .gameStarting ∨ old = .playosUiForegroundWithGameBackground
  | .playosUiForegroundWithGameBackground => old = .gameForeground
  | .shellForeground | .gameStarting | .terminatingGame => old ≠ new

instance (new old : ForegroundState) : Decidable (new.Follows old) :=
  match new with
  | .gameForeground => inferInstanceAs (Decidable (_ ∨ _))
  | .playosUiForegroundWithGameBackground => inferInstanceAs (Decidable (_ = _))
  | .shellForeground => inferInstanceAs (Decidable (_ ≠ _))
  | .gameStarting => inferInstanceAs (Decidable (_ ≠ _))
  | .terminatingGame => inferInstanceAs (Decidable (_ ≠ _))

variable {c c' : Compositor} {e : Event}

/-- A state that is entered under a condition can follow, if it can under the condition. -/
private theorem follows_ite {p : Prop} [Decidable p] {old new : ForegroundState}
    (h : old ≠ if p then new else old) (hp : p → old ≠ new → new.Follows old) :
    (if p then new else old).Follows old := by
  by_cases hc : p
  · rw [if_pos hc] at h ⊢
    exact hp hc h
  · rw [if_neg hc] at h
    exact absurd rfl h

private theorem Foreground.follows_nextState {f : Foreground} {input : Input}
    (h : f.fgState ≠ f.nextState input) : (f.nextState input).Follows f.fgState := by
  cases input with
  | launch launchToken gameId => exact h
  | terminate => exact h
  | withdraw =>
    simp only [nextState] at h ⊢
    split
    · next ht => exact absurd ht (by rwa [if_pos ht] at h)
    · next ht => rwa [if_neg ht] at h
  | showOverlay => exact follows_ite h fun hg _ ↦ hg.2
  | hideOverlay =>
    refine follows_ite h fun hu _ ↦ ?_
    split
    · exact Or.inr hu.2
    · rw [hu.2]
      decide
  | frame tree => exact follows_ite h fun ha _ ↦ Or.inl ha.1
  | unmap tree => exact follows_ite h fun _ hne ↦ hne
  | leave client order => exact follows_ite h fun _ hne ↦ hne
  | _ => exact absurd rfl h

/-- A step that changes the state leads to one that can follow. -/
theorem follows_step (h : c.WF) (hs : step c e = some c') (hne : c.fgState ≠ c'.fgState) :
    c'.fgState.Follows c.fgState := by
  rw [fgState_step h.foreground (toForeground_step h.linked hs)] at hne ⊢
  exact follows_nextState hne

/-- A run to a state, with a game's window unless nothing is expected. -/
def runTo : ForegroundState → List Event
  | .shellForeground => []
  | .gameStarting => mappedGameRun
  | .gameForeground => mappedGameRun ++ [.commit 0 bufferCommit]
  | .playosUiForegroundWithGameBackground =>
    mappedGameRun ++ [.commit 0 bufferCommit, .command .showOverlay]
  | .terminatingGame => mappedGameRun ++ [.command .forceTerminateGame]

/-- An event that leads from a state to another one that can follow. -/
def eventTo (old : ForegroundState) : ForegroundState → Event
  | .shellForeground =>
    if old = .terminatingGame then .destroyToplevel 0 else .command .clearExpectedGame
  | .gameStarting => .command (.setExpectedGame (.ofString "t") (.ofString "g"))
  | .gameForeground => if old = .gameStarting then .commit 0 bufferCommit else .command .hideOverlay
  | .playosUiForegroundWithGameBackground => .command .showOverlay
  | .terminatingGame => .command .forceTerminateGame

/-- The compositor goes from a state to another one in some run exactly if the second can follow
the first. -/
theorem follows_iff (old new : ForegroundState) : new.Follows old ↔
    old ≠ new ∧ ∃ c e c', compositorSystem.Reachable c ∧ step c e = some c' ∧
      c.fgState = old ∧ c'.fgState = new := by
  constructor
  · intro hf
    have hrun : ∃ c ∈ compositorSystem.run (playosCompositorStarted headlessStart) (runTo old),
        ∃ c' ∈ step c (eventTo old new), c.fgState = old ∧ c'.fgState = new := by
      cases old <;> cases new <;> first | decide | exact absurd hf (by decide)
    obtain ⟨c, hc, c', hs, hold, hnew⟩ := hrun
    refine ⟨?_, c, _, c', ⟨_, _, ⟨headlessStart, rfl⟩, hc⟩, hs, hold, hnew⟩
    rintro rfl
    revert hf
    cases old <;> decide
  · rintro ⟨hne, c, e, c', hc, hs, rfl, rfl⟩
    exact follows_step (compositorSystem_wf.reachable hc) hs hne

/-! ### What playos-init is told -/

/-- What is said of changes of state, each with the token that is expected then. -/
def narrate : ForegroundState → List (ForegroundState × CharBuf 64) → List IpcMessage
  | _, [] => []
  | old, (new, launchToken) :: rest =>
    (if old = .gameStarting ∧ new = .gameForeground then [.gameSurfaceReady launchToken] else []) ++
      .stateChanged new :: narrate new rest

/-- The state after some changes. -/
def endState (old : ForegroundState) (path : List (ForegroundState × CharBuf 64)) :
    ForegroundState := ((path.map Prod.fst).getLast?).getD old

private theorem narrate_append (old : ForegroundState)
    (path rest : List (ForegroundState × CharBuf 64)) :
    narrate old (path ++ rest) = narrate old path ++ narrate (endState old path) rest := by
  induction path generalizing old with
  | nil => rfl
  | cons change path ih =>
    have hend : endState old (change :: path) = endState change.1 path := by
      simp [endState, List.getLast?_cons]
    rw [List.cons_append, narrate, ih, hend, narrate, List.append_assoc, List.cons_append]

/-- The change of state that an event makes, with the token that is expected when it comes. -/
def changeOf (c : Compositor) (e : Event) : List (ForegroundState × CharBuf 64) :=
  (step c e).elim [] fun c' ↦
    if c.fgState = c'.fgState then [] else [(c'.fgState, c.expectedLaunchToken)]

/-- The changes of state of a run, each with the token that is expected when it is made. -/
def changesOf : Compositor → List Event → List (ForegroundState × CharBuf 64) :=
  compositorSystem.edited changeOf

/-- The messages tell a path of the graph from the shell to the present state. -/
structure Told (c : Compositor) (path : List (ForegroundState × CharBuf 64)) : Prop where
  chain : List.IsChain (fun old new ↦ new.Follows old) (.shellForeground :: path.map Prod.fst)
  state : endState .shellForeground path = c.fgState
  messages : c.messages = narrate .shellForeground path

/-- A step tells of its change of state, and of nothing else. -/
theorem told_step {path : List (ForegroundState × CharBuf 64)} (h : Told c path) (hw : c.WF)
    (hs : step c e = some c') : Told c' (path ++ changeOf c e) := by
  rw [changeOf, hs, Option.elim_some]
  by_cases hf : c.fgState = c'.fgState
  · have hno : ¬ (c.fgState = .gameStarting ∧ c'.fgState = .gameForeground) := by
      rw [← hf]
      rintro ⟨hs, hg⟩
      rw [hs] at hg
      cases hg
    rw [if_pos hf, List.append_nil]
    refine ⟨h.chain, h.state.trans hf, ?_⟩
    rw [messages_step hw hs, readyMessages_eq hw hs, if_neg hno, hf, announce_self,
      List.append_nil, List.append_nil, h.messages]
  · rw [if_neg hf]
    refine ⟨?_, by simp [endState], ?_⟩
    · rw [List.map_append, ← List.cons_append]
      refine h.chain.append (List.isChain_singleton _) fun old ho new hn ↦ ?_
      have hlast : old = c.fgState := by
        rw [List.getLast?_cons, Option.mem_some_iff] at ho
        exact ho.symm.trans h.state
      have hnew : new = c'.fgState := (Option.some.inj hn).symm
      rw [hlast, hnew]
      exact follows_step hw hs hf
    · rw [messages_step hw hs, readyMessages_eq hw hs, h.messages, narrate_append, h.state,
        announce, if_neg hf]
      rfl

/-- A run tells of its changes of state, and of nothing else. -/
theorem told_run {path : List (ForegroundState × CharBuf 64)} {es : List Event} (h : Told c path)
    (hw : c.WF) (hr : compositorSystem.run c es = some c') :
    Told c' (path ++ changesOf c es) := by
  induction es generalizing c path with
  | nil =>
    cases Option.some.inj hr
    rwa [changesOf, Transition.System.edited, List.append_nil]
  | cons e es ih =>
    obtain ⟨c₁, hs, hrest⟩ := compositorSystem.run_cons_some.mp hr
    have htold := ih (told_step h hw hs) (compositorSystem_wf.step _ _ _ hw hs) hrest
    rwa [changesOf, Transition.System.edited, hs, Option.elim_some, ← List.append_assoc]

end PlayosCompositor
