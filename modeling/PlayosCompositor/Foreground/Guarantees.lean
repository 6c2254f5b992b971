import PlayosCompositor.Foreground.Invariant

/-!
# What a step keeps of four guarantees

A game in front has a window, the overlay flag agrees with the state, a game that is being
terminated exists, and the books of the launch agree with the state. No input is harmless
for all four; for each guarantee, the guard below is exactly what keeps it.
-/

namespace PlayosCompositor

namespace Foreground

/-- A tracked window with the game role. -/
def IsGame (f : Foreground) (tree : TreeId) : Prop :=
  ∃ track ∈ f.toplevels, track.tree = tree ∧ track.role = .game

instance (f : Foreground) (tree : TreeId) : Decidable (f.IsGame tree) :=
  inferInstanceAs (Decidable (∃ track ∈ f.toplevels, _))

/-- Some tracked window has the game role. -/
def HasGame (f : Foreground) : Prop := ∃ track ∈ f.toplevels, track.role = .game

instance (f : Foreground) : Decidable f.HasGame :=
  inferInstanceAs (Decidable (∃ track ∈ f.toplevels, _))

/-- A frame of this window brings a game to the front. -/
def Activates (f : Foreground) (tree : TreeId) : Prop :=
  f.fgState = .gameStarting ∧ f.IsGame tree

instance (f : Foreground) (tree : TreeId) : Decidable (f.Activates tree) :=
  inferInstanceAs (Decidable (_ ∧ _))

/-- Somebody else's window stays a game's when this client takes a trusted role. -/
def LeavesGame (f : Foreground) (client : ClientId) : Prop :=
  ∃ track ∈ f.toplevels, track.client ≠ client ∧ ¬ f.Trusted track.client

instance (f : Foreground) (client : ClientId) : Decidable (f.LeavesGame client) :=
  inferInstanceAs (Decidable (∃ track ∈ f.toplevels, _))

/-! ### Guarantees and guards -/

/-- A game in front has a designated window. -/
def GameShown (f : Foreground) : Prop := f.GameInFront → f.gameTree ≠ none

/-- The inputs that keep `GameShown`: no window activates a game while none is designated,
and no claim takes the last game's window from a game in front. -/
def KeepsGameShown (f : Foreground) : Input → Prop
  | .frame tree => f.Activates tree → f.gameTree ≠ none
  | .claimShell client => f.GameInFront → f.shellClient = none → f.LeavesGame client
  | .claimOverlay client => f.GameInFront → f.overlayClient = none → f.LeavesGame client
  | _ => True

/-- The overlay flag is what the two states with a game in front say. -/
def OverlaySettled (f : Foreground) : Prop :=
  (f.fgState = .gameForeground → f.overlayVisible = false) ∧
    (f.fgState = .playosUiForegroundWithGameBackground → f.overlayVisible = true)

/-- The inputs that keep `OverlaySettled`: no game is activated under a shown overlay. -/
def KeepsOverlaySettled (f : Foreground) : Input → Prop
  | .frame tree => f.Activates tree → f.overlayVisible = false
  | _ => True

/-- A game that is being terminated has a window. -/
def GameTerminable (f : Foreground) : Prop := f.fgState = .terminatingGame → f.HasGame

/-- The inputs that keep `GameTerminable`: termination needs a game's window, and no claim
takes the last one while it lasts. -/
def KeepsGameTerminable (f : Foreground) : Input → Prop
  | .terminate => f.HasGame
  | .claimShell client =>
    f.fgState = .terminatingGame → f.shellClient = none → f.LeavesGame client
  | .claimOverlay client =>
    f.fgState = .terminatingGame → f.overlayClient = none → f.LeavesGame client
  | _ => True

/-- The ready flag is set exactly while a game is in front, and nothing is expected while
the shell is in front or a game is being terminated. -/
def LaunchBooked (f : Foreground) : Prop :=
  (f.gameSurfaceReady = true ↔ f.GameInFront) ∧
    (f.fgState = .shellForeground ∨ f.fgState = .terminatingGame →
      f.expectedLaunchToken = .clear ∧ f.expectedGameId = .clear)

/-- The inputs that keep `LaunchBooked`: the overlay is not hidden over a game without a
designated window. -/
def KeepsLaunchBooked (f : Foreground) : Input → Prop
  | .hideOverlay => f.fgState = .playosUiForegroundWithGameBackground → f.gameTree ≠ none
  | _ => True

/-! ### Steps -/

/-- A window is found under its tree with its role. -/
theorem isGame_iff {f : Foreground} (hn : f.trees.Nodup) {tree : TreeId} {track : ToplevelTrack}
    (h : f.track? tree = some track) : f.IsGame tree ↔ track.role = .game := by
  obtain ⟨hm, rfl⟩ := track?_some h
  constructor
  · rintro ⟨other, ho, ht, hr⟩
    rwa [← List.inj_on_of_nodup_map hn ho hm ht]
  · exact fun hr ↦ ⟨track, hm, rfl, hr⟩

/-- In a well-formed foreground a frame activates a game or changes nothing. -/
theorem frame_eq {f : Foreground} (h : f.WF) (tree : TreeId) : f.frame tree =
    if f.Activates tree then goto { f with gameSurfaceReady := true } .gameForeground else f := by
  unfold frame
  cases ht : f.track? tree with
  | none =>
    have hg : ¬ f.Activates tree := by
      rintro ⟨-, track, hm, rfl, -⟩
      exact track?_eq_none.mp ht (List.mem_map_of_mem hm)
    rw [if_neg hg]
  | some track =>
    have hg := isGame_iff h.nodup ht
    by_cases hr : track.role = .game
    · by_cases hs : f.fgState = .gameStarting
      · rw [if_pos ⟨hs, hg.mpr hr⟩]
        simp [hr, activate, hs, h.starting hs]
      · rw [if_neg fun ha ↦ hs ha.1]
        simp [hr, activate, hs]
    · rw [if_neg fun ha ↦ hr (hg.mp ha.2)]
      simp [hr]

/-- Classification finds a game's window where a client without a role has one. -/
theorem hasGame_classify (f : Foreground) : f.classify.HasGame ↔
    f.fgState ≠ .shellForeground ∧ ∃ track ∈ f.toplevels, ¬ f.Trusted track.client := by
  constructor
  · rintro ⟨track, hm, hr⟩
    obtain ⟨old, ho, rfl⟩ := List.mem_map.mp hm
    obtain ⟨ht, hs⟩ := compositorRoleForClient_eq_game.mp hr
    exact ⟨hs, old, ho, ht⟩
  · rintro ⟨hs, track, hm, ht⟩
    exact ⟨_, List.mem_map_of_mem hm, compositorRoleForClient_eq_game.mpr ⟨ht, hs⟩⟩

/-- Classification designates a game's window where there is one. -/
theorem gameTree_classify (f : Foreground) :
    f.classify.gameTree ≠ none ↔ f.classify.HasGame := by
  change f.classify.first .game ≠ none ↔ _
  unfold first HasGame
  rw [← Option.isSome_iff_ne_none, Option.isSome_map, List.find?_isSome]
  simp

private theorem hasGame_claimShell {f : Foreground} (hs : f.shellClient = none) (client : ClientId)
    (hg : f.fgState ≠ .shellForeground) :
    (f.claimShell client).HasGame ↔ f.LeavesGame client := by
  rw [claimShell_of_free hs, hasGame_classify, LeavesGame]
  simp [hg, Trusted, hs]

private theorem hasGame_claimOverlay {f : Foreground} (ho : f.overlayClient = none)
    (client : ClientId) (hg : f.fgState ≠ .shellForeground) :
    (f.claimOverlay client).HasGame ↔ f.LeavesGame client := by
  rw [claimOverlay_of_free ho, hasGame_classify, LeavesGame]
  simp [hg, Trusted, ho, and_comm]

private theorem HasGame.map {f : Foreground} (h : f.WF) (hg : f.HasGame)
    (hs : f.fgState ≠ .shellForeground)
    (tree : TreeId) (client : ClientId) : (f.map tree client).HasGame := by
  obtain ⟨track, hm, hr⟩ := hg
  apply (hasGame_classify _).mpr
  refine ⟨hs, track, List.mem_append_left _ hm, ?_⟩
  exact ((h.settled track hm).resolve_left id).not_trusted hr

/-- Unmapping finds no window, or the game exits with it, or only the window goes. -/
theorem unmap_cases (f : Foreground) (tree : TreeId) :
    f.unmap tree = f ∨ ∃ track, f.track? tree = some track ∧
      (track.role = .game ∧ f.unmap tree = (f.release track).exited ∨
        track.role ≠ .game ∧ f.unmap tree = f.release track) := by
  unfold unmap
  cases ht : f.track? tree with
  | none => exact Or.inl rfl
  | some track =>
    right
    by_cases hr : track.role = .game
    · exact ⟨track, rfl, Or.inl ⟨hr, by simp [hr]⟩⟩
    · exact ⟨track, rfl, Or.inr ⟨hr, by simp [hr]⟩⟩

private theorem GameShown.unmap {f : Foreground} (h : f.GameShown) (tree : TreeId) :
    (f.unmap tree).GameShown := by
  rcases unmap_cases f tree with he | ⟨track, -, ⟨-, he⟩ | ⟨hr, he⟩⟩ <;> rw [he]
  · exact h
  · simp [GameShown, GameInFront, exited]
  · simpa [GameShown, GameInFront, release, hr] using h

private theorem OverlaySettled.unmap {f : Foreground} (h : f.OverlaySettled) (tree : TreeId) :
    (f.unmap tree).OverlaySettled := by
  rcases unmap_cases f tree with he | ⟨track, -, ⟨-, he⟩ | ⟨hr, he⟩⟩ <;> rw [he]
  · exact h
  · simp [OverlaySettled, exited]
  · exact h

private theorem LaunchBooked.unmap {f : Foreground} (h : f.LaunchBooked) (tree : TreeId) :
    (f.unmap tree).LaunchBooked := by
  rcases unmap_cases f tree with he | ⟨track, -, ⟨-, he⟩ | ⟨hr, he⟩⟩ <;> rw [he]
  · exact h
  · simp [LaunchBooked, GameInFront, exited]
  · exact h

private theorem GameTerminable.unmap {f : Foreground} (hn : f.trees.Nodup) (h : f.GameTerminable)
    (tree : TreeId) : (f.unmap tree).GameTerminable := by
  rcases unmap_cases f tree with he | ⟨track, ht, ⟨-, he⟩ | ⟨hr, he⟩⟩ <;> rw [he]
  · exact h
  · simp [GameTerminable, exited]
  · intro hs
    obtain ⟨other, hm, ho⟩ := h hs
    refine ⟨other, List.mem_filter.mpr ⟨hm, ?_⟩, ho⟩
    have hne : other.tree ≠ track.tree := by
      intro heq
      exact hr (List.inj_on_of_nodup_map hn hm (track?_some ht).1 heq ▸ ho)
    simpa using hne

/-- A game in front is not the shell in front. -/
theorem GameInFront.ne_shell {f : Foreground} (h : f.GameInFront) :
    f.fgState ≠ .shellForeground := by
  rcases h with h | h <;> rw [h] <;> decide

private theorem GameInFront.of_showOverlay {f : Foreground} (h : f.showOverlay.GameInFront) :
    f.GameInFront := by
  unfold showOverlay at h
  dsimp only at h
  repeat' split at h
  · exact h
  · next hg => exact Or.inl hg
  · exact h

private theorem GameInFront.of_hideOverlay {f : Foreground} (h : f.hideOverlay.GameInFront) :
    f.GameInFront := by
  unfold hideOverlay at h
  dsimp only at h
  repeat' split at h
  · next hg _ => exact Or.inr hg
  · next hg _ => exact Or.inr hg
  · exact h
  · exact h

private theorem WFExcept.hasGame {f : Foreground} {outdated : ClientId → Prop}
    (h : f.WFExcept outdated) (hg : f.gameTree ≠ none) : f.HasGame := by
  have hf : f.first .game ≠ none := by
    rcases h.designated .game with hd | hd
    · exact absurd hd hg
    · exact fun he ↦ hg (hd.trans he)
  obtain ⟨tree, ht⟩ := Option.ne_none_iff_exists'.mp hf
  obtain ⟨track, hm, -⟩ := Option.map_eq_some_iff.mp ht
  exact ⟨track, List.mem_of_find?_eq_some hm, by simpa using List.find?_some hm⟩

/-- The guard of `GameShown` is exact. -/
theorem gameShown_step_iff {f g : Foreground} {input : Input} (h : f.WF) (hp : f.GameShown)
    (hs : f.step input = some g) : g.GameShown ↔ f.KeepsGameShown input := by
  cases moved_of_step hs with
  | idle => exact iff_of_true hp trivial
  | launch launchToken gameId =>
    simp [KeepsGameShown, GameShown, GameInFront, Foreground.launch]
  | withdraw =>
    simp only [KeepsGameShown, GameShown, GameInFront, Foreground.withdraw]
    split <;> simp [*]
  | terminate =>
    simp [KeepsGameShown, GameShown, GameInFront, Foreground.terminate]
  | showOverlay =>
    refine iff_of_true (fun hg ↦ ?_) trivial
    rw [(sameWindows_showOverlay f).gameTree]
    exact hp hg.of_showOverlay
  | hideOverlay =>
    refine iff_of_true (fun hg ↦ ?_) trivial
    rw [(sameWindows_hideOverlay f).gameTree]
    exact hp hg.of_hideOverlay
  | map tree client ht =>
    refine iff_of_true (fun hg ↦ ?_) trivial
    have hf : f.GameInFront := hg
    exact (gameTree_classify _).mpr ((h.hasGame (hp hf)).map h hf.ne_shell tree client)
  | frame tree =>
    rw [frame_eq h]
    split
    · next ha => simp [KeepsGameShown, GameShown, GameInFront, ha]
    · next ha => simpa [KeepsGameShown, ha] using hp
  | unmap tree => exact iff_of_true (hp.unmap tree) trivial
  | claimShell client =>
    cases hc : f.shellClient with
    | some holder =>
      rw [claimShell_of_taken hc]
      exact iff_of_true hp fun _ hn ↦ nomatch hc.symm.trans hn
    | none =>
      have hl := fun hg ↦ hasGame_claimShell hc client (GameInFront.ne_shell hg)
      rw [claimShell_of_free hc] at hl ⊢
      exact forall_congr' fun hg ↦ ((gameTree_classify _).trans (hl hg)).trans (by simp [hc])
  | claimOverlay client =>
    cases hc : f.overlayClient with
    | some holder =>
      rw [claimOverlay_of_taken hc]
      exact iff_of_true hp fun _ hn ↦ nomatch hc.symm.trans hn
    | none =>
      have hl := fun hg ↦ hasGame_claimOverlay hc client (GameInFront.ne_shell hg)
      rw [claimOverlay_of_free hc] at hl ⊢
      exact forall_congr' fun hg ↦ ((gameTree_classify _).trans (hl hg)).trans (by simp [hc])
  | leave client order ho =>
    exact iff_of_true (leave_of_unmap hp (fun g tree hg ↦ hg.unmap tree) order) trivial

/-- The guard of `OverlaySettled` is exact. -/
theorem overlaySettled_step_iff {f g : Foreground} {input : Input} (h : f.WF)
    (hp : f.OverlaySettled) (hs : f.step input = some g) :
    g.OverlaySettled ↔ f.KeepsOverlaySettled input := by
  cases moved_of_step hs with
  | idle => exact iff_of_true hp trivial
  | launch launchToken gameId =>
    simp [KeepsOverlaySettled, OverlaySettled, Foreground.launch]
  | withdraw =>
    simp only [KeepsOverlaySettled, OverlaySettled, Foreground.withdraw]
    split <;> simp [*]
  | terminate =>
    simp [KeepsOverlaySettled, OverlaySettled, Foreground.terminate]
  | showOverlay =>
    refine iff_of_true ?_ trivial
    unfold showOverlay
    dsimp only
    repeat' split
    · exact hp
    · simp [OverlaySettled, goto, *]
    · next hg => exact ⟨fun h ↦ absurd h hg, fun _ ↦ rfl⟩
  | hideOverlay =>
    refine iff_of_true ?_ trivial
    unfold hideOverlay
    dsimp only
    repeat' split
    · next hu _ => simp [OverlaySettled, goto, hu]
    · simp [OverlaySettled]
    · next hu => exact ⟨fun _ ↦ rfl, fun h ↦ absurd h hu⟩
    · exact hp
  | map tree client ht => exact iff_of_true hp trivial
  | frame tree =>
    rw [frame_eq h]
    split
    · next ha => simp [KeepsOverlaySettled, OverlaySettled, ha, goto, ha.1]
    · next ha => simpa [KeepsOverlaySettled, ha] using hp
  | unmap tree => exact iff_of_true (hp.unmap tree) trivial
  | claimShell client =>
    unfold claimShell
    split <;> exact iff_of_true hp trivial
  | claimOverlay client =>
    unfold claimOverlay
    split <;> exact iff_of_true hp trivial
  | leave client order ho =>
    exact iff_of_true (leave_of_unmap hp (fun g tree hg ↦ hg.unmap tree) order) trivial

/-- The guard of `GameTerminable` is exact. -/
theorem gameTerminable_step_iff {f g : Foreground} {input : Input} (h : f.WF)
    (hp : f.GameTerminable) (hs : f.step input = some g) :
    g.GameTerminable ↔ f.KeepsGameTerminable input := by
  cases moved_of_step hs with
  | idle => exact iff_of_true hp trivial
  | launch launchToken gameId =>
    simp [KeepsGameTerminable, GameTerminable, Foreground.launch]
  | withdraw =>
    refine iff_of_true ?_ trivial
    unfold Foreground.withdraw
    split
    · exact hp
    · simp [GameTerminable]
  | terminate =>
    simp [KeepsGameTerminable, GameTerminable, Foreground.terminate, HasGame]
  | showOverlay =>
    refine iff_of_true ?_ trivial
    unfold showOverlay
    dsimp only
    repeat' split
    · exact hp
    · simp [GameTerminable]
    · exact hp
  | hideOverlay =>
    refine iff_of_true ?_ trivial
    unfold hideOverlay
    dsimp only
    repeat' split
    · simp [GameTerminable]
    · simp [GameTerminable]
    · exact hp
    · exact hp
  | map tree client ht =>
    refine iff_of_true (fun hg ↦ ?_) trivial
    have hf : f.fgState = .terminatingGame := hg
    exact (hp hf).map h (by rw [hf]; decide) tree client
  | frame tree =>
    rw [frame_eq h]
    refine iff_of_true ?_ trivial
    split
    · simp [GameTerminable]
    · exact hp
  | unmap tree => exact iff_of_true (hp.unmap h.nodup tree) trivial
  | claimShell client =>
    cases hc : f.shellClient with
    | some holder =>
      rw [claimShell_of_taken hc]
      exact iff_of_true hp fun _ hn ↦ nomatch hc.symm.trans hn
    | none =>
      have hl := hasGame_claimShell hc client
      rw [claimShell_of_free hc] at hl ⊢
      exact forall_congr' fun ht ↦ (hl (by rw [show f.fgState = _ from ht]; decide)).trans
        (by simp [hc])
  | claimOverlay client =>
    cases hc : f.overlayClient with
    | some holder =>
      rw [claimOverlay_of_taken hc]
      exact iff_of_true hp fun _ hn ↦ nomatch hc.symm.trans hn
    | none =>
      have hl := hasGame_claimOverlay hc client
      rw [claimOverlay_of_free hc] at hl ⊢
      exact forall_congr' fun ht ↦ (hl (by rw [show f.fgState = _ from ht]; decide)).trans
        (by simp [hc])
  | leave client order ho =>
    have hl : (f.leave client order).trees.Nodup ∧ (f.leave client order).GameTerminable := by
      refine leave_of_unmap (P := fun g ↦ g.trees.Nodup ∧ g.GameTerminable) ⟨h.nodup, hp⟩ ?_ order
      rintro g tree ⟨hn, ht⟩
      refine ⟨?_, ht.unmap hn tree⟩
      rw [trees, toplevels_unmap]
      exact (List.Sublist.map _ List.filter_sublist).nodup hn
    exact iff_of_true hl.2 trivial

/-- The guard of `LaunchBooked` is exact. -/
theorem launchBooked_step_iff {f g : Foreground} {input : Input} (h : f.WF)
    (hp : f.LaunchBooked) (hs : f.step input = some g) :
    g.LaunchBooked ↔ f.KeepsLaunchBooked input := by
  cases moved_of_step hs with
  | idle => exact iff_of_true hp trivial
  | launch launchToken gameId =>
    simp [KeepsLaunchBooked, LaunchBooked, GameInFront, Foreground.launch]
  | withdraw =>
    simp only [KeepsLaunchBooked, LaunchBooked, GameInFront, Foreground.withdraw]
    split <;> simp [*]
  | terminate =>
    simp [KeepsLaunchBooked, LaunchBooked, GameInFront, Foreground.terminate]
  | showOverlay =>
    refine iff_of_true ?_ trivial
    unfold showOverlay
    dsimp only
    repeat' split
    · exact hp
    · next hg => simpa [LaunchBooked, GameInFront, hg] using hp
    · exact hp
  | hideOverlay =>
    simp only [KeepsLaunchBooked]
    unfold hideOverlay
    split
    · by_cases hu : f.fgState = .playosUiForegroundWithGameBackground
      · have hr : f.gameSurfaceReady = true := hp.1.mpr (Or.inr hu)
        cases hg : f.gameTree <;> simp [LaunchBooked, GameInFront, hu, hr]
      · simpa [hu, LaunchBooked, GameInFront] using hp
    · next hv =>
      exact iff_of_true hp fun hu ↦ absurd (h.overlaid hu) hv
  | map tree client ht => exact iff_of_true hp trivial
  | frame tree =>
    rw [frame_eq h]
    refine iff_of_true ?_ trivial
    split
    · simp [LaunchBooked, GameInFront]
    · exact hp
  | unmap tree => exact iff_of_true (hp.unmap tree) trivial
  | claimShell client =>
    unfold claimShell
    split <;> exact iff_of_true hp trivial
  | claimOverlay client =>
    unfold claimOverlay
    split <;> exact iff_of_true hp trivial
  | leave client order ho =>
    exact iff_of_true (leave_of_unmap hp (fun g tree hg ↦ hg.unmap tree) order) trivial

end Foreground

end PlayosCompositor
