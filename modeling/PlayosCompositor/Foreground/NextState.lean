import PlayosCompositor.Foreground.Guarantees

/-!
# What is known of a step before it is taken

The state that an input leads to, the windows that it drops, and the foreground whose windows
it classifies, if it classifies any. Without a classification the windows that stay keep their
roles and pointers.
-/

namespace PlayosCompositor

namespace Foreground

/-! ### The state -/

/-- The state after an input. -/
def nextState (f : Foreground) : Input → ForegroundState
  | .launch _ _ => .gameStarting
  | .withdraw => if f.fgState = .terminatingGame then .terminatingGame else .shellForeground
  | .terminate => .terminatingGame
  | .showOverlay =>
    if f.overlayVisible = false ∧ f.fgState = .gameForeground then
      .playosUiForegroundWithGameBackground
    else f.fgState
  | .hideOverlay =>
    if f.overlayVisible ∧ f.fgState = .playosUiForegroundWithGameBackground then
      if f.gameTree.isSome then .gameForeground else .shellForeground
    else f.fgState
  | .frame tree => if f.Activates tree then .gameForeground else f.fgState
  | .unmap tree => if f.IsGame tree then .shellForeground else f.fgState
  | .leave _ order => if ∃ tree ∈ order, f.IsGame tree then .shellForeground else f.fgState
  | .idle | .map _ _ | .claimShell _ | .claimOverlay _ => f.fgState

private theorem fgState_unmap {f : Foreground} (hn : f.trees.Nodup) (tree : TreeId) :
    (f.unmap tree).fgState = if f.IsGame tree then .shellForeground else f.fgState := by
  rcases f.unmap_cases tree with he | ⟨track, ht, ⟨hr, he⟩ | ⟨hr, he⟩⟩
  · rw [he]
    by_cases hg : f.IsGame tree
    · -- a game's window is found, so unmapping it leaves its tree behind
      obtain ⟨track, hm, rfl, -⟩ := hg
      have hu : track ∈ (f.unmap track.tree).toplevels := by rwa [he]
      simp at hu
    · rw [if_neg hg]
  · rw [he, if_pos ((isGame_iff hn ht).mpr hr), exited_fgState]
  · rw [he, if_neg fun hg ↦ hr ((isGame_iff hn ht).mp hg)]
    rfl

private theorem isGame_unmap {f : Foreground} {tree other : TreeId} :
    (f.unmap tree).IsGame other ↔ other ≠ tree ∧ f.IsGame other := by
  unfold IsGame
  rw [toplevels_unmap]
  constructor
  · rintro ⟨track, hm, rfl, hr⟩
    obtain ⟨hm, hne⟩ := List.mem_filter.mp hm
    exact ⟨of_decide_eq_true hne, track, hm, rfl, hr⟩
  · rintro ⟨hne, track, hm, rfl, hr⟩
    exact ⟨track, List.mem_filter.mpr ⟨hm, decide_eq_true hne⟩, rfl, hr⟩

private theorem fgState_foldl_unmap {f : Foreground} (hn : f.trees.Nodup) (order : List TreeId) :
    (order.foldl unmap f).fgState =
      if ∃ tree ∈ order, f.IsGame tree then .shellForeground else f.fgState := by
  induction order generalizing f with
  | nil => simp
  | cons tree order ih =>
    have hn' : (f.unmap tree).trees.Nodup := by
      rw [trees, toplevels_unmap]
      exact hn.sublist (List.filter_sublist.map _)
    rw [List.foldl_cons, ih hn', fgState_unmap hn]
    by_cases hg : f.IsGame tree
    · simp [hg]
    · have hother : (∃ t ∈ order, (f.unmap tree).IsGame t) ↔ ∃ t ∈ order, f.IsGame t := by
        refine exists_congr fun t ↦ and_congr_right fun _ ↦ isGame_unmap.trans ?_
        exact and_iff_right_of_imp fun ht he ↦ hg (he ▸ ht)
      simp [hg, hother]

/-- Every step ends in the state that was due. -/
theorem fgState_step {f g : Foreground} {input : Input} (h : f.WF)
    (hs : f.step input = some g) : g.fgState = f.nextState input := by
  cases moved_of_step hs with
  | idle => rfl
  | launch launchToken gameId => exact fgState_goto _ _
  | withdraw =>
    unfold withdraw nextState
    split <;> simp [*]
  | terminate => exact fgState_goto _ _
  | showOverlay =>
    unfold showOverlay nextState
    cases hv : f.overlayVisible <;> by_cases hg : f.fgState = .gameForeground <;> simp [hg]
  | hideOverlay =>
    unfold hideOverlay nextState
    cases hv : f.overlayVisible <;>
      by_cases hu : f.fgState = .playosUiForegroundWithGameBackground <;> simp [hu]
  | map tree client _ => rfl
  | frame tree =>
    rw [frame_eq h, nextState]
    split
    · exact fgState_goto _ _
    · rfl
  | unmap tree => exact fgState_unmap h.nodup tree
  | claimShell client =>
    unfold claimShell
    split <;> rfl
  | claimOverlay client =>
    unfold claimOverlay
    split <;> rfl
  | leave client order _ => exact fgState_foldl_unmap (f := f.resign client) h.nodup order

/-! ### The windows -/

/-- The windows that an input drops. -/
def Input.dropped : Input → List TreeId
  | .unmap tree => [tree]
  | .leave _ order => order
  | _ => []

/-- The foreground that an input leaves to be classified, if it classifies the windows. -/
def classified (f : Foreground) : Input → Option Foreground
  | .map tree client => some { f with toplevels := f.toplevels ++ [⟨tree, client, .none⟩] }
  | .claimShell client =>
    if f.shellClient.isSome then none else some { f with shellClient := some client }
  | .claimOverlay client =>
    if f.overlayClient.isSome then none else some { f with overlayClient := some client }
  | _ => none

/-- A step that classifies the windows ends with their classification. -/
theorem step_of_classified {f g h : Foreground} {input : Input} (hs : f.step input = some g)
    (hc : f.classified input = some h) : g = h.classify := by
  cases moved_of_step hs with
  | map tree client _ => exact Option.some.inj hc ▸ rfl
  | claimShell client =>
    obtain ⟨hn, he⟩ := Option.ite_none_left_eq_some.mp hc
    rw [claimShell, if_neg hn, ← Option.some.inj he]
  | claimOverlay client =>
    obtain ⟨hn, he⟩ := Option.ite_none_left_eq_some.mp hc
    rw [claimOverlay, if_neg hn, ← Option.some.inj he]
  | _ => cases hc

/-- What is left to be classified is in the same state. -/
theorem view_classified {f h : Foreground} {input : Input} (hc : f.classified input = some h) :
    h.fgState = f.fgState ∧ h.overlayVisible = f.overlayVisible := by
  cases input with
  | map tree client => exact Option.some.inj hc ▸ ⟨rfl, rfl⟩
  | claimShell client =>
    obtain ⟨-, he⟩ := Option.ite_none_left_eq_some.mp hc
    exact Option.some.inj he ▸ ⟨rfl, rfl⟩
  | claimOverlay client =>
    obtain ⟨-, he⟩ := Option.ite_none_left_eq_some.mp hc
    exact Option.some.inj he ▸ ⟨rfl, rfl⟩
  | _ => cases hc

/-- The frame of a move leaves the pointers alone. -/
theorem SameWindows.designated {f g : Foreground} (h : SameWindows f g) (role : TrustedRole) :
    g.designated role = f.designated role := by
  cases role
  case none => rfl
  case shell => exact h.shellTree
  case overlay => exact h.overlayTree
  case game => exact h.gameTree

private theorem designated_unmap (f : Foreground) {role : TrustedRole} {tree other : TreeId}
    (h : other ≠ tree) :
    (f.unmap tree).designated role = some other ↔ f.designated role = some other := by
  have hrel : ∀ track, f.track? tree = some track →
      ((f.release track).designated role = some other ↔ f.designated role = some other) := by
    intro track ht
    rw [designated_release, (track?_some ht).2]
    split
    · next hd => simp [hd.2, h.symm]
    · exact Iff.rfl
  rcases f.unmap_cases tree with he | ⟨track, ht, ⟨-, he⟩ | ⟨-, he⟩⟩ <;> rw [he]
  · rw [(sameWindows_exited _).designated]
    exact hrel track ht
  · exact hrel track ht

private theorem designated_foldl_unmap (f : Foreground) {role : TrustedRole} {other : TreeId}
    {order : List TreeId} (h : other ∉ order) :
    (order.foldl unmap f).designated role = some other ↔ f.designated role = some other := by
  induction order generalizing f with
  | nil => exact Iff.rfl
  | cons tree order ih =>
    rw [List.mem_cons, not_or] at h
    rw [List.foldl_cons, ih _ h.2, designated_unmap f h.1]

private theorem step_eq_foldl_unmap {f g : Foreground} {input : Input} (hs : f.step input = some g)
    (hc : f.classified input = none) : ∃ f₀ : Foreground, f₀.toplevels = f.toplevels ∧
      (∀ role, f₀.designated role = f.designated role) ∧ g = input.dropped.foldl unmap f₀ := by
  have hmove : ∀ g, SameWindows f g → g.toplevels = f.toplevels ∧
      ∀ role, g.designated role = f.designated role :=
    fun g h ↦ ⟨h.toplevels, h.designated⟩
  suffices h : ∃ f₀, (f₀.toplevels = f.toplevels ∧
      ∀ role, f₀.designated role = f.designated role) ∧ g = input.dropped.foldl unmap f₀ by
    simpa only [and_assoc] using h
  cases moved_of_step hs with
  | idle => exact ⟨f, hmove f (.refl f), rfl⟩
  | launch launchToken gameId => exact ⟨_, hmove _ (sameWindows_launch f _ _), rfl⟩
  | withdraw => exact ⟨_, hmove _ (sameWindows_withdraw f), rfl⟩
  | terminate => exact ⟨_, hmove _ (sameWindows_terminate f), rfl⟩
  | showOverlay => exact ⟨_, hmove _ (sameWindows_showOverlay f), rfl⟩
  | hideOverlay => exact ⟨_, hmove _ (sameWindows_hideOverlay f), rfl⟩
  | map tree client _ => cases hc
  | frame tree =>
    refine ⟨f.frame tree, hmove _ ?_, rfl⟩
    unfold frame
    repeat' split
    · exact .refl f
    · exact sameWindows_activate f
    · exact .refl f
  | unmap tree => exact ⟨f, hmove f (.refl f), rfl⟩
  | claimShell client =>
    have hn : f.shellClient.isSome := by
      by_contra hn
      exact nomatch (if_neg hn).symm.trans hc
    exact ⟨f, hmove f (.refl f), if_pos hn⟩
  | claimOverlay client =>
    have hn : f.overlayClient.isSome := by
      by_contra hn
      exact nomatch (if_neg hn).symm.trans hc
    exact ⟨f, hmove f (.refl f), if_pos hn⟩
  | leave client order _ =>
    refine ⟨f.resign client, ⟨rfl, fun role ↦ ?_⟩, rfl⟩
    cases role <;> rfl

/-- Without a classification a step keeps exactly the windows that it does not drop. -/
theorem toplevels_step {f g : Foreground} {input : Input} (hs : f.step input = some g)
    (hc : f.classified input = none) :
    g.toplevels = f.toplevels.filter fun track ↦ track.tree ∉ input.dropped := by
  obtain ⟨f₀, ht, -, rfl⟩ := step_eq_foldl_unmap hs hc
  rw [toplevels_foldl_unmap, ht]

/-- Without a classification a step leaves the pointers to windows that it does not drop. -/
theorem designated_step {f g : Foreground} {input : Input} (hs : f.step input = some g)
    (hc : f.classified input = none) {role : TrustedRole} {tree : TreeId}
    (ht : tree ∉ input.dropped) :
    g.designated role = some tree ↔ f.designated role = some tree := by
  obtain ⟨f₀, -, hd, rfl⟩ := step_eq_foldl_unmap hs hc
  rw [designated_foldl_unmap f₀ ht, hd role]

end Foreground

end PlayosCompositor
