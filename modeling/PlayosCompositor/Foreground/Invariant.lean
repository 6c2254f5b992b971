import PlayosCompositor.Foreground.Automaton

/-!
# Invariant of the foreground automaton

Trees are tracked once, each pointer is null or the oldest window of its role, roles are
those of the last classification, and the two flags agree with the foreground state as far
as the automaton guarantees it. `SameWindows` is the frame of the inputs that only move the
foreground.
-/

namespace PlayosCompositor

namespace Foreground

/-- The tree that stands for a role. -/
def designated (f : Foreground) : TrustedRole → Option TreeId
  | .none => none
  | .shell => f.shellTree
  | .overlay => f.overlayTree
  | .game => f.gameTree

/-- A role as some classification assigned it under the present role holders. -/
def Settled (f : Foreground) (track : ToplevelTrack) : Prop :=
  ∃ state, track.role = compositorRoleForClient { f with fgState := state } track.client

/-- Nothing changed but the foreground: role holders, windows and pointers are the same. -/
structure SameWindows (f g : Foreground) : Prop where
  shellClient : g.shellClient = f.shellClient
  overlayClient : g.overlayClient = f.overlayClient
  shellTree : g.shellTree = f.shellTree
  gameTree : g.gameTree = f.gameTree
  overlayTree : g.overlayTree = f.overlayTree
  toplevels : g.toplevels = f.toplevels

/-- Well-formedness up to the roles of some clients' windows, which may be outdated. -/
structure WFExcept (f : Foreground) (outdated : ClientId → Prop) : Prop where
  nodup : (f.toplevels.map ToplevelTrack.tree).Nodup
  designated : ∀ role, f.designated role = none ∨ f.designated role = f.first role
  settled : ∀ track ∈ f.toplevels, outdated track.client ∨ f.Settled track
  starting : f.fgState = .gameStarting → f.gameSurfaceReady = false
  overlaid : f.fgState = .playosUiForegroundWithGameBackground → f.overlayVisible = true

/-- Well-formed foregrounds. -/
def WF (f : Foreground) : Prop := f.WFExcept fun _ ↦ False

/-! ### Roles -/

/-- A client without a trusted role owns the game, if there may be one. -/
theorem compositorRoleForClient_of_not_trusted {f : Foreground} {client : ClientId}
    (h : ¬ f.Trusted client) : compositorRoleForClient f client =
      if f.fgState = .shellForeground then .none else .game := by
  unfold Trusted at h
  rw [not_or] at h
  unfold compositorRoleForClient
  rw [if_neg h.1, if_neg h.2]
  cases f.fgState <;> rfl

/-- Only clients without a trusted role are taken for a game. -/
theorem compositorRoleForClient_eq_game {f : Foreground} {client : ClientId} :
    compositorRoleForClient f client = .game ↔
      ¬ f.Trusted client ∧ f.fgState ≠ .shellForeground := by
  by_cases h : f.Trusted client
  · simp only [h, not_true_eq_false, false_and, iff_false]
    unfold compositorRoleForClient
    rcases h with h | h
    · rw [if_pos h]
      decide
    · split
      · decide
      · decide
  · rw [compositorRoleForClient_of_not_trusted h]
    by_cases hs : f.fgState = .shellForeground <;> simp [h, hs]

/-- The owner of a game's window holds no trusted role. -/
theorem Settled.not_trusted {f : Foreground} {track : ToplevelTrack} (h : f.Settled track)
    (hg : track.role = .game) : ¬ f.Trusted track.client := by
  obtain ⟨state, hr⟩ := h
  exact (compositorRoleForClient_eq_game.mp (hr.symm.trans hg)).1

/-! ### The frame of the foreground inputs -/

/-- Nothing changed. -/
theorem SameWindows.refl (f : Foreground) : SameWindows f f := ⟨rfl, rfl, rfl, rfl, rfl, rfl⟩

private theorem SameWindows.trans {f g h : Foreground} (hfg : SameWindows f g)
    (hgh : SameWindows g h) :
    SameWindows f h where
  shellClient := hgh.shellClient.trans hfg.shellClient
  overlayClient := hgh.overlayClient.trans hfg.overlayClient
  shellTree := hgh.shellTree.trans hfg.shellTree
  gameTree := hgh.gameTree.trans hfg.gameTree
  overlayTree := hgh.overlayTree.trans hfg.overlayTree
  toplevels := hgh.toplevels.trans hfg.toplevels

private theorem sameWindows_goto (f : Foreground) (state : ForegroundState) :
    SameWindows f (f.goto state) := by
  unfold goto
  split <;> exact ⟨rfl, rfl, rfl, rfl, rfl, rfl⟩

private theorem sameWindows_forget (f : Foreground) : SameWindows f f.forget :=
  ⟨rfl, rfl, rfl, rfl, rfl, rfl⟩

/-- Announcing a launch keeps the windows. -/
theorem sameWindows_launch (f : Foreground) (launchToken : CharBuf 64) (gameId : CharBuf 256) :
    SameWindows f (f.launch launchToken gameId) := by
  unfold launch goto
  split <;> exact ⟨rfl, rfl, rfl, rfl, rfl, rfl⟩

/-- Withdrawing a launch keeps the windows. -/
theorem sameWindows_withdraw (f : Foreground) : SameWindows f f.withdraw := by
  unfold withdraw
  split
  · exact sameWindows_forget f
  · exact (sameWindows_forget f).trans (sameWindows_goto _ _)

/-- Terminating keeps the windows. -/
theorem sameWindows_terminate (f : Foreground) : SameWindows f f.terminate :=
  (sameWindows_goto f _).trans (sameWindows_forget _)

/-- Activating keeps the windows. -/
theorem sameWindows_activate (f : Foreground) : SameWindows f f.activate := by
  unfold activate goto
  repeat' split
  all_goals exact ⟨rfl, rfl, rfl, rfl, rfl, rfl⟩

/-- A game's exit keeps the windows that are left. -/
theorem sameWindows_exited (f : Foreground) : SameWindows f f.exited :=
  (sameWindows_goto f _).trans (sameWindows_forget _)

/-- Showing the overlay keeps the windows. -/
theorem sameWindows_showOverlay (f : Foreground) : SameWindows f f.showOverlay := by
  unfold showOverlay goto
  dsimp only
  repeat' split
  all_goals exact ⟨rfl, rfl, rfl, rfl, rfl, rfl⟩

/-- Hiding the overlay keeps the windows. -/
theorem sameWindows_hideOverlay (f : Foreground) : SameWindows f f.hideOverlay := by
  unfold hideOverlay goto
  dsimp only
  repeat' split
  all_goals exact ⟨rfl, rfl, rfl, rfl, rfl, rfl⟩

private theorem WFExcept.of_sameWindows {f g : Foreground} {outdated : ClientId → Prop}
    (h : f.WFExcept outdated) (hw : SameWindows f g)
    (hs : g.fgState = .gameStarting → g.gameSurfaceReady = false)
    (ho : g.fgState = .playosUiForegroundWithGameBackground → g.overlayVisible = true) :
    g.WFExcept outdated where
  nodup := by
    rw [hw.toplevels]
    exact h.nodup
  designated role := by
    have hd : g.designated role = f.designated role := by
      cases role
      case none => rfl
      case shell => exact hw.shellTree
      case overlay => exact hw.overlayTree
      case game => exact hw.gameTree
    have hf : g.first role = f.first role := by rw [first, hw.toplevels, first]
    rw [hd, hf]
    exact h.designated role
  settled track ht := by
    rw [hw.toplevels] at ht
    apply (h.settled track ht).imp_right
    rintro ⟨state, hr⟩
    refine ⟨state, ?_⟩
    rw [hr]
    simp only [compositorRoleForClient, hw.shellClient, hw.overlayClient]
  starting := hs
  overlaid := ho

/-! ### Windows come, go and change hands -/

/-- The trees of the tracked windows. -/
def trees (f : Foreground) : List TreeId := f.toplevels.map ToplevelTrack.tree

private theorem map_tree_relabel (f : Foreground) (tracks : List ToplevelTrack) :
    (tracks.map fun track ↦ { track with
      role := compositorRoleForClient f track.client }).map ToplevelTrack.tree =
      tracks.map ToplevelTrack.tree := by
  rw [List.map_map]
  rfl

/-- Classification keeps the windows and their order. -/
@[simp] theorem trees_classify (f : Foreground) : f.classify.trees = f.trees :=
  map_tree_relabel f f.toplevels

/-- After a classification every role has its oldest window. -/
theorem designated_classify (f : Foreground) {role : TrustedRole} (h : role ≠ .none) :
    f.classify.designated role = f.classify.first role := by
  cases role
  case none => exact absurd rfl h
  all_goals rfl

private theorem role_classify (f : Foreground) {track : ToplevelTrack}
    (h : track ∈ f.classify.toplevels) :
    track.role = compositorRoleForClient f track.client := by
  obtain ⟨old, -, rfl⟩ := List.mem_map.mp h
  rfl

private theorem wf_classify {f : Foreground} (hn : f.trees.Nodup)
    (hs : f.fgState = .gameStarting → f.gameSurfaceReady = false)
    (ho : f.fgState = .playosUiForegroundWithGameBackground → f.overlayVisible = true) :
    f.classify.WF where
  nodup := by
    change f.classify.trees.Nodup
    rw [trees_classify]
    exact hn
  designated role := by
    by_cases h : role = .none
    · subst h
      exact Or.inl rfl
    · exact Or.inr (designated_classify f h)
  settled track ht := Or.inr ⟨f.fgState, role_classify f ht⟩
  starting := hs
  overlaid := ho

/-- A window is found under its tree. -/
theorem track?_some {f : Foreground} {tree : TreeId} {track : ToplevelTrack}
    (h : f.track? tree = some track) : track ∈ f.toplevels ∧ track.tree = tree := by
  refine ⟨List.mem_of_find?_eq_some h, ?_⟩
  simpa using List.find?_some h

/-- Trees identify windows. -/
theorem track?_of_mem {f : Foreground} (hn : f.trees.Nodup) {track : ToplevelTrack}
    (h : track ∈ f.toplevels) : f.track? track.tree = some track := by
  cases hf : f.track? track.tree with
  | none =>
    have := List.find?_eq_none.mp hf track h
    simp at this
  | some found =>
    obtain ⟨hmem, htree⟩ := track?_some hf
    rw [List.inj_on_of_nodup_map hn hmem h htree]

/-- A tree that no window has is not found. -/
theorem track?_eq_none {f : Foreground} {tree : TreeId} :
    f.track? tree = none ↔ tree ∉ f.trees := by
  unfold track? trees
  rw [List.find?_eq_none]
  simp [eq_comm]

/-- A mapped window is the youngest. -/
@[simp] theorem trees_map (f : Foreground) (tree : TreeId) (client : ClientId) :
    (f.map tree client).trees = f.trees ++ [tree] := by
  rw [map, trees_classify]
  exact List.map_append

/-- Unmapping takes no role from a client. -/
@[simp] theorem shellClient_unmap (f : Foreground) (tree : TreeId) :
    (f.unmap tree).shellClient = f.shellClient := by
  unfold unmap
  split
  · rfl
  · split
    · exact (sameWindows_exited _).shellClient
    · rfl

/-- Unmapping takes no role from a client. -/
@[simp] theorem overlayClient_unmap (f : Foreground) (tree : TreeId) :
    (f.unmap tree).overlayClient = f.overlayClient := by
  unfold unmap
  split
  · rfl
  · split
    · exact (sameWindows_exited _).overlayClient
    · rfl

/-- Unmapping drops exactly the window of that tree. -/
@[simp] theorem toplevels_unmap (f : Foreground) (tree : TreeId) :
    (f.unmap tree).toplevels = f.toplevels.filter fun track ↦ track.tree ≠ tree := by
  unfold unmap
  split
  · next h =>
    symm
    rw [List.filter_eq_self]
    intro track ht
    have hne : track.tree ≠ tree := by
      rintro rfl
      exact track?_eq_none.mp h (List.mem_map_of_mem ht)
    simpa using hne
  · next track h =>
    obtain ⟨-, rfl⟩ := track?_some h
    split
    · rw [(sameWindows_exited _).toplevels]
      rfl
    · rfl

/-- A released window gives up the pointer that named it, and no other. -/
theorem designated_release (f : Foreground) (track : ToplevelTrack) (role : TrustedRole) :
    (f.release track).designated role =
      if track.role = role ∧ f.designated role = some track.tree then none
      else f.designated role := by
  cases role
  case none => simp [designated]
  all_goals rfl

/-- Filtering keeps the first hit where it keeps the hit itself. -/
theorem find?_filter_of_find? {α : Type} {l : List α} {p q : α → Bool} {x : α}
    (h : l.find? p = some x) (hq : q x = true) : (l.filter q).find? p = some x := by
  induction l with
  | nil => simp at h
  | cons a l ih =>
    rw [List.find?_cons] at h
    cases hp : p a with
    | true =>
      rw [hp] at h
      cases Option.some.inj h
      rw [List.filter_cons_of_pos hq, List.find?_cons, hp]
    | false =>
      rw [hp] at h
      by_cases hqa : q a = true
      · rw [List.filter_cons_of_pos hqa, List.find?_cons, hp]
        exact ih h
      · rw [List.filter_cons_of_neg hqa]
        exact ih h

private theorem first_release {f : Foreground} (hn : f.trees.Nodup) {track : ToplevelTrack}
    (ht : track ∈ f.toplevels) {role : TrustedRole} {tree : TreeId}
    (h : f.first role = some tree) (hne : ¬ (track.role = role ∧ tree = track.tree)) :
    (f.release track).first role = some tree := by
  obtain ⟨found, hf, rfl⟩ := Option.map_eq_some_iff.mp h
  have hrole : found.role = role := by simpa using List.find?_some hf
  have htree : found.tree ≠ track.tree := by
    intro he
    apply hne
    have heq := List.inj_on_of_nodup_map hn (List.mem_of_find?_eq_some hf) ht he
    exact ⟨heq ▸ hrole, he⟩
  unfold first release
  rw [find?_filter_of_find? hf (by simpa using htree)]
  rfl

/-- Releasing a window keeps the rest well-formed. -/
theorem wfExcept_release {f : Foreground} {outdated : ClientId → Prop} (h : f.WFExcept outdated)
    {track : ToplevelTrack} (ht : track ∈ f.toplevels) : (f.release track).WFExcept outdated where
  nodup := (List.Sublist.map _ List.filter_sublist).nodup h.nodup
  designated role := by
    rw [designated_release]
    split
    · exact Or.inl rfl
    · next hne =>
      rcases h.designated role with hd | hd
      · exact Or.inl hd
      · cases hf : f.first role with
        | none => exact Or.inl (hd.trans hf)
        | some tree =>
          right
          rw [hd.trans hf] at hne ⊢
          rw [first_release h.nodup ht hf]
          simpa using hne
  settled t hmem := h.settled t (List.mem_of_mem_filter hmem)
  starting := h.starting
  overlaid := h.overlaid

/-- The exit of a game leaves the shell in front and nothing expected. -/
theorem exited_fgState (f : Foreground) : f.exited.fgState = .shellForeground := by
  unfold exited goto
  split
  · assumption
  · rfl

/-- The exit of a game keeps the windows that are left well-formed. -/
theorem wfExcept_exited {f : Foreground} {outdated : ClientId → Prop} (h : f.WFExcept outdated) :
    f.exited.WFExcept outdated := by
  apply h.of_sameWindows (sameWindows_exited f)
  · rw [exited_fgState]
    exact fun h ↦ nomatch h
  · rw [exited_fgState]
    exact fun h ↦ nomatch h

/-- Unmapping a window keeps the rest well-formed. -/
theorem wfExcept_unmap {f : Foreground} {outdated : ClientId → Prop} (h : f.WFExcept outdated)
    (tree : TreeId) : (f.unmap tree).WFExcept outdated := by
  unfold unmap
  split
  · exact h
  · next track ht =>
    have hr := wfExcept_release h (track?_some ht).1
    split
    · exact wfExcept_exited hr
    · exact hr

/-- Windows are unmapped one after the other. -/
theorem toplevels_foldl_unmap (f : Foreground) (order : List TreeId) :
    (order.foldl unmap f).toplevels = f.toplevels.filter fun track ↦ track.tree ∉ order := by
  induction order generalizing f with
  | nil => simp
  | cons tree order ih =>
    rw [List.foldl_cons, ih, toplevels_unmap, List.filter_filter]
    apply List.filter_congr
    intro track _
    simp [Bool.and_comm]

/-- What survives the loss of any window survives the departure of a client. -/
theorem leave_of_unmap {P : Foreground → Prop} {f : Foreground} {client : ClientId}
    (hr : P (f.resign client)) (hu : ∀ g tree, P g → P (g.unmap tree)) (order : List TreeId) :
    P (f.leave client order) :=
  List.foldlRecOn order unmap hr fun g hg tree _ ↦ hu g tree hg

/-- Once a client has given up its roles, only its own windows carry outdated ones. -/
theorem wfExcept_resign {f : Foreground} (h : f.WF) (client : ClientId) :
    (f.resign client).WFExcept (· = client) where
  nodup := h.nodup
  designated := h.designated
  settled track ht := by
    by_cases hc : track.client = client
    · exact Or.inl hc
    · right
      obtain ⟨state, hr⟩ := (h.settled track ht).resolve_left id
      refine ⟨state, ?_⟩
      rw [hr]
      have hs : some track.client = (f.resign client).shellClient ↔
          some track.client = f.shellClient := by
        simp only [resign]
        split
        · next he => simp [he, hc]
        · exact Iff.rfl
      have ho : some track.client = (f.resign client).overlayClient ↔
          some track.client = f.overlayClient := by
        simp only [resign]
        split
        · next he => simp [he, hc]
        · exact Iff.rfl
      simp only [compositorRoleForClient, hs, ho]
  starting := h.starting
  overlaid := h.overlaid

private theorem wf_leave {f : Foreground} (h : f.WF) {client : ClientId} {order : List TreeId}
    (ho : ∀ track ∈ f.toplevels, track.client = client → track.tree ∈ order) :
    (f.leave client order).WF := by
  have hw : (f.leave client order).WFExcept (· = client) :=
    leave_of_unmap (P := fun g ↦ g.WFExcept (· = client)) (wfExcept_resign h client)
      (fun _ tree hg ↦ wfExcept_unmap hg tree) order
  refine ⟨hw.nodup, hw.designated, ?_, hw.starting, hw.overlaid⟩
  intro track ht
  refine Or.inr ((hw.settled track ht).resolve_left ?_)
  intro hc
  rw [leave, toplevels_foldl_unmap, List.mem_filter] at ht
  exact of_decide_eq_true ht.2 (ho track ht.1 hc)

/-! ### The invariant -/

private theorem wf_goto {f : Foreground} (h : f.WF) {state : ForegroundState}
    (hs : state = .gameStarting → f.gameSurfaceReady = false)
    (ho : state = .playosUiForegroundWithGameBackground → f.overlayVisible = true) :
    (f.goto state).WF := by
  apply WFExcept.of_sameWindows h (sameWindows_goto f state)
  · unfold goto
    split
    · exact h.starting
    · exact hs
  · unfold goto
    split
    · exact h.overlaid
    · rintro rfl
      simp [ho rfl]

private theorem wf_forget {f : Foreground} (h : f.WF) : f.forget.WF :=
  WFExcept.of_sameWindows h (sameWindows_forget f) (fun _ ↦ rfl) h.overlaid

private theorem wf_launch {f : Foreground} (h : f.WF) (launchToken : CharBuf 64)
    (gameId : CharBuf 256) :
    (f.launch launchToken gameId).WF := by
  apply wf_goto
  · exact WFExcept.of_sameWindows h ⟨rfl, rfl, rfl, rfl, rfl, rfl⟩ (fun _ ↦ rfl) h.overlaid
  · intro _
    rfl
  · exact fun h ↦ nomatch h

private theorem wf_withdraw {f : Foreground} (h : f.WF) : f.withdraw.WF := by
  unfold withdraw
  split
  · exact wf_forget h
  · exact wf_goto (wf_forget h) (fun h ↦ nomatch h) (fun h ↦ nomatch h)

private theorem wf_terminate {f : Foreground} (h : f.WF) : f.terminate.WF :=
  wf_forget (wf_goto h (fun h ↦ nomatch h) (fun h ↦ nomatch h))

private theorem wf_activate {f : Foreground} (h : f.WF) : f.activate.WF := by
  have hs := h.starting
  have ho := h.overlaid
  apply WFExcept.of_sameWindows h (sameWindows_activate f)
  · unfold activate goto
    repeat' split
    all_goals simp_all
  · unfold activate goto
    repeat' split
    all_goals simp_all

private theorem wf_showOverlay {f : Foreground} (h : f.WF) : f.showOverlay.WF := by
  unfold showOverlay
  split
  · exact h
  · have hw : WF { f with overlayVisible := true } :=
      WFExcept.of_sameWindows h ⟨rfl, rfl, rfl, rfl, rfl, rfl⟩ h.starting (fun _ ↦ rfl)
    dsimp only
    split
    · exact wf_goto hw (fun h ↦ nomatch h) (fun _ ↦ rfl)
    · exact hw

private theorem wf_hideOverlay {f : Foreground} (h : f.WF) : f.hideOverlay.WF := by
  have hs := h.starting
  have ho := h.overlaid
  apply WFExcept.of_sameWindows h (sameWindows_hideOverlay f)
  · unfold hideOverlay goto
    dsimp only
    repeat' split
    all_goals simp_all
  · unfold hideOverlay goto
    dsimp only
    repeat' split
    all_goals simp_all

/-- A mapped window is classified at once. -/
theorem wf_map {f : Foreground} (h : f.WF) {tree : TreeId} (ht : tree ∉ f.trees)
    (client : ClientId) : (f.map tree client).WF := by
  apply wf_classify
  · change ((f.toplevels ++ [⟨tree, client, .none⟩] : List ToplevelTrack).map
      ToplevelTrack.tree).Nodup
    rw [List.map_append]
    apply List.nodup_append.mpr
    refine ⟨h.nodup, List.nodup_singleton _, ?_⟩
    intro x hx y hy
    rw [List.mem_singleton.mp hy]
    exact ne_of_mem_of_not_mem hx ht
  · exact h.starting
  · exact h.overlaid

/-- A claim classifies every window at once. -/
theorem wf_claimShell {f : Foreground} (h : f.WF) (client : ClientId) :
    (f.claimShell client).WF := by
  unfold claimShell
  split
  · exact h
  · exact wf_classify h.nodup h.starting h.overlaid

/-- A claim classifies every window at once. -/
theorem wf_claimOverlay {f : Foreground} (h : f.WF) (client : ClientId) :
    (f.claimOverlay client).WF := by
  unfold claimOverlay
  split
  · exact h
  · exact wf_classify h.nodup h.starting h.overlaid

private theorem wf_playosStateInit : playosStateInit.WF where
  nodup := List.nodup_nil
  designated role := by cases role <;> exact Or.inl rfl
  settled _ h := nomatch h
  starting h := nomatch h
  overlaid h := nomatch h

/-- Every input keeps the foreground well-formed. -/
theorem wf_step {f g : Foreground} {input : Input} (h : f.WF) (hs : f.step input = some g) :
    g.WF := by
  cases moved_of_step hs with
  | idle => exact h
  | launch launchToken gameId => exact wf_launch h launchToken gameId
  | withdraw => exact wf_withdraw h
  | terminate => exact wf_terminate h
  | showOverlay => exact wf_showOverlay h
  | hideOverlay => exact wf_hideOverlay h
  | map tree client ht => exact wf_map h ht client
  | frame tree =>
    unfold frame
    repeat' split
    all_goals first | exact h | exact wf_activate h
  | unmap tree => exact wfExcept_unmap h tree
  | claimShell client => exact wf_claimShell h client
  | claimOverlay client => exact wf_claimOverlay h client
  | leave client order ho => exact wf_leave h ho

end Foreground

/-- Reachable foregrounds are well-formed. -/
theorem foregroundSystem_wf : foregroundSystem.Invariant Foreground.WF where
  base f hf := by
    rw [hf]
    exact Foreground.wf_playosStateInit
  step _ _ _ h hs := Foreground.wf_step h hs

end PlayosCompositor
