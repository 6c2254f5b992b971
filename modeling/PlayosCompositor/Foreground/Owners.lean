import PlayosCompositor.Foreground.Invariant

/-!
# Owners in the foreground

Who holds a role or owns a window. An input brings at most one new owner, and a client that
leaves with all its windows owns nothing any more.
-/

namespace PlayosCompositor

namespace Foreground

/-- Every role holder and every owner of a window is among these clients. -/
structure OwnedBy (f : Foreground) (clients : ClientId → Prop) : Prop where
  shell : ∀ client, f.shellClient = some client → clients client
  overlay : ∀ client, f.overlayClient = some client → clients client
  windows : ∀ track ∈ f.toplevels, clients track.client

/-- The client that an input gives a role or a window. -/
def Input.newcomer : Input → Option ClientId
  | .map _ client => some client
  | .claimShell client => some client
  | .claimOverlay client => some client
  | _ => none

variable {f g : Foreground} {clients : ClientId → Prop}

private theorem holders_leave (f : Foreground) (client : ClientId) (order : List TreeId) :
    (f.leave client order).shellClient = (f.resign client).shellClient ∧
      (f.leave client order).overlayClient = (f.resign client).overlayClient := by
  refine leave_of_unmap (P := fun g ↦ g.shellClient = (f.resign client).shellClient ∧
    g.overlayClient = (f.resign client).overlayClient) ⟨rfl, rfl⟩ ?_ order
  intro g tree hg
  rw [shellClient_unmap, overlayClient_unmap]
  exact hg

namespace OwnedBy

/-- More clients own no less. -/
theorem mono (h : f.OwnedBy clients) {more : ClientId → Prop}
    (hm : ∀ client, clients client → more client) : f.OwnedBy more :=
  ⟨fun client hs ↦ hm _ (h.shell client hs), fun client ho ↦ hm _ (h.overlay client ho),
    fun track ht ↦ hm _ (h.windows track ht)⟩

private theorem of_sameWindows (h : f.OwnedBy clients) (hw : SameWindows f g) :
    g.OwnedBy clients := by
  refine ⟨?_, ?_, ?_⟩
  · rw [hw.shellClient]
    exact h.shell
  · rw [hw.overlayClient]
    exact h.overlay
  · rw [hw.toplevels]
    exact h.windows

private theorem classify (h : f.OwnedBy clients) : f.classify.OwnedBy clients := by
  refine ⟨h.shell, h.overlay, ?_⟩
  intro track ht
  obtain ⟨old, ho, rfl⟩ := List.mem_map.mp ht
  exact h.windows old ho

private theorem unmap (h : f.OwnedBy clients) (tree : TreeId) : (f.unmap tree).OwnedBy clients := by
  refine ⟨?_, ?_, ?_⟩
  · rw [shellClient_unmap]
    exact h.shell
  · rw [overlayClient_unmap]
    exact h.overlay
  · rw [toplevels_unmap]
    exact fun track ht ↦ h.windows track (List.mem_of_mem_filter ht)

/-- A client that leaves with all its windows owns nothing any more. -/
theorem leave (h : f.OwnedBy clients) {client : ClientId} {order : List TreeId}
    (ho : ∀ track ∈ f.toplevels, track.client = client → track.tree ∈ order) :
    (f.leave client order).OwnedBy fun other ↦ clients other ∧ other ≠ client := by
  have hroles := holders_leave f client order
  refine ⟨?_, ?_, ?_⟩
  · intro other hs
    rw [hroles.1, resign] at hs
    obtain ⟨hne, hs⟩ := Option.ite_none_left_eq_some.mp hs
    exact ⟨h.shell other hs, fun he ↦ hne (he ▸ hs)⟩
  · intro other hs
    rw [hroles.2, resign] at hs
    obtain ⟨hne, hs⟩ := Option.ite_none_left_eq_some.mp hs
    exact ⟨h.overlay other hs, fun he ↦ hne (he ▸ hs)⟩
  · intro track ht
    rw [Foreground.leave, toplevels_foldl_unmap, List.mem_filter] at ht
    exact ⟨h.windows track ht.1, fun hc ↦ of_decide_eq_true ht.2 (ho track ht.1 hc)⟩

end OwnedBy

/-- Windows or role holders change with the input. -/
def Input.Rearranges : Input → Prop
  | .map _ _ | .unmap _ | .claimShell _ | .claimOverlay _ | .leave _ _ => True
  | _ => False

/-- All other inputs only move the foreground. -/
theorem sameWindows_step {input : Input} (hs : f.step input = some g) (hi : ¬ input.Rearranges) :
    SameWindows f g := by
  cases moved_of_step hs with
  | idle => exact .refl f
  | launch launchToken gameId => exact sameWindows_launch f launchToken gameId
  | withdraw => exact sameWindows_withdraw f
  | terminate => exact sameWindows_terminate f
  | showOverlay => exact sameWindows_showOverlay f
  | hideOverlay => exact sameWindows_hideOverlay f
  | frame tree =>
    unfold frame
    repeat' split
    all_goals first | exact .refl f | exact sameWindows_activate f
  | _ => exact absurd trivial hi

/-- An input brings at most its newcomer among the owners. -/
theorem ownedBy_step {input : Input} (h : f.OwnedBy clients) (hs : f.step input = some g)
    (hn : ∀ client, input.newcomer = some client → clients client) : g.OwnedBy clients := by
  cases moved_of_step hs with
  | map tree client _ =>
    refine OwnedBy.classify ⟨h.shell, h.overlay, ?_⟩
    intro track ht
    rcases List.mem_append.mp ht with ht | ht
    · exact h.windows track ht
    · rw [List.mem_singleton.mp ht]
      exact hn client rfl
  | unmap tree => exact h.unmap tree
  | claimShell client =>
    unfold claimShell
    split
    · exact h
    · exact OwnedBy.classify ⟨fun other ho ↦ Option.some.inj ho ▸ hn client rfl, h.overlay,
        h.windows⟩
  | claimOverlay client =>
    unfold claimOverlay
    split
    · exact h
    · exact OwnedBy.classify ⟨h.shell, fun other ho ↦ Option.some.inj ho ▸ hn client rfl,
        h.windows⟩
  | leave client order ho => exact (h.leave ho).mono fun _ hc ↦ hc.1
  | _ => exact h.of_sameWindows (sameWindows_step hs (by simp [Input.Rearranges]))

/-- A client has a role because it had one or has just claimed a free one. -/
theorem trusted_step {input : Input} (hs : f.step input = some g) {client : ClientId}
    (ht : g.Trusted client) : f.Trusted client ∨
      input = .claimShell client ∧ f.shellClient = none ∨
      input = .claimOverlay client ∧ f.overlayClient = none := by
  cases moved_of_step hs with
  | map tree other _ => exact Or.inl ht
  | unmap tree =>
    unfold Trusted at ht
    rw [shellClient_unmap, overlayClient_unmap] at ht
    exact Or.inl ht
  | claimShell other =>
    cases hc : f.shellClient with
    | some holder =>
      rw [claimShell_of_taken hc] at ht
      exact Or.inl ht
    | none =>
      rw [claimShell_of_free hc] at ht
      rcases ht with ht | ht
      · exact Or.inr (Or.inl ⟨by rw [Option.some.inj ht], rfl⟩)
      · exact Or.inl (Or.inr ht)
  | claimOverlay other =>
    cases hc : f.overlayClient with
    | some holder =>
      rw [claimOverlay_of_taken hc] at ht
      exact Or.inl ht
    | none =>
      rw [claimOverlay_of_free hc] at ht
      rcases ht with ht | ht
      · exact Or.inl (Or.inl ht)
      · exact Or.inr (Or.inr ⟨by rw [Option.some.inj ht], rfl⟩)
  | leave other order _ =>
    obtain ⟨hshell, hoverlay⟩ := holders_leave f other order
    unfold Trusted at ht
    rw [hshell, hoverlay, resign] at ht
    left
    rcases ht with ht | ht
    · exact Or.inl (Option.ite_none_left_eq_some.mp ht.symm).2.symm
    · exact Or.inr (Option.ite_none_left_eq_some.mp ht.symm).2.symm
  | _ =>
    have hw := sameWindows_step hs (by simp [Input.Rearranges])
    unfold Trusted at ht ⊢
    rw [hw.shellClient, hw.overlayClient] at ht
    exact Or.inl ht

end Foreground

end PlayosCompositor
