import PlayosCompositor.Overlay.Events
import PlayosCompositor.Runs.Foreground

/-!
# What the overlay knows of its visibility

A promoted binding is told the output but not the visibility, so the overlay is informed
exactly while no binding is promoted under a shown overlay. A binding that waits for the
role has never been sent an event.
-/

namespace PlayosCompositor

/-- Overlay events were sent to known resources, and never to one that waits for the role. -/
structure Addressed (c : Compositor) : Prop where
  known : ∀ resource event, .overlay resource event ∈ c.wire → resource < c.nextId
  waiting : ∀ bound ∈ c.overlayResources, c.overlayClient ≠ some bound.client →
    ∀ event, .overlay bound.resource event ∉ c.wire

variable {c c' : Compositor} {e : Event}

/-- The overlay events of a step go to the target that it leaves. -/
theorem Emission.target (h : Emission c e c') : ∃ events, c'.wire = c.wire ++ events ∧
    ∀ resource event, .overlay resource event ∈ events → c'.overlayResource = some resource := by
  cases h with
  | emits hp h =>
    obtain ⟨events, hw, ht⟩ := h.wire
    refine ⟨events, hw, fun resource event hm ↦ ?_⟩
    rw [h.overlayResource]
    exact ht resource event hm
  | connection hp ipc h =>
    refine ⟨[], ?_, by simp⟩
    rw [h, List.append_nil]
  | released hp h hr => exact ⟨[], by rw [h.wire, List.append_nil], by simp⟩
  | promotes hp resource h origin =>
    obtain ⟨width, height, refreshMhz, scale100, hw⟩ := h.wire
    exact ⟨_, hw, by simp [h.overlayResource]⟩

private theorem Addressed.unsent (h : Addressed c) {resource : ResourceId}
    (ho : resource = c.nextId ∨
      c.overlayClient = none ∧ ∃ bound ∈ c.overlayResources, bound.resource = resource) :
    ∀ event, .overlay resource event ∉ c.wire := by
  rcases ho with rfl | ⟨hn, bound, hb, rfl⟩
  · exact fun event hm ↦ (h.known _ event hm).false
  · exact h.waiting bound hb (by simp [hn])

/-- Every step addresses its events so. -/
theorem addressed_step (hw : c.WF) (hb : Bound c) (h : Addressed c) (hs : step c e = some c') :
    Addressed c' := by
  have hb' : Bound c' := bound_step hw.linked hb hs
  have hg := bindingsGrow_step hw.linked hb hs
  obtain ⟨events, hwire, htarget⟩ := (emission_step hw hb hs).target
  constructor
  · intro resource event hm
    rw [hwire] at hm
    rcases List.mem_append.mp hm with hm | hm
    · exact (h.known resource event hm).trans_le hg.nextId
    · obtain ⟨holder, -, hbound⟩ := hb'.target_mem (htarget resource event hm)
      exact hb'.fresh _ hbound
  · intro bound hbound hn event hm
    rw [hwire] at hm
    rcases List.mem_append.mp hm with hm | hm
    · rcases hg.added bound hbound with hold | hnew
      · exact h.waiting bound hold (fun ho ↦ hn (hg.holder bound hbound ho)) event hm
      · exact (hnew ▸ h.known _ event hm).false
    · obtain ⟨holder, hh, ht⟩ := hb'.target_mem (htarget _ event hm)
      have heq := hb'.client_unique hbound ht rfl
      exact hn (by rw [hh, heq])

private theorem compositorSystem_addressed :
    compositorSystem.Invariant fun c ↦ (c.WF ∧ Bound c) ∧ Addressed c where
  base c hc := ⟨compositorSystem_bound.base c hc, by
    obtain ⟨config, rfl⟩ := hc
    exact ⟨by simp [playosCompositorStarted, playosCompositorInit],
      by simp [playosCompositorStarted, playosCompositorInit]⟩⟩
  step c e c' h hs :=
    ⟨compositorSystem_bound.step c e c' h.1 hs, addressed_step h.1.1 h.1.2 h.2 hs⟩

private theorem overlayTold_step_iff (h : (c.WF ∧ Bound c) ∧ Addressed c) (ht : c.OverlayTold)
    (hs : step c e = some c') :
    c'.OverlayTold ↔ (Promotion c e → c.overlayVisible = false) := by
  cases emission_step h.1.1 h.1.2 hs with
  | emits hp he => exact iff_of_true (he.told ht) fun hp' ↦ absurd hp' hp
  | connection hp ipc he => exact iff_of_true (he ▸ ht) fun hp' ↦ absurd hp' hp
  | released hp he hr =>
    refine iff_of_true (fun resource hr' ↦ ?_) fun hp' ↦ absurd hp' hp
    exact absurd (hr.symm.trans hr') (by simp)
  | promotes hp resource he origin =>
    obtain ⟨width, height, refreshMhz, scale100, hw⟩ := he.wire
    have hshown : shownTo c'.wire resource = false := by
      rw [hw, shownTo_append_singleton, shownTo_of_unsent (h.2.unsent origin)]
      rfl
    have hiff : c'.OverlayTold ↔ c.overlayVisible = false := by
      unfold Compositor.OverlayTold
      simp [he.overlayResource, hshown, he.overlayVisible]
    rw [hiff]
    exact ⟨fun hv _ ↦ hv, fun hv ↦ hv hp⟩

/-- The overlay knows its visibility throughout exactly the runs in which no binding is
promoted while the overlay is shown. -/
theorem always_overlayTold_iff (config : StartConfig) (es : List Event) :
    compositorSystem.Always Compositor.OverlayTold (playosCompositorStarted config) es ↔
      compositorSystem.Each (fun c e _ ↦ Promotion c e → c.overlayVisible = false)
        (playosCompositorStarted config) es := by
  refine compositorSystem.always_iff_each compositorSystem_addressed ?_ ?_ ?_ es
  · exact fun _ _ _ h ht hs ↦ overlayTold_step_iff h ht hs
  · exact compositorSystem_addressed.base _ ⟨config, rfl⟩
  · intro resource hr
    cases hr

/-- The overlay crashes while it is shown over a game, and its successor binds and takes the
role. -/
def restartedOverlayRun : List Event :=
  [.connect 1, .bindManager 1 true, .bindOverlay 1 true, .registerOverlay 1,
    .command (.setExpectedGame (.ofString "t") (.ofString "g")), .connect 2, .newToplevel 2 .ok,
    .commit 1 bufferCommit, .command .showOverlay, .disconnect 1 [.overlayBinding 0],
    .connect 3, .bindManager 3 true, .bindOverlay 3 true, .registerOverlay 3]

/-- The successor is shown and has never been told so. -/
theorem overlayTold_fails :
    ∃ c ∈ compositorSystem.run (playosCompositorStarted headlessStart) restartedOverlayRun,
      c.overlayResource = some 2 ∧ c.overlayVisible = true ∧ shownTo c.wire 2 = false := by
  decide

end PlayosCompositor
