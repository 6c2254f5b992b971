import PlayosCompositor.Overlay.Visibility

/-!
# Where overlay events go

The history of a run remembers which bindings are alive, newest first. The compositor's own
list is that history, and the target of its overlay events is the newest live binding of
the overlay client, whatever the order of binding and registration was.
-/

namespace PlayosCompositor

/-- The live bindings, newest first, after one more event. -/
def noteBinding (live : List OverlayBound) (c : Compositor) : Event → List OverlayBound
  | .bindOverlay client created =>
    if created then ⟨client, c.nextId⟩ :: live else live
  | .disconnect client _ => live.filter fun bound ↦ bound.client ≠ client
  | _ => live

/-- The compositor together with the live bindings. -/
def bindingSystem : Transition.System (Compositor × List OverlayBound) Event :=
  compositorSystem.withHistory [] noteBinding

/-- The compositor remembers exactly the live bindings. -/
structure BindingsNoted (p : Compositor × List OverlayBound) : Prop where
  wf : p.1.WF
  bound : Bound p.1
  live : p.1.overlayResources = p.2

private theorem bindingSystem_noted : bindingSystem.Invariant BindingsNoted where
  base p hp := by
    have h := compositorSystem_bound.base p.1 hp.1
    obtain ⟨⟨config, hc⟩, hl⟩ := hp
    refine ⟨h.1, h.2, ?_⟩
    rw [hl, hc]
    rfl
  step p e q hp hs := by
    obtain ⟨hstep, hn⟩ := compositorSystem.withHistory_step_some.mp hs
    have hc : step p.1 e = some q.1 := hstep
    have h := compositorSystem_bound.step _ _ _ ⟨hp.wf, hp.bound⟩ hc
    refine ⟨h.1, h.2, ?_⟩
    rw [hn, ← hp.live]
    generalize q.1 = d at hc ⊢
    cases handled_of_step hc with
    | registerOverlay client _ =>
      rw [toRegistry_playosManagerRegisterOverlay]
      split <;> rfl
    | bindOverlay client created _ =>
      rw [toRegistry_playosOverlayBind]
      cases created <;> rfl
    | disconnect client order _ ho =>
      rw [toRegistry_wlClientDestroy hp.wf.linked hp.bound ho]
      rfl
    | _ => exact (sameBindings_step hc (by simp) (by simp) (by simp)).overlayResources

/-- The binding is the newest of its client. -/
def NewestOf (live : List OverlayBound) (client : ClientId) (resource : ResourceId) : Prop :=
  ∃ newer older, live = newer ++ ⟨client, resource⟩ :: older ∧
    ∀ bound ∈ newer, bound.client ≠ client

private theorem Registry.newest_eq_some_iff {r : Registry} {client : ClientId}
    {resource : ResourceId} :
    r.newest client = some resource ↔ NewestOf r.overlayResources client resource := by
  unfold newest NewestOf
  constructor
  · intro h
    obtain ⟨bound, hb, rfl⟩ := Option.map_eq_some_iff.mp h
    obtain ⟨hc, newer, older, hl, hn⟩ := List.find?_eq_some_iff_append.mp hb
    have hclient : bound.client = client := of_decide_eq_true hc
    refine ⟨newer, older, hclient ▸ hl, ?_⟩
    simpa using hn
  · rintro ⟨newer, older, hl, hn⟩
    have hf : r.overlayResources.find? (fun bound ↦ bound.client = client) =
        some ⟨client, resource⟩ := by
      rw [List.find?_eq_some_iff_append]
      exact ⟨by simp, newer, older, hl, by simpa using hn⟩
    rw [hf]
    rfl

/-- In every reachable state overlay events go to the newest live binding of the overlay
client, to none exactly when nobody holds the role or the holder has no live binding, and
each event of a step goes to a resource that only the holder has bound. -/
theorem overlay_target_newest {p : Compositor × List OverlayBound}
    (hp : bindingSystem.Reachable p) :
    (∀ resource, p.1.overlayResource = some resource ↔
      ∃ holder, p.1.overlayClient = some holder ∧ NewestOf p.2 holder resource) ∧
    (p.1.overlayResource = none ↔ p.1.overlayClient = none ∨
      ∃ holder, p.1.overlayClient = some holder ∧ ∀ bound ∈ p.2, bound.client ≠ holder) ∧
    ∀ e q, bindingSystem.step p e = some q → ∃ events, q.1.wire = p.1.wire ++ events ∧
      ∀ resource event, .overlay resource event ∈ events →
        q.1.overlayResource = some resource ∧
          ∀ bound ∈ q.2, bound.resource = resource → q.1.overlayClient = some bound.client := by
  have h := bindingSystem_noted.reachable hp
  have htarget := h.bound.target
  refine ⟨?_, ?_, ?_⟩
  · intro resource
    rw [htarget, Option.bind_eq_some_iff, ← h.live]
    simp only [Registry.newest_eq_some_iff]
  · rw [htarget, Option.bind_eq_none_iff, ← h.live]
    cases ho : p.1.overlayClient with
    | none => simp
    | some holder => simp [Registry.newest_eq_none]
  · intro e q hs
    have hq := bindingSystem_noted.step p e q h hs
    obtain ⟨hc, -⟩ := compositorSystem.withHistory_step_some.mp hs
    obtain ⟨events, hw, ht⟩ := (emission_step h.wf h.bound hc).target
    refine ⟨events, hw, fun resource event hm ↦ ⟨ht resource event hm, ?_⟩⟩
    intro bound hb he
    obtain ⟨holder, hh, hbt⟩ := hq.bound.target_mem (ht resource event hm)
    rw [← hq.live] at hb
    rw [hh, hq.bound.client_unique hb hbt he]

/-- A client binds before it registers, another one binds, and the first binds once more. -/
def reboundOverlayRun : List Event :=
  [.connect 1, .connect 2, .bindManager 1 true, .bindOverlay 1 true, .registerOverlay 1,
    .bindOverlay 2 true, .bindOverlay 1 true]

/-- The theorem where the target is the second binding of the overlay client. -/
theorem overlay_target_newest_rebound :
    ∃ p ∈ bindingSystem.run (playosCompositorStarted headlessStart, []) reboundOverlayRun,
      p.1.overlayResource = some 2 ∧ p.2 = [⟨1, 2⟩, ⟨2, 1⟩, ⟨1, 0⟩] ∧
        ∃ holder, p.1.overlayClient = some holder ∧ NewestOf p.2 holder 2 := by
  obtain ⟨p, hp, hr, hl⟩ :
      ∃ p ∈ bindingSystem.run (playosCompositorStarted headlessStart, []) reboundOverlayRun,
        p.1.overlayResource = some 2 ∧ p.2 = [⟨1, 2⟩, ⟨2, 1⟩, ⟨1, 0⟩] := by
    decide
  have hreach : bindingSystem.Reachable p := ⟨_, _, ⟨⟨headlessStart, rfl⟩, rfl⟩, hp⟩
  exact ⟨p, hp, hr, hl, ((overlay_target_newest hreach).1 2).mp hr⟩

end PlayosCompositor
