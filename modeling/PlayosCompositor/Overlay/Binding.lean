import Mathlib.Data.List.Basic
import PlayosCompositor.Foreground.Refinement

/-!
# Bindings of `playos_overlay_v1`

Who is bound, newest first, and where the overlay's events go: to the newest binding of the
client that holds the overlay role. Both promotion paths, the destruction of a binding and
the departure of a client keep it so.
-/

namespace PlayosCompositor

/-- The newest live binding of a client. -/
def Registry.newest (r : Registry) (client : ClientId) : Option ResourceId :=
  (r.overlayResources.find? fun bound ↦ bound.client = client).map OverlayBound.resource

/-- Every resource is bound once and is older than the next identity, and events go to the
newest binding of the overlay client. -/
structure Bound (c : Compositor) : Prop where
  nodup : (c.overlayResources.map OverlayBound.resource).Nodup
  fresh : ∀ bound ∈ c.overlayResources, bound.resource < c.nextId
  target : c.overlayResource = c.overlayClient.bind c.newest

variable {c c' : Compositor}

/-- A client without a binding has no newest one. -/
theorem Registry.newest_eq_none {r : Registry} {client : ClientId} :
    r.newest client = none ↔ ∀ bound ∈ r.overlayResources, bound.client ≠ client := by
  simp [newest]

/-- The newest binding of a client is one of its bindings. -/
theorem Registry.mem_of_newest {r : Registry} {client : ClientId} {resource : ResourceId}
    (h : r.newest client = some resource) : ⟨client, resource⟩ ∈ r.overlayResources := by
  obtain ⟨bound, hb, rfl⟩ := Option.map_eq_some_iff.mp h
  have hc : bound.client = client := by simpa using List.find?_some hb
  exact hc ▸ List.mem_of_find?_eq_some hb

namespace Bound

private theorem started (config : StartConfig) : Bound (playosCompositorStarted config) where
  nodup := List.nodup_nil
  fresh := by simp [playosCompositorStarted, playosCompositorInit]
  target := rfl

private theorem of_view (h : Bound c) (hb : c'.overlayResources = c.overlayResources)
    (hr : c'.overlayResource = c.overlayResource) (ho : c'.overlayClient = c.overlayClient)
    (hn : c.nextId ≤ c'.nextId) : Bound c' where
  nodup := by
    rw [hb]
    exact h.nodup
  fresh bound hm := by
    rw [hb] at hm
    exact (h.fresh bound hm).trans_le hn
  target := by
    have hw : c'.newest = c.newest := by
      funext client
      rw [Registry.newest, hb, Registry.newest]
    rw [hr, ho, hw]
    exact h.target

/-- The resource that the events go to is a binding of the overlay client. -/
theorem target_mem (h : Bound c) {resource : ResourceId} (hr : c.overlayResource = some resource) :
    ∃ client, c.overlayClient = some client ∧ ⟨client, resource⟩ ∈ c.overlayResources := by
  obtain ⟨client, ho, hn⟩ := Option.bind_eq_some_iff.mp (h.target.symm.trans hr)
  exact ⟨client, ho, Registry.mem_of_newest hn⟩

/-- A resource belongs to one client. -/
theorem client_unique (h : Bound c) {a b : OverlayBound} (ha : a ∈ c.overlayResources)
    (hb : b ∈ c.overlayResources) (he : a.resource = b.resource) : a = b :=
  List.inj_on_of_nodup_map h.nodup ha hb he

end Bound

/-! ### Objects and listeners of a leaving client -/

/-- The bindings among the objects that a leaving client's destruction visits. -/
def resourcesOf (order : List ClientObject) : List ResourceId :=
  order.filterMap fun
    | .toplevel _ => none
    | .overlayBinding resource => some resource

private theorem resourcesOf_cons_toplevel (tree : TreeId) (order : List ClientObject) :
    resourcesOf (.toplevel tree :: order) = resourcesOf order := rfl

private theorem resourcesOf_cons_overlayBinding (resource : ResourceId)
    (order : List ClientObject) :
    resourcesOf (.overlayBinding resource :: order) = resource :: resourcesOf order := rfl

/-- A resource is among a client's resources when its binding is among the client's objects. -/
theorem mem_resourcesOf {order : List ClientObject} {resource : ResourceId} :
    resource ∈ resourcesOf order ↔ .overlayBinding resource ∈ order := by
  unfold resourcesOf
  rw [List.mem_filterMap]
  constructor
  · rintro ⟨object, hm, hs⟩
    cases object with
    | toplevel tree => cases hs
    | overlayBinding r => exact Option.some.inj hs ▸ hm
  · exact fun hm ↦ ⟨_, hm, rfl⟩

/-- A client owns the bindings that are remembered for it. -/
theorem overlayBinding_mem_ownedObjects {client : ClientId} {resource : ResourceId} :
    .overlayBinding resource ∈ ownedObjects c client ↔
      ∃ bound ∈ c.overlayResources, bound.client = client ∧ bound.resource = resource := by
  simp [ownedObjects, and_assoc]

/-- A destroyed window leaves the registry alone. -/
@[simp] theorem toRegistry_destroyObject_toplevel (c : Compositor) (tree : TreeId) :
    (destroyObject c (.toplevel tree)).toRegistry = c.toRegistry := by
  simp only [destroyObject]
  split <;> simp

/-- A destroyed binding is forgotten, also as a target. -/
@[simp] theorem toRegistry_destroyObject_overlayBinding (c : Compositor) (resource : ResourceId) :
    (destroyObject c (.overlayBinding resource)).toRegistry = { c.toRegistry with
      overlayResource := c.overlayResource.filter (· ≠ resource)
      overlayResources := c.overlayResources.filter fun bound ↦ bound.resource ≠ resource } := by
  simp only [destroyObject, playosOverlayResourceDestroy]
  cases h : c.overlayResource with
  | none => simp [h]
  | some target => by_cases ht : target = resource <;> simp [ht, h, Option.filter]

private theorem toRegistry_foldl_destroyObject (c : Compositor) (order : List ClientObject) :
    (order.foldl destroyObject c).toRegistry = { c.toRegistry with
      overlayResource := c.overlayResource.filter (· ∉ resourcesOf order)
      overlayResources :=
        c.overlayResources.filter fun bound ↦ bound.resource ∉ resourcesOf order } := by
  induction order generalizing c with
  | nil =>
    have hr : c.overlayResource.filter (fun _ ↦ true) = c.overlayResource := by
      cases c.overlayResource <;> rfl
    simp [resourcesOf, hr]
  | cons object order ih =>
    rw [List.foldl_cons, ih]
    cases object with
    | toplevel tree => rw [toRegistry_destroyObject_toplevel, resourcesOf_cons_toplevel]
    | overlayBinding resource =>
      rw [toRegistry_destroyObject_overlayBinding, resourcesOf_cons_overlayBinding]
      simp [Option.filter_filter, List.filter_filter, Bool.and_comm]

/-- The listeners of a leaving client are unlinked. -/
theorem Linked.toRegistry_runDestroyListeners (h : Linked c) (client : ClientId) :
    (runDestroyListeners c client).toRegistry = { c.toRegistry with
      shellClientDestroy := (runDestroyListeners c client).shellClient
      overlayClientDestroy := (runDestroyListeners c client).overlayClient } := by
  have hl := linked_runDestroyListeners h client
  rw [← hl.shell, ← hl.overlay]
  rw [runDestroyListeners_eq]

private theorem mem_resourcesOf_order {client : ClientId} {order : List ClientObject}
    (ho : order.Perm (ownedObjects c client)) {resource : ResourceId} :
    resource ∈ resourcesOf order ↔
      ∃ bound ∈ c.overlayResources, bound.client = client ∧ bound.resource = resource := by
  rw [mem_resourcesOf, ho.mem_iff, overlayBinding_mem_ownedObjects]

/-- A client that leaves takes along its bindings, its links and, with the overlay role, the
target of the events. -/
theorem toRegistry_wlClientDestroy (hl : Linked c) (h : Bound c) {client : ClientId}
    {order : List ClientObject} (ho : order.Perm (ownedObjects c client)) :
    (wlClientDestroy c client order).toRegistry =
      { overlayResource := if c.overlayClient = some client then none else c.overlayResource
        overlayResources := c.overlayResources.filter fun bound ↦ bound.client ≠ client
        shellClientDestroy := if c.shellClient = some client then none else c.shellClient
        overlayClientDestroy := if c.overlayClient = some client then none else c.overlayClient
        clients := c.clients.filter (· ≠ client)
        managers := c.managers.filter (· ≠ client)
        nextId := c.nextId } := by
  have hlisten := hl.toRegistry_runDestroyListeners client
  rw [hl.toForeground_runDestroyListeners] at hlisten
  have hmem : ∀ bound ∈ c.overlayResources,
      bound.resource ∈ resourcesOf order ↔ bound.client = client := by
    intro bound hb
    rw [mem_resourcesOf_order ho]
    constructor
    · rintro ⟨a, ha, hc, he⟩
      exact h.client_unique ha hb he ▸ hc
    · exact fun hc ↦ ⟨bound, hb, hc, rfl⟩
  have hresources : c.overlayResources.filter (fun bound ↦ bound.resource ∉ resourcesOf order) =
      c.overlayResources.filter fun bound ↦ bound.client ≠ client := by
    apply List.filter_congr
    intro bound hb
    simp [hmem bound hb]
  have htarget : c.overlayResource.filter (· ∉ resourcesOf order) =
      if c.overlayClient = some client then none else c.overlayResource := by
    cases hr : c.overlayResource with
    | none => simp
    | some resource =>
      obtain ⟨holder, hh, hb⟩ := h.target_mem hr
      have hiff := hmem _ hb
      by_cases hc : holder = client <;> simp_all [Option.filter]
  simp only [wlClientDestroy, toRegistry_foldl_destroyObject, hlisten, Foreground.resign,
    hresources, htarget]

/-! ### Steps -/

/-- Bindings, their target and the overlay client are as they were. -/
structure SameBindings (c c' : Compositor) : Prop where
  overlayClient : c'.overlayClient = c.overlayClient
  overlayResource : c'.overlayResource = c.overlayResource
  overlayResources : c'.overlayResources = c.overlayResources
  nextId : c.nextId ≤ c'.nextId

private theorem SameBindings.of_sameWindows (hr : c'.toRegistry = c.toRegistry)
    (hw : Foreground.SameWindows c.toForeground c'.toForeground) : SameBindings c c' where
  overlayClient := hw.overlayClient
  overlayResource := congrArg _ hr
  overlayResources := congrArg _ hr
  nextId := by rw [hr]

/-- Bindings change where the overlay registers, binds or leaves with them. -/
theorem sameBindings_step {e : Event} (hs : step c e = some c')
    (hr : ∀ client, e ≠ .registerOverlay client)
    (hb : ∀ client created, e ≠ .bindOverlay client created)
    (hd : ∀ client order, e ≠ .disconnect client order) : SameBindings c c' := by
  cases handled_of_step hs with
  | ipcFd mask read _ =>
    unfold ipcFdHandler
    repeat' split
    all_goals first
      | exact .of_sameWindows (toRegistry_ipcDispatch c _) (sameWindows_ipcDispatch c _)
      | exact ⟨rfl, rfl, rfl, le_rfl⟩
  | ipcTimer result _ _ => exact ⟨rfl, rfl, rfl, le_rfl⟩
  | ipcLink link _ => exact ⟨rfl, rfl, rfl, le_rfl⟩
  | connect client _ => exact ⟨rfl, rfl, rfl, le_rfl⟩
  | disconnect client order _ _ => exact absurd rfl (hd client order)
  | bindManager client created _ => exact ⟨by simp, by simp, by simp, by simp⟩
  | registerShell client _ =>
    have hg := toRegistry_playosManagerRegisterShell c client
    refine ⟨?_, ?_, ?_, ?_⟩
    · rw [toForeground_playosManagerRegisterShell, Foreground.claimShell]
      split <;> rfl
    · rw [hg]
      split <;> rfl
    · rw [hg]
      split <;> rfl
    · rw [hg]
      split <;> exact le_rfl
  | registerOverlay client _ => exact absurd rfl (hr client)
  | bindOverlay client created _ => exact absurd rfl (hb client created)
  | overlayRequest resource request bound _ =>
    exact .of_sameWindows (toRegistry_playosOverlayRequest c bound.client request)
      (sameWindows_playosOverlayRequest c bound.client request)
  | newToplevel client alloc _ =>
    have hg := toRegistry_handleNewXdgToplevel c client alloc
    refine ⟨?_, by rw [hg], by rw [hg], ?_⟩
    · cases alloc <;> rfl
    · rw [hg]
      dsimp only
      split
      · exact le_rfl
      · exact Nat.le_succ _
  | commit tree surface track _ =>
    exact .of_sameWindows (toRegistry_handleToplevelCommit c track surface)
      (sameWindows_handleToplevelCommit c track surface)
  | destroyToplevel tree track _ =>
    have hg := toRegistry_handleToplevelDestroy c track
    refine ⟨?_, by rw [hg], by rw [hg], by rw [hg]⟩
    rw [toForeground_handleToplevelDestroy]
    split
    · exact (Foreground.sameWindows_exited _).overlayClient
    · rfl
  | key keycode state =>
    exact .of_sameWindows (toRegistry_handleKeyboardKey c keycode state)
      (sameWindows_handleKeyboardKey c keycode state)
  | newOutput calls =>
    obtain ⟨n, hn, hg⟩ := toRegistry_handleNewOutput c calls
    exact ⟨by simp, by rw [hg], by rw [hg], hg ▸ hn⟩
  | frame sceneOutput windowElapsed => exact ⟨by simp, by simp, by simp, by simp⟩

private theorem bound_playosManagerRegisterOverlay (h : Bound c) (client : ClientId) :
    Bound (playosManagerRegisterOverlay c client) := by
  have hf := toForeground_playosManagerRegisterOverlay c client
  have hr := toRegistry_playosManagerRegisterOverlay c client
  unfold Foreground.claimOverlay at hf
  split at hf
  · next hc =>
    rw [if_pos hc] at hr
    exact h.of_view (congrArg _ hr) (congrArg _ hr) (congrArg _ hf) (hr ▸ le_rfl)
  · next hc =>
    rw [if_neg hc] at hr
    have ho : c.overlayClient = none := by simpa using hc
    have ht : c.overlayResource = none := by rw [h.target, ho, Option.bind_none]
    refine ⟨?_, ?_, ?_⟩
    · rw [hr]
      exact h.nodup
    · rw [hr]
      exact h.fresh
    · rw [hf, hr, ht, Option.or_none]
      rfl

private theorem bound_playosOverlayBind (h : Bound c) (client : ClientId) (created : Bool) :
    Bound (playosOverlayBind c client created) := by
  have hf := toForeground_playosOverlayBind c client created
  have hr := toRegistry_playosOverlayBind c client created
  cases created with
  | false => exact h.of_view (congrArg _ hr) (congrArg _ hr) (congrArg _ hf) (hr ▸ le_rfl)
  | true =>
    rw [if_pos rfl] at hr
    have hfresh : c.nextId ∉ c.overlayResources.map OverlayBound.resource := by
      intro hm
      obtain ⟨bound, hb, he⟩ := List.mem_map.mp hm
      exact (h.fresh bound hb).ne he
    refine ⟨?_, ?_, ?_⟩
    · rw [hr]
      exact List.nodup_cons.mpr ⟨hfresh, h.nodup⟩
    · rw [hr]
      intro bound hb
      rcases List.mem_cons.mp hb with rfl | hb
      · exact Nat.lt_succ_self _
      · exact (h.fresh bound hb).trans (Nat.lt_succ_self _)
    · rw [hf, hr]
      cases ho : c.overlayClient with
      | none => simp [h.target, ho]
      | some holder =>
        by_cases hc : holder = client
        · simp [Registry.newest, hc]
        · have hne : client ≠ holder := fun he ↦ hc he.symm
          simp [h.target, ho, hc, hne, Registry.newest]

private theorem bound_wlClientDestroy (hl : Linked c) (h : Bound c) {client : ClientId}
    {order : List ClientObject} (ho : order.Perm (ownedObjects c client)) :
    Bound (wlClientDestroy c client order) := by
  have hr := toRegistry_wlClientDestroy hl h ho
  have hf : (wlClientDestroy c client order).overlayClient =
      if c.overlayClient = some client then none else c.overlayClient := by
    rw [← (linked_wlClientDestroy hl client order).overlay, hr]
  refine ⟨?_, ?_, ?_⟩
  · rw [hr]
    exact (List.Sublist.map _ List.filter_sublist).nodup h.nodup
  · rw [hr]
    exact fun bound hb ↦ h.fresh bound (List.mem_of_mem_filter hb)
  · rw [hf, hr]
    split
    · rfl
    · next hne =>
      rw [h.target]
      cases hc : c.overlayClient with
      | none => rfl
      | some holder =>
        have hh : holder ≠ client := fun he ↦ hne (by rw [hc, he])
        simp only [Option.bind_some, Registry.newest, List.find?_filter]
        congr 2
        funext bound
        by_cases hb : bound.client = holder <;> simp [hb, hh]

/-- Every step keeps events going to the overlay client's newest binding. -/
theorem bound_step {e : Event} (hl : Linked c) (h : Bound c) (hs : step c e = some c') :
    Bound c' := by
  cases handled_of_step hs with
  | registerOverlay client _ => exact bound_playosManagerRegisterOverlay h client
  | bindOverlay client created _ => exact bound_playosOverlayBind h client created
  | disconnect client order _ ho => exact bound_wlClientDestroy hl h ho
  | _ =>
    have hb := sameBindings_step hs (by simp) (by simp) (by simp)
    exact h.of_view hb.overlayResources hb.overlayResource hb.overlayClient hb.nextId

/-- Identities grow, only a bind adds a binding, under the next identity, and the overlay
client keeps its role while one of its bindings is left. -/
structure BindingsGrow (c c' : Compositor) : Prop where
  nextId : c.nextId ≤ c'.nextId
  added : ∀ bound ∈ c'.overlayResources, bound ∈ c.overlayResources ∨ bound.resource = c.nextId
  holder : ∀ bound ∈ c'.overlayResources, c.overlayClient = some bound.client →
    c'.overlayClient = some bound.client

/-- Every step treats bindings so. -/
theorem bindingsGrow_step {e : Event} (hl : Linked c) (h : Bound c) (hs : step c e = some c') :
    BindingsGrow c c' := by
  cases handled_of_step hs with
  | registerOverlay client _ =>
    have hr := toRegistry_playosManagerRegisterOverlay c client
    refine ⟨?_, ?_, ?_⟩
    · rw [hr]
      split <;> exact le_rfl
    · rw [hr]
      split <;> exact fun bound hb ↦ Or.inl hb
    · intro bound _ ho
      rw [playosManagerRegisterOverlay_of_taken ho]
      exact ho
  | bindOverlay client created _ =>
    have hr := toRegistry_playosOverlayBind c client created
    refine ⟨?_, ?_, ?_⟩
    · rw [hr]
      split
      · exact Nat.le_succ _
      · exact le_rfl
    · rw [hr]
      intro bound hb
      split at hb
      · rcases List.mem_cons.mp hb with rfl | hb
        · exact Or.inr rfl
        · exact Or.inl hb
      · exact Or.inl hb
    · intro bound _ ho
      rw [toForeground_playosOverlayBind]
      exact ho
  | disconnect client order _ ho =>
    have hr := toRegistry_wlClientDestroy hl h ho
    refine ⟨by rw [hr], ?_, ?_⟩
    · rw [hr]
      exact fun bound hb ↦ Or.inl (List.mem_of_mem_filter hb)
    · intro bound hb hh
      have hne : bound.client ≠ client := by
        rw [hr] at hb
        simpa using (List.mem_filter.mp hb).2
      rw [← (linked_wlClientDestroy hl client order).overlay, hr, hh]
      exact if_neg fun he ↦ hne (Option.some.inj he)
  | _ =>
    have hb := sameBindings_step hs (by simp) (by simp) (by simp)
    refine ⟨hb.nextId, fun bound hm ↦ Or.inl ?_, fun bound _ ho ↦ hb.overlayClient.trans ho⟩
    rw [← hb.overlayResources]
    exact hm

/-- Reachable compositors are well-formed and send overlay events to the right binding. -/
theorem compositorSystem_bound : compositorSystem.Invariant fun c ↦ c.WF ∧ Bound c where
  base c hc := ⟨compositorSystem_wf.base c hc, by
    obtain ⟨config, rfl⟩ := hc
    exact Bound.started config⟩
  step c e c' h hs := ⟨compositorSystem_wf.step c e c' h.1 hs, bound_step h.1.linked h.2 hs⟩

end PlayosCompositor
