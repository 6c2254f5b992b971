import PlayosCompositor.Overlay.Binding
import PlayosCompositor.Overlay.Framing
import PlayosCompositor.Runs.Foreground

/-!
# Overlay traffic of a client without the overlay role

`playos_overlay_v1` is open to every client. What a client that never holds the overlay role
does with it is deleted from a run, and the run goes on as before: only the client's own
bindings are missing. Identities stay comparable because the allocator may hand out the ones
of deleted bindings elsewhere.
-/

namespace PlayosCompositor

/-! ### Runs without a client's overlay traffic -/

/-- One turn of the compositor: an event, or an identity that goes to other code. -/
inductive Turn
  | event (e : Event)
  | elsewhere

/-- The compositor with an allocator that it shares with other code. -/
def sharedSystem : Transition.System Compositor Turn where
  initial := compositorSystem.initial
  step c
    | .event e => step c e
    | .elsewhere => some { c with nextId := c.nextId + 1 }

/-- The client that has bound a resource. -/
def Registry.binder (r : Registry) (resource : ResourceId) : Option ClientId :=
  (r.overlayResources.find? fun bound ↦ bound.resource = resource).map OverlayBound.client

/-- What is left of an event when the client's binds of `playos_overlay_v1` and its requests on
them are deleted: a binding's identity goes elsewhere, and no binding is destroyed when the
client goes. -/
def withoutOverlayTraffic (client : ClientId) (c : Compositor) : Event → List Turn
  | .bindOverlay other created =>
    if other ≠ client then [.event (.bindOverlay other created)]
    else if created then [.elsewhere]
    else []
  | .overlayRequest resource request =>
    if c.binder resource = some client then [] else [.event (.overlayRequest resource request)]
  | .disconnect other order =>
    if other = client then [.event (.disconnect other ((treesOf order).map .toplevel))]
    else [.event (.disconnect other order)]
  | e => [.event e]

/-- The second compositor differs from the first in the client's bindings, which it does not
have, and in what the client is told about failed binds. -/
structure Unobserved (client : ClientId) (c d : Compositor) : Prop where
  state : d = { c with
    overlayResources := c.overlayResources.filter fun bound ↦ bound.client ≠ client
    wire := d.wire }
  wire : d.wire.filter (· ≠ .noMemory client) = c.wire.filter (· ≠ .noMemory client)

namespace Unobserved

variable {client : ClientId} {c d : Compositor}

private theorem refl (h : ∀ bound ∈ c.overlayResources, bound.client ≠ client) :
    Unobserved client c c where
  state := by
    have hb : c.overlayResources.filter (fun bound ↦ bound.client ≠ client) =
        c.overlayResources := by simpa using h
    rw [hb]
  wire := rfl

private theorem exists_among (h : Unobserved client c d) : ∃ e : Compositor,
    c = e.among c.overlayResources c.wire ∧
      d = e.among (c.overlayResources.filter fun bound ↦ bound.client ≠ client) d.wire := by
  refine ⟨{ c with wire := [] }, ?_, ?_⟩
  · simp [Compositor.among]
  · rw [h.state]
    simp [Compositor.among]

private theorem framed {f : Compositor → Compositor} (hf : Framed f) (h : Unobserved client c d) :
    Unobserved client (f c) (f d) := by
  -- rewrite both sides from the compositor that they share
  obtain ⟨e, hc, hd⟩ := h.exists_among
  have hfc := hf.apply e c.overlayResources c.wire
  have hfd := hf.apply e (c.overlayResources.filter fun bound ↦ bound.client ≠ client) d.wire
  rw [← hc] at hfc
  rw [← hd] at hfd
  rw [hfc, hfd]
  refine ⟨rfl, ?_⟩
  simp only [Compositor.among, List.filter_append, h.wire]

private theorem test {p : Compositor → Prop} (hp : FramedTest p) (h : Unobserved client c d) :
    p d ↔ p c := by
  obtain ⟨e, hc, hd⟩ := h.exists_among
  rw [hc, hd, hp, hp]

private theorem guarded {p : Compositor → Prop} [DecidablePred p] {f : Compositor → Compositor}
    (hp : FramedTest p) (hf : Framed f) (h : Unobserved client c d) {c' : Compositor}
    (hs : (if p c then some (f c) else none) = some c') :
    ∃ d', (if p d then some (f d) else none) = some d' ∧ Unobserved client c' d' := by
  obtain ⟨hpc, hc⟩ := Option.ite_none_right_eq_some.mp hs
  refine ⟨f d, if_pos ((h.test hp).mpr hpc), ?_⟩
  exact Option.some.inj hc ▸ h.framed hf

private theorem find?_client (h : Unobserved client c d) {other : ClientId} (ho : other ≠ client) :
    (d.overlayResources.find? fun bound ↦ bound.client = other) =
      c.overlayResources.find? fun bound ↦ bound.client = other := by
  have hb := congrArg (fun d : Compositor ↦ d.overlayResources) h.state
  dsimp only at hb
  rw [hb, List.find?_filter]
  congr 1
  funext bound
  by_cases hc : bound.client = other
  · simp [hc, ho]
  · simp [hc]

private theorem find?_resource (h : Unobserved client c d) {resource : ResourceId}
    {bound : OverlayBound}
    (hf : (c.overlayResources.find? fun bound ↦ bound.resource = resource) = some bound)
    (ho : bound.client ≠ client) :
    (d.overlayResources.find? fun bound ↦ bound.resource = resource) = some bound := by
  have hb := congrArg (fun d : Compositor ↦ d.overlayResources) h.state
  dsimp only at hb
  rw [hb]
  exact Foreground.find?_filter_of_find? hf (by simpa using ho)

private theorem playosOverlayResolveResource (h : Unobserved client c d) {other : ClientId}
    (ho : other ≠ client) :
    Unobserved client (playosOverlayResolveResource c other)
      (playosOverlayResolveResource d other) := by
  unfold PlayosCompositor.playosOverlayResolveResource
  rw [h.find?_client ho]
  split
  · exact h
  · next bound hf =>
    exact h.framed (f := fun c ↦ playosOverlaySendOutputInfo
      { c with overlayResource := some bound.resource })
      (framed_playosOverlaySendOutputInfo.comp fun _ _ _ ↦ rfl)

private theorem playosManagerRegisterOverlay (h : Unobserved client c d) {other : ClientId}
    (ho : c.overlayClient = none → other ≠ client) :
    Unobserved client (playosManagerRegisterOverlay c other)
      (playosManagerRegisterOverlay d other) := by
  have hd : d.overlayClient = c.overlayClient := by rw [h.state]
  cases hc : c.overlayClient with
  | none =>
    rw [playosManagerRegisterOverlay_of_free hc, playosManagerRegisterOverlay_of_free (hd ▸ hc)]
    have hset : Framed fun c ↦
        { c with overlayClient := some other, overlayClientDestroy := some other } :=
      fun _ _ _ ↦ rfl
    exact (h.framed (framed_playosCompositorReclassifyToplevels.comp hset)
      ).playosOverlayResolveResource (ho hc)
  | some holder =>
    rw [playosManagerRegisterOverlay_of_taken hc, playosManagerRegisterOverlay_of_taken (hd ▸ hc)]
    exact h.framed (.send _)

private theorem playosOverlayBind (h : Unobserved client c d) {other : ClientId}
    (ho : other ≠ client) (created : Bool) :
    Unobserved client (playosOverlayBind c other created) (playosOverlayBind d other created) := by
  cases created with
  | false => exact h.framed (.send (.noMemory other))
  | true =>
    have hbound : Unobserved client
        { c with
          nextId := c.nextId + 1
          overlayResources := ⟨other, c.nextId⟩ :: c.overlayResources }
        { d with
          nextId := d.nextId + 1
          overlayResources := ⟨other, d.nextId⟩ :: d.overlayResources } := by
      refine ⟨?_, h.wire⟩
      rw [h.state]
      simp [ho]
    have hd : d.overlayClient = c.overlayClient := by rw [h.state]
    simp only [PlayosCompositor.playosOverlayBind, Bool.not_true, Bool.false_eq_true, ↓reduceIte]
    by_cases hc : c.overlayClient = some other
    · rw [if_pos hc, if_pos (hd ▸ hc)]
      exact hbound.playosOverlayResolveResource ho
    · rw [if_neg hc, if_neg (hd ▸ hc)]
      exact hbound

private theorem playosOverlayBind_self (h : Unobserved client c d)
    (hu : c.overlayClient ≠ some client) :
    Unobserved client (PlayosCompositor.playosOverlayBind c client true)
      { d with nextId := d.nextId + 1 } := by
  simp only [PlayosCompositor.playosOverlayBind, Bool.not_true, Bool.false_eq_true, ↓reduceIte,
    hu]
  refine ⟨?_, h.wire⟩
  rw [h.state]
  simp

private theorem playosOverlayRequest (h : Unobserved client c d) (other : ClientId)
    (request : OverlayRequest) :
    Unobserved client (playosOverlayRequest c other request)
      (playosOverlayRequest d other request) := by
  apply h.framed (f := (PlayosCompositor.playosOverlayRequest · other request))
  refine .ite (fun _ _ _ ↦ Iff.rfl) .skip ?_
  cases request with
  | setSurface => exact .skip
  | surfaceReady => exact .skip
  | requestDismiss => exact framed_playosOverlayManagerHide

private theorem destroyObject (h : Unobserved client c d) (object : ClientObject) :
    Unobserved client (destroyObject c object) (destroyObject d object) := by
  cases object with
  | toplevel tree =>
    have hd : d.track? tree = c.track? tree := by rw [h.state]
    simp only [PlayosCompositor.destroyObject, hd]
    cases c.track? tree with
    | none => exact h
    | some track => exact h.framed (framed_handleToplevelDestroy track)
  | overlayBinding resource =>
    have hd : d.overlayResource = c.overlayResource := by rw [h.state]
    have hb := congrArg (fun d : Compositor ↦ d.overlayResources) h.state
    simp only [PlayosCompositor.destroyObject, playosOverlayResourceDestroy, hd]
    dsimp only at hb
    split
    all_goals
      refine ⟨?_, h.wire⟩
      rw [h.state]
      simp only [List.filter_filter, Bool.and_comm]

private theorem destroyObject_binding (h : Unobserved client c d) {resource : ResourceId}
    (ht : c.overlayResource ≠ some resource)
    (hb : ∀ bound ∈ c.overlayResources, bound.resource = resource → bound.client = client) :
    Unobserved client (PlayosCompositor.destroyObject c (.overlayBinding resource)) d := by
  have hkeep : (c.overlayResources.filter fun bound ↦ bound.resource ≠ resource).filter
      (fun bound ↦ bound.client ≠ client) =
        c.overlayResources.filter fun bound ↦ bound.client ≠ client := by
    rw [List.filter_filter]
    apply List.filter_congr
    intro bound hm
    by_cases hc : bound.client = client
    · simp [hc]
    · have hr : bound.resource ≠ resource := fun he ↦ hc (hb bound hm he)
      simp [hc, hr]
  simp only [PlayosCompositor.destroyObject, playosOverlayResourceDestroy, ht, ↓reduceIte]
  refine ⟨?_, h.wire⟩
  dsimp only
  rw [hkeep]
  exact h.state

private theorem foldl_destroyObject (h : Unobserved client c d) (order : List ClientObject) :
    Unobserved client (order.foldl PlayosCompositor.destroyObject c)
      (order.foldl PlayosCompositor.destroyObject d) := by
  induction order generalizing c d with
  | nil => exact h
  | cons object order ih => exact ih (h.destroyObject object)

private theorem foldl_destroyObject_self (h : Unobserved client c d) {order : List ClientObject}
    (ht : ∀ resource ∈ resourcesOf order, c.overlayResource ≠ some resource)
    (hb : ∀ bound ∈ c.overlayResources, bound.resource ∈ resourcesOf order →
      bound.client = client) :
    Unobserved client (order.foldl PlayosCompositor.destroyObject c)
      (((treesOf order).map ClientObject.toplevel).foldl PlayosCompositor.destroyObject d) := by
  induction order generalizing c d with
  | nil => exact h
  | cons object order ih =>
    cases object with
    | toplevel tree =>
      apply ih (h.destroyObject (.toplevel tree))
      · rwa [toRegistry_destroyObject_toplevel]
      · rwa [toRegistry_destroyObject_toplevel]
    | overlayBinding resource =>
      have hmem : resource ∈ resourcesOf (.overlayBinding resource :: order) := by
        simp [resourcesOf]
      have hsub : ∀ r ∈ resourcesOf order, r ∈ resourcesOf (.overlayBinding resource :: order) :=
        fun r hr ↦ List.mem_cons_of_mem resource hr
      apply ih (h.destroyObject_binding (ht resource hmem) fun bound hm he ↦
        hb bound hm (he ▸ hmem))
      · intro r hr
        rw [toRegistry_destroyObject_overlayBinding]
        intro hf
        exact ht r (hsub r hr) (Option.mem_filter_iff.mp hf).1
      · intro bound hm hr
        rw [toRegistry_destroyObject_overlayBinding] at hm
        exact hb bound (List.mem_filter.mp hm).1 (hsub _ hr)

private theorem wlClientDestroy (h : Unobserved client c d) (other : ClientId)
    (order : List ClientObject) :
    Unobserved client (wlClientDestroy c other order) (wlClientDestroy d other order) := by
  have hgone := (h.framed (framed_runDestroyListeners other)).foldl_destroyObject order
  exact hgone.framed (f := fun c ↦ { c with
    clients := c.clients.filter (· ≠ other)
    managers := c.managers.filter (· ≠ other) }) fun _ _ _ ↦ rfl

private theorem wlClientDestroy_self (hl : Linked c) (hbound : Bound c) (h : Unobserved client c d)
    (hu : c.overlayClient ≠ some client) {order : List ClientObject}
    (ho : order.Perm (ownedObjects c client)) :
    Unobserved client (PlayosCompositor.wlClientDestroy c client order)
      (PlayosCompositor.wlClientDestroy d client ((treesOf order).map .toplevel)) := by
  have hmem : ∀ resource, resource ∈ resourcesOf order →
      ⟨client, resource⟩ ∈ c.overlayResources := by
    intro resource hr
    rw [mem_resourcesOf, ho.mem_iff, overlayBinding_mem_ownedObjects] at hr
    obtain ⟨bound, hm, rfl, rfl⟩ := hr
    exact hm
  have hr := hl.toRegistry_runDestroyListeners client
  have hstart := h.framed (framed_runDestroyListeners client)
  have hgone : Unobserved client
      (order.foldl PlayosCompositor.destroyObject (runDestroyListeners c client))
      (((treesOf order).map ClientObject.toplevel).foldl PlayosCompositor.destroyObject
        (runDestroyListeners d client)) := by
    apply hstart.foldl_destroyObject_self
    · intro resource hres
      rw [hr]
      intro ht
      -- the target is a binding of the overlay client, who is somebody else
      obtain ⟨holder, hh, hm⟩ := hbound.target_mem ht
      cases hbound.client_unique hm (hmem resource hres) rfl
      exact hu hh
    · rw [hr]
      intro bound hm hres
      exact congrArg OverlayBound.client (hbound.client_unique hm (hmem _ hres) rfl)
  exact hgone.framed (f := fun c ↦ { c with
    clients := c.clients.filter (· ≠ client)
    managers := c.managers.filter (· ≠ client) }) fun _ _ _ ↦ rfl

private theorem ownedObjects (h : Unobserved client c d) {other : ClientId} (ho : other ≠ client) :
    ownedObjects d other = ownedObjects c other := by
  have hfilter : (c.overlayResources.filter fun bound ↦ bound.client ≠ client).filter
      (fun bound ↦ bound.client = other) =
        c.overlayResources.filter fun bound ↦ bound.client = other := by
    rw [List.filter_filter]
    apply List.filter_congr
    intro bound _
    by_cases hc : bound.client = other
    · simp [hc, ho]
    · simp [hc]
  rw [h.state]
  simp only [PlayosCompositor.ownedObjects, hfilter]

private theorem ownedObjects_self (h : Unobserved client c d) :
    PlayosCompositor.ownedObjects d client =
      (treesOf (PlayosCompositor.ownedObjects c client)).map .toplevel := by
  rw [h.state]
  simp [PlayosCompositor.ownedObjects, treesOf, List.filterMap_map, Function.comp_def]

end Unobserved

/-- The event is the client's own: it binds, requests something on its binding, or goes. -/
def Own (client : ClientId) (c : Compositor) : Event → Prop
  | .bindOverlay other _ => other = client
  | .overlayRequest resource _ => c.binder resource = some client
  | .disconnect other _ => other = client
  | _ => False

variable {client : ClientId} {c c' d : Compositor} {e : Event}

private theorem withoutOverlayTraffic_of_not_own (he : ¬ Own client c e) :
    withoutOverlayTraffic client c e = [.event e] := by
  cases e with
  | bindOverlay other created => exact if_pos he
  | overlayRequest resource request => exact if_neg he
  | disconnect other order => exact if_neg he
  | _ => rfl

private theorem unobserved_step_of_not_own (hu' : c'.overlayClient ≠ some client)
    (h : Unobserved client c d) (he : ¬ Own client c e) (hs : step c e = some c') :
    ∃ d', step d e = some d' ∧ Unobserved client c' d' := by
  cases handled_of_step hs with
  | ipcFd mask read _ =>
    exact h.guarded (p := fun c ↦ c.ipc.ipcSource.isSome) (fun _ _ _ ↦ Iff.rfl)
      (framed_ipcFdHandler mask read) hs
  | ipcTimer result _ _ =>
    exact h.guarded
      (p := fun c ↦ (c.ipc.ipcReconnectTimer.bind Timer.armedMs).isSome ∧
        ∀ fd ∈ c.ipc.openFds, result ≠ .connected fd)
      (f := fun c ↦ { c with
        ipc := IpcClient.ipcReconnectHandler { c.ipc with ipcReconnectTimer := some ⟨none⟩ }
          result })
      (fun _ _ _ ↦ Iff.rfl) (fun _ _ _ ↦ rfl) hs
  | ipcLink link _ =>
    exact h.guarded (p := fun c ↦ c.ipc.compositorSockFd.isSome)
      (f := fun c ↦ { c with ipc := { c.ipc with link } }) (fun _ _ _ ↦ Iff.rfl)
      (fun _ _ _ ↦ rfl) hs
  | connect other hn =>
    have hmem := h.test (p := fun c ↦ other ∈ c.clients) fun _ _ _ ↦ Iff.rfl
    refine ⟨_, if_neg (mt hmem.mp hn), ?_⟩
    exact h.framed (f := fun c ↦ { c with clients := other :: c.clients }) fun _ _ _ ↦ rfl
  | disconnect other order hm hp =>
    have hmem := h.test (p := fun c ↦ other ∈ c.clients) fun _ _ _ ↦ Iff.rfl
    exact ⟨_, if_pos ⟨hmem.mpr hm, h.ownedObjects he ▸ hp⟩, h.wlClientDestroy other order⟩
  | bindManager other created _ =>
    exact h.guarded (p := fun c ↦ other ∈ c.clients) (fun _ _ _ ↦ Iff.rfl)
      (framed_playosManagerBind other created) hs
  | registerShell other _ =>
    exact h.guarded (p := fun c ↦ other ∈ c.managers) (fun _ _ _ ↦ Iff.rfl)
      (framed_playosManagerRegisterShell other) hs
  | registerOverlay other hm =>
    -- a claim that is granted makes the client the overlay
    have ho : c.overlayClient = none → other ≠ client := by
      rintro hn rfl
      apply hu'
      rw [toForeground_playosManagerRegisterOverlay, Foreground.claimOverlay_of_free hn]
      rfl
    have hmem := h.test (p := fun c ↦ other ∈ c.managers) fun _ _ _ ↦ Iff.rfl
    exact ⟨_, if_pos (hmem.mpr hm), h.playosManagerRegisterOverlay ho⟩
  | bindOverlay other created hm =>
    have hmem := h.test (p := fun c ↦ other ∈ c.clients) fun _ _ _ ↦ Iff.rfl
    exact ⟨_, if_pos (hmem.mpr hm), h.playosOverlayBind he created⟩
  | overlayRequest resource request bound hf =>
    have ho : bound.client ≠ client := by
      intro hc
      apply he
      rw [Own, Registry.binder, hf, ← hc]
      rfl
    refine ⟨_, ?_, h.playosOverlayRequest bound.client request⟩
    exact Option.map_eq_some_iff.mpr ⟨bound, h.find?_resource hf ho, rfl⟩
  | newToplevel other alloc _ =>
    exact h.guarded (p := fun c ↦ other ∈ c.clients) (fun _ _ _ ↦ Iff.rfl)
      (framed_handleNewXdgToplevel other alloc) hs
  | commit tree surface track ht =>
    have hd := (h.test (p := fun c ↦ c.track? tree = some track) fun _ _ _ ↦ Iff.rfl).mpr ht
    exact ⟨_, Option.map_eq_some_iff.mpr ⟨track, hd, rfl⟩,
      h.framed (framed_handleToplevelCommit track surface)⟩
  | destroyToplevel tree track ht =>
    have hd := (h.test (p := fun c ↦ c.track? tree = some track) fun _ _ _ ↦ Iff.rfl).mpr ht
    exact ⟨_, Option.map_eq_some_iff.mpr ⟨track, hd, rfl⟩,
      h.framed (framed_handleToplevelDestroy track)⟩
  | key keycode state =>
    exact ⟨_, rfl, h.framed (framed_handleKeyboardKey keycode state)⟩
  | newOutput calls =>
    exact ⟨_, rfl, h.framed (framed_handleNewOutput calls)⟩
  | frame sceneOutput windowElapsed =>
    exact ⟨_, rfl, h.framed (framed_handleFrame sceneOutput windowElapsed)⟩

private theorem unobserved_step_of_own (hl : Linked c) (hb : Bound c)
    (hu : c.overlayClient ≠ some client)
    (h : Unobserved client c d) (he : Own client c e) (hs : step c e = some c') :
    ∃ d', sharedSystem.run d (withoutOverlayTraffic client c e) = some d' ∧
      Unobserved client c' d' := by
  cases handled_of_step hs with
  | bindOverlay other created _ =>
    obtain rfl : other = client := he
    rw [withoutOverlayTraffic, if_neg (not_not_intro rfl)]
    cases created with
    | true => exact ⟨_, rfl, h.playosOverlayBind_self hu⟩
    | false =>
      refine ⟨d, rfl, h.state, ?_⟩
      rw [h.wire]
      simp [playosOverlayBind]
  | overlayRequest resource request bound hf =>
    obtain ⟨found, hf', ho⟩ := Option.map_eq_some_iff.mp he
    cases Option.some.inj (hf.symm.trans hf')
    have hignored : playosOverlayRequest c bound.client request = c := if_pos (ho ▸ hu.symm)
    have hbinder : c.binder resource = some client := he
    rw [withoutOverlayTraffic, if_pos hbinder, hignored]
    exact ⟨d, rfl, h⟩
  | disconnect other order hm hp =>
    obtain rfl : other = client := he
    have hmem := h.test (p := fun c ↦ other ∈ c.clients) fun _ _ _ ↦ Iff.rfl
    rw [withoutOverlayTraffic, if_pos rfl, sharedSystem.run_singleton]
    refine ⟨_, if_pos ⟨hmem.mpr hm, ?_⟩, h.wlClientDestroy_self hl hb hu hp⟩
    rw [h.ownedObjects_self]
    exact (hp.filterMap _).map _
  | _ => cases he

/-- A step of the first compositor is matched by what is left of its event. -/
theorem unobserved_step (hl : Linked c) (hb : Bound c) (hu : c.overlayClient ≠ some client)
    (hu' : c'.overlayClient ≠ some client) (h : Unobserved client c d)
    (hs : step c e = some c') :
    ∃ d', sharedSystem.run d (withoutOverlayTraffic client c e) = some d' ∧
      Unobserved client c' d' := by
  by_cases he : Own client c e
  · exact unobserved_step_of_own hl hb hu h he hs
  · rw [withoutOverlayTraffic_of_not_own he, sharedSystem.run_singleton]
    exact unobserved_step_of_not_own hu' h he hs

/-- Delete the overlay traffic of a client that never holds the overlay role: at every point of
the run the compositor is the same but for the client's own bindings. -/
theorem overlayTraffic_unobserved {client : ClientId} {config : StartConfig}
    {es pre : List Event} {c : Compositor}
    (hu : compositorSystem.Always (fun c ↦ c.overlayClient ≠ some client)
      (playosCompositorStarted config) es)
    (hpre : pre <+: es) (hc : compositorSystem.run (playosCompositorStarted config) pre = some c) :
    compositorSystem.edited (withoutOverlayTraffic client) (playosCompositorStarted config) pre <+:
        compositorSystem.edited (withoutOverlayTraffic client) (playosCompositorStarted config) es ∧
      ∃ d, sharedSystem.run (playosCompositorStarted config)
          (compositorSystem.edited (withoutOverlayTraffic client) (playosCompositorStarted config)
            pre) = some d ∧
        Unobserved client c d := by
  obtain ⟨rest, rfl⟩ := hpre
  have hstart := compositorSystem_bound.base _ ⟨config, rfl⟩
  constructor
  · rw [compositorSystem.edited_append _ hc]
    exact List.prefix_append _ _
  · refine compositorSystem.run_edited compositorSystem_bound ?_ hstart (.refl ?_) hu.of_append hc
    · exact fun _ _ _ _ hi hq hq' hR hs ↦ unobserved_step hi.1.linked hi.2 hq hq' hR hs
    · simp [playosCompositorStarted, playosCompositorInit]

/-- A game binds `playos_overlay_v1` and asks to dismiss the overlay that is shown over it. -/
def intrusiveGameRun : List Event :=
  [.connect 1, .bindManager 1 true, .bindOverlay 1 true, .registerOverlay 1, .connect 2,
    .bindOverlay 2 true, .command (.setExpectedGame (.ofString "t") (.ofString "g")),
    .newToplevel 2 .ok, .commit 2 bufferCommit, .command .showOverlay,
    .overlayRequest 1 .requestDismiss, .disconnect 2 [.overlayBinding 1, .toplevel 2]]

/-- The theorem for the game's traffic. -/
theorem overlayTraffic_unobserved_game :
    ∃ c ∈ compositorSystem.run (playosCompositorStarted headlessStart) intrusiveGameRun,
      ∃ d, sharedSystem.run (playosCompositorStarted headlessStart)
          (compositorSystem.edited (withoutOverlayTraffic 2) (playosCompositorStarted headlessStart)
            intrusiveGameRun) = some d ∧
        Unobserved 2 c d := by
  obtain ⟨c, hc, -⟩ :
      ∃ c ∈ compositorSystem.run (playosCompositorStarted headlessStart) intrusiveGameRun,
        True := by
    decide
  exact ⟨c, hc, (overlayTraffic_unobserved (by decide) List.prefix_rfl hc).2⟩

end PlayosCompositor
