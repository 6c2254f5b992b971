import PlayosCompositor.Foreground.Messages
import PlayosCompositor.Overlay.Binding

/-!
# What the compositor sends while bindings rest

Between two promotions every handler only appends: messages to playos-init with the outcome
of the present connection, and overlay events to the present target that keep it informed
of the visibility (`Emits`). `emission_step` says what else a step can do.
-/

namespace PlayosCompositor

/-! ### The visibility that a resource was told -/

/-- The visibility that an event tells a resource, if it tells one. -/
def toldVisible (resource : ResourceId) : WireEvent → Option Bool
  | .overlay target .aboutToShow => if target = resource then some true else none
  | .overlay target .aboutToHide => if target = resource then some false else none
  | _ => none

/-- Whether the last visibility told to a resource was shown; none told counts as hidden. -/
def shownTo (wire : List WireEvent) (resource : ResourceId) : Bool :=
  (wire.filterMap (toldVisible resource)).getLast?.getD false

/-- The resource that the events go to has been told the present visibility. -/
def Compositor.OverlayTold (c : Compositor) : Prop :=
  ∀ resource, c.overlayResource = some resource →
    (shownTo c.wire resource = true ↔ c.overlayVisible = true)

/-- The last event decides, if it tells anything. -/
@[simp] theorem shownTo_append_singleton (wire : List WireEvent) (event : WireEvent)
    (resource : ResourceId) : shownTo (wire ++ [event]) resource =
      (toldVisible resource event).getD (shownTo wire resource) := by
  unfold shownTo
  cases h : toldVisible resource event <;> simp [List.filterMap_append, h]

/-- A resource to which no event was ever sent counts as hidden. -/
theorem shownTo_of_unsent {wire : List WireEvent} {resource : ResourceId}
    (h : ∀ event, .overlay resource event ∉ wire) : shownTo wire resource = false := by
  have hnone : wire.filterMap (toldVisible resource) = [] := by
    rw [List.filterMap_eq_nil_iff]
    intro event hm
    unfold toldVisible
    split
    · next target => exact if_neg fun he ↦ h _ (he ▸ hm)
    · next target => exact if_neg fun he ↦ h _ (he ▸ hm)
    · rfl
  rw [shownTo, hnone]
  rfl

/-! ### Emissions -/

/-- Only messages and events were added: messages on the present connection, overlay events
to the present target, which stays informed. -/
structure Emits (c c' : Compositor) : Prop where
  ipc : c'.ipc = c.ipc
  overlayResource : c'.overlayResource = c.overlayResource
  sent : ∃ attempts, c'.sent = c.sent ++ attempts ∧
    ∀ attempt ∈ attempts, attempt.result = c.ipc.sendResult
  wire : ∃ events, c'.wire = c.wire ++ events ∧
    ∀ resource event, .overlay resource event ∈ events → c.overlayResource = some resource
  told : c.OverlayTold → c'.OverlayTold

namespace Emits

variable {c c₁ c' : Compositor}

private theorem of_quiet (hi : c'.ipc = c.ipc) (hr : c'.overlayResource = c.overlayResource)
    (hs : c'.sent = c.sent) (hw : c'.wire = c.wire) (hv : c'.overlayVisible = c.overlayVisible) :
    Emits c c' where
  ipc := hi
  overlayResource := hr
  sent := ⟨[], by rw [hs, List.append_nil], by simp⟩
  wire := ⟨[], by rw [hw, List.append_nil], by simp⟩
  told h := by
    unfold Compositor.OverlayTold
    rw [hr, hw, hv]
    exact h

private theorem refl (c : Compositor) : Emits c c := of_quiet rfl rfl rfl rfl rfl

private theorem trans (h : Emits c c₁) (h' : Emits c₁ c') : Emits c c' where
  ipc := h'.ipc.trans h.ipc
  overlayResource := h'.overlayResource.trans h.overlayResource
  sent := by
    obtain ⟨first, hs, hf⟩ := h.sent
    obtain ⟨second, hs', hf'⟩ := h'.sent
    refine ⟨first ++ second, by rw [hs', hs, List.append_assoc], ?_⟩
    intro attempt hm
    rcases List.mem_append.mp hm with hm | hm
    · exact hf attempt hm
    · rw [← h.ipc]
      exact hf' attempt hm
  wire := by
    obtain ⟨first, hw, hf⟩ := h.wire
    obtain ⟨second, hw', hf'⟩ := h'.wire
    refine ⟨first ++ second, by rw [hw', hw, List.append_assoc], ?_⟩
    intro resource event hm
    rcases List.mem_append.mp hm with hm | hm
    · exact hf resource event hm
    · rw [← h.overlayResource]
      exact hf' resource event hm
  told ht := h'.told (h.told ht)

private theorem of_other (event : WireEvent) (h : ∀ resource e, event ≠ .overlay resource e) :
    Emits c { c with wire := c.wire ++ [event] } where
  ipc := rfl
  overlayResource := rfl
  sent := ⟨[], by simp, by simp⟩
  wire := by
    refine ⟨[event], rfl, ?_⟩
    intro resource e hm
    exact absurd (List.mem_singleton.mp hm).symm (h resource e)
  told ht resource hr := by
    have hn : toldVisible resource event = none := by
      cases event <;> first | rfl | exact absurd rfl (h _ _)
    rw [shownTo_append_singleton, hn]
    exact ht resource hr

end Emits

/-! ### State machine and overlay manager -/

private theorem sendOverlayEvent_overlayVisible (c : Compositor) (visible : Bool)
    (event : OverlayEvent) : sendOverlayEvent { c with overlayVisible := visible } event =
      { sendOverlayEvent c event with overlayVisible := visible } := by
  unfold sendOverlayEvent
  cases c.overlayResource <;> rfl

private theorem sendOutputInfo_overlayVisible (c : Compositor) (visible : Bool) :
    playosOverlaySendOutputInfo { c with overlayVisible := visible } =
      { playosOverlaySendOutputInfo c with overlayVisible := visible } :=
  sendOverlayEvent_overlayVisible c visible _

private theorem emits_sendOverlayEvent (c : Compositor) (event : OverlayEvent)
    (h : ∀ target resource, toldVisible resource (.overlay target event) = none) :
    Emits c (sendOverlayEvent c event) := by
  unfold sendOverlayEvent
  split
  · exact .refl c
  · next target ht =>
    refine ⟨rfl, rfl, ⟨[], by simp, by simp⟩, ⟨_, rfl, by simp [ht]⟩, ?_⟩
    intro htold resource hr
    rw [shownTo_append_singleton, h]
    exact htold resource hr

-- The flag and its event belong together; in between the overlay is not informed.
private theorem emits_tell (c : Compositor) {visible : Bool} {event : OverlayEvent}
    (h : ∀ resource, toldVisible resource (.overlay resource event) = some visible) :
    Emits c { sendOverlayEvent c event with overlayVisible := visible } := by
  unfold sendOverlayEvent
  split
  · next hn =>
    refine ⟨rfl, rfl, ⟨[], by simp, by simp⟩, ⟨[], by simp, by simp⟩, ?_⟩
    intro _ resource hr
    exact absurd (hn.symm.trans hr) (by simp)
  · next target ht =>
    refine ⟨rfl, rfl, ⟨[], by simp, by simp⟩, ⟨_, rfl, by simp [ht]⟩, ?_⟩
    intro _ resource hr
    cases Option.some.inj (ht.symm.trans hr)
    rw [shownTo_append_singleton, h]
    exact Iff.rfl

private theorem emits_shown (c : Compositor) :
    Emits c { sendOverlayEvent c .aboutToShow with overlayVisible := true } :=
  emits_tell c fun _ ↦ if_pos rfl

private theorem emits_hidden (c : Compositor) :
    Emits c { sendOverlayEvent c .aboutToHide with overlayVisible := false } :=
  emits_tell c fun _ ↦ if_pos rfl

private theorem emits_playosCompositorIpcSend (c : Compositor) (message : IpcMessage) :
    Emits c (playosCompositorIpcSend c message) where
  ipc := rfl
  overlayResource := rfl
  sent := ⟨_, rfl, by simp⟩
  wire := ⟨[], by simp [playosCompositorIpcSend], by simp⟩
  told := id

private theorem emits_playosStateTransition (c : Compositor) (state : ForegroundState) :
    Emits c (playosStateTransition c state) := by
  unfold playosStateTransition
  split
  · exact .refl c
  · dsimp only
    refine .trans ?_ (emits_playosCompositorIpcSend _ _)
    split
    · by_cases hv : c.overlayVisible
      · have h : Emits c { playosOverlaySendAboutToHide c with overlayVisible := false } :=
          emits_tell c (by simp [toldVisible])
        rw [if_pos hv]
        exact h.trans (.of_quiet rfl rfl rfl rfl rfl)
      · rw [if_neg hv]
        exact .of_quiet rfl rfl rfl rfl (by simpa using hv)
    · exact .of_quiet rfl rfl rfl rfl rfl

private theorem emits_playosOverlayManagerShow (c : Compositor) :
    Emits c (playosOverlayManagerShow c) := by
  unfold playosOverlayManagerShow
  split
  · exact .refl c
  · have hinfo : Emits c (playosOverlaySendOutputInfo c) :=
      emits_sendOverlayEvent c _ fun _ _ ↦ rfl
    have hshow : Emits c (playosOverlaySendAboutToShow
        (playosOverlaySendOutputInfo { c with overlayVisible := true })) := by
      rw [sendOutputInfo_overlayVisible, playosOverlaySendAboutToShow,
        sendOverlayEvent_overlayVisible]
      exact hinfo.trans (emits_shown _)
    dsimp only
    split
    · exact hshow.trans (emits_playosStateTransition _ _)
    · exact hshow.trans (.of_quiet rfl rfl rfl rfl rfl)

private theorem emits_playosOverlayManagerHide (c : Compositor) :
    Emits c (playosOverlayManagerHide c) := by
  unfold playosOverlayManagerHide
  split
  · exact .refl c
  · have hhide : Emits c (playosOverlaySendAboutToHide { c with overlayVisible := false }) := by
      rw [playosOverlaySendAboutToHide, sendOverlayEvent_overlayVisible]
      exact emits_hidden c
    dsimp only
    split
    · exact hhide.trans (emits_playosStateTransition _ _)
    · exact hhide.trans (.of_quiet rfl rfl rfl rfl rfl)

/-- A command emits what its handler does. -/
theorem emits_ipcDispatch (c : Compositor) (command : IpcCommand) :
    Emits c (ipcDispatch c command) := by
  have hforget (c : Compositor) : Emits c (forgetExpected c) := .of_quiet rfl rfl rfl rfl rfl
  cases command with
  | setExpectedGame launchToken gameId =>
    refine Emits.trans ?_ (emits_playosStateTransition _ _)
    exact .of_quiet rfl rfl rfl rfl rfl
  | clearExpectedGame =>
    simp only [ipcDispatch, playosStateHandleClearExpected]
    split
    · exact (hforget c).trans (emits_playosStateTransition _ _)
    · exact hforget c
  | forceTerminateGame => exact (emits_playosStateTransition c _).trans (hforget _)
  | showOverlay => exact emits_playosOverlayManagerShow c
  | hideOverlay => exact emits_playosOverlayManagerHide c

private theorem emits_playosStateGameSurfaceReady (c : Compositor) :
    Emits c (playosStateGameSurfaceReady c) := by
  unfold playosStateGameSurfaceReady
  repeat' split
  · exact .refl c
  · exact .refl c
  · have hready : Emits c { c with gameSurfaceReady := true } := .of_quiet rfl rfl rfl rfl rfl
    exact (hready.trans (emits_playosCompositorIpcSend _ _)).trans (emits_playosStateTransition _ _)

private theorem emits_playosStateGameExited (c : Compositor) (crashed : Bool) :
    Emits c (playosStateGameExited c crashed) := by
  unfold playosStateGameExited
  dsimp only
  split
  · exact (emits_playosStateTransition c _).trans (.of_quiet rfl rfl rfl rfl rfl)
  · exact .of_quiet rfl rfl rfl rfl rfl

/-- A request emits something when the overlay dismisses itself. -/
theorem emits_playosOverlayRequest (c : Compositor) (client : ClientId)
    (request : OverlayRequest) : Emits c (playosOverlayRequest c client request) := by
  unfold playosOverlayRequest
  repeat' split
  all_goals first | exact .refl c | exact emits_playosOverlayManagerHide c

/-- A button press emits what it does to the overlay. -/
theorem emits_handleKeyboardKey (c : Compositor) (keycode : UInt32) (state : KeyState) :
    Emits c (handleKeyboardKey c keycode state) := by
  unfold handleKeyboardKey
  repeat' split
  all_goals first
    | exact .refl c
    | exact emits_playosOverlayManagerShow c
    | exact emits_playosOverlayManagerHide c

/-! ### Toplevels and roles -/

/-- A new window emits nothing. -/
theorem emits_handleNewXdgToplevel (c : Compositor) (client : ClientId)
    (alloc : ToplevelAlloc) : Emits c (handleNewXdgToplevel c client alloc) := by
  cases alloc <;> exact .of_quiet rfl rfl rfl rfl rfl

private theorem emits_untrackToplevel (c : Compositor) (track : ToplevelTrack) :
    Emits c (untrackToplevel c track) := by
  unfold untrackToplevel
  dsimp only
  repeat' split
  all_goals exact .of_quiet rfl rfl rfl rfl rfl

/-- The loss of a window emits what the exit of its game does. -/
theorem emits_handleToplevelDestroy (c : Compositor) (track : ToplevelTrack) :
    Emits c (handleToplevelDestroy c track) := by
  have hscene : Emits c { c with scene := c.scene.destroy (.tree track.tree) } :=
    .of_quiet rfl rfl rfl rfl rfl
  have huntrack := hscene.trans (emits_untrackToplevel _ track)
  unfold handleToplevelDestroy
  dsimp only
  split
  · exact (huntrack.trans (emits_playosStateGameExited _ false)).trans
      (.of_quiet rfl rfl rfl rfl rfl)
  · exact huntrack.trans (.of_quiet rfl rfl rfl rfl rfl)

/-- A commit is answered, and emits what a game's readiness does. -/
theorem emits_handleToplevelCommit (c : Compositor) (track : ToplevelTrack)
    (surface : SurfaceCommit) : Emits c (handleToplevelCommit c track surface) := by
  have hanswer : Emits c (configureInitial c track surface) := by
    unfold configureInitial
    split
    · exact .of_other _ (by simp)
    · exact .refl c
  have hcount (c : Compositor) : Emits c (countCommit c track surface) := by
    unfold countCommit
    repeat' split
    all_goals exact .of_quiet rfl rfl rfl rfl rfl
  unfold handleToplevelCommit
  split
  · exact .refl c
  · dsimp only
    split
    · exact (hanswer.trans (hcount _)).trans (emits_playosStateGameSurfaceReady _)
    · exact hanswer.trans (hcount _)

/-- A claim of the shell role is at most refused with an error. -/
theorem emits_playosManagerRegisterShell (c : Compositor) (client : ClientId) :
    Emits c (playosManagerRegisterShell c client) := by
  cases h : c.shellClient with
  | none =>
    rw [playosManagerRegisterShell_of_free h]
    exact .of_quiet rfl rfl rfl rfl rfl
  | some holder =>
    rw [playosManagerRegisterShell_of_taken h]
    exact .of_other _ (by simp)

/-! ### Objects of a leaving client -/

/-- Nothing was sent to anyone, and the connection is as it was. -/
structure Silent (c c' : Compositor) : Prop where
  ipc : c'.ipc = c.ipc
  sent : c'.sent = c.sent
  wire : c'.wire = c.wire

private theorem Silent.trans {c c₁ c' : Compositor} (h : Silent c c₁) (h' : Silent c₁ c') :
    Silent c c' :=
  ⟨h'.ipc.trans h.ipc, h'.sent.trans h.sent, h'.wire.trans h.wire⟩

private theorem silent_untrackToplevel (c : Compositor) (track : ToplevelTrack) :
    Silent c (untrackToplevel c track) := by
  unfold untrackToplevel
  dsimp only
  repeat' split
  all_goals exact ⟨rfl, rfl, rfl⟩

/-- The loss of a window that is no game's is silent. -/
theorem silent_handleToplevelDestroy (c : Compositor) {track : ToplevelTrack}
    (h : track.role ≠ .game) : Silent c (handleToplevelDestroy c track) := by
  have huntrack := silent_untrackToplevel
    { c with scene := c.scene.destroy (.tree track.tree) } track
  unfold handleToplevelDestroy
  dsimp only
  rw [if_neg h]
  exact ⟨huntrack.ipc, huntrack.sent, huntrack.wire⟩

/-- The loss of a binding is silent. -/
theorem silent_playosOverlayResourceDestroy (c : Compositor) (resource : ResourceId) :
    Silent c (playosOverlayResourceDestroy c resource) := by
  unfold playosOverlayResourceDestroy
  dsimp only
  split <;> exact ⟨rfl, rfl, rfl⟩

/-- A client without a game's window leaves in silence. -/
theorem silent_foldl_destroyObject {c : Compositor} {order : List ClientObject}
    (h : ∀ track ∈ c.toplevels, track.tree ∈ treesOf order → track.role ≠ .game) :
    Silent c (order.foldl destroyObject c) := by
  induction order generalizing c with
  | nil => exact ⟨rfl, rfl, rfl⟩
  | cons object order ih =>
    have hobject : Silent c (destroyObject c object) := by
      cases object with
      | toplevel tree =>
        simp only [destroyObject]
        split
        · exact ⟨rfl, rfl, rfl⟩
        · next track ht =>
          obtain ⟨hm, rfl⟩ := Foreground.track?_some ht
          exact silent_handleToplevelDestroy c (h track hm List.mem_cons_self)
      | overlayBinding resource => exact silent_playosOverlayResourceDestroy c resource
    refine hobject.trans (ih ?_)
    intro track ht ho
    rw [toForeground_destroyObject] at ht
    cases object with
    | toplevel tree =>
      simp only [Foreground.toplevels_unmap, List.mem_filter] at ht
      exact h track ht.1 (List.mem_cons_of_mem _ ho)
    | overlayBinding resource => exact h track ht ho

private theorem emits_foldl_destroyObject {c : Compositor} {order : List ClientObject}
    (h : ∀ resource ∈ resourcesOf order, c.overlayResource ≠ some resource) :
    Emits c (order.foldl destroyObject c) := by
  induction order generalizing c with
  | nil => exact .refl c
  | cons object order ih =>
    have hobject : Emits c (destroyObject c object) := by
      cases object with
      | toplevel tree =>
        simp only [destroyObject]
        split
        · exact .refl c
        · exact emits_handleToplevelDestroy c _
      | overlayBinding resource =>
        simp only [destroyObject, playosOverlayResourceDestroy]
        rw [if_neg (h resource List.mem_cons_self)]
        exact .of_quiet rfl rfl rfl rfl rfl
    refine hobject.trans (ih ?_)
    intro resource hm
    rw [hobject.overlayResource]
    cases object with
    | toplevel tree => exact h resource hm
    | overlayBinding r => exact h resource (List.mem_cons_of_mem _ hm)

/-! ### Promotions -/

/-- The event makes a binding the target: the overlay client binds once more, or a client
that has bound takes the free overlay role. -/
def Promotion (c : Compositor) : Event → Prop
  | .bindOverlay client created => created = true ∧ c.overlayClient = some client
  | .registerOverlay client =>
    c.overlayClient = none ∧ ∃ bound ∈ c.overlayResources, bound.client = client
  | _ => False

/-- A binding has become the target and was told the output, but not the visibility. -/
structure Promotes (c c' : Compositor) (resource : ResourceId) : Prop where
  ipc : c'.ipc = c.ipc
  sent : c'.sent = c.sent
  overlayVisible : c'.overlayVisible = c.overlayVisible
  overlayResource : c'.overlayResource = some resource
  wire : ∃ width height refreshMhz scale100,
    c'.wire = c.wire ++ [.overlay resource (.outputInfo width height refreshMhz scale100)]

private theorem promotes_playosOverlayResolveResource {c : Compositor} {client : ClientId}
    {resource : ResourceId} (h : c.newest client = some resource) :
    Promotes c (playosOverlayResolveResource c client) resource := by
  obtain ⟨bound, hb, rfl⟩ := Option.map_eq_some_iff.mp h
  simp only [playosOverlayResolveResource, hb, playosOverlaySendOutputInfo, sendOverlayEvent]
  exact ⟨rfl, rfl, rfl, rfl, _, _, _, _, rfl⟩

/-- What a step can send: the present target's events, nothing when the connection changes or
the target goes, and the output when a binding is promoted. A promoted binding is new or was
waiting for the role. -/
inductive Emission (c : Compositor) (e : Event) (c' : Compositor) : Prop
  | emits (hp : ¬ Promotion c e) (h : Emits c c')
  | connection (hp : ¬ Promotion c e) (ipc : IpcClient) (h : c' = { c with ipc })
  | released (hp : ¬ Promotion c e) (h : Silent c c') (hr : c'.overlayResource = none)
  | promotes (hp : Promotion c e) (resource : ResourceId) (h : Promotes c c' resource)
    (origin : resource = c.nextId ∨
      c.overlayClient = none ∧ ∃ bound ∈ c.overlayResources, bound.resource = resource)

section Step

variable {c c' : Compositor}

private theorem emission_registerOverlay (c : Compositor) (client : ClientId) :
    Emission c (.registerOverlay client) (playosManagerRegisterOverlay c client) := by
  cases ho : c.overlayClient with
  | some holder =>
    refine .emits (fun hp ↦ absurd (ho.symm.trans hp.1) (by simp)) ?_
    rw [playosManagerRegisterOverlay_of_taken ho]
    exact .of_other _ (by simp)
  | none =>
    rw [playosManagerRegisterOverlay_of_free ho]
    cases hn : c.newest client with
    | none =>
      have hf : c.overlayResources.find? (fun bound ↦ bound.client = client) = none := by
        simpa [Registry.newest] using hn
      refine .emits ?_ ?_
      · rintro ⟨-, bound, hb, hc⟩
        exact Registry.newest_eq_none.mp hn bound hb hc
      · have hq : playosOverlayResolveResource (playosCompositorReclassifyToplevels
            { c with overlayClient := some client, overlayClientDestroy := some client }) client =
            playosCompositorReclassifyToplevels
              { c with overlayClient := some client, overlayClientDestroy := some client } := by
          simp [playosOverlayResolveResource, hf]
        rw [hq]
        exact .of_quiet rfl rfl rfl rfl rfl
    | some resource =>
      have hm := Registry.mem_of_newest hn
      have hpromotes := promotes_playosOverlayResolveResource
        (c := playosCompositorReclassifyToplevels
          { c with overlayClient := some client, overlayClientDestroy := some client }) hn
      exact .promotes ⟨ho, _, hm, rfl⟩ resource ⟨hpromotes.ipc, hpromotes.sent,
        hpromotes.overlayVisible, hpromotes.overlayResource, hpromotes.wire⟩
        (Or.inr ⟨ho, _, hm, rfl⟩)

private theorem emission_bindOverlay (c : Compositor) (client : ClientId) (created : Bool) :
    Emission c (.bindOverlay client created) (playosOverlayBind c client created) := by
  cases created with
  | false => exact .emits (fun hp ↦ Bool.noConfusion hp.1) (.of_other _ (by simp))
  | true =>
    by_cases ho : c.overlayClient = some client
    · have hn : ({ c with
          nextId := c.nextId + 1
          overlayResources := ⟨client, c.nextId⟩ :: c.overlayResources } : Compositor).newest
            client = some c.nextId := by
        simp [Registry.newest]
      have hpromotes := promotes_playosOverlayResolveResource hn
      refine .promotes ⟨rfl, ho⟩ c.nextId ?_ (Or.inl rfl)
      simp only [playosOverlayBind, ho, Bool.not_true, Bool.false_eq_true, ↓reduceIte]
      exact ⟨hpromotes.ipc, hpromotes.sent, hpromotes.overlayVisible, hpromotes.overlayResource,
        hpromotes.wire⟩
    · refine .emits (fun hp ↦ ho hp.2) ?_
      simp only [playosOverlayBind, ho, Bool.not_true, Bool.false_eq_true, ↓reduceIte]
      exact .of_quiet rfl rfl rfl rfl rfl

private theorem emission_disconnect (hw : c.WF) (h : Bound c) {client : ClientId}
    {order : List ClientObject} (ho : order.Perm (ownedObjects c client)) :
    Emission c (.disconnect client order) (wlClientDestroy c client order) := by
  have hl := hw.linked
  have hlisten : Silent c (runDestroyListeners c client) := by
    rw [runDestroyListeners_eq]
    exact ⟨rfl, rfl, rfl⟩
  have hr := hl.toRegistry_runDestroyListeners client
  have hf := hl.toForeground_runDestroyListeners client
  by_cases hc : c.overlayClient = some client
  · have hgames : ∀ track ∈ (runDestroyListeners c client).toplevels,
        track.tree ∈ treesOf order → track.role ≠ .game := by
      intro track ht hm hg
      rw [hf] at ht
      have hs := (hw.foreground.settled track ht).resolve_left id
      obtain ⟨owned, hto, hco, he⟩ :=
        toplevel_mem_ownedObjects.mp (ho.mem_iff.mp (mem_treesOf.mp hm))
      have heq := List.inj_on_of_nodup_map hw.foreground.nodup hto ht he
      exact hs.not_trusted hg (Or.inr (by rw [← heq, hco, hc]))
    have hd := silent_foldl_destroyObject hgames
    refine .released id ⟨hd.ipc.trans hlisten.ipc, hd.sent.trans hlisten.sent,
      hd.wire.trans hlisten.wire⟩ ?_
    rw [toRegistry_wlClientDestroy hl h ho, hc]
    exact if_pos rfl
  · have htarget : ∀ resource ∈ resourcesOf order,
        (runDestroyListeners c client).overlayResource ≠ some resource := by
      intro resource hm ht
      rw [hr] at ht
      obtain ⟨owned, hb, hco, he⟩ :=
        overlayBinding_mem_ownedObjects.mp (ho.mem_iff.mp (mem_resourcesOf.mp hm))
      obtain ⟨holder, hh, hbt⟩ := h.target_mem ht
      have heq := h.client_unique hb hbt he
      exact hc (by rw [hh, ← hco, heq])
    refine .emits id (.trans (.of_quiet hlisten.ipc ?_ hlisten.sent hlisten.wire ?_)
      ((emits_foldl_destroyObject htarget).trans (.of_quiet rfl rfl rfl rfl rfl)))
    · rw [hr]
    · rw [hf]
      rfl

/-- Every step is one of these emissions. -/
theorem emission_step {e : Event} (hw : c.WF) (h : Bound c) (hs : step c e = some c') :
    Emission c e c' := by
  cases handled_of_step hs with
  | ipcFd mask read _ =>
    unfold ipcFdHandler
    repeat' split
    all_goals first
      | exact .emits id (emits_ipcDispatch c _)
      | exact .emits id (.refl c)
      | exact .connection id _ rfl
  | ipcTimer result _ _ => exact .connection id _ rfl
  | ipcLink link _ => exact .connection id _ rfl
  | connect client _ => exact .emits id (.of_quiet rfl rfl rfl rfl rfl)
  | disconnect client order _ ho => exact emission_disconnect hw h ho
  | bindManager client created _ =>
    cases created
    · exact .emits id (.of_other _ (by simp))
    · exact .emits id (.of_quiet rfl rfl rfl rfl rfl)
  | registerShell client _ => exact .emits id (emits_playosManagerRegisterShell c client)
  | registerOverlay client _ => exact emission_registerOverlay c client
  | bindOverlay client created _ => exact emission_bindOverlay c client created
  | overlayRequest resource request bound _ =>
    exact .emits id (emits_playosOverlayRequest c bound.client request)
  | newToplevel client alloc _ => exact .emits id (emits_handleNewXdgToplevel c client alloc)
  | commit tree surface track _ => exact .emits id (emits_handleToplevelCommit c track surface)
  | destroyToplevel tree track _ => exact .emits id (emits_handleToplevelDestroy c track)
  | key keycode state => exact .emits id (emits_handleKeyboardKey c keycode state)
  | newOutput calls =>
    refine .emits id ?_
    unfold handleNewOutput
    repeat' split
    all_goals exact .of_quiet rfl rfl rfl rfl rfl
  | frame sceneOutput windowElapsed =>
    refine .emits id ?_
    unfold handleFrame
    repeat' split
    all_goals exact .of_quiet rfl rfl rfl rfl rfl

end Step

end PlayosCompositor
