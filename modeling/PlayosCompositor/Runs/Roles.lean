import PlayosCompositor.Foreground.Owners
import PlayosCompositor.Overlay.Binding
import PlayosCompositor.Runs.Foreground

/-!
# The life of a trusted role

Whoever holds a role, owns a tracked toplevel or has bound `playos_overlay_v1` is connected.
A role is claimed when it is free and becomes free when its holder disconnects, which also
takes along every other reference to that client.
-/

namespace PlayosCompositor

open Foreground

variable {c c' : Compositor} {e : Event}

/-- Owners, binders and managers are connected. -/
structure Connected (c : Compositor) : Prop where
  owners : c.OwnedBy (· ∈ c.clients)
  managers : ∀ client ∈ c.managers, client ∈ c.clients
  bindings : ∀ bound ∈ c.overlayResources, bound.client ∈ c.clients

/-- The connected clients after an event. -/
def clientsAfter (c : Compositor) : Event → List ClientId
  | .connect client => client :: c.clients
  | .disconnect client _ => c.clients.filter (· ≠ client)
  | _ => c.clients

/-- The clients with a `playos_manager_v1` object after an event. -/
def managersAfter (c : Compositor) : Event → List ClientId
  | .bindManager client created => if created then client :: c.managers else c.managers
  | .disconnect client _ => c.managers.filter (· ≠ client)
  | _ => c.managers

/-- No handler touches connections or managers but those of the events themselves. -/
theorem clients_step (hl : Linked c) (hb : Bound c) (hs : step c e = some c') :
    c'.clients = clientsAfter c e ∧ c'.managers = managersAfter c e := by
  cases handled_of_step hs with
  | ipcFd mask read _ =>
    unfold ipcFdHandler
    repeat' split
    all_goals first
      | exact ⟨rfl, rfl⟩
      | (rw [toRegistry_ipcDispatch]; exact ⟨rfl, rfl⟩)
  | ipcTimer result _ _ => exact ⟨rfl, rfl⟩
  | ipcLink link _ => exact ⟨rfl, rfl⟩
  | connect client _ => exact ⟨rfl, rfl⟩
  | disconnect client order _ ho =>
    rw [toRegistry_wlClientDestroy hl hb ho]
    exact ⟨rfl, rfl⟩
  | bindManager client created _ =>
    rw [toRegistry_playosManagerBind]
    exact ⟨rfl, rfl⟩
  | registerShell client _ =>
    rw [toRegistry_playosManagerRegisterShell]
    split <;> exact ⟨rfl, rfl⟩
  | registerOverlay client _ =>
    rw [toRegistry_playosManagerRegisterOverlay]
    split <;> exact ⟨rfl, rfl⟩
  | bindOverlay client created _ =>
    rw [toRegistry_playosOverlayBind]
    split <;> exact ⟨rfl, rfl⟩
  | overlayRequest resource request bound _ =>
    rw [toRegistry_playosOverlayRequest]
    exact ⟨rfl, rfl⟩
  | newToplevel client alloc _ =>
    rw [toRegistry_handleNewXdgToplevel]
    exact ⟨rfl, rfl⟩
  | commit tree surface track _ =>
    rw [toRegistry_handleToplevelCommit]
    exact ⟨rfl, rfl⟩
  | destroyToplevel tree track _ =>
    rw [toRegistry_handleToplevelDestroy]
    exact ⟨rfl, rfl⟩
  | key keycode state =>
    rw [toRegistry_handleKeyboardKey]
    exact ⟨rfl, rfl⟩
  | newOutput calls =>
    obtain ⟨n, -, hr⟩ := toRegistry_handleNewOutput c calls
    rw [hr]
    exact ⟨rfl, rfl⟩
  | frame sceneOutput windowElapsed =>
    rw [toRegistry_handleFrame]
    exact ⟨rfl, rfl⟩

private theorem Connected.newcomer (h : Connected c) (hs : step c e = some c') {client : ClientId}
    (hn : (foregroundInput c e).newcomer = some client) : client ∈ c.clients := by
  have hc := comesFrom_foregroundInput c e
  generalize foregroundInput c e = input at hn hc
  cases input with
  | map tree other =>
    obtain rfl : e = .newToplevel other .ok := hc
    obtain ⟨hm, -⟩ := Option.ite_none_right_eq_some.mp hs
    exact Option.some.inj hn ▸ hm
  | claimShell other =>
    obtain rfl : e = .registerShell other := hc
    obtain ⟨hm, -⟩ := Option.ite_none_right_eq_some.mp hs
    exact Option.some.inj hn ▸ h.managers other hm
  | claimOverlay other =>
    obtain rfl : e = .registerOverlay other := hc
    obtain ⟨hm, -⟩ := Option.ite_none_right_eq_some.mp hs
    exact Option.some.inj hn ▸ h.managers other hm
  | _ => cases hn

private theorem connected_disconnect (hw : c.WF) (hb : Bound c) (h : Connected c)
    {client : ClientId}
    {order : List ClientObject} (hs : step c (.disconnect client order) = some c') :
    c'.OwnedBy (fun other ↦ other ∈ c.clients ∧ other ≠ client) ∧ client ∉ c'.clients ∧
      client ∉ c'.managers ∧ c'.overlayResources =
        c.overlayResources.filter fun bound ↦ bound.client ≠ client := by
  have hf := toForeground_step hw.linked hs
  obtain ⟨hc, hm⟩ := clients_step hw.linked hb hs
  obtain ⟨ho, hl⟩ := Option.ite_none_right_eq_some.mp hf
  obtain ⟨⟨-, hp⟩, hd⟩ := Option.ite_none_right_eq_some.mp hs
  refine ⟨?_, ?_, ?_, ?_⟩
  · rw [← Option.some.inj hl]
    exact h.owners.leave ho
  · rw [hc]
    simp [clientsAfter]
  · rw [hm]
    simp [managersAfter]
  · rw [← Option.some.inj hd, toRegistry_wlClientDestroy hw.linked hb hp]

/-- Every step keeps owners, managers and binders connected. -/
theorem connected_step (hw : c.WF) (hb : Bound c) (h : Connected c) (hs : step c e = some c') :
    Connected c' := by
  obtain ⟨hc, hm⟩ := clients_step hw.linked hb hs
  by_cases hd : ∃ client order, e = .disconnect client order
  · obtain ⟨client, order, rfl⟩ := hd
    obtain ⟨ho, -, -, hbind⟩ := connected_disconnect hw hb h hs
    have hmem : ∀ other, other ∈ c.clients ∧ other ≠ client → other ∈ c'.clients := by
      intro other ho
      rw [hc]
      simpa [clientsAfter] using ho
    refine ⟨ho.mono hmem, ?_, ?_⟩
    · intro other hmo
      rw [hm, managersAfter, List.mem_filter] at hmo
      exact hmem other ⟨h.managers other hmo.1, of_decide_eq_true hmo.2⟩
    · intro bound hbound
      rw [hbind, List.mem_filter] at hbound
      exact hmem _ ⟨h.bindings bound hbound.1, of_decide_eq_true hbound.2⟩
  · have hsub : ∀ client, client ∈ c.clients → client ∈ c'.clients := by
      intro client hmem
      rw [hc]
      cases e
      case connect other => exact List.mem_cons_of_mem _ hmem
      case disconnect other order => exact absurd ⟨other, order, rfl⟩ hd
      all_goals exact hmem
    refine ⟨?_, ?_, ?_⟩
    · exact ownedBy_step (h.owners.mono hsub) (toForeground_step hw.linked hs)
        fun client hn ↦ hsub client (h.newcomer hs hn)
    · intro client hmem
      rw [hm] at hmem
      cases e
      case bindManager other created =>
        obtain ⟨ho, -⟩ := Option.ite_none_right_eq_some.mp hs
        cases created
        case false => exact hsub client (h.managers client hmem)
        case true =>
          rcases List.mem_cons.mp hmem with rfl | hmem
          · exact hsub client ho
          · exact hsub client (h.managers client hmem)
      case disconnect other order => exact absurd ⟨other, order, rfl⟩ hd
      all_goals exact hsub client (h.managers client hmem)
    · intro bound hbound
      cases e
      case disconnect other order => exact absurd ⟨other, order, rfl⟩ hd
      case registerOverlay other =>
        obtain ⟨-, hd⟩ := Option.ite_none_right_eq_some.mp hs
        rw [← Option.some.inj hd, toRegistry_playosManagerRegisterOverlay] at hbound
        split at hbound <;> exact hsub _ (h.bindings bound hbound)
      case bindOverlay other created =>
        obtain ⟨ho, hd⟩ := Option.ite_none_right_eq_some.mp hs
        rw [← Option.some.inj hd, toRegistry_playosOverlayBind] at hbound
        cases created
        case false => exact hsub _ (h.bindings bound hbound)
        case true =>
          rcases List.mem_cons.mp hbound with rfl | hbound
          · exact hsub other ho
          · exact hsub _ (h.bindings bound hbound)
      all_goals
        have hsame := sameBindings_step hs (by simp) (by simp) (by simp)
        rw [hsame.overlayResources] at hbound
        exact hsub _ (h.bindings bound hbound)

private theorem compositorSystem_connected :
    compositorSystem.Invariant fun c ↦ (c.WF ∧ Bound c) ∧ Connected c where
  base c hc := ⟨compositorSystem_bound.base c hc, by
    obtain ⟨config, rfl⟩ := hc
    refine ⟨⟨fun client hs ↦ ?_, fun client ho ↦ ?_, fun track ht ↦ ?_⟩, fun client hm ↦ ?_,
      fun bound hb ↦ ?_⟩
    · cases hs
    · cases ho
    all_goals simp_all [playosCompositorStarted, playosCompositorInit, playosStateInit]⟩
  step c e c' h hs :=
    ⟨compositorSystem_bound.step c e c' h.1 hs, connected_step h.1.1 h.1.2 h.2 hs⟩

/-! ### Claims -/

private theorem claim_shell_ne_none_iff (c : Compositor) (client : ClientId) :
    playosTrustedClientClaim c client .shell ≠ none ↔ c.shellClient = none := by
  cases h : c.shellClient <;> simp [playosTrustedClientClaim, h]

private theorem claim_overlay_ne_none_iff (c : Compositor) (client : ClientId) :
    playosTrustedClientClaim c client .overlay ≠ none ↔ c.overlayClient = none := by
  cases h : c.overlayClient <;> simp [playosTrustedClientClaim, h]

/-- The client holds the shell role, and its going frees it; the overlay role is as it was. -/
def ShellGranted (c c' : Compositor) (client : ClientId) : Prop :=
  c'.shellClient = some client ∧ c'.shellClientDestroy = some client ∧
    c'.overlayClient = c.overlayClient ∧ c'.overlayClientDestroy = c.overlayClientDestroy

/-- The client holds the overlay role, and its going frees it; the shell role is as it was. -/
def OverlayGranted (c c' : Compositor) (client : ClientId) : Prop :=
  c'.overlayClient = some client ∧ c'.overlayClientDestroy = some client ∧
    c'.shellClient = c.shellClient ∧ c'.shellClientDestroy = c.shellClientDestroy

private theorem shellGranted_of_free (h : c.shellClient = none) (client : ClientId) :
    ShellGranted c (playosManagerRegisterShell c client) client := by
  have hf := toForeground_playosManagerRegisterShell c client
  have hr := toRegistry_playosManagerRegisterShell c client
  rw [claimShell_of_free h] at hf
  rw [h, Option.isSome_none, if_neg Bool.false_ne_true] at hr
  rw [ShellGranted, hf, hr]
  exact ⟨rfl, rfl, rfl, rfl⟩

private theorem overlayGranted_of_free (h : c.overlayClient = none) (client : ClientId) :
    OverlayGranted c (playosManagerRegisterOverlay c client) client := by
  have hf := toForeground_playosManagerRegisterOverlay c client
  have hr := toRegistry_playosManagerRegisterOverlay c client
  rw [claimOverlay_of_free h] at hf
  rw [h, Option.isSome_none, if_neg Bool.false_ne_true] at hr
  rw [OverlayGranted, hf, hr]
  exact ⟨rfl, rfl, rfl, rfl⟩

/-- A refused request changes nothing but what is sent to the client. -/
def RefusedBy (c c' : Compositor) (client : ClientId) : Prop :=
  ∃ code message, c' = { c with wire := c.wire ++ [.error client code message] }

/-- Nothing in the compositor refers to the client. -/
structure Forgotten (c : Compositor) (client : ClientId) : Prop where
  roles : ¬ c.Trusted client
  links : c.shellClientDestroy ≠ some client ∧ c.overlayClientDestroy ≠ some client
  toplevels : ∀ track ∈ c.toplevels, track.client ≠ client
  bindings : ∀ bound ∈ c.overlayResources, bound.client ≠ client
  target : ∀ resource, c.overlayResource = some resource →
    ∃ bound ∈ c.overlayResources, bound.resource = resource ∧ bound.client ≠ client

/-- In every reachable state roles are held by connected clients, each with its destroy
listener on exactly the holder; a claim is granted exactly when the role is free, makes the
claimant the holder then and changes nothing when refused; a disconnect leaves no reference to
the client, so that a role which it held can be claimed again. -/
theorem role_lifecycle (hc : compositorSystem.Reachable c) :
    (∀ client, c.shellClient = some client → client ∈ c.clients) ∧
    (∀ client, c.overlayClient = some client → client ∈ c.clients) ∧
    c.shellClientDestroy = c.shellClient ∧ c.overlayClientDestroy = c.overlayClient ∧
    (∀ client, (playosTrustedClientClaim c client .shell ≠ none ↔ c.shellClient = none) ∧
      (playosTrustedClientClaim c client .overlay ≠ none ↔ c.overlayClient = none)) ∧
    (∀ client,
      (c.shellClient = none → ShellGranted c (playosManagerRegisterShell c client) client) ∧
      (c.overlayClient = none →
        OverlayGranted c (playosManagerRegisterOverlay c client) client)) ∧
    (∀ client, (c.shellClient ≠ none → RefusedBy c (playosManagerRegisterShell c client) client) ∧
      (c.overlayClient ≠ none → RefusedBy c (playosManagerRegisterOverlay c client) client)) ∧
    ∀ client order c', step c (.disconnect client order) = some c' →
      Forgotten c' client ∧ ∀ other,
        (c.shellClient = some client → playosTrustedClientClaim c' other .shell ≠ none) ∧
        (c.overlayClient = some client → playosTrustedClientClaim c' other .overlay ≠ none) := by
  have h := compositorSystem_connected.reachable hc
  refine ⟨h.2.owners.shell, h.2.owners.overlay, h.1.1.linked.shell, h.1.1.linked.overlay, ?_, ?_,
    ?_, ?_⟩
  · exact fun client ↦ ⟨claim_shell_ne_none_iff c client, claim_overlay_ne_none_iff c client⟩
  · exact fun client ↦ ⟨fun hn ↦ shellGranted_of_free hn client,
      fun hn ↦ overlayGranted_of_free hn client⟩
  · intro client
    constructor
    · intro hn
      obtain ⟨holder, hh⟩ := Option.ne_none_iff_exists'.mp hn
      exact ⟨_, _, playosManagerRegisterShell_of_taken hh client⟩
    · intro hn
      obtain ⟨holder, hh⟩ := Option.ne_none_iff_exists'.mp hn
      exact ⟨_, _, playosManagerRegisterOverlay_of_taken hh client⟩
  · intro client order c' hs
    have hstep : compositorSystem.step c (.disconnect client order) = some c' := hs
    have h' := compositorSystem_connected.step _ _ _ h hstep
    obtain ⟨ho, -, -, hbind⟩ := connected_disconnect h.1.1 h.1.2 h.2 hs
    have hbindings : ∀ bound ∈ c'.overlayResources, bound.client ≠ client := by
      rw [hbind]
      exact fun bound hb ↦ of_decide_eq_true (List.mem_filter.mp hb).2
    have hshell : c'.shellClient ≠ some client := fun hh ↦ (ho.shell client hh).2 rfl
    have hoverlay : c'.overlayClient ≠ some client := fun hh ↦ (ho.overlay client hh).2 rfl
    refine ⟨⟨?_, ?_, ?_, hbindings, ?_⟩, ?_⟩
    · rintro (hh | hh)
      · exact hshell hh.symm
      · exact hoverlay hh.symm
    · rw [h'.1.1.linked.shell, h'.1.1.linked.overlay]
      exact ⟨hshell, hoverlay⟩
    · exact fun track ht ↦ (ho.windows track ht).2
    · intro resource hr
      obtain ⟨holder, -, hb⟩ := h'.1.2.target_mem hr
      exact ⟨_, hb, rfl, hbindings _ hb⟩
    · intro other
      rw [claim_shell_ne_none_iff, claim_overlay_ne_none_iff]
      obtain ⟨⟨-, hp⟩, hd⟩ := Option.ite_none_right_eq_some.mp hs
      have hr := toRegistry_wlClientDestroy h.1.1.linked h.1.2 hp
      rw [← h'.1.1.linked.shell, ← h'.1.1.linked.overlay, ← Option.some.inj hd, hr]
      exact ⟨fun hh ↦ if_pos hh, fun hh ↦ if_pos hh⟩

/-- One client holds both roles, has bound the overlay protocol and owns a window. -/
def twoRolesRun : List Event :=
  [.connect 1, .bindManager 1 true, .registerShell 1, .bindOverlay 1 true, .registerOverlay 1,
    .newToplevel 1 .ok]

/-- The theorem at the crash of the client that holds both roles, and when another one takes
them. -/
theorem role_lifecycle_twoRoles :
    ∃ c ∈ compositorSystem.run (playosCompositorStarted headlessStart) twoRolesRun,
      c.shellClient = some 1 ∧ c.overlayClient = some 1 ∧ 1 ∈ c.clients ∧
        ∃ c' ∈ step c (.disconnect 1 [.toplevel 1, .overlayBinding 0]),
          Forgotten c' 1 ∧ playosTrustedClientClaim c' 2 .shell ≠ none ∧
            playosTrustedClientClaim c' 2 .overlay ≠ none ∧
            ShellGranted c' (playosManagerRegisterShell c' 2) 2 ∧
            OverlayGranted c' (playosManagerRegisterOverlay c' 2) 2 := by
  obtain ⟨c, hc, hs, ho, c', hc', hfree⟩ :
      ∃ c ∈ compositorSystem.run (playosCompositorStarted headlessStart) twoRolesRun,
        c.shellClient = some 1 ∧ c.overlayClient = some 1 ∧
          ∃ c' ∈ step c (.disconnect 1 [.toplevel 1, .overlayBinding 0]),
            c'.shellClient = none ∧ c'.overlayClient = none := by
    decide
  have hreach : compositorSystem.Reachable c := ⟨_, _, ⟨headlessStart, rfl⟩, hc⟩
  have h := role_lifecycle hreach
  have hstep : compositorSystem.step c (.disconnect 1 [.toplevel 1, .overlayBinding 0]) =
    some c' := hc'
  have h' := role_lifecycle (Transition.System.reachable_step hreach hstep)
  have hd := h.2.2.2.2.2.2.2 1 _ c' hc'
  have hg := h'.2.2.2.2.2.1 2
  exact ⟨c, hc, hs, ho, h.1 1 hs, c', hc', hd.1, (hd.2 2).1 hs, (hd.2 2).2 ho, hg.1 hfree.1,
    hg.2 hfree.2⟩

end PlayosCompositor
