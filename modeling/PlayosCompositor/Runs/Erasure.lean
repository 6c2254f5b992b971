import PlayosCompositor.Ipc.Reconnect
import PlayosCompositor.Ipc.Survival
import PlayosCompositor.Outputs.Settings
import PlayosCompositor.Overlay.Beneath

/-!
# Runs with some events left out

Which events can occur depends on windows, clients, bindings and the socket only. Two kinds of
events can therefore be left out of a run. Without those that ask for the overlay or dismiss
it, the run goes on under the overlay. Without the outages of `compositor.sock`, it goes on
with every message delivered.
-/

namespace PlayosCompositor

open Foreground

/-! ### Possible events -/

/-- Windows, roles, clients, bindings and the settled backend are the same. -/
structure Alike (c d : Compositor) : Prop where
  windows : SameWindows c.toForeground d.toForeground
  registry : d.toRegistry = c.toRegistry
  settings : d.settings = c.settings

/-- The events that the client of `compositor.sock` allows: a readable socket, an expired
timer, a new state of the connection. -/
def IpcClient.Allows (s : IpcClient) : Event → Prop
  | .ipcFd _ _ => s.ipcSource.isSome
  | .ipcTimer result =>
    (s.ipcReconnectTimer.bind Timer.armedMs).isSome ∧ ∀ fd ∈ s.openFds, result ≠ .connected fd
  | .ipcLink _ => s.compositorSockFd.isSome
  | _ => True

variable {c c' d : Compositor} {e : Event}

/-- An event that occurs is allowed. -/
theorem allows_of_step (hs : step c e = some c') : c.ipc.Allows e := by
  cases handled_of_step hs with
  | ipcFd mask read hw => exact hw
  | ipcTimer result ht hfd => exact ⟨ht, hfd⟩
  | ipcLink link hl => exact hl
  | _ => trivial

private theorem Alike.ownedObjects (h : Alike c d) (client : ClientId) :
    ownedObjects d client = ownedObjects c client := by
  unfold PlayosCompositor.ownedObjects
  rw [h.windows.toplevels, h.registry]

private theorem Alike.track? (h : Alike c d) (tree : TreeId) : d.track? tree = c.track? tree := by
  unfold Foreground.track?
  rw [h.windows.toplevels]

private theorem toRegistry_ipcFdHandler (c : Compositor) (mask : FdMask) (read : IpcRead) :
    (ipcFdHandler c mask read).toRegistry = c.toRegistry := by
  unfold ipcFdHandler
  repeat' split
  all_goals first | rfl | exact toRegistry_ipcDispatch c _

/-- What can happen to the one can happen to the other, with the same clients and bindings
afterwards, if the socket allows it. -/
theorem Alike.exists_step (h : Alike c d) (hc : Linked c ∧ Bound c) (hd : Linked d ∧ Bound d)
    (ha : d.ipc.Allows e) (hs : step c e = some c') :
    ∃ d', step d e = some d' ∧ d'.toRegistry = c'.toRegistry := by
  have hclients : d.clients = c.clients := congrArg Registry.clients h.registry
  have hmanagers : d.managers = c.managers := congrArg Registry.managers h.registry
  have hbound : d.overlayResources = c.overlayResources :=
    congrArg Registry.overlayResources h.registry
  cases handled_of_step hs with
  | ipcFd mask read _ =>
    refine ⟨_, if_pos ha, ?_⟩
    rw [toRegistry_ipcFdHandler, toRegistry_ipcFdHandler, h.registry]
  | ipcTimer result _ _ => exact ⟨_, if_pos ha, h.registry⟩
  | ipcLink link _ => exact ⟨_, if_pos ha, h.registry⟩
  | connect client hn =>
    refine ⟨_, if_neg (hclients ▸ hn), ?_⟩
    dsimp only
    rw [h.registry]
  | disconnect client order hm ho =>
    have ho' : order.Perm (PlayosCompositor.ownedObjects d client) := h.ownedObjects client ▸ ho
    refine ⟨_, if_pos ⟨hclients ▸ hm, ho'⟩, ?_⟩
    rw [toRegistry_wlClientDestroy hd.1 hd.2 ho', toRegistry_wlClientDestroy hc.1 hc.2 ho,
      h.windows.overlayClient, h.windows.shellClient, h.registry]
  | bindManager client created hm =>
    refine ⟨_, if_pos (hclients ▸ hm), ?_⟩
    rw [toRegistry_playosManagerBind, toRegistry_playosManagerBind, h.registry]
  | registerShell client hm =>
    refine ⟨_, if_pos (hmanagers ▸ hm), ?_⟩
    rw [toRegistry_playosManagerRegisterShell, toRegistry_playosManagerRegisterShell,
      h.windows.shellClient, h.registry]
  | registerOverlay client hm =>
    refine ⟨_, if_pos (hmanagers ▸ hm), ?_⟩
    rw [toRegistry_playosManagerRegisterOverlay, toRegistry_playosManagerRegisterOverlay,
      h.windows.overlayClient, h.registry]
  | bindOverlay client created hm =>
    refine ⟨_, if_pos (hclients ▸ hm), ?_⟩
    rw [toRegistry_playosOverlayBind, toRegistry_playosOverlayBind, h.windows.overlayClient,
      h.registry]
  | overlayRequest resource request bound hf =>
    refine ⟨_, Option.map_eq_some_iff.mpr ⟨bound, hbound ▸ hf, rfl⟩, ?_⟩
    rw [toRegistry_playosOverlayRequest, toRegistry_playosOverlayRequest, h.registry]
  | newToplevel client alloc hm =>
    refine ⟨_, if_pos (hclients ▸ hm), ?_⟩
    rw [toRegistry_handleNewXdgToplevel, toRegistry_handleNewXdgToplevel, h.registry]
  | commit tree surface track ht =>
    refine ⟨_, Option.map_eq_some_iff.mpr ⟨track, (h.track? tree).trans ht, rfl⟩, ?_⟩
    rw [toRegistry_handleToplevelCommit, toRegistry_handleToplevelCommit, h.registry]
  | destroyToplevel tree track ht =>
    refine ⟨_, Option.map_eq_some_iff.mpr ⟨track, (h.track? tree).trans ht, rfl⟩, ?_⟩
    rw [toRegistry_handleToplevelDestroy, toRegistry_handleToplevelDestroy, h.registry]
  | key keycode state =>
    refine ⟨_, rfl, ?_⟩
    rw [toRegistry_handleKeyboardKey, toRegistry_handleKeyboardKey, h.registry]
  | newOutput calls =>
    refine ⟨_, rfl, ?_⟩
    have hbackend : d.backendType = c.backendType := congrArg Settings.backendType h.settings
    unfold handleNewOutput
    rw [hbackend]
    repeat' split
    all_goals first
      | exact h.registry
      | exact congrArg (fun r : Registry ↦ { r with nextId := r.nextId + 1 }) h.registry
  | frame sceneOutput windowElapsed =>
    refine ⟨_, rfl, ?_⟩
    rw [toRegistry_handleFrame, toRegistry_handleFrame, h.registry]

/-- What is settled stays settled in both. -/
theorem Alike.settings_step {d' : Compositor} (h : Alike c d) (hs : step c e = some c')
    (hd : step d e = some d') : d'.settings = c'.settings := by
  rw [PlayosCompositor.settings_step hd, PlayosCompositor.settings_step hs, h.settings]

/-! ### Without the overlay -/

/-- The event asks for the overlay or dismisses it, or could do no more than that. -/
def Event.overlays : Event → Bool
  | .ipcFd mask read => !mask.hangupOrError && mask.readable &&
      (read == .command .showOverlay || read == .command .hideOverlay)
  | .overlayRequest _ _ => true
  | .key _ _ => true
  | _ => false

private theorem foregroundInput_of_overlays (c : Compositor) (ho : e.overlays = true) :
    foregroundInput c e = .idle ∨ (foregroundInput c e).overlays = true := by
  cases e with
  | ipcFd mask read =>
    simp only [Event.overlays, Bool.and_eq_true, Bool.not_eq_true', Bool.or_eq_true,
      beq_iff_eq] at ho
    obtain ⟨⟨hh, hr⟩, rfl | rfl⟩ := ho
    · simp [foregroundInput, hh, hr, commandInput, Input.overlays]
    · simp [foregroundInput, hh, hr, commandInput, Input.overlays]
  | overlayRequest resource request =>
    simp only [foregroundInput, overlayRequestInput]
    repeat' split
    all_goals simp [Input.overlays]
  | key keycode state =>
    simp only [foregroundInput, systemPressInput]
    repeat' split
    all_goals simp [Input.overlays]
  | _ => cases ho

private theorem foregroundInput_of_not_overlays (hr : d.toRegistry = c.toRegistry)
    (ho : e.overlays = false) : foregroundInput d e = foregroundInput c e ∧
      (foregroundInput c e).overlays = false := by
  have hnext : d.nextId = c.nextId := congrArg Registry.nextId hr
  cases e with
  | ipcFd mask read =>
    refine ⟨rfl, ?_⟩
    rcases mask with ⟨hangup, readable⟩
    cases hangup
    case true => rfl
    case false =>
      cases readable
      case false => rfl
      case true =>
        rcases read with _ | _ | command
        case failed => rfl
        case dropped => rfl
        case command =>
          cases command
          case showOverlay => simp [Event.overlays] at ho
          case hideOverlay => simp [Event.overlays] at ho
          all_goals rfl
  | overlayRequest resource request => cases ho
  | key keycode state => cases ho
  | newToplevel client alloc =>
    refine ⟨by simp only [foregroundInput, hnext], ?_⟩
    cases alloc <;> rfl
  | commit tree surface =>
    refine ⟨rfl, ?_⟩
    simp only [foregroundInput]
    split <;> rfl
  | _ => exact ⟨rfl, rfl⟩

/-- The second compositor is what the first one is under its overlay: the same roles, windows,
launch and bindings, the same connection, and the same games reported ready. -/
structure Beneath (c d : Compositor) : Prop where
  foreground : d.toForeground = c.toForeground.beneath
  registry : d.toRegistry = c.toRegistry
  settings : d.settings = c.settings
  ipc : d.ipc = c.ipc
  ready : readyTokens d.messages = readyTokens c.messages

private theorem Beneath.alike (h : Beneath c d) : Alike c d where
  windows := by
    rw [h.foreground]
    exact ⟨rfl, rfl, rfl, rfl, rfl, rfl⟩
  registry := h.registry
  settings := h.settings

private theorem Beneath.readyMessages (h : Beneath c d) (e : Event) :
    readyMessages d e = readyMessages c e := by
  cases e with
  | commit tree surface =>
    have hstate : d.fgState = .gameStarting ↔ c.fgState = .gameStarting := by
      rw [h.foreground]
      exact fgState_beneath_eq (by decide) (by decide)
    have ha : d.Activates tree ↔ c.Activates tree := by
      unfold Foreground.Activates Foreground.IsGame
      rw [hstate, h.alike.windows.toplevels]
    have htoken : d.expectedLaunchToken = c.expectedLaunchToken := by
      rw [h.foreground]
      rfl
    simp only [PlayosCompositor.readyMessages, ha, htoken]
  | _ => rfl

private theorem registry_step_of_overlays (ho : e.overlays = true) (hs : step c e = some c') :
    c'.toRegistry = c.toRegistry ∧ c'.ipc = c.ipc ∧ readyMessages c e = [] := by
  have hipc := ipc_step hs
  cases handled_of_step hs with
  | ipcFd mask read _ =>
    refine ⟨toRegistry_ipcFdHandler c mask read, hipc.trans (if_neg ?_), rfl⟩
    simp only [Event.overlays, Bool.and_eq_true, Bool.not_eq_true', Bool.or_eq_true,
      beq_iff_eq] at ho
    obtain ⟨⟨hh, -⟩, rfl | rfl⟩ := ho
    all_goals simp [hh]
  | overlayRequest resource request bound _ =>
    exact ⟨toRegistry_playosOverlayRequest c bound.client request, hipc, rfl⟩
  | key keycode state => exact ⟨toRegistry_handleKeyboardKey c keycode state, hipc, rfl⟩
  | _ => cases ho

/-- What is under the overlay stays when it is asked for or dismissed, exactly if `game_tree` is
set when a game is uncovered. -/
theorem Beneath.overlays_iff (h : Beneath c d) (hw : c.WF) (ho : e.overlays = true)
    (hs : step c e = some c') : Beneath c' d ↔ ¬ c.Uncovers (foregroundInput c e) := by
  obtain ⟨hr, hi, hready⟩ := registry_step_of_overlays ho hs
  have hf := toForeground_step hw.linked hs
  constructor
  · -- the dismissal leaves the shell in front, and a game is what was under the overlay
    rintro h' ⟨hinput, hui, hgame⟩
    have hnext := fgState_step hw.foreground hf
    have hsame : c'.toForeground.beneath.fgState = c.toForeground.beneath.fgState := by
      rw [← h'.foreground, h.foreground]
    have hv := hw.foreground.overlaid hui
    simp [hinput, nextState, hui, hgame, hv] at hnext
    simp [beneath, hnext, hui] at hsame
  · intro hu
    refine ⟨?_, h.registry.trans hr.symm, h.settings.trans (settings_step hs).symm,
      h.ipc.trans hi.symm, ?_⟩
    · rw [h.foreground]
      rcases foregroundInput_of_overlays c ho with hidle | hover
      · rw [hidle] at hf
        exact congrArg beneath (Option.some.inj hf)
      · exact (beneath_of_overlays hf hover hu).symm
    · rw [messages_step hw hs, hready, List.nil_append, readyTokens_append, readyTokens_announce,
        List.append_nil, h.ready]

/-- Any other event happens under the overlay too. -/
theorem Beneath.exists_step (h : Beneath c d) (hc : c.WF ∧ Bound c) (hd : d.WF ∧ Bound d)
    (ho : e.overlays = false) (hs : step c e = some c') :
    ∃ d', step d e = some d' ∧ Beneath c' d' := by
  obtain ⟨d', hsd, hr⟩ := h.alike.exists_step ⟨hc.1.linked, hc.2⟩ ⟨hd.1.linked, hd.2⟩
    (h.ipc ▸ allows_of_step hs) hs
  obtain ⟨hinput, hover⟩ := foregroundInput_of_not_overlays h.registry ho
  refine ⟨d', hsd, ?_, hr, h.alike.settings_step hs hsd, ?_, ?_⟩
  · have hf := toForeground_step hd.1.linked hsd
    rw [h.foreground, hinput, step_beneath (toForeground_step hc.1.linked hs) hover] at hf
    exact (Option.some.inj hf).symm
  · rw [ipc_step hsd, ipc_step hs, h.ipc]
  · rw [messages_step hd.1 hsd, messages_step hc.1 hs, h.readyMessages]
    simp only [readyTokens_append, readyTokens_announce, List.append_nil, h.ready]

/-- Leave out of a run everything that asks for the overlay or dismisses it: at every point the
compositor is what it was under the overlay, exactly if the overlay is never dismissed over a
game while `game_tree` is NULL. -/
theorem overlay_erased_iff (config : StartConfig) (es : List Event) :
    (∀ pre c, pre <+: es → compositorSystem.run (playosCompositorStarted config) pre = some c →
      ∃ d, compositorSystem.run (playosCompositorStarted config)
          (pre.filter fun e ↦ !e.overlays) = some d ∧ Beneath c d) ↔
      compositorSystem.Each (fun c e _ ↦ ¬ c.Uncovers (foregroundInput c e))
        (playosCompositorStarted config) es := by
  have hstart := compositorSystem_bound.base _ ⟨config, rfl⟩
  rw [compositorSystem.each_iff_run]
  constructor
  · intro h pre e c c' hpre hr hs hu
    have ho : e.overlays = true := by
      by_contra hn
      have hover := (foregroundInput_of_not_overlays (c := c) (d := c) rfl
        (eq_false_of_ne_true hn)).2
      rw [hu.1] at hover
      cases hover
    have hr' : compositorSystem.run (playosCompositorStarted config) (pre ++ [e]) = some c' := by
      rw [compositorSystem.run_append, hr, Option.bind_some, compositorSystem.run_singleton, hs]
    obtain ⟨d, hd, hb⟩ := h pre c ((List.prefix_append _ _).trans hpre) hr
    obtain ⟨d', hd', hb'⟩ := h (pre ++ [e]) c' hpre hr'
    rw [List.filter_append, List.filter_cons_of_neg (by simp [ho]), List.filter_nil,
      List.append_nil, hd] at hd'
    cases Option.some.inj hd'
    exact (hb.overlays_iff (compositorSystem_bound.run hstart hr).1 ho hs).mp hb' hu
  · intro hu pre c hpre hr
    refine compositorSystem.run_filter compositorSystem_bound compositorSystem_bound
      (fun _ _ _ _ hc h ho hs hue ↦ (h.overlays_iff hc.1 ho hs).mpr hue)
      (fun _ _ _ _ hc hd h ho hs ↦ h.exists_step hc hd ho hs) hstart hstart
      ⟨rfl, rfl, rfl, rfl, rfl⟩ ?_ hr
    rw [compositorSystem.each_iff_run]
    exact fun first e t u hp ht hs ↦ hu first e t u (hp.trans hpre) ht hs

/-! ### Without outages -/

/-- The event concerns the connection to `compositor.sock` only: it is lost, tried again, or
closed on the other side. -/
def Event.outage : Event → Bool
  | .ipcFd mask read => mask.hangupOrError || mask.readable && read == .failed
  | .ipcTimer _ => true
  | .ipcLink _ => true
  | _ => false

/-- The second compositor is the first one with a connection that has always been there. -/
structure Uninterrupted (c d : Compositor) : Prop where
  foreground : d.toForeground = c.toForeground
  registry : d.toRegistry = c.toRegistry
  settings : d.settings = c.settings
  messages : d.messages = c.messages
  connected : d.ipc.ipcSource.isSome ∧ d.ipc.sendResult = .delivered
  delivered : ∀ attempt ∈ d.sent, attempt.result = .delivered

private theorem step_of_outage (ho : e.outage = true) (hs : step c e = some c') :
    c' = { c with ipc := clientAfter c.ipc e } := by
  cases handled_of_step hs with
  | ipcFd mask read _ =>
    rcases mask with ⟨hangup, readable⟩
    cases hangup with
    | true => rfl
    | false =>
      simp only [Event.outage, Bool.false_or, Bool.and_eq_true, beq_iff_eq] at ho
      obtain ⟨rfl, rfl⟩ := ho
      rfl
  | ipcTimer result _ _ => rfl
  | ipcLink link _ => rfl
  | _ => cases ho

private theorem clientAfter_of_not_outage (s : IpcClient) (ho : e.outage = false) :
    clientAfter s e = s := by
  cases e with
  | ipcFd mask read =>
    simp only [Event.outage, Bool.or_eq_false_iff, Bool.and_eq_false_imp, beq_eq_false_iff_ne] at ho
    refine if_neg fun hl ↦ hl.elim (fun hh ↦ ?_) fun hf ↦ ho.2 hf.1 hf.2
    rw [ho.1] at hh
    cases hh
  | ipcTimer result => cases ho
  | ipcLink link => cases ho
  | _ => rfl

private theorem IpcClient.allows_of_not_outage {s : IpcClient} (hs : s.ipcSource.isSome)
    (ho : e.outage = false) : s.Allows e := by
  cases e with
  | ipcFd mask read => exact hs
  | ipcTimer result => cases ho
  | ipcLink link => cases ho
  | _ => trivial

private theorem Uninterrupted.dueMessages (h : Uninterrupted c d) (e : Event) :
    foregroundInput d e = foregroundInput c e ∧ dueMessages d e = dueMessages c e := by
  have hnext : d.nextId = c.nextId := congrArg Registry.nextId h.registry
  have hbound : d.overlayResources = c.overlayResources :=
    congrArg Registry.overlayResources h.registry
  have hinput : foregroundInput d e = foregroundInput c e := by
    cases e with
    | overlayRequest resource request =>
      simp only [foregroundInput, overlayRequestInput, hbound, h.foreground]
    | newToplevel client alloc => simp only [foregroundInput, hnext]
    | key keycode state => simp only [foregroundInput, h.foreground]
    | _ => rfl
  have hready : readyMessages d e = readyMessages c e := by
    cases e with
    | commit tree surface => simp only [readyMessages, h.foreground]
    | _ => rfl
  refine ⟨hinput, ?_⟩
  simp only [PlayosCompositor.dueMessages, hinput, hready, h.foreground]

private theorem Uninterrupted.outage (h : Uninterrupted c d) (ho : e.outage = true)
    (hs : step c e = some c') : Uninterrupted c' d := by
  rw [step_of_outage ho hs]
  exact ⟨h.foreground, h.registry, h.settings, h.messages, h.connected, h.delivered⟩

/-- Any other event happens on the uninterrupted connection too, and its messages arrive. -/
theorem Uninterrupted.exists_step (h : Uninterrupted c d) (hc : c.WF ∧ Bound c)
    (hd : d.WF ∧ Bound d) (ho : e.outage = false) (hs : step c e = some c') :
    ∃ d', step d e = some d' ∧ Uninterrupted c' d' := by
  have halike : Alike c d := by
    refine ⟨?_, h.registry, h.settings⟩
    rw [h.foreground]
    exact .refl _
  obtain ⟨d', hsd, hr⟩ := halike.exists_step ⟨hc.1.linked, hc.2⟩ ⟨hd.1.linked, hd.2⟩
    (IpcClient.allows_of_not_outage h.connected.1 ho) hs
  obtain ⟨hinput, hdue⟩ := h.dueMessages e
  have hipc : d'.ipc = d.ipc := (ipc_step hsd).trans (clientAfter_of_not_outage _ ho)
  refine ⟨d', hsd, ?_, hr, halike.settings_step hs hsd, ?_, by rw [hipc]; exact h.connected, ?_⟩
  · have hf := toForeground_step hd.1.linked hsd
    rw [hinput, h.foreground, toForeground_step hc.1.linked hs] at hf
    exact (Option.some.inj hf).symm
  · rw [messages_step_due hd.1 hsd, messages_step_due hc.1 hs, hdue, h.messages]
  · intro attempt hm
    rw [sent_step hd hsd, List.mem_append, List.mem_map] at hm
    rcases hm with hm | ⟨message, -, rfl⟩
    · exact h.delivered attempt hm
    · exact h.connected.2

/-- Whatever becomes of the connection, the compositor goes on as with a connection that is there
from the start and never lost: the same foreground, windows, clients and bindings, and the same
messages, which would all have arrived. -/
theorem outages_erased {config : StartConfig} {es : List Event} (fd : Nat)
    (hr : compositorSystem.run (playosCompositorStarted config) es = some c) :
    ∃ d, compositorSystem.run (playosCompositorStarted { config with connect := .connected fd })
        (es.filter fun e ↦ !e.outage) = some d ∧ Uninterrupted c d := by
  have hstart : Uninterrupted (playosCompositorStarted config)
      (playosCompositorStarted { config with connect := .connected fd }) :=
    ⟨rfl, rfl, rfl, rfl, ⟨rfl, rfl⟩, List.forall_mem_nil _⟩
  refine compositorSystem.run_filter (G := fun _ _ _ ↦ True) compositorSystem_bound
    compositorSystem_bound (fun _ _ _ _ _ h ho hs _ ↦ h.outage ho hs)
    (fun _ _ _ _ hc hd h ho hs ↦ h.exists_step hc hd ho hs)
    (compositorSystem_bound.base _ ⟨_, rfl⟩) (compositorSystem_bound.base _ ⟨_, rfl⟩) hstart ?_ hr
  rw [compositorSystem.each_iff_run]
  exact fun _ _ _ _ _ _ _ ↦ trivial

/-- The theorem for a game whose first frame is drawn while playos-init is away. -/
theorem outages_erased_launch :
    ∃ c ∈ compositorSystem.run (playosCompositorStarted headlessStart) outageRun,
      ∃ d, compositorSystem.run
          (playosCompositorStarted { headlessStart with connect := .connected 3 })
          (outageRun.filter fun e ↦ !e.outage) = some d ∧ Uninterrupted c d := by
  obtain ⟨c, hc⟩ := Option.isSome_iff_exists.mp (show (compositorSystem.run
    (playosCompositorStarted headlessStart) outageRun).isSome by decide)
  exact ⟨c, hc, outages_erased 3 hc⟩

end PlayosCompositor
