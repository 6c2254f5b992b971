import PlayosCompositor.Foreground.Refinement
import PlayosCompositor.Runs.Foreground

/-!
# Commands that are sent again

playos-init gets no acknowledgement, and the connection may be lost at any time, so it may send
a command again. A command does nothing exactly when its effect stands already, and the effect
stands as long as nothing but clients, connections and outputs come and go.
-/

namespace PlayosCompositor

open Foreground

variable {c c' d : Compositor} {e : Event}

/-! ### Commands that do nothing -/

/-- No launch is booked. -/
def Foreground.Unbooked (f : Foreground) : Prop :=
  f.expectedLaunchToken = .clear ∧ f.expectedGameId = .clear ∧ f.gameSurfaceReady = false

/-- The effect of a command stands. -/
def Foreground.Stands (f : Foreground) : IpcCommand → Prop
  | .setExpectedGame launchToken gameId =>
    f.fgState = .gameStarting ∧ f.expectedLaunchToken = launchToken.store 64 ∧
      f.expectedGameId = gameId.store 256 ∧ f.gameSurfaceReady = false
  | .clearExpectedGame =>
    f.Unbooked ∧ (f.fgState = .shellForeground ∨ f.fgState = .terminatingGame)
  | .forceTerminateGame => f.Unbooked ∧ f.fgState = .terminatingGame
  | .showOverlay => f.overlayVisible = true
  | .hideOverlay => f.overlayVisible = false

private theorem playosStateTransition_self (c : Compositor) :
    playosStateTransition c c.fgState = c :=
  if_pos rfl

private theorem forgetExpected_of_unbooked (h : c.Unbooked) : forgetExpected c = c := by
  obtain ⟨ht, hg, hr⟩ := h
  unfold forgetExpected
  rw [← ht, ← hg, ← hr]

private theorem ipcDispatch_of_stands {command : IpcCommand} (h : c.Stands command) :
    ipcDispatch c command = c := by
  cases command with
  | setExpectedGame launchToken gameId =>
    obtain ⟨hs, ht, hg, hr⟩ := h
    simp only [ipcDispatch, playosStateHandleSetExpectedGame, Option.getD_some]
    rw [← ht, ← hg, ← hr, ← hs]
    exact playosStateTransition_self c
  | clearExpectedGame =>
    obtain ⟨hu, hs⟩ := h
    simp only [ipcDispatch, playosStateHandleClearExpected]
    rw [forgetExpected_of_unbooked hu, if_neg]
    rcases hs with hs | hs <;> rw [hs] <;> decide
  | forceTerminateGame =>
    obtain ⟨hu, hs⟩ := h
    simp only [ipcDispatch, playosStateHandleForceTerminate]
    rw [← hs, playosStateTransition_self, forgetExpected_of_unbooked hu]
  | showOverlay => exact if_pos h
  | hideOverlay =>
    have hh : (!c.overlayVisible) = true := by rw [show c.overlayVisible = false from h]; rfl
    exact if_pos hh

private theorem stands_ipcDispatch (c : Compositor) (command : IpcCommand) :
    (ipcDispatch c command).Stands command := by
  have hf := step_commandInput c command
  cases command with
  | setExpectedGame launchToken gameId =>
    rw [← Option.some.inj hf]
    exact ⟨fgState_goto _ _, expectedLaunchToken_goto _ _, expectedGameId_goto _ _,
      gameSurfaceReady_goto _ _⟩
  | clearExpectedGame =>
    rw [← Option.some.inj hf, withdraw]
    split
    · next ht => exact ⟨⟨rfl, rfl, rfl⟩, Or.inr ht⟩
    · exact ⟨⟨expectedLaunchToken_goto _ _, expectedGameId_goto _ _, gameSurfaceReady_goto _ _⟩,
        Or.inl (fgState_goto _ _)⟩
  | forceTerminateGame =>
    rw [← Option.some.inj hf]
    exact ⟨⟨rfl, rfl, rfl⟩, fgState_goto _ _⟩
  | showOverlay =>
    rw [← Option.some.inj hf]
    exact overlayVisible_showOverlay _
  | hideOverlay =>
    rw [← Option.some.inj hf]
    exact overlayVisible_hideOverlay _

private theorem ipcDispatch_eq_self_iff {command : IpcCommand} :
    ipcDispatch c command = c ↔ c.Stands command := by
  refine ⟨fun h ↦ ?_, ipcDispatch_of_stands⟩
  have hs := stands_ipcDispatch c command
  rwa [h] at hs

/-! ### Runs with repeated commands -/

/-- The event means nothing to the foreground: the connection, a client, a binding, an output or
a frame comes or goes. -/
def Event.background : Event → Bool
  | .ipcFd mask read => mask.hangupOrError || !mask.readable || read == .failed || read == .dropped
  | .ipcTimer _ => true
  | .ipcLink _ => true
  | .connect _ => true
  | .bindManager _ _ => true
  | .bindOverlay _ _ => true
  | .newOutput _ => true
  | .frame _ _ => true
  | _ => false

/-- The last command, while nothing but background events followed it. -/
def Event.after (last : Option IpcCommand) (e : Event) : Option IpcCommand :=
  if e.background then last
  else
    match e with
    | .ipcFd _ (.command command) => some command
    | _ => none

/-- The second run is the first one with commands that are sent again, any number of times:
either with nothing but background events since the command was sent, or when its effect stands
whatever has happened since. -/
inductive Resends : Compositor → Option IpcCommand → List Event → List Event → Prop
  | nil (c : Compositor) (last : Option IpcCommand) : Resends c last [] []
  | event {c c' : Compositor} {last : Option IpcCommand} {es fs : List Event} (e : Event)
      (hs : step c e = some c') (h : Resends c' (e.after last) es fs) :
    Resends c last (e :: es) (e :: fs)
  | again {c : Compositor} {last : Option IpcCommand} {command : IpcCommand} {es fs : List Event}
      (ha : last = some command ∨ c.Stands command) (h : Resends c last es fs) :
    Resends c last es (.command command :: fs)

private theorem foregroundInput_of_background (c : Compositor) (h : e.background = true) :
    foregroundInput c e = .idle := by
  cases e with
  | ipcFd mask read =>
    rcases mask with ⟨hangup, readable⟩
    cases hangup with
    | true => rfl
    | false =>
      cases readable with
      | false => rfl
      | true => cases read <;> simp [Event.background, foregroundInput] at h ⊢
  | _ => first | rfl | cases h

/-- What stands in the foreground stands after every event that it names. -/
theorem stands_step {last : Option IpcCommand} (hw : c.WF)
    (h : ∀ command, last = some command → c.Stands command) (hs : step c e = some c') :
    ∀ command, e.after last = some command → c'.Stands command := by
  intro command hc
  unfold Event.after at hc
  cases hb : e.background with
  | true =>
    rw [if_pos hb] at hc
    have hf := toForeground_step hw.linked hs
    rw [foregroundInput_of_background c hb] at hf
    exact Option.some.inj hf ▸ h command hc
  | false =>
    rw [if_neg (by simp [hb])] at hc
    cases e with
    | ipcFd mask read =>
      rcases mask with ⟨hangup, readable⟩
      cases hangup with
      | true => cases hb
      | false =>
        cases readable with
        | false => cases hb
        | true =>
          cases read with
          | failed => cases hb
          | dropped => cases hb
          | command other =>
            cases Option.some.inj hc
            have hc' := (Option.ite_none_right_eq_some.mp hs).2
            rw [← Option.some.inj hc']
            exact stands_ipcDispatch c command
    | _ => cases hc

private theorem run_of_resends {last : Option IpcCommand} {es fs : List Event} (hw : c.WF)
    (h : ∀ command, last = some command → c.Stands command) (hf : Resends c last es fs)
    (hr : compositorSystem.run c fs = some d) : compositorSystem.run c es = some d := by
  induction hf with
  | nil c last => exact hr
  | event e hs _ ih =>
    obtain ⟨c₁, hs₁, hrest⟩ := compositorSystem.run_cons_some.mp hr
    cases hs.symm.trans hs₁
    exact compositorSystem.run_cons_some.mpr
      ⟨_, hs, ih (compositorSystem_wf.step _ _ _ hw hs) (stands_step hw h hs) hrest⟩
  | again ha _ ih =>
    obtain ⟨c₁, hs, hrest⟩ := compositorSystem.run_cons_some.mp hr
    have hc₁ := (Option.ite_none_right_eq_some.mp hs).2
    have hsame := (Option.some.inj hc₁).symm.trans (ipcDispatch_of_stands (ha.elim (h _) id))
    exact ih hw h (hsame ▸ hrest)

/-- Sending commands again is harmless: whatever came and went in the meantime, a run with
repeated commands ends in the very state of the run without them, messages and events sent
included. A command that comes next does nothing exactly if its effect stands there. -/
theorem resends_harmless (hc : compositorSystem.Reachable c) {es fs : List Event}
    (h : Resends c none es fs) (hr : compositorSystem.run c fs = some d) :
    compositorSystem.run c es = some d ∧
      ∀ command, ipcDispatch d command = d ↔ d.Stands command :=
  ⟨run_of_resends (compositorSystem_wf.reachable hc) (by simp) h hr,
    fun _ ↦ ipcDispatch_eq_self_iff⟩

/-- A launch is announced, and the connection is lost and made again. -/
def announcedRun : List Event :=
  [.command (.setExpectedGame (.ofString "t") (.ofString "g")), .ipcFd ⟨true, false⟩ .failed,
    .ipcTimer (.connected 3)]

/-- The same with the announcement repeated on the new connection. -/
def reannouncedRun : List Event :=
  announcedRun ++ [.command (.setExpectedGame (.ofString "t") (.ofString "g"))]

/-- The theorem for the repeated announcement. -/
theorem resends_harmless_reconnected :
    ∃ c ∈ compositorSystem.run (playosCompositorStarted headlessStart) reannouncedRun,
      compositorSystem.run (playosCompositorStarted headlessStart) announcedRun = some c := by
  obtain ⟨c, hc⟩ := Option.isSome_iff_exists.mp (show (compositorSystem.run
    (playosCompositorStarted headlessStart) reannouncedRun).isSome by decide)
  have hresends : Resends (playosCompositorStarted headlessStart) none announcedRun
      reannouncedRun :=
    .event _ rfl (.event _ rfl (.event _ rfl (.again (Or.inl rfl) (.nil _ _))))
  exact ⟨c, hc, (resends_harmless ⟨_, [], ⟨headlessStart, rfl⟩, rfl⟩ hresends hc).1⟩

end PlayosCompositor
