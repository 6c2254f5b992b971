import PlayosCompositor.Outputs.Settings

/-!
# The mode that is driven and the size that is told

`handle_new_output` chooses a mode for an output of the DRM backend: the one that discovery has
recorded, and otherwise the first preferred one. Clients are told the recorded size either way.
-/

namespace PlayosCompositor

/-- A mode that an output offers; `struct wlr_output_mode`. -/
structure OutputMode where
  width : Int
  height : Int
  refresh : Int
  preferred : Bool
  deriving DecidableEq, Repr

/-- The mode is the recorded one, up to fractions of a Hertz. -/
def OutputMode.Matches (mode : OutputMode) (width height refreshMhz : Int) : Prop :=
  mode.width = width ∧ mode.height = height ∧ mode.refresh.tdiv 1000 = refreshMhz.tdiv 1000
  deriving Decidable

/-- The choice of a mode, `src/compositor.c:582–609`. -/
def chooseMode (c : Compositor) (modes : List OutputMode) : Option OutputMode :=
  let preferred :=
    if c.outputWidth > 0 ∧ c.outputHeight > 0 ∧ c.outputRefreshMhz > 0 then
      modes.find? fun mode ↦ mode.Matches c.outputWidth c.outputHeight c.outputRefreshMhz
    else none
  match preferred with
  | some mode => some mode
  | none => modes.find? fun mode ↦ mode.preferred

/-- The mode that `handle_new_output` commits, if the commit succeeds, `src/compositor.c:567–622`.
`handleNewOutput` is what the function does besides. -/
def committedMode (c : Compositor) (calls : OutputCalls) (modes : List OutputMode)
    (commits : Bool) : Option OutputMode :=
  if !calls.initRender then none
  else if c.backendType = .headless ∧ !calls.configure then none
  else if c.backendType = .drm then
    match chooseMode c modes with
    | none => none
    | some preferred => if commits then some preferred else none
  else none

/-- The size that clients are told, in the answer to an initial commit and to the overlay, is
that of a mode. -/
structure ClientsSized (c : Compositor) (mode : OutputMode) : Prop where
  configure : ∀ track (surface : SurfaceCommit), surface.xdgToplevel → surface.initialCommit →
    (handleToplevelCommit c track surface).wire =
      c.wire ++ [.configure track.tree mode.width mode.height]
  outputInfo : ∀ resource, c.overlayResource = some resource → ∃ refreshMhz scale100,
    (playosOverlaySendOutputInfo c).wire =
      c.wire ++ [.overlay resource (.outputInfo mode.width mode.height refreshMhz scale100)]

/-- The recorded mode is offered, or the first preferred mode is of the recorded size. -/
def ModesAgree (config : StartConfig) (modes : List OutputMode) : Prop :=
  (0 < config.outputRefreshMhz ∧ ∃ mode ∈ modes,
    mode.Matches config.outputWidth config.outputHeight config.outputRefreshMhz) ∨
  ∀ mode ∈ modes.find? fun mode ↦ mode.preferred,
    mode.width = config.outputWidth ∧ mode.height = config.outputHeight
  deriving Decidable

/-! ### What clients are told -/

private theorem wire_playosStateTransition (c : Compositor) {state : ForegroundState}
    (h : ¬ (state = .shellForeground ∨ state = .terminatingGame)) :
    (playosStateTransition c state).wire = c.wire := by
  by_cases hc : c.fgState = state
  · rw [playosStateTransition, if_pos hc]
  · rw [playosStateTransition, if_neg hc, if_neg h]
    rfl

private theorem wire_playosStateGameSurfaceReady (c : Compositor) :
    (playosStateGameSurfaceReady c).wire = c.wire := by
  unfold playosStateGameSurfaceReady
  split
  · rfl
  · split
    · rfl
    · exact wire_playosStateTransition _ (by decide)

private theorem wire_handleToplevelCommit (c : Compositor) (track : ToplevelTrack)
    {surface : SurfaceCommit} (hx : surface.xdgToplevel) (hi : surface.initialCommit) :
    (handleToplevelCommit c track surface).wire = c.wire ++ [.configure track.tree
      (if c.outputWidth > 0 then c.outputWidth else 0)
      (if c.outputHeight > 0 then c.outputHeight else 0)] := by
  have hcounted : (countCommit (configureInitial c track surface) track surface).wire =
      c.wire ++ [.configure track.tree (if c.outputWidth > 0 then c.outputWidth else 0)
        (if c.outputHeight > 0 then c.outputHeight else 0)] := by
    simp [countCommit, configureInitial, hi]
  simp only [handleToplevelCommit, hx, Bool.not_true, Bool.false_eq_true, ↓reduceIte]
  split
  · rw [wire_playosStateGameSurfaceReady, hcounted]
  · exact hcounted

private theorem clientsSized_iff_recorded {c : Compositor} (hw : 0 < c.outputWidth)
    (hh : 0 < c.outputHeight) (mode : OutputMode) :
    ClientsSized c mode ↔ mode.width = c.outputWidth ∧ mode.height = c.outputHeight := by
  constructor
  · intro h
    have hc := h.configure ⟨0, 0, .none⟩ ⟨true, true, false⟩ rfl rfl
    rw [wire_handleToplevelCommit c _ rfl rfl, if_pos hw, if_pos hh] at hc
    simp only [List.append_cancel_left_eq, List.cons.injEq, WireEvent.configure.injEq, true_and,
      and_true] at hc
    exact ⟨hc.1.symm, hc.2.symm⟩
  · rintro ⟨hmw, hmh⟩
    constructor
    · intro track surface hx hi
      rw [wire_handleToplevelCommit c track hx hi, if_pos hw, if_pos hh, hmw, hmh]
    · intro resource hr
      refine ⟨.ofInt c.outputRefreshMhz, .ofInt c.outputScale100, ?_⟩
      rw [playosOverlaySendOutputInfo, sendOverlayEvent, hr, hmw, hmh]

/-! ### What is chosen -/

private theorem chooseMode_of_committedMode {c : Compositor} {calls : OutputCalls}
    {modes : List OutputMode} {commits : Bool} {mode : OutputMode}
    (h : committedMode c calls modes commits = some mode) : chooseMode c modes = some mode := by
  unfold committedMode at h
  split at h
  · exact nomatch h
  · split at h
    · exact nomatch h
    · split at h
      · cases hm : chooseMode c modes with
        | none => rw [hm] at h; exact nomatch h
        | some chosen =>
          rw [hm] at h
          exact (Option.ite_none_right_eq_some.mp h).2
      · exact nomatch h

private theorem chosen_recorded_iff {config : StartConfig} {c : Compositor}
    (hs : c.settings = (playosCompositorStarted config).settings) (hw : 0 < config.outputWidth)
    (hh : 0 < config.outputHeight) {modes : List OutputMode} {mode : OutputMode}
    (hm : chooseMode c modes = some mode) :
    mode.width = config.outputWidth ∧ mode.height = config.outputHeight ↔
      ModesAgree config modes := by
  have hcw : c.outputWidth = config.outputWidth := congrArg Settings.outputWidth hs
  have hch : c.outputHeight = config.outputHeight := congrArg Settings.outputHeight hs
  have hcr : c.outputRefreshMhz = config.outputRefreshMhz := congrArg Settings.outputRefreshMhz hs
  simp only [chooseMode, hcw, hch, hcr, gt_iff_lt, hw, hh, true_and] at hm
  -- The first loop has found a mode, has found none, or has not run.
  cases hf : (if 0 < config.outputRefreshMhz then modes.find? fun mode ↦
      mode.Matches config.outputWidth config.outputHeight config.outputRefreshMhz else none) with
  | some found =>
    rw [hf] at hm
    cases Option.some.inj hm
    obtain ⟨hr, hfind⟩ := Option.ite_none_right_eq_some.mp hf
    have hmatch : mode.Matches config.outputWidth config.outputHeight config.outputRefreshMhz := by
      simpa using List.find?_some hfind
    exact iff_of_true ⟨hmatch.1, hmatch.2.1⟩
      (Or.inl ⟨hr, mode, List.mem_of_find?_eq_some hfind, hmatch⟩)
  | none =>
    rw [hf] at hm
    dsimp only at hm
    have hunmatched : ¬ (0 < config.outputRefreshMhz ∧ ∃ mode ∈ modes,
        mode.Matches config.outputWidth config.outputHeight config.outputRefreshMhz) := by
      rintro ⟨hr, offered, ho, hmatch⟩
      rw [if_pos hr, List.find?_eq_none] at hf
      exact hf offered ho (decide_eq_true hmatch)
    rw [ModesAgree, or_iff_right hunmatched, hm]
    simp

/-- After an output was set to a mode, clients are told its size for good exactly if the modes
that it offered agree with what was recorded. -/
theorem clientsSized_iff {config : StartConfig} (hw : 0 < config.outputWidth)
    (hh : 0 < config.outputHeight) {c c' : Compositor} {es es' : List Event}
    (hr : compositorSystem.run (playosCompositorStarted config) es = some c)
    {calls : OutputCalls} {modes : List OutputMode} {commits : Bool} {mode : OutputMode}
    (hm : committedMode c calls modes commits = some mode)
    (hr' : compositorSystem.run (handleNewOutput c calls) es' = some c') :
    ClientsSized c' mode ↔ ModesAgree config modes := by
  have hs : c.settings = (playosCompositorStarted config).settings := settings_run hr
  have hs' : c'.settings = (playosCompositorStarted config).settings :=
    (settings_run hr').trans ((settings_step (e := .newOutput calls) rfl).trans hs)
  have hcw : c'.outputWidth = config.outputWidth := congrArg Settings.outputWidth hs'
  have hch : c'.outputHeight = config.outputHeight := congrArg Settings.outputHeight hs'
  rw [clientsSized_iff_recorded (hcw ▸ hw) (hch ▸ hh), hcw, hch]
  exact chosen_recorded_iff hs hw hh (chooseMode_of_committedMode hm)

/-- A panel of 1280×800 was recorded. -/
def panelConfig : StartConfig := ⟨.drm, 1280, 800, 60000, 100, .noSocket⟩

/-- Everything that a new output needs can be created. -/
def outputCreated : OutputCalls := ⟨true, true, true, true, true⟩

/-- An output that offers the recorded mode. -/
theorem clientsSized_iff_panel :
    committedMode (playosCompositorStarted panelConfig) outputCreated
        [⟨1280, 800, 60000, true⟩] true = some ⟨1280, 800, 60000, true⟩ ∧
      ClientsSized (handleNewOutput (playosCompositorStarted panelConfig) outputCreated)
        ⟨1280, 800, 60000, true⟩ :=
  ⟨by decide, (@clientsSized_iff panelConfig (by decide) (by decide) _ _ [] [] rfl outputCreated
    [⟨1280, 800, 60000, true⟩] true _ (by decide) rfl).mpr (by decide)⟩

/-- A monitor is driven at its preferred 3840×2160 while clients are told 1280×800. -/
theorem clientsSized_fails :
    committedMode (playosCompositorStarted panelConfig) outputCreated
        [⟨3840, 2160, 60000, true⟩] true = some ⟨3840, 2160, 60000, true⟩ ∧
      ¬ ClientsSized (handleNewOutput (playosCompositorStarted panelConfig) outputCreated)
        ⟨3840, 2160, 60000, true⟩ := by
  refine ⟨by decide, fun h ↦ ?_⟩
  have hrecorded := (clientsSized_iff_recorded (by decide) (by decide) _).mp h
  exact absurd hrecorded (by decide)

end PlayosCompositor
