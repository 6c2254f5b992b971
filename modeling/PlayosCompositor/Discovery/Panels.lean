import Mathlib.Data.List.ReduceOption
import PlayosCompositor.Discovery.Score
import PlayosCompositor.Discovery.Selection

/-!
# Which device drives the internal panel

Discovery looks at the first connected connector of a device and knows two types of internal
panels, `src/gpu_discovery.c:26–64`; output selection rates all usable connectors and knows
three.
-/

namespace PlayosCompositor

/-- The loop of `device_has_connector`: `found` and `*out_is_edp`. The name of the connector is
only logged. -/
def hasConnectorLoop : List (Option DrmConnector) → Bool × Bool
  | [] => (false, false)
  | none :: conns => hasConnectorLoop conns
  | some conn :: conns =>
    if conn.connection = .connected then
      (true, conn.connectorType = connectorEdp ∨ conn.connectorType = connectorLvds)
    else hasConnectorLoop conns

/-- `device_has_connector`, `src/gpu_discovery.c:26`; the caller has cleared `*out_is_edp`. -/
def deviceHasConnector (res : DrmResources) : Bool × Bool :=
  match res with
  | none => (false, false)
  | some connectors => hasConnectorLoop connectors

/-- The connector that discovery looks at. -/
def firstConnected (res : DrmResources) : Option DrmConnector :=
  (listed res).reduceOption.find? fun conn ↦ conn.connection = .connected

private theorem deviceHasConnector_eq (res : DrmResources) :
    deviceHasConnector res = ((firstConnected res).map fun conn ↦
      (true, decide (conn.connectorType = connectorEdp ∨ conn.connectorType = connectorLvds))).getD
        (false, false) := by
  have hloop : ∀ conns, hasConnectorLoop conns =
      ((conns.reduceOption.find? fun conn ↦ conn.connection = .connected).map fun conn ↦
        (true, decide (conn.connectorType = connectorEdp ∨
          conn.connectorType = connectorLvds))).getD (false, false) := by
    intro conns
    induction conns with
    | nil => rfl
    | cons conn conns ih =>
      cases conn with
      | none => exact ih
      | some conn =>
        rw [hasConnectorLoop, List.reduceOption_cons_of_some]
        by_cases hc : conn.connection = .connected
        · rw [if_pos hc, List.find?_cons_of_pos (by simpa using hc)]
          rfl
        · rw [if_neg hc, List.find?_cons_of_neg (by simpa using hc), ih]
  cases res with
  | none => rfl
  | some connectors => exact hloop connectors

/-- A device that drives an internal panel is known to do so, and is scored for it whatever its
vendor. -/
structure PanelKnown (res : DrmResources) : Prop where
  connected : (deviceHasConnector res).1 = true
  internal : (deviceHasConnector res).2 = true
  scored : ∀ vendorId, 1000 <
    playosGpuScore vendorId (deviceHasConnector res).1 (deviceHasConnector res).2

/-- An internal panel is among the usable connectors. -/
def HasPanel (res : DrmResources) : Prop :=
  ∃ i conn, UsableAt res i conn ∧ isInternalPanel conn.connectorType = true

/-- Output selection takes an internal panel; after an overflow it may take any connector that
is usable. -/
def TakesPanel (res : DrmResources) : Prop :=
  HasPanel res ∧ ∀ result, selectOutput res = .ok result → ∃ config ∈ result, config.isEdp = true

/-- Where output selection takes an internal panel, discovery knows of it. -/
def PanelAgreed (res : DrmResources) : Prop := TakesPanel res → PanelKnown res

/-- The first connected connector is an eDP or LVDS panel. -/
def PanelFirst (res : DrmResources) : Prop :=
  ∃ conn ∈ firstConnected res,
    conn.connectorType = connectorEdp ∨ conn.connectorType = connectorLvds

/-- Every usable internal panel is beaten by a usable external connector. -/
def ExternalsBeat (res : DrmResources) : Prop :=
  ∀ j other, UsableAt res j other → isInternalPanel other.connectorType = true →
    ∃ k better, UsableAt res k better ∧ isInternalPanel better.connectorType = false ∧
      Beats k better j other

private theorem panelKnown_iff (res : DrmResources) : PanelKnown res ↔ PanelFirst res := by
  have hscore : ∀ vendorId, 1000 < playosGpuScore vendorId true true := by
    intro vendorId
    unfold playosGpuScore
    dsimp only
    repeat' split
    all_goals first | decide | contradiction
  constructor
  · intro h
    have hi := h.internal
    rw [deviceHasConnector_eq] at hi
    cases hf : firstConnected res with
    | none => rw [hf] at hi; cases hi
    | some conn =>
      rw [hf] at hi
      exact ⟨conn, hf, of_decide_eq_true hi⟩
  · rintro ⟨conn, hf, htype⟩
    have he : deviceHasConnector res = (true, true) := by
      rw [deviceHasConnector_eq, Option.mem_def.mp hf, Option.map_some, Option.getD_some,
        decide_eq_true htype]
    refine ⟨by rw [he], by rw [he], fun vendorId ↦ ?_⟩
    rw [he]
    exact hscore vendorId

/-- Discovery agrees with the selection exactly where an eDP or LVDS panel is connected first, no
internal panel is usable, or no area overflows and external connectors beat all internal panels. -/
theorem panelAgreed_iff (res : DrmResources) :
    PanelAgreed res ↔ PanelFirst res ∨ ¬ HasPanel res ∨ AreasFit res ∧ ExternalsBeat res := by
  unfold PanelAgreed TakesPanel
  rw [panelKnown_iff, imp_iff_or_not, not_and_or]
  refine or_congr_right (or_congr_right' fun _ ↦ ?_)
  by_cases hfit : AreasFit res
  · rw [and_iff_right hfit]
    rcases selectOutput_cases hfit with ⟨hnone, hr⟩ | ⟨i, conn, m, mode, hs, hu, -, hbeats⟩
    · refine iff_of_true (fun h ↦ ?_) fun j other ho ↦ absurd ho (hnone j other)
      obtain ⟨config, hc, -⟩ := h none hr
      cases hc
    · have hext := selected_iff_beaten hu hbeats fun c ↦ isInternalPanel c.connectorType = false
      simp only [Bool.not_eq_false] at hext
      unfold ExternalsBeat
      rw [← hext, Bool.eq_false_iff]
      refine not_congr ⟨fun h ↦ ?_, fun hp result hr ↦ ?_⟩
      · obtain ⟨config, hc, hedp⟩ := h _ hs.written
        cases hc
        exact hedp
      · cases hs.written.symm.trans hr
        exact ⟨_, rfl, hp⟩
  · refine iff_of_false (not_not.mpr fun result hr ↦ ?_) fun h ↦ hfit h.1
    rw [selectOutput_overflow hfit] at hr
    cases hr

/-- A laptop with an external screen on the connector before its panel. -/
def dockedDevice : DrmResources :=
  some [some ⟨.connected, connectorHdmiA, 1, [⟨1920, 1080, 60⟩]⟩,
    some ⟨.connected, connectorEdp, 1, [⟨1920, 1080, 60⟩]⟩]

/-- A device whose panel is a DSI panel. -/
def handheldDevice : DrmResources := some [some ⟨.connected, connectorDsi, 1, [⟨800, 1280, 60⟩]⟩]

/-- An internal panel is selected that discovery does not know of. -/
structure PanelMissed (res : DrmResources) : Prop where
  selected : ∃ config, selectOutput res = .ok (some config) ∧ config.isEdp = true
  unknown : (deviceHasConnector res).2 = false
  disagreed : ¬ PanelAgreed res

private theorem panelMissed_of_selected {res : DrmResources} (hp : HasPanel res)
    (hs : (selectOutput res).toOption.join.map (fun config ↦ config.isEdp) = some true)
    (hd : (deviceHasConnector res).2 = false) : PanelMissed res := by
  obtain ⟨config, hc, hedp⟩ := Option.map_eq_some_iff.mp hs
  have hr : selectOutput res = .ok (some config) := by
    cases hr : selectOutput res with
    | error e => rw [hr] at hc; cases hc
    | ok result =>
      rw [hr] at hc
      exact congrArg Except.ok hc
  refine ⟨⟨config, hr, hedp⟩, hd, fun h ↦ ?_⟩
  have hknown := h ⟨hp, fun result hresult ↦ by
    cases hr.symm.trans hresult
    exact ⟨config, rfl, hedp⟩⟩
  exact absurd hknown.internal (by rw [hd]; decide)

/-- The panel of both devices is missed. -/
theorem panelAgreed_fails : PanelMissed dockedDevice ∧ PanelMissed handheldDevice :=
  ⟨panelMissed_of_selected ⟨1, _, ⟨rfl, by decide⟩, rfl⟩ (by decide +kernel) (by decide +kernel),
    panelMissed_of_selected ⟨0, _, ⟨rfl, by decide⟩, rfl⟩ (by decide +kernel) (by decide +kernel)⟩

end PlayosCompositor
