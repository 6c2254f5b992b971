import PlayosCompositor.Base.CInt
import PlayosCompositor.Base.FirstMax
import PlayosCompositor.Outputs.Graphics

/-!
# Output selection

`src/output_modes.c`: the best output of a DRM device and its largest mode. A connector is read
twice, once to be scored and once more when it is the best. Products of dimensions are products
of `int`s.
-/

namespace PlayosCompositor

open CInt (Checked intMax)

/-! ### Connectors -/

/-- `drmModeConnection`. -/
inductive DrmConnection
  | connected
  | disconnected
  | unknown
  deriving DecidableEq, Repr

/-- `drmModeModeInfo`. -/
structure DrmMode where
  hdisplay : UInt16
  vdisplay : UInt16
  vrefresh : UInt32
  deriving DecidableEq, Repr

/-- `drmModeConnector`. -/
structure DrmConnector where
  connection : DrmConnection
  connectorType : UInt32
  connectorTypeId : UInt32
  modes : List DrmMode
  deriving DecidableEq, Repr

/-- What can be read of a device: its connectors, `none` for one that cannot be read; or
nothing at all. -/
abbrev DrmResources := Option (List (Option DrmConnector))

/-- `DRM_MODE_CONNECTOR_VGA`. -/
def connectorVga : UInt32 := 1

/-- `DRM_MODE_CONNECTOR_DVII`. -/
def connectorDviI : UInt32 := 2

/-- `DRM_MODE_CONNECTOR_LVDS`. -/
def connectorLvds : UInt32 := 7

/-- `DRM_MODE_CONNECTOR_DisplayPort`. -/
def connectorDisplayPort : UInt32 := 10

/-- `DRM_MODE_CONNECTOR_HDMIA`. -/
def connectorHdmiA : UInt32 := 11

/-- `DRM_MODE_CONNECTOR_HDMIB`. -/
def connectorHdmiB : UInt32 := 12

/-- `DRM_MODE_CONNECTOR_eDP`. -/
def connectorEdp : UInt32 := 14

/-- `DRM_MODE_CONNECTOR_DSI`. -/
def connectorDsi : UInt32 := 16

/-- `is_internal_panel`, `src/output_modes.c:20`. -/
def isInternalPanel (connectorType : UInt32) : Bool :=
  connectorType = connectorEdp ∨ connectorType = connectorLvds ∨ connectorType = connectorDsi

/-- `connector_type_name`, `src/output_modes.c:28`. -/
def connectorTypeName (type : UInt32) : String :=
  if type = connectorEdp then "eDP"
  else if type = connectorLvds then "LVDS"
  else if type = connectorDsi then "DSI"
  else if type = connectorDisplayPort then "DP"
  else if type = connectorHdmiA then "HDMI-A"
  else if type = connectorHdmiB then "HDMI-B"
  else if type = connectorVga then "VGA"
  else if type = connectorDviI then "DVI-I"
  else "Other"

/-! ### The selection -/

/-- `struct playos_output_config`, `src/output_modes.h:16`, as a selection fills it. -/
structure SelectedConfig extends OutputConfig where
  connectorName : CharBuf 64
  isEdp : Bool
  valid : Bool
  deriving DecidableEq

/-- `max_w`, `max_h` and `best_m`. -/
structure LargestMode where
  maxW : Int
  maxH : Int
  bestM : Nat
  deriving DecidableEq, Repr

/-- The loop over the modes of a connector, `src/output_modes.c:92–99`. -/
def largestModeLoop : List DrmMode → Nat → LargestMode → Checked LargestMode
  | [], _, largest => .ok largest
  | mode :: modes, m, largest => do
    let pixels ← CInt.mul mode.hdisplay.toNat mode.vdisplay.toNat
    let maxPixels ← CInt.mul largest.maxW largest.maxH
    if pixels > maxPixels then
      largestModeLoop modes (m + 1) ⟨mode.hdisplay.toNat, mode.vdisplay.toNat, m⟩
    else largestModeLoop modes (m + 1) largest

/-- The weight of a connector's type, `src/output_modes.c:78–86`. -/
def typeWeight (connectorType : UInt32) : Nat :=
  if connectorType = connectorEdp then 1000
  else if connectorType = connectorLvds then 900
  else if connectorType = connectorDsi then 850
  else 100

/-- The score of a connector and the index of its best mode, `src/output_modes.c:78–100`. -/
def scoreConnector (conn : DrmConnector) : Checked (Int × Nat) := do
  let score : Int := typeWeight conn.connectorType
  let largest ← largestModeLoop conn.modes 0 ⟨0, 0, 0⟩
  let maxPixels ← CInt.mul largest.maxW largest.maxH
  let score ← CInt.add score (maxPixels.tdiv 100000)
  return (score, largest.bestM)

/-- The loop over the connectors, `src/output_modes.c:67–109`, with `i`, `best_score` and, once
there is one, `best_conn_idx` and `best_mode_idx`. -/
def bestOutputLoop : List (Option DrmConnector) → Nat → Int → Option (Nat × Nat) →
    Checked (Option (Nat × Nat))
  | [], _, _, best => .ok best
  | none :: conns, i, bestScore, best => bestOutputLoop conns (i + 1) bestScore best
  | some conn :: conns, i, bestScore, best =>
    if conn.connection ≠ .connected ∨ conn.modes.length = 0 then
      bestOutputLoop conns (i + 1) bestScore best
    else do
      let (score, bestM) ← scoreConnector conn
      if score > bestScore then bestOutputLoop conns (i + 1) score (some (i, bestM))
      else bestOutputLoop conns (i + 1) bestScore best

/-- What is written for a mode of a connector, `src/output_modes.c:126–134`. -/
def selectedConfig (conn : DrmConnector) (mode : DrmMode) : SelectedConfig where
  width := mode.hdisplay.toNat
  height := mode.vdisplay.toNat
  refreshMhz := (mode.vrefresh * 1000).toInt32.toInt
  scale100 := 100
  isEdp := isInternalPanel conn.connectorType
  valid := true
  connectorName := (CString.ofString (connectorTypeName conn.connectorType) ++ .ofString "-" ++
    .ofString (toString conn.connectorTypeId.toNat)).store 64

/-- `playos_output_select_from_fd`, `src/output_modes.c:45`, with what the second read of each
connector gives; `none` when it returns -1. -/
def playosOutputSelectFromFd (res : DrmResources) (again : Nat → Option DrmConnector) :
    Checked (Option SelectedConfig) :=
  match res with
  | none => .ok none
  | some connectors => do
    match ← bestOutputLoop connectors 0 (-1) none with
    | none => return none
    | some (connIdx, modeIdx) =>
      match again connIdx with
      | none => return none
      | some conn =>
        match conn.modes[modeIdx]? with
        | none => return none
        | some mode => return some (selectedConfig conn mode)

/-- The connectors that were listed; none where nothing could be read. -/
def listed (res : DrmResources) : List (Option DrmConnector) := res.getD []

/-- The selection on a device whose connectors do not change between the two reads. -/
def selectOutput (res : DrmResources) : Checked (Option SelectedConfig) :=
  playosOutputSelectFromFd res fun i ↦ (listed res)[i]?.join

end PlayosCompositor
