import PlayosCompositor.Base.CString
import PlayosCompositor.Base.Descriptors
import PlayosCompositor.Discovery.Panels
import PlayosCompositor.Outputs.Graphics

/-!
# The descriptors of GPU discovery

`playos_gpu_discover`, `compositor_probe_drm_card` and the DRM branch of
`playos_compositor_start` with every descriptor that they open and close, over any outcome of the
calls that open one. The control flow is the one of backend selection.
-/

namespace PlayosCompositor

open Descriptors

/-! ### Outcomes of the calls -/

/-- Whether a node can be opened for reading and writing, and whether for reading only. -/
structure OpenCalls where
  readWrite : Bool
  readOnly : Bool
  deriving DecidableEq, Repr

/-- What is used of a `drmDevice`: which nodes it has and their paths, which may be NULL, the
vendor and device of a PCI device, whether its primary node can be opened, and what is read from
that. -/
structure DrmDevice where
  hasPrimary : Bool
  hasRender : Bool
  primaryNode : Option CString
  renderNode : Option CString
  pci : Option (UInt16 × UInt16)
  opens : OpenCalls
  res : DrmResources

/-- The calls of one `playos_gpu_discover`: the two enumerations, negative on an error, and the
nodes of the selected device. -/
structure DiscoverCalls where
  devices2 : Option (List DrmDevice)
  devices : Option (List DrmDevice)
  card : Bool
  render : OpenCalls

/-- The calls of one `compositor_probe_drm_card`. -/
structure ProbeDescriptorCalls where
  discovery : DiscoverCalls
  gpuOutput : Option OutputConfig
  devDri : Option (List DriEntry)

/-- The calls in the DRM branch up to `playos_drm_backend_start`. -/
structure BranchCalls where
  attempts : Nat → DiscoverCalls
  gpuOutput : Option OutputConfig
  probe : ProbeDescriptorCalls

/-! ### The code -/

/-- What is used of a `struct gpu_candidate`, `src/gpu_discovery.c:67`. -/
structure GpuCandidate where
  primaryPath : CharBuf 256
  renderPath : CharBuf 256
  vendorId : UInt16
  deviceId : UInt16
  hasConnectedOutput : Bool
  isEdp : Bool
  deriving DecidableEq

/-- What is scored of a candidate. -/
def GpuCandidate.input (c : GpuCandidate) : GpuScoreInput :=
  ⟨c.vendorId, c.hasConnectedOutput, c.isEdp⟩

/-- `struct playos_gpu`, `src/gpu_discovery.h:29`; a descriptor of -1 is none. -/
structure PlayosGpu where
  cardFd : Option Nat
  renderFd : Option Nat
  cardPath : CharBuf 256
  renderPath : CharBuf 256
  pciVendorId : UInt16
  pciDeviceId : UInt16
  valid : Bool

/-- The struct before a GPU is found, `src/gpu_discovery.c:83–86`. -/
def PlayosGpu.cleared : PlayosGpu := ⟨none, none, .clear, .clear, 0, 0, false⟩

/-- A path in a buffer of 256 bytes; a node that is NULL leaves it empty. -/
def nodePath (node : Option CString) : CharBuf 256 := (node.map (CString.store 256)).getD .clear

/-- A node is opened for reading only if it cannot be opened for writing. -/
def openNode (calls : OpenCalls) : Prog (Option Nat) := do
  match ← openFd calls.readWrite with
  | some fd => return some fd
  | none => openFd calls.readOnly

/-- The candidate of a device before its connectors are looked at. -/
def GpuCandidate.ofDevice (dev : DrmDevice) : GpuCandidate where
  primaryPath := nodePath dev.primaryNode
  renderPath := if dev.hasRender then nodePath dev.renderNode else .clear
  vendorId := (dev.pci.getD (0, 0)).1
  deviceId := (dev.pci.getD (0, 0)).2
  hasConnectedOutput := false
  isEdp := false

/-- One round of the loop over the devices, `src/gpu_discovery.c:114–157`. -/
def evaluateDevice (dev : DrmDevice) : Prog (Option GpuCandidate) :=
  if !dev.hasPrimary then return none
  else do
    let c := GpuCandidate.ofDevice dev
    match ← openNode dev.opens with
    | none => return some c
    | some fd => do
      let (hasConnectedOutput, isEdp) := deviceHasConnector dev.res
      closeFd fd
      return some { c with hasConnectedOutput := hasConnectedOutput, isEdp := isEdp }

/-- The loop over the devices: the candidates. -/
def evaluateDevices : List DrmDevice → Prog (List GpuCandidate)
  | [] => return []
  | dev :: devs => do
    let c ← evaluateDevice dev
    let cands ← evaluateDevices devs
    return c.toList ++ cands

/-- The candidate with the best index, if that is not negative. -/
def selectCandidate (cands : List GpuCandidate) : Option GpuCandidate :=
  let best := playosGpuSelectIndex (cands.map GpuCandidate.input)
  if best < 0 then none else cands[best.toNat]?

/-- `playos_gpu_discover`, `src/gpu_discovery.c:81`: whether it returned 0, and `*gpu`. -/
def playosGpuDiscover (calls : DiscoverCalls) : Prog (Bool × PlayosGpu) := do
  match calls.devices2.or calls.devices with
  | none | some [] => return (false, .cleared)
  | some devs => do
    let cands ← evaluateDevices devs
    match selectCandidate cands with
    | none => return (false, .cleared)
    | some best => do
      match ← openFd calls.card with
      | none => return (false, .cleared)
      | some cardFd => do
        let renderFd ← (if best.renderPath.bytes ≠ [] then openNode calls.render else pure none)
        return (true, ⟨some cardFd, renderFd, best.primaryPath, best.renderPath, best.vendorId,
          best.deviceId, true⟩)

/-- A descriptor is closed unless it is -1. -/
def closeNode : Option Nat → Prog Unit
  | none => return ()
  | some fd => closeFd fd

/-- `playos_gpu_close`, `src/gpu_discovery.c:209`. -/
def playosGpuClose (gpu : PlayosGpu) : Prog PlayosGpu := do
  closeNode gpu.cardFd
  closeNode gpu.renderFd
  return { gpu with cardFd := none, renderFd := none, valid := false }

/-- The loop over `/dev/dri` in `compositor_probe_drm_card`, `src/compositor.c:189–213`. -/
def probeEntries : List DriEntry → Prog (Option OutputConfig)
  | [] => return none
  | entry :: rest =>
    if !entry.name.startsWith "card" then probeEntries rest
    else do
      match ← openFd entry.opens with
      | none => probeEntries rest
      | some fd => do
        closeFd fd
        match entry.output with
        | some output => return some output
        | none => probeEntries rest

/-- `compositor_probe_drm_card`, `src/compositor.c:170`, with its descriptors; the directory takes
one too. -/
def probeDrmCard (calls : ProbeDescriptorCalls) : Prog (Option (Option (Int × Int))) := do
  let (succeeded, gpu) ← playosGpuDiscover calls.discovery
  if succeeded && gpu.valid then do
    let _ ← playosGpuClose gpu
    return some (calls.gpuOutput.map fun output ↦ (output.width, output.height))
  else do
    match ← openFd calls.devDri.isSome with
    | none => return none
    | some dir => do
      let found ← probeEntries (calls.devDri.getD [])
      closeFd dir
      return found.map fun output ↦ some (output.width, output.height)

/-- The attempts at a GPU, `src/compositor.c:254–262`. -/
def attemptGpu (attempts : Nat → DiscoverCalls) : Nat → PlayosGpu → Prog PlayosGpu
  | 0, gpu => return gpu
  | remaining + 1, _ => do
    let (succeeded, gpu) ← playosGpuDiscover (attempts (9 - remaining))
    if succeeded && gpu.valid then return gpu else attemptGpu attempts remaining gpu

/-- What the DRM branch goes on with: a GPU and its output, another card and its size, or
neither. -/
inductive DrmPath
  | gpu (output : Option OutputConfig)
  | card (size : Option (Int × Int))
  | headless
  deriving DecidableEq, Repr

/-- The DRM branch of `playos_compositor_start` up to `playos_drm_backend_start`,
`src/compositor.c:247–330`, with its descriptors. -/
def drmBranch (calls : BranchCalls) : Prog DrmPath := do
  let gpu ← attemptGpu calls.attempts 10 .cleared
  if !gpu.valid then do
    match ← probeDrmCard calls.probe with
    | none => return .headless
    | some size => do
      handOver
      return .card size
  else do
    let _ ← playosGpuClose gpu
    handOver
    return .gpu calls.gpuOutput

/-! ### What the calls return -/

/-- The candidate that a device becomes. -/
def DrmDevice.candidate (dev : DrmDevice) : Option GpuCandidate :=
  if !dev.hasPrimary then none
  else if dev.opens.readWrite || dev.opens.readOnly then
    some { GpuCandidate.ofDevice dev with
      hasConnectedOutput := (deviceHasConnector dev.res).1
      isEdp := (deviceHasConnector dev.res).2 }
  else some (.ofDevice dev)

/-- A GPU is selected and can be opened. -/
def DiscoverCalls.found (calls : DiscoverCalls) : Bool :=
  (selectCandidate (((calls.devices2.or calls.devices).getD []).filterMap
    DrmDevice.candidate)).isSome && calls.card

/-- What backend selection sees of a discovery. -/
def DiscoverCalls.outcome (calls : DiscoverCalls) : GpuDiscovery := ⟨calls.found, calls.found⟩

/-- What backend selection sees of a probe. -/
def ProbeDescriptorCalls.outcome (calls : ProbeDescriptorCalls) : ProbeCalls :=
  ⟨calls.discovery.outcome, calls.gpuOutput, calls.devDri⟩

/-- What backend selection goes on with. -/
def BranchCalls.path (calls : BranchCalls) : DrmPath :=
  if discoverGpu (fun n ↦ (calls.attempts n).outcome) 10 false then .gpu calls.gpuOutput
  else (compositorProbeDrmCard calls.probe.outcome).elim .headless .card

/-! ### What the calls leave open -/

/-- The descriptors of a GPU. -/
def PlayosGpu.fds (gpu : PlayosGpu) : Multiset Nat := owned gpu.cardFd + owned gpu.renderFd

variable {held : Multiset Nat}

/-- A node is open exactly if one of the two attempts succeeds. -/
theorem spec_openNode (calls : OpenCalls) : Spec held (openNode calls) fun fd held' ↦
    fd.isSome = (calls.readWrite || calls.readOnly) ∧ held' = owned fd + held := by
  refine (spec_openFd calls.readWrite).bind fun fd held' h ↦ ?_
  cases fd with
  | some fd => exact .pure ⟨by rw [← h.1]; rfl, h.2⟩
  | none =>
    obtain ⟨hs, rfl⟩ := h
    rw [owned_none_add, ← hs]
    exact spec_openFd calls.readOnly

private theorem spec_evaluateDevice (dev : DrmDevice) : Spec held (evaluateDevice dev) fun c held' ↦
    c = dev.candidate ∧ held' = held := by
  unfold evaluateDevice DrmDevice.candidate
  split
  · exact .pure ⟨rfl, rfl⟩
  · refine (spec_openNode dev.opens).bind fun fd held' h ↦ ?_
    obtain ⟨hs, rfl⟩ := h
    rw [← hs]
    cases fd with
    | none => exact .pure ⟨rfl, owned_none_add held⟩
    | some fd => exact (spec_closeFd fd).bind fun _ _ h ↦ .pure ⟨rfl, h⟩

/-- All nodes are closed after the evaluation. -/
theorem spec_evaluateDevices (devs : List DrmDevice) :
    Spec held (evaluateDevices devs) fun cands held' ↦
      cands = devs.filterMap DrmDevice.candidate ∧ held' = held := by
  induction devs with
  | nil => exact .pure ⟨rfl, rfl⟩
  | cons dev devs ih =>
    refine (spec_evaluateDevice dev).bind fun c _ hc ↦ ?_
    obtain ⟨rfl, rfl⟩ := hc
    refine ih.bind fun cands _ hcands ↦ ?_
    obtain ⟨rfl, rfl⟩ := hcands
    refine .pure ⟨?_, rfl⟩
    cases hc : dev.candidate <;> simp [hc]

/-- Discovery leaves nothing open but the descriptors in the struct, and none there when it
fails. -/
theorem spec_playosGpuDiscover (calls : DiscoverCalls) :
    Spec held (playosGpuDiscover calls) fun result held' ↦
      result.1 = calls.found ∧ result.2.valid = calls.found ∧ held' = result.2.fds + held ∧
        (calls.found = false → result.2.fds = 0) := by
  have hnone : ∀ {held : Multiset Nat}, calls.found = false →
      Spec held (pure (false, PlayosGpu.cleared)) fun result held' ↦
        result.1 = calls.found ∧ result.2.valid = calls.found ∧ held' = result.2.fds + held ∧
          (calls.found = false → result.2.fds = 0) :=
    fun hf ↦ .pure ⟨hf.symm, hf.symm, (zero_add _).symm, fun _ ↦ rfl⟩
  unfold playosGpuDiscover
  split
  · next he => exact hnone (by rw [DiscoverCalls.found, he]; rfl)
  · next he => exact hnone (by rw [DiscoverCalls.found, he]; rfl)
  · next devs _ he =>
    refine (spec_evaluateDevices devs).bind fun cands _ hcands ↦ ?_
    obtain ⟨rfl, rfl⟩ := hcands
    have hfound : calls.found =
        ((selectCandidate (devs.filterMap DrmDevice.candidate)).isSome && calls.card) := by
      rw [DiscoverCalls.found, he, Option.getD_some]
    cases hb : selectCandidate (devs.filterMap DrmDevice.candidate) with
    | none => exact hnone (by rw [hfound, hb]; rfl)
    | some best =>
      rw [hb, Option.isSome_some, Bool.true_and] at hfound
      refine (spec_openFd calls.card).bind fun fd _ h ↦ ?_
      obtain ⟨hs, rfl⟩ := h
      cases fd with
      | none =>
        rw [owned_none_add]
        exact hnone (hfound.trans hs.symm)
      | some cardFd =>
        have hcard : calls.found = true := hfound.trans hs.symm
        rw [hcard]
        have hrender : ∀ {held : Multiset Nat},
            Spec held (if best.renderPath.bytes ≠ [] then openNode calls.render else pure none)
              fun fd held' ↦ held' = owned fd + held := by
          intro held
          split
          · exact (spec_openNode calls.render).mono fun _ _ h ↦ h.2
          · exact .pure (owned_none_add held).symm
        refine hrender.bind fun renderFd _ hr ↦ .pure ⟨rfl, rfl, ?_, by simp⟩
        rw [hr]
        exact (add_left_comm _ _ _).trans (add_assoc _ _ _).symm

private theorem spec_closeNode (fd : Option Nat) :
    Spec (owned fd + held) (closeNode fd) fun _ held' ↦ held' = held := by
  cases fd with
  | none => exact .pure (owned_none_add held)
  | some fd => exact spec_closeFd fd

private theorem spec_playosGpuClose (gpu : PlayosGpu) :
    Spec (gpu.fds + held) (playosGpuClose gpu) fun _ held' ↦ held' = held := by
  rw [PlayosGpu.fds, add_assoc]
  refine (spec_closeNode gpu.cardFd).bind fun _ _ h ↦ ?_
  subst h
  exact (spec_closeNode gpu.renderFd).bind fun _ _ h ↦ .pure h

private theorem spec_probeEntries (entries : List DriEntry) :
    Spec held (probeEntries entries) fun found held' ↦
      found = probeDevDri entries ∧ held' = held := by
  induction entries with
  | nil => exact .pure ⟨rfl, rfl⟩
  | cons entry rest ih =>
    unfold probeEntries probeDevDri
    split
    · exact ih
    · refine (spec_openFd entry.opens).bind fun fd _ h ↦ ?_
      obtain ⟨hs, rfl⟩ := h
      rw [← hs]
      cases fd with
      | none =>
        rw [owned_none_add]
        exact ih
      | some fd =>
        refine (spec_closeFd fd).bind fun _ _ h ↦ ?_
        subst h
        cases entry.output with
        | none => exact ih
        | some output => exact .pure ⟨rfl, rfl⟩

private theorem spec_probeDrmCard (calls : ProbeDescriptorCalls) :
    Spec held (probeDrmCard calls) fun size held' ↦
      size = compositorProbeDrmCard calls.outcome ∧ held' = held := by
  refine (spec_playosGpuDiscover calls.discovery).bind fun result _ h ↦ ?_
  obtain ⟨succeeded, gpu⟩ := result
  obtain ⟨hs, hv, rfl, hfds⟩ := h
  dsimp only at hs hv hfds ⊢
  unfold compositorProbeDrmCard
  simp only [ProbeDescriptorCalls.outcome, DiscoverCalls.outcome, hs, hv, Bool.and_self]
  cases hf : calls.discovery.found with
  | true =>
    rw [if_pos rfl, if_pos rfl]
    exact (spec_playosGpuClose gpu).bind fun _ _ h ↦ .pure ⟨rfl, h⟩
  | false =>
    rw [if_neg (by decide), if_neg (by decide), hfds hf, zero_add]
    refine (spec_openFd calls.devDri.isSome).bind fun dir _ h ↦ ?_
    obtain ⟨hdir, rfl⟩ := h
    cases dir with
    | none =>
      have hn : calls.devDri = none := by simpa using hdir.symm
      rw [hn]
      exact .pure ⟨rfl, owned_none_add held⟩
    | some dir =>
      obtain ⟨entries, he⟩ := Option.isSome_iff_exists.mp hdir.symm
      rw [he]
      refine (spec_probeEntries entries).bind fun found _ h ↦ ?_
      obtain ⟨rfl, rfl⟩ := h
      exact (spec_closeFd dir).bind fun _ _ h ↦ .pure ⟨rfl, h⟩

private theorem spec_attemptGpu (attempts : Nat → DiscoverCalls) (remaining : Nat) {gpu : PlayosGpu}
    (hg : gpu.fds = 0) :
    Spec held (attemptGpu attempts remaining gpu) fun gpu' held' ↦
      gpu'.valid = discoverGpu (fun n ↦ (attempts n).outcome) remaining gpu.valid ∧
        held' = gpu'.fds + held ∧ (gpu'.valid = false → gpu'.fds = 0) := by
  induction remaining generalizing gpu with
  | zero => exact .pure ⟨rfl, by rw [hg, zero_add], fun _ ↦ hg⟩
  | succ remaining ih =>
    refine (spec_playosGpuDiscover (attempts (9 - remaining))).bind fun result _ h ↦ ?_
    obtain ⟨succeeded, gpu'⟩ := result
    obtain ⟨hs, hv, rfl, hfds⟩ := h
    dsimp only at hs hv hfds ⊢
    unfold discoverGpu
    simp only [DiscoverCalls.outcome, hs, hv, Bool.and_self]
    cases hf : (attempts (9 - remaining)).found with
    | true =>
      rw [if_pos rfl, if_pos rfl]
      exact .pure ⟨hv.trans hf, rfl, fun hn ↦ hfds (hv.symm.trans hn)⟩
    | false =>
      rw [if_neg (by decide), if_neg (by decide), hfds hf, zero_add]
      have := ih (hfds hf)
      rwa [hv, hf] at this

private theorem spec_drmBranch (calls : BranchCalls) :
    Spec 0 (drmBranch calls) fun path held' ↦ path = calls.path ∧ held' = 0 := by
  have hcleared : PlayosGpu.cleared.fds = 0 := rfl
  refine (spec_attemptGpu calls.attempts 10 hcleared).bind fun gpu _ h ↦ ?_
  obtain ⟨hv, rfl, hfds⟩ := h
  change gpu.valid = discoverGpu _ 10 false at hv
  unfold BranchCalls.path
  rw [← hv]
  cases hvalid : gpu.valid with
  | true =>
    simp only [Bool.not_true, Bool.false_eq_true, if_false, if_true]
    refine (spec_playosGpuClose gpu).bind fun _ _ h ↦ ?_
    subst h
    exact spec_handOver.bind fun _ _ h ↦ .pure ⟨rfl, h⟩
  | false =>
    simp only [Bool.not_false, Bool.false_eq_true, if_false, if_true]
    rw [hfds hvalid, zero_add]
    refine (spec_probeDrmCard calls.probe).bind fun size _ h ↦ ?_
    obtain ⟨rfl, rfl⟩ := h
    cases compositorProbeDrmCard calls.probe.outcome with
    | none => exact .pure ⟨rfl, rfl⟩
    | some size => exact spec_handOver.bind fun _ _ h ↦ .pure ⟨rfl, h⟩

/-- The branch with descriptors is the control flow of backend selection. -/
theorem drmBranch_path (calls : BranchCalls) : (drmBranch calls .empty).1 = calls.path := by
  obtain ⟨_, -, hpath, -⟩ := spec_drmBranch calls .empty rfl
  exact hpath

/-- Every descriptor of discovery is closed once, and before `playos_drm_backend_start`. -/
theorem descriptors_balanced (calls : BranchCalls) : Balanced (drmBranch calls .empty).2.ops :=
  ((spec_drmBranch calls).mono fun _ _ h ↦ h.2).balanced

/-- One AMD device with a panel, whose nodes can all be opened. -/
example : (drmBranch ⟨fun _ ↦ ⟨some [⟨true, true, some (.ofString "/dev/dri/card0"),
    some (.ofString "/dev/dri/renderD128"), some (pciVendorAmd, 0), ⟨true, true⟩,
    some [some ⟨.connected, connectorEdp, 1, []⟩]⟩], none, true, ⟨true, true⟩⟩, none,
    ⟨⟨none, none, false, ⟨false, false⟩⟩, none, none⟩⟩ .empty).2.ops =
      [.opened 0, .closed 0, .opened 1, .opened 2, .closed 1, .closed 2, .handedOver] := by
  decide +kernel

end PlayosCompositor
