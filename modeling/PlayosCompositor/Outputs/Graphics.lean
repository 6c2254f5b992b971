import PlayosCompositor.Model.Types

/-!
# Backend, renderer and allocator

The part of `playos_compositor_start` that selects a backend, `src/compositor.c:243–372`, with
`src/drm_backend.c`, over any outcome of the calls that it makes into wlroots and libdrm. Every
path but one checks the three objects that it creates; the fallback from a DRM backend that
could not be started does not, and comes after a renderer may have been exposed already.
-/

namespace PlayosCompositor

/-! ### Outcomes of the calls -/

/-- The geometry of a selected output; `struct playos_output_config`. -/
structure OutputConfig where
  width : Int
  height : Int
  refreshMhz : Int
  scale100 : Int
  deriving DecidableEq, Repr

/-- One `playos_gpu_discover`: whether it returned 0, and the flag it left. -/
structure GpuDiscovery where
  succeeded : Bool
  valid : Bool
  deriving DecidableEq, Repr

/-- An entry of `/dev/dri`: its name, whether it can be opened, and the output that is
selected on it. -/
structure DriEntry where
  name : String
  opens : Bool
  output : Option OutputConfig
  deriving DecidableEq, Repr

/-- The calls of `compositor_probe_drm_card`; `none` when the directory cannot be opened. -/
structure ProbeCalls where
  discovery : GpuDiscovery
  gpuOutput : Option OutputConfig
  devDri : Option (List DriEntry)
  deriving DecidableEq, Repr

/-- Whether the creation calls of `playos_drm_backend_start` succeed, with the second attempt
at a renderer. -/
structure DrmCalls where
  backend : Bool
  renderer : Bool
  softwareRenderer : Bool
  allocator : Bool
  deriving DecidableEq, Repr

/-- Whether the creation calls of another path succeed. -/
structure CreateCalls where
  backend : Bool
  renderer : Bool
  allocator : Bool
  deriving DecidableEq, Repr

/-- Every call whose outcome backend selection depends on. A start runs through one path
outside of `playos_drm_backend_start` at most, whose calls are `others`. -/
structure GraphicsCalls where
  display : Bool
  discovery : Nat → GpuDiscovery
  gpuOutput : Option OutputConfig
  probe : ProbeCalls
  drm : DrmCalls
  others : CreateCalls

/-- The three pointers, as whether they are not NULL, how often a renderer has been exposed by
`wlr_renderer_init_wl_display`, and the recorded geometry. -/
structure Graphics where
  backend : Bool
  renderer : Bool
  allocator : Bool
  displayInits : Nat
  outputWidth : Int
  outputHeight : Int
  outputRefreshMhz : Int
  outputScale100 : Int
  deriving DecidableEq, Repr

/-- After `playos_compositor_init`. -/
def Graphics.zeroed : Graphics := ⟨false, false, false, 0, 0, 0, 0, 0⟩

/-! ### The code -/

/-- `playos_drm_backend_start`, `src/drm_backend.c:15`, with whether it returned 0. -/
def playosDrmBackendStart (g : Graphics) (calls : DrmCalls) : Graphics × Bool :=
  let g := { g with backend := calls.backend }
  if !g.backend then (g, false)
  else
    let g := { g with renderer := calls.renderer }
    let g := if !g.renderer then { g with renderer := calls.softwareRenderer } else g
    if !g.renderer then (g, false)
    else
      let g := { g with displayInits := g.displayInits + 1 }
      let g := { g with allocator := calls.allocator }
      if !g.allocator then (g, false) else (g, true)

/-- The loop over `/dev/dri` in `compositor_probe_drm_card`, `src/compositor.c:189–213`. -/
def probeDevDri : List DriEntry → Option OutputConfig
  | [] => none
  | entry :: rest =>
    if !entry.name.startsWith "card" then probeDevDri rest
    else if !entry.opens then probeDevDri rest
    else
      match entry.output with
      | some output => some output
      | none => probeDevDri rest

/-- `compositor_probe_drm_card`, `src/compositor.c:170`: `none` when it fails, and otherwise the
size that it stores, if it knows one. -/
def compositorProbeDrmCard (calls : ProbeCalls) : Option (Option (Int × Int)) :=
  if calls.discovery.succeeded && calls.discovery.valid then
    some (calls.gpuOutput.map fun output ↦ (output.width, output.height))
  else
    match calls.devDri with
    | none => none
    | some entries =>
      (probeDevDri entries).map fun output ↦ some (output.width, output.height)

/-- The attempts at a GPU, `src/compositor.c:254–262`: the flag that the last one left. -/
def discoverGpu (discovery : Nat → GpuDiscovery) : Nat → Bool → Bool
  | 0, valid => valid
  | remaining + 1, _ =>
    let gpu := discovery (9 - remaining)
    if gpu.succeeded && gpu.valid then gpu.valid else discoverGpu discovery remaining gpu.valid

/-- The creation calls where no GPU and no other card was found, `src/compositor.c:277–299`. -/
def headlessFallback (g : Graphics) (calls : CreateCalls) : Graphics × Bool :=
  let g := { g with backend := calls.backend }
  if !g.backend then (g, false)
  else
    let g := { g with renderer := calls.renderer }
    let g := if g.renderer then { g with displayInits := g.displayInits + 1 } else g
    let g := { g with allocator := calls.allocator }
    if !g.renderer || !g.allocator then (g, false) else (g, true)

/-- The creation calls after a failed start on the GPU, `src/compositor.c:334–344`. -/
def headlessAfterDrm (g : Graphics) (calls : CreateCalls) : Graphics × Bool :=
  let g := { g with backend := calls.backend }
  if !g.backend then (g, false)
  else
    let g := { g with renderer := calls.renderer }
    let g := if g.renderer then { g with displayInits := g.displayInits + 1 } else g
    let g := { g with allocator := calls.allocator }
    (g, true)

/-- The headless and nested paths, `src/compositor.c:356–371`. -/
def autocreate (g : Graphics) (calls : CreateCalls) : Graphics × Bool :=
  let g := { g with backend := calls.backend }
  if !g.backend then (g, false)
  else
    let g := { g with renderer := calls.renderer }
    if !g.renderer then (g, false)
    else
      let g := { g with displayInits := g.displayInits + 1 }
      let g := { g with allocator := calls.allocator }
      if !g.allocator then (g, false) else (g, true)

/-- `playos_compositor_start` up to and with backend selection, `src/compositor.c:220–372`, and
whether it goes on. -/
def playosCompositorStartGraphics (g : Graphics) (backendType : Backend) (calls : GraphicsCalls) :
    Graphics × Bool :=
  if !calls.display then (g, false)
  else if backendType = .drm then
    if !discoverGpu calls.discovery 10 false then
      match compositorProbeDrmCard calls.probe with
      | none => headlessFallback g calls.others
      | some size =>
        let (pw, ph) := size.getD (0, 0)
        let g := if pw ≠ 0 ∧ ph ≠ 0 then { g with outputWidth := pw, outputHeight := ph } else g
        playosDrmBackendStart g calls.drm
    else
      let g :=
        match calls.gpuOutput with
        | none => g
        | some output => { g with
          outputWidth := output.width
          outputHeight := output.height
          outputRefreshMhz := output.refreshMhz
          outputScale100 := output.scale100 }
      let started := playosDrmBackendStart g calls.drm
      if started.2 then started else headlessAfterDrm started.1 calls.others
  else autocreate g calls.others

/-! ### What a path leaves behind -/

/-- The stack can be used, or the start ends; the display has seen one renderer at most. -/
structure GraphicsSound (r : Graphics × Bool) : Prop where
  usable : r.2 = true → r.1.backend = true ∧ r.1.renderer = true ∧ r.1.allocator = true
  exposedOnce : r.1.displayInits ≤ 1

private theorem displayInits_playosDrmBackendStart (g : Graphics) (calls : DrmCalls) :
    (playosDrmBackendStart g calls).1.displayInits = g.displayInits +
      if calls.backend ∧ (calls.renderer ∨ calls.softwareRenderer) then 1 else 0 := by
  rcases calls with ⟨backend, renderer, software, allocator⟩
  unfold playosDrmBackendStart
  cases backend <;> cases renderer <;> cases software <;> cases allocator <;> simp

/-- It succeeds when everything could be created. -/
theorem playosDrmBackendStart_snd (g : Graphics) (calls : DrmCalls) :
    (playosDrmBackendStart g calls).2 = true ↔
      calls.backend ∧ (calls.renderer ∨ calls.softwareRenderer) ∧ calls.allocator := by
  rcases calls with ⟨backend, renderer, software, allocator⟩
  unfold playosDrmBackendStart
  cases backend <;> cases renderer <;> cases software <;> cases allocator <;> simp

variable {g : Graphics}

private theorem graphicsSound_playosDrmBackendStart (h : g.displayInits = 0) (calls : DrmCalls) :
    GraphicsSound (playosDrmBackendStart g calls) := by
  constructor
  · rcases calls with ⟨backend, renderer, software, allocator⟩
    unfold playosDrmBackendStart
    cases backend <;> cases renderer <;> cases software <;> cases allocator <;> simp
  · rw [displayInits_playosDrmBackendStart, h]
    split <;> simp

private theorem graphicsSound_headlessFallback (h : g.displayInits = 0) (calls : CreateCalls) :
    GraphicsSound (headlessFallback g calls) := by
  rcases calls with ⟨backend, renderer, allocator⟩
  unfold headlessFallback
  cases backend <;> cases renderer <;> cases allocator <;> constructor <;> simp [h]

private theorem graphicsSound_autocreate (h : g.displayInits = 0) (calls : CreateCalls) :
    GraphicsSound (autocreate g calls) := by
  rcases calls with ⟨backend, renderer, allocator⟩
  unfold autocreate
  cases backend <;> cases renderer <;> cases allocator <;> constructor <;> simp [h]

/-- The unchecked fallback is sound when its backend cannot be created, or when everything can
and no renderer was exposed before. -/
theorem graphicsSound_headlessAfterDrm_iff (h : g.displayInits ≤ 1) (calls : CreateCalls) :
    GraphicsSound (headlessAfterDrm g calls) ↔
      calls.backend = false ∨ calls.renderer ∧ calls.allocator ∧ g.displayInits = 0 := by
  rcases calls with ⟨backend, renderer, allocator⟩
  have hsound : ∀ r, GraphicsSound r ↔ (r.2 = true → r.1.backend = true ∧ r.1.renderer = true ∧
      r.1.allocator = true) ∧ r.1.displayInits ≤ 1 :=
    fun r ↦ ⟨fun h ↦ ⟨h.1, h.2⟩, fun h ↦ ⟨h.1, h.2⟩⟩
  rw [hsound]
  unfold headlessAfterDrm
  cases backend <;> cases renderer <;> cases allocator <;> simp [h]

/-! ### Every start -/

/-- Some attempt finds a GPU, or the last one leaves its flag set. -/
def GraphicsCalls.GpuFound (calls : GraphicsCalls) : Prop :=
  (∃ n ≤ 9, (calls.discovery n).succeeded ∧ (calls.discovery n).valid) ∨
    (calls.discovery 9).valid = true

/-- The start on the GPU has created a renderer. -/
def DrmCalls.Exposed (calls : DrmCalls) : Prop :=
  calls.backend ∧ (calls.renderer ∨ calls.softwareRenderer)

/-- A start on the GPU that fails is replaced by a headless backend, but not by a complete
one, or too late. -/
def UncheckedFallback (backendType : Backend) (calls : GraphicsCalls) : Prop :=
  calls.display ∧ backendType = .drm ∧ calls.GpuFound ∧
    ¬ (calls.drm.Exposed ∧ calls.drm.allocator) ∧ calls.others.backend ∧
      ¬ (calls.others.renderer ∧ calls.others.allocator ∧ ¬ calls.drm.Exposed)

private theorem discoverGpu_iff (discovery : Nat → GpuDiscovery) {remaining : Nat}
    (h : remaining ≤ 9) (valid : Bool) : discoverGpu discovery (remaining + 1) valid = true ↔
      (∃ n ≤ 9, 9 - remaining ≤ n ∧ (discovery n).succeeded ∧ (discovery n).valid) ∨
        (discovery 9).valid = true := by
  induction remaining generalizing valid with
  | zero =>
    rw [discoverGpu]
    split
    · next hg =>
      rw [Bool.and_eq_true] at hg
      exact iff_of_true hg.2 (Or.inr hg.2)
    · constructor
      · exact Or.inr
      · rintro (⟨n, hn, hle, -, hv⟩ | hv)
        · obtain rfl : n = 9 := by omega
          exact hv
        · exact hv
  | succ remaining ih =>
    rw [discoverGpu]
    split
    · next hg =>
      rw [Bool.and_eq_true] at hg
      exact iff_of_true hg.2 (Or.inl ⟨_, by omega, le_rfl, hg⟩)
    · next hg =>
      rw [ih (by omega)]
      refine or_congr_left ⟨?_, ?_⟩
      · rintro ⟨n, hn, hle, hs⟩
        exact ⟨n, hn, by omega, hs⟩
      · rintro ⟨n, hn, hle, hs⟩
        refine ⟨n, hn, ?_, hs⟩
        have hne : n ≠ 9 - (remaining + 1) := by
          rintro rfl
          exact hg (Bool.and_eq_true_iff.mpr hs)
        omega

private theorem discoverGpu_ten (calls : GraphicsCalls) :
    discoverGpu calls.discovery 10 false = true ↔ calls.GpuFound := by
  rw [discoverGpu_iff calls.discovery le_rfl]
  simp [GraphicsCalls.GpuFound]

private theorem graphicsSound_gpu_iff (h : g.displayInits = 0) (calls : GraphicsCalls) :
    GraphicsSound (if (playosDrmBackendStart g calls.drm).2 then playosDrmBackendStart g calls.drm
      else headlessAfterDrm (playosDrmBackendStart g calls.drm).1 calls.others) ↔
      ¬ (¬ (calls.drm.Exposed ∧ calls.drm.allocator) ∧ calls.others.backend ∧
        ¬ (calls.others.renderer ∧ calls.others.allocator ∧ ¬ calls.drm.Exposed)) := by
  have hok : (playosDrmBackendStart g calls.drm).2 = true ↔
      calls.drm.Exposed ∧ calls.drm.allocator := by
    rw [playosDrmBackendStart_snd, DrmCalls.Exposed, and_assoc]
  by_cases hs : calls.drm.Exposed ∧ calls.drm.allocator
  · rw [if_pos (hok.mpr hs)]
    exact iff_of_true (graphicsSound_playosDrmBackendStart h _) fun hn ↦ hn.1 hs
  · have hinits : (playosDrmBackendStart g calls.drm).1.displayInits =
        if calls.drm.backend ∧ (calls.drm.renderer ∨ calls.drm.softwareRenderer) then 1 else 0 := by
      rw [displayInits_playosDrmBackendStart, h, Nat.zero_add]
    have hexposed : (playosDrmBackendStart g calls.drm).1.displayInits = 0 ↔
        ¬ calls.drm.Exposed := by
      rw [hinits, DrmCalls.Exposed]
      split <;> simp [*]
    have hle : (playosDrmBackendStart g calls.drm).1.displayInits ≤ 1 := by
      rw [hinits]
      split <;> simp
    rw [if_neg (mt hok.mp hs), graphicsSound_headlessAfterDrm_iff hle, hexposed]
    cases calls.others.backend <;> simp [hs]

/-- A start ends with a usable stack or an error, and with one renderer on the display at most,
exactly if it does not fall back unchecked. -/
theorem graphicsSound_start_iff (backendType : Backend) (calls : GraphicsCalls) :
    GraphicsSound (playosCompositorStartGraphics .zeroed backendType calls) ↔
      ¬ UncheckedFallback backendType calls := by
  have hzero : GraphicsSound (Graphics.zeroed, false) :=
    ⟨by simp, Nat.zero_le _⟩
  unfold playosCompositorStartGraphics UncheckedFallback
  cases hd : calls.display with
  | false => exact iff_of_true hzero (by simp)
  | true =>
    by_cases hb : backendType = .drm
    · have hfound := discoverGpu_ten calls
      cases hg : discoverGpu calls.discovery 10 false with
      | false =>
        have hnot : ¬ calls.GpuFound := fun hf ↦ nomatch hg.symm.trans (hfound.mpr hf)
        refine iff_of_true ?_ (by simp [hnot])
        simp only [hb, Bool.not_true, Bool.not_false, Bool.false_eq_true, ↓reduceIte]
        cases compositorProbeDrmCard calls.probe with
        | none => exact graphicsSound_headlessFallback rfl _
        | some size =>
          apply graphicsSound_playosDrmBackendStart
          split <;> rfl
      | true =>
        simp only [hb, hfound.mp hg, Bool.not_true, Bool.false_eq_true, ↓reduceIte, true_and]
        apply graphicsSound_gpu_iff
        split <;> rfl
    · refine iff_of_true ?_ (by simp [hb])
      simp only [hb]
      exact graphicsSound_autocreate rfl _

/-- A GPU is found at the first attempt; the DRM backend is created up to `drm`, and everything
that the fallback creates is `others`. -/
def gpuStart (drm : DrmCalls) (others : CreateCalls) : GraphicsCalls where
  display := true
  discovery := fun _ ↦ ⟨true, true⟩
  gpuOutput := some ⟨1920, 1080, 60000, 100⟩
  probe := ⟨⟨true, true⟩, none, none⟩
  drm := drm
  others := others

/-- No DRM backend and no allocator for the headless one: the start goes on without. No
allocator on the GPU: the headless renderer is the second one on the display. -/
theorem graphicsSound_fails :
    ¬ GraphicsSound (playosCompositorStartGraphics .zeroed .drm
        (gpuStart ⟨false, true, true, true⟩ ⟨true, true, false⟩)) ∧
      ¬ GraphicsSound (playosCompositorStartGraphics .zeroed .drm
        (gpuStart ⟨true, true, true, false⟩ ⟨true, true, true⟩)) := by
  constructor
  · intro h
    exact absurd (h.usable (by decide)).2.2 (by decide)
  · intro h
    exact absurd h.exposedOnce (by decide)

end PlayosCompositor
