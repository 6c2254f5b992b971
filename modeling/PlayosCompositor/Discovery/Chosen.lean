import PlayosCompositor.Discovery.Devices

/-!
# The GPU that is driven

From the enumerated devices to the struct that `playos_gpu_discover` fills: the first device
with a primary node that no other one exceeds in what it displays on and in its vendor. The ten
attempts end with the device of the first attempt that finds one.
-/

namespace PlayosCompositor

open Descriptors

namespace DrmDevice

/-- A device's primary node can be opened. -/
def opened (dev : DrmDevice) : Bool := dev.opens.readWrite || dev.opens.readOnly

/-- What counts of a device: its vendor, and what its connectors show while its node can be
opened. -/
def scoreInput (dev : DrmDevice) : GpuScoreInput where
  vendorId := (dev.pci.getD (0, 0)).1
  hasConnectedOutput := dev.opened && (deviceHasConnector dev.res).1
  isEdp := dev.opened && (deviceHasConnector dev.res).2

/-- The rank of a device. -/
def rank (dev : DrmDevice) : Nat ×ₗ Nat := dev.scoreInput.rank

/-- The candidate of a device that has a primary node. -/
def toCandidate (dev : DrmDevice) : GpuCandidate :=
  { GpuCandidate.ofDevice dev with
    hasConnectedOutput := dev.scoreInput.hasConnectedOutput
    isEdp := dev.scoreInput.isEdp }

private theorem candidate_eq (dev : DrmDevice) :
    dev.candidate = if dev.hasPrimary then some dev.toCandidate else none := by
  unfold candidate toCandidate scoreInput opened
  cases dev.hasPrimary with
  | false => rfl
  | true =>
    cases dev.opens.readWrite || dev.opens.readOnly <;> rfl

private theorem filterMap_candidate (devs : List DrmDevice) :
    devs.filterMap candidate = (devs.filter hasPrimary).map toCandidate := by
  induction devs with
  | nil => rfl
  | cons dev devs ih =>
    rw [List.filterMap_cons, candidate_eq, ih, List.filter_cons]
    cases dev.hasPrimary <;> rfl

end DrmDevice

/-- The devices that a discovery looks at. -/
def DiscoverCalls.listed (calls : DiscoverCalls) : List DrmDevice :=
  ((calls.devices2.or calls.devices).getD []).filter DrmDevice.hasPrimary

/-- A device is listed and the card of the selected one can be opened. -/
def DiscoverCalls.Finds (calls : DiscoverCalls) : Prop :=
  calls.listed ≠ [] ∧ calls.card = true

instance (calls : DiscoverCalls) : Decidable calls.Finds :=
  inferInstanceAs (Decidable (calls.listed ≠ [] ∧ calls.card = true))

/-- The struct describes a device: the first of the best that were listed, with its card open,
and its render node too if it has one that can be opened. -/
structure Describes (calls : DiscoverCalls) (gpu : PlayosGpu) (dev : DrmDevice) : Prop where
  best : ∃ i, FirstMax DrmDevice.rank calls.listed i dev
  card : gpu.cardFd.isSome
  render : gpu.renderFd.isSome =
    (decide (gpu.renderPath.bytes ≠ []) && (calls.render.readWrite || calls.render.readOnly))
  cardPath : gpu.cardPath = nodePath dev.primaryNode
  renderPath : gpu.renderPath = if dev.hasRender then nodePath dev.renderNode else .clear
  ids : (gpu.pciVendorId, gpu.pciDeviceId) = dev.pci.getD (0, 0)

private theorem selectCandidate_cases {devs : List DrmDevice} (h : devs.length ≤ CInt.intMax) :
    (devs = [] ∧ selectCandidate (devs.map DrmDevice.toCandidate) = none) ∨
      ∃ i dev, FirstMax DrmDevice.rank devs i dev ∧
        selectCandidate (devs.map DrmDevice.toCandidate) = some dev.toCandidate := by
  have hinput : (devs.map DrmDevice.toCandidate).map GpuCandidate.input =
      devs.map DrmDevice.scoreInput := by
    rw [List.map_map]
    rfl
  unfold selectCandidate
  rw [hinput]
  rcases playosGpuSelectIndex_cases (devs.map DrmDevice.scoreInput) with ⟨hn, hi⟩ | ⟨i, c, hm, hi⟩
  · refine Or.inl ⟨List.map_eq_nil_iff.mp hn, ?_⟩
    rw [hi]
    rfl
  · obtain ⟨dev, -, hm⟩ := hm.of_map
    have hlt : i ≤ CInt.intMax := hm.lt_length.le.trans h
    refine Or.inr ⟨i, dev, hm, ?_⟩
    rw [hi, CInt.ofNat_of_le hlt]
    dsimp only
    rw [if_neg (by omega), Int.toNat_natCast, List.getElem?_map, hm.getElem?_eq, Option.map_some]

section Discover

variable {calls : DiscoverCalls}

private theorem DiscoverCalls.selected_eq :
    (((calls.devices2.or calls.devices).getD []).filterMap DrmDevice.candidate) =
      calls.listed.map DrmDevice.toCandidate :=
  DrmDevice.filterMap_candidate _

/-- A GPU is found exactly if a device is listed and the card of the selected one can be opened;
no other one is tried. -/
theorem DiscoverCalls.found_iff (h : calls.listed.length ≤ CInt.intMax) :
    calls.found = true ↔ calls.Finds := by
  rw [Finds, found, selected_eq, Bool.and_eq_true, and_congr_left_iff]
  intro _
  rcases selectCandidate_cases h with ⟨hn, hs⟩ | ⟨i, dev, hm, hs⟩
  · rw [hs, hn]
    simp
  · rw [hs]
    simp [List.ne_nil_of_mem hm.mem]

variable {held : Multiset Nat}

private theorem spec_playosGpuDiscover_describes (h : calls.listed.length ≤ CInt.intMax) :
    Spec held (playosGpuDiscover calls) fun result _ ↦
      (calls.found = false → result.2 = .cleared) ∧
        (calls.found = true → ∃ dev, Describes calls result.2 dev) := by
  have hnone : ∀ {held : Multiset Nat}, calls.found = false →
      Spec held (pure (false, PlayosGpu.cleared)) fun result _ ↦
        (calls.found = false → result.2 = .cleared) ∧
          (calls.found = true → ∃ dev, Describes calls result.2 dev) := by
    intro held hf
    refine .pure ⟨fun _ ↦ rfl, fun ht ↦ ?_⟩
    rw [hf] at ht
    cases ht
  unfold playosGpuDiscover
  split
  · next he => exact hnone (by rw [DiscoverCalls.found, he]; rfl)
  · next he => exact hnone (by rw [DiscoverCalls.found, he]; rfl)
  · next devs _ he =>
    have hlisted : devs.filterMap DrmDevice.candidate = calls.listed.map DrmDevice.toCandidate := by
      rw [← DiscoverCalls.selected_eq, he, Option.getD_some]
    refine (spec_evaluateDevices devs).bind fun cands _ hcands ↦ ?_
    obtain ⟨rfl, rfl⟩ := hcands
    rw [hlisted]
    have hfound := DiscoverCalls.found_iff h
    rcases selectCandidate_cases h with ⟨hn, hs⟩ | ⟨i, dev, hm, hs⟩
    · rw [hs]
      refine hnone (eq_false_of_ne_true fun ht ↦ ?_)
      exact (hfound.mp ht).1 hn
    · rw [hs]
      refine (spec_openFd calls.card).bind fun fd _ hfd ↦ ?_
      obtain ⟨hcard, -⟩ := hfd
      cases fd with
      | none =>
        refine hnone (eq_false_of_ne_true fun ht ↦ ?_)
        rw [(hfound.mp ht).2] at hcard
        cases hcard
      | some cardFd =>
        have hrender : ∀ {held : Multiset Nat},
            Spec held (if dev.toCandidate.renderPath.bytes ≠ [] then openNode calls.render
              else pure none) fun fd _ ↦ fd.isSome =
                (decide (dev.toCandidate.renderPath.bytes ≠ []) &&
                  (calls.render.readWrite || calls.render.readOnly)) := by
          intro held
          split
          · next hne =>
            refine (spec_openNode calls.render).mono fun fd _ hfd ↦ ?_
            rw [hfd.1, decide_eq_true hne, Bool.true_and]
          · next hnot =>
            refine .pure ?_
            rw [decide_eq_false hnot]
            rfl
        refine hrender.bind fun renderFd _ hr ↦ .pure ⟨fun hf ↦ ?_, fun _ ↦ ⟨dev, ?_⟩⟩
        · rw [hfound.mpr ⟨List.ne_nil_of_mem hm.mem, hcard.symm⟩] at hf
          cases hf
        · exact ⟨⟨i, hm⟩, rfl, hr, rfl, rfl, rfl⟩

end Discover

/-! ### The attempts -/

/-- What the ten attempts come to: the struct describes the device of the first of them that
finds one, and is as it was cleared if none does. -/
structure Discovered (attempts : Nat → DiscoverCalls) (gpu : PlayosGpu) : Prop where
  valid_iff : gpu.valid = true ↔ ∃ n < 10, (attempts n).Finds
  cleared : gpu.valid = false → gpu = .cleared
  first : ∀ n < 10, (attempts n).Finds → (∀ k < n, ¬(attempts k).Finds) →
    ∃ dev, Describes (attempts n) gpu dev

section Attempts

variable {attempts : Nat → DiscoverCalls}

private theorem spec_attemptGpu_first (h : ∀ n, (attempts n).listed.length ≤ CInt.intMax)
    {remaining : Nat} (hr : remaining ≤ 10) {held : Multiset Nat} :
    Spec held (attemptGpu attempts remaining .cleared) fun gpu _ ↦
      ((∀ n, 10 - remaining ≤ n → n < 10 → ¬(attempts n).Finds) ∧ gpu = .cleared) ∨
        ∃ n, 10 - remaining ≤ n ∧ n < 10 ∧ (attempts n).Finds ∧
          (∀ k, 10 - remaining ≤ k → k < n → ¬(attempts k).Finds) ∧
          gpu.valid = true ∧ ∃ dev, Describes (attempts n) gpu dev := by
  induction remaining generalizing held with
  | zero => exact .pure (Or.inl ⟨fun n hn hlt ↦ absurd hlt (by omega), rfl⟩)
  | succ remaining ih =>
    have hfirst : 10 - (remaining + 1) = 9 - remaining := by omega
    rw [hfirst]
    have hfound := DiscoverCalls.found_iff (h (9 - remaining))
    refine ((spec_playosGpuDiscover _).and
      (spec_playosGpuDiscover_describes (h (9 - remaining)))).bind fun result held' hp ↦ ?_
    obtain ⟨succeeded, gpu⟩ := result
    obtain ⟨⟨hs, hv, -, -⟩, hcleared, hdescribes⟩ := hp
    dsimp only at hs hv hcleared hdescribes ⊢
    rw [hs, hv, Bool.and_self]
    cases hf : (attempts (9 - remaining)).found with
    | true =>
      rw [if_pos rfl]
      refine .pure (Or.inr ⟨9 - remaining, le_rfl, by omega, hfound.mp hf, ?_, hv.trans hf,
        hdescribes hf⟩)
      intro k hk hlt
      omega
    | false =>
      have hnot : ¬(attempts (9 - remaining)).Finds := fun hyes ↦ by
        rw [hfound.mpr hyes] at hf
        cases hf
      rw [if_neg (by decide), hcleared hf]
      refine (ih (by omega)).mono fun gpu' _ hp ↦ ?_
      have hback : ∀ {n}, 9 - remaining ≤ n → (10 - remaining ≤ n → ¬(attempts n).Finds) →
          ¬(attempts n).Finds := by
        intro n hn hlater
        rcases Nat.lt_or_ge n (10 - remaining) with hlt | hge
        · have hn' : n = 9 - remaining := by omega
          exact hn' ▸ hnot
        · exact hlater hge
      rcases hp with ⟨hall, rfl⟩ | ⟨n, hn, hlt, hyes, hbefore, hvalid, hdev⟩
      · exact Or.inl ⟨fun n hn hlt ↦ hback hn fun hge ↦ hall n hge hlt, rfl⟩
      · refine Or.inr ⟨n, by omega, hlt, hyes, fun k hk hkn ↦ ?_, hvalid, hdev⟩
        exact hback hk fun hge ↦ hbefore k hge hkn

/-- GPU discovery in `playos_compositor_start`: the struct that the ten attempts leave describes
the first of the best devices of the first attempt in which that one's card can be opened. -/
theorem attemptGpu_discovered (h : ∀ n, (attempts n).listed.length ≤ CInt.intMax) :
    Discovered attempts (attemptGpu attempts 10 .cleared .empty).1 := by
  obtain ⟨_, -, hp⟩ := spec_attemptGpu_first h (le_refl 10) .empty rfl
  rcases hp with ⟨hall, he⟩ | ⟨n, -, hlt, hyes, hbefore, hvalid, hdev⟩
  · rw [he]
    refine ⟨⟨fun hv ↦ ?_, ?_⟩, fun _ ↦ rfl, fun n hlt hyes ↦ ?_⟩
    · cases hv
    · rintro ⟨n, hlt, hyes⟩
      exact absurd hyes (hall n (Nat.zero_le n) hlt)
    · exact absurd hyes (hall n (Nat.zero_le n) hlt)
  · refine ⟨⟨fun _ ↦ ⟨n, hlt, hyes⟩, fun _ ↦ hvalid⟩, fun hv ↦ ?_, fun m _ hm hmin ↦ ?_⟩
    · rw [hvalid] at hv
      cases hv
    · have hmn : m = n := by
        rcases Nat.lt_trichotomy m n with hlt' | he | hgt
        · exact absurd hm (hbefore m (Nat.zero_le m) hlt')
        · exact he
        · exact absurd hyes (hmin n hgt)
      exact hmn ▸ hdev

end Attempts

/-- The driver of an idle card is there first, and the Intel GPU with the panel at the second
attempt. -/
def lateDriver (n : Nat) : DiscoverCalls where
  devices2 := some ((if n = 0 then [] else [⟨true, true, some (.ofString "/dev/dri/card1"),
    some (.ofString "/dev/dri/renderD129"), some (pciVendorIntel, 0x46a6), ⟨true, true⟩,
    some [some ⟨.connected, connectorEdp, 1, []⟩]⟩]) ++ [⟨true, false,
      some (.ofString "/dev/dri/card0"), none, some (0x10de, 0x2520), ⟨false, false⟩, none⟩])
  devices := none
  card := decide (0 < n)
  render := ⟨false, true⟩

/-- The Intel GPU is driven, with its render node open for reading. -/
theorem attemptGpu_discovered_late :
    Discovered lateDriver (attemptGpu lateDriver 10 .cleared .empty).1 ∧
      (attemptGpu lateDriver 10 .cleared .empty).1.pciVendorId = pciVendorIntel ∧
      (attemptGpu lateDriver 10 .cleared .empty).1.renderFd.isSome := by
  refine ⟨attemptGpu_discovered fun n ↦ ?_, by decide +kernel, by decide +kernel⟩
  have hlen : (lateDriver n).listed.length ≤ 2 := by
    refine (List.length_filter_le _ _).trans ?_
    unfold lateDriver
    dsimp only
    split <;> simp
  exact hlen.trans (by decide)

end PlayosCompositor
