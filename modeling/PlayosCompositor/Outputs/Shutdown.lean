import PlayosCompositor.Outputs.Listeners
import PlayosCompositor.Runs.Foreground

/-!
# Removing and emitting

What the order of the links means for `playos_compositor_destroy`, which removes five links,
and for outputs whose events run the listeners. One link for each of `frame` and `present`
serves exactly one output: without any it is not in a list when it is removed, and `present`
not even initialised; with two it is linked into two lists, of which only one returns.
-/

namespace PlayosCompositor

/-! ### Clean shutdown -/

/-- The walk along exactly one signal's list meets the listener. -/
def InOneList (m : Links ListNode) (x : WlListener) : Prop :=
  ∃! s, m.Visits (.signal s) (.listener x)

/-- Each link is self-linked or in exactly one list when its turn to be removed comes, and its
removal follows no NULL pointer. -/
def RemovesCleanly : Links ListNode → List WlListener → Prop
  | _, [] => True
  | m, x :: xs => (m.Ring (.listener x) [] ∨ InOneList m x) ∧
      ∃ m', m.remove (.listener x) = some m' ∧ RemovesCleanly m' xs

/-- What `playos_compositor_destroy` finds at the end of a run. -/
def CleanShutdown (q : Compositor × Option Listeners) : Prop :=
  ∃ l, q.2 = some l ∧ RemovesCleanly l.links destroyedListeners

/-- The links while they are being removed: some standing listeners are still in their
lists, and the outputs of each kind of signal to which a listener is attached. -/
structure InOrder (m : Links ListNode) (remaining : List StandingSignal) (outputs : Nat)
    (attached : OutputSignal → List Nat) : Prop where
  standing : ∀ s, m.Ring (.signal (.standing s))
    (if s ∈ remaining then [.listener (.standing s)] else [])
  kinds : ∀ kind, KindAttached m kind outputs (attached kind)

namespace InOrder

variable {m : Links ListNode} {remaining : List StandingSignal} {outputs : Nat}
  {attached : OutputSignal → List Nat}

/-- The links of a run are in order. -/
theorem of_attached {l : Listeners} (h : Attached l) :
    InOrder l.links [.newOutput, .newToplevel, .newInput] l.outputs fun _ ↦ l.attached where
  standing s := by
    cases s <;> exact h.standing _
  kinds := h.kinds

private theorem visits_standing_iff (h : InOrder m remaining outputs attached) (s : StandingSignal)
    (x : WlListener) : m.Visits (.signal (.standing s)) (.listener x) ↔
      s ∈ remaining ∧ x = .standing s := by
  rw [(h.standing s).visits_iff]
  split
  · next hs => simp [hs]
  · next hs => simp [hs]

private theorem inOneList_standing (h : InOrder m remaining outputs attached) {s : StandingSignal}
    (hs : s ∈ remaining) : InOneList m (.standing s) := by
  refine ⟨.standing s, (h.visits_standing_iff s _).mpr ⟨hs, rfl⟩, fun other ho ↦ ?_⟩
  cases other with
  | standing s' =>
    have he := ((h.visits_standing_iff s' _).mp ho).2
    cases he
    rfl
  | output kind i => exact absurd ((h.kinds kind).ofKind_of_visits ho) id

/-- The walks that meet the listener for an output's event start at the outputs that have
it. -/
theorem visits_output_iff (h : InOrder m remaining outputs attached) (kind : OutputSignal)
    (s : WlSignal) : m.Visits (.signal s) (.listener (.output kind)) ↔
      ∃ i ∈ attached kind, s = .output kind i := by
  constructor
  · intro hs
    cases s with
    | standing s => exact nomatch ((h.visits_standing_iff s _).mp hs).2
    | output k i =>
      have hk : kind = k := (h.kinds k).ofKind_of_visits hs
      subst hk
      exact ⟨i, ((h.kinds kind).visits_iff i).mp hs, rfl⟩
  · rintro ⟨i, hi, rfl⟩
    exact ((h.kinds kind).visits_iff i).mpr hi

private theorem inOneList_output_iff (h : InOrder m remaining outputs attached)
    {kind : OutputSignal}
    (hn : (attached kind).Nodup) : InOneList m (.output kind) ↔ (attached kind).length = 1 := by
  unfold InOneList
  simp only [h.visits_output_iff]
  constructor
  · rintro ⟨s, ⟨i, hi, rfl⟩, hu⟩
    have hall : ∀ j ∈ attached kind, j = i :=
      fun j hj ↦ (WlSignal.output.inj (hu _ ⟨j, hj, rfl⟩)).2
    have hle : (attached kind).length ≤ 1 := by
      rwa [List.eq_replicate_of_mem hall, List.nodup_replicate] at hn
    have hpos := List.length_pos_of_mem hi
    omega
  · intro hl
    obtain ⟨i, hi⟩ := List.length_eq_one_iff.mp hl
    refine ⟨.output kind i, ⟨i, by simp [hi], rfl⟩, ?_⟩
    rintro _ ⟨j, hj, rfl⟩
    rw [hi, List.mem_singleton] at hj
    rw [hj]

private theorem remove_standing {s : StandingSignal}
    (h : InOrder m (s :: remaining) outputs attached)
    (hs : s ∉ remaining) : ∃ m', m.remove (.listener (.standing s)) = some m' ∧
      InOrder m' remaining outputs attached ∧
      (∀ x, m.AgreeAt m' (.listener (.output x))) ∧
      ∀ xs, RemovesCleanly m (.standing s :: xs) ↔ RemovesCleanly m' xs := by
  have hring : m.Ring (.signal (.standing s)) ([] ++ .listener (.standing s) :: []) := by
    have hr := h.standing s
    rwa [if_pos List.mem_cons_self] at hr
  obtain ⟨m', hm, hempty, -, hag⟩ := hring.remove
  have hother : ∀ x, x ≠ .signal (.standing s) → x ≠ .listener (.standing s) → m.AgreeAt m' x :=
    fun x h₁ h₂ ↦ hag x (by simp [h₁, h₂])
  refine ⟨m', hm, ⟨fun s' ↦ ?_, fun kind ↦ ?_⟩, fun x ↦ hother _ (by simp) (by simp), fun xs ↦ ?_⟩
  · by_cases he : s' = s
    · subst he
      rw [if_neg hs]
      exact hempty
    · have hmem : s' ∈ s :: remaining ↔ s' ∈ remaining := by simp [he]
      have hr := h.standing s'
      simp only [hmem] at hr
      refine hr.congr fun x hx ↦ hother x ?_ ?_
      · rintro rfl
        split at hx <;> simp_all
      · rintro rfl
        split at hx <;> simp_all
  · refine (h.kinds kind).congr fun x hx ↦ hother x ?_ ?_
    · rintro rfl
      exact hx
    · rintro rfl
      exact hx
  · constructor
    · rintro ⟨-, m'', hm'', hr⟩
      cases hm.symm.trans hm''
      exact hr
    · exact fun hr ↦ ⟨Or.inr (h.inOneList_standing List.mem_cons_self), m', hm, hr⟩

end InOrder

section Outputs

variable {m m' : Links ListNode} {outputs : Nat} {attached : List Nat}

/-- Once the only attachment of a kind is gone, none is left. -/
private theorem detached {kind : OutputSignal} (h : KindAttached m kind outputs attached)
    (hgone : m'.next (.listener (.output kind)) = none)
    (hempty : ∀ i ∈ attached, m'.Ring (.signal (.output kind i)) [])
    (hag : ∀ i ∉ attached, m.AgreeAt m' (.signal (.output kind i)))
    (hb : ∀ i ∈ attached, i < outputs) : KindAttached m' kind outputs [] where
  unborn i hi := (hag i fun hm ↦ (hb i hm).not_ge hi).1.trans (h.unborn i hi)
  idle i hi _ := by
    by_cases ha : i ∈ attached
    · exact hempty i ha
    · refine (h.idle i hi ha).congr fun x hx ↦ ?_
      cases List.mem_singleton.mp hx
      exact hag i ha
  pointing := by simp
  latest := by simp
  free _ x hx := nomatch hgone.symm.trans hx

/-- When `frame` is removed from its only list, or from none, `present` keeps its lists. -/
private theorem inOrder_of_detached (h : InOrder m [] outputs fun _ ↦ attached)
    (hframe : KindAttached m' .frame outputs []) (hag : ∀ x, ¬ OfKind .frame x → m.AgreeAt m' x) :
    InOrder m' [] outputs fun kind ↦ if kind = .frame then [] else attached where
  standing s := (h.standing s).congr fun x hx ↦ hag x fun hf ↦ by
    cases List.mem_singleton.mp hx
    exact hf
  kinds kind := by
    cases kind with
    | frame => exact hframe
    | present => exact (h.kinds .present).congr fun x hx ↦ hag x fun hf ↦ nomatch hx.unique hf

private theorem removesCleanly_outputs_iff (h : InOrder m [] outputs fun _ ↦ attached)
    (hn : attached.Nodup) (hb : ∀ i ∈ attached, i < outputs)
    (hfirst : attached = [] → m.Ring (.listener (.output .frame)) [] ∧
      m.prev (.listener (.output .present)) = none) :
    RemovesCleanly m [.output .frame, .output .present] ↔ attached.length = 1 := by
  have hone : ∀ kind, InOneList m (.output kind) ↔ attached.length = 1 :=
    fun kind ↦ h.inOneList_output_iff hn
  cases attached with
  | nil =>
    -- `frame` is still its own list, and `present` was never initialised
    obtain ⟨hself, hzero⟩ := hfirst rfl
    obtain ⟨m', hm, hgone, hag⟩ := hself.remove_nil
    have hframe : KindAttached m' .frame outputs [] :=
      detached (h.kinds .frame) hgone (by simp) (fun i _ ↦ hag _ (by simp)) (by simp)
    have h' := inOrder_of_detached h hframe fun x hx ↦ hag x fun he ↦ hx (he ▸ rfl)
    refine iff_of_false ?_ (by simp)
    rintro ⟨-, m'', hm'', hpresent, -⟩
    cases hm.symm.trans hm''
    rcases hpresent with hring | hin
    · have hback := (hag _ (by simp)).2.trans hzero
      exact nomatch hback.symm.trans (Links.Ring.nil_iff.mp hring).2
    · exact nomatch (h'.inOneList_output_iff (by simp)).mp hin
  | cons i rest =>
    have hlatest : ∀ kind, m.Ring (.signal (.output kind i)) ([] ++ [.listener (.output kind)]) :=
      fun kind ↦ (h.kinds kind).latest i rfl
    cases rest with
    | nil =>
      obtain ⟨m', hm, hempty, hgone, hag⟩ := (hlatest .frame).remove
      have hframe : KindAttached m' .frame outputs [] := by
        refine detached (h.kinds .frame) hgone (fun j hj ↦ ?_) (fun j hj ↦ hag _ ?_) hb
        · cases List.mem_singleton.mp hj
          exact hempty
        · simpa using hj
      have hag' : ∀ x, ¬ OfKind .frame x → m.AgreeAt m' x := fun x hx ↦ hag x fun hmem ↦ hx (by
        rcases List.mem_pair.mp hmem with rfl | rfl <;> rfl)
      have h' := inOrder_of_detached h hframe hag'
      obtain ⟨m'', hm'', -⟩ := Links.Ring.remove
        (show m'.Ring (.signal (.output .present i)) ([] ++ [.listener (.output .present)]) from
          (h'.kinds .present).latest i rfl)
      refine iff_of_true ⟨Or.inr ((hone .frame).mpr rfl), m', hm, ?_, m'', hm'', trivial⟩ rfl
      exact Or.inr ((h'.inOneList_output_iff (by simp)).mpr rfl)
    | cons j rest =>
      -- the link of `frame` closes the latest output's list, and an earlier one leads into it
      refine iff_of_false ?_ (by simp)
      rintro ⟨hself | hin, -⟩
      · have hback := (Links.Ring.singleton_iff.mp (hlatest .frame)).2.2.1
        exact nomatch hback.symm.trans (Links.Ring.nil_iff.mp hself).1
      · simpa using (hone .frame).mp hin

end Outputs

private theorem removesCleanly_iff {l : Listeners} (h : Attached l) :
    RemovesCleanly l.links destroyedListeners ↔ l.attached.length = 1 := by
  obtain ⟨m₁, -, h₁, hag₁, hr₁⟩ := (InOrder.of_attached h).remove_standing (by decide)
  obtain ⟨m₂, -, h₂, hag₂, hr₂⟩ := h₁.remove_standing (by decide)
  obtain ⟨m₃, -, h₃, hag₃, hr₃⟩ := h₂.remove_standing (by decide)
  rw [destroyedListeners, hr₁, hr₂, hr₃]
  refine removesCleanly_outputs_iff h₃ h.nodup h.bound fun ha ↦ ?_
  have hag : ∀ x, l.links.AgreeAt m₃ (.listener (.output x)) :=
    fun x ↦ ((hag₁ x).trans (hag₂ x)).trans (hag₃ x)
  obtain ⟨hframe, hpresent⟩ := h.first ha
  refine ⟨hframe.congr fun x hx ↦ ?_, (hag .present).2.trans hpresent⟩
  cases List.mem_singleton.mp hx
  exact hag .frame

/-! ### What is left linked -/

/-- The five removals, `src/compositor.c:537–541`; `none` once a NULL pointer has been followed. -/
def Listeners.removeAll (l : Listeners) : Option (Links ListNode) :=
  destroyedListeners.foldlM (fun m x ↦ m.remove (.listener x)) l.links

/-- The signals that exist: those of the start and two of each output. -/
def Listeners.signals (l : Listeners) : List WlSignal :=
  [.standing .newOutput, .standing .newToplevel, .standing .newInput] ++
    (List.range l.outputs).flatMap fun i ↦ [.output .frame i, .output .present i]

/-- What the removals come to: whether every signal's list is empty afterwards, as wlroots
asserts when it frees the signal's object. -/
def Listeners.unlisten (l : Listeners) : Option Bool :=
  l.removeAll.map fun m ↦ l.signals.all fun s ↦ m.isEmpty (.signal s)

private theorem isEmpty_of_ring {m : Links ListNode} {x : ListNode} (h : m.Ring x []) :
    m.isEmpty x = true := decide_eq_true (Links.Ring.nil_iff.mp h).1

private theorem removeAll_none {m : Links ListNode} (hself : m.Ring (.listener (.output .frame)) [])
    (hzero : m.prev (.listener (.output .present)) = none) :
    [WlListener.output .frame, .output .present].foldlM (fun m x ↦ m.remove (.listener x)) m =
      none := by
  obtain ⟨m', hm, -, hag⟩ := hself.remove_nil
  have hback : m'.prev (.listener (.output .present)) = none := (hag _ (by simp)).2.trans hzero
  rw [List.foldlM_cons, hm]
  simp [Links.remove, hback]

/-- Both links leave the list of the latest output; earlier ones still lead to them. -/
private theorem removeAll_some {m : Links ListNode} {outputs i : Nat} {rest : List Nat}
    (h : InOrder m [] outputs fun _ ↦ i :: rest) :
    ∃ m', [WlListener.output .frame, .output .present].foldlM
        (fun m x ↦ m.remove (.listener x)) m = some m' ∧
      (∀ s, m'.Ring (.signal (.standing s)) []) ∧
      (∀ kind, m'.Ring (.signal (.output kind i)) []) ∧
      ∀ kind j, j ≠ i → m.AgreeAt m' (.signal (.output kind j)) := by
  have hlatest : ∀ kind, m.Ring (.signal (.output kind i)) ([] ++ [.listener (.output kind)]) :=
    fun kind ↦ (h.kinds kind).latest i rfl
  obtain ⟨m₁, e₁, hframe, -, ag₁⟩ := (hlatest .frame).remove
  have hpresent : m₁.Ring (.signal (.output .present i)) ([] ++ [.listener (.output .present)]) :=
    (hlatest .present).congr fun x hx ↦ ag₁ x fun hx' ↦ by
      rcases List.mem_pair.mp hx with rfl | rfl <;> simp at hx'
  obtain ⟨m₂, e₂, hpresent, -, ag₂⟩ := hpresent.remove
  have hother : ∀ kind j, j ≠ i → m.AgreeAt m₂ (.signal (.output kind j)) :=
    fun kind j hj ↦ (ag₁ _ (by simp [hj])).trans (ag₂ _ (by simp [hj]))
  refine ⟨m₂, ?_, fun s ↦ ?_, fun kind ↦ ?_, hother⟩
  · rw [List.foldlM_cons, e₁, Option.bind_eq_bind, Option.bind_some, List.foldlM_cons, e₂]
    rfl
  · refine (h.standing s).congr fun x hx ↦ ?_
    cases List.mem_singleton.mp hx
    exact (ag₁ _ (by simp)).trans (ag₂ _ (by simp))
  · cases kind with
    | present => exact hpresent
    | frame =>
      refine hframe.congr fun x hx ↦ ag₂ x ?_
      cases List.mem_singleton.mp hx
      simp

/-- The removal of the links crashes without an output that was set up, and leaves none behind
exactly if there was one. -/
theorem unlisten_eq {l : Listeners} (h : Attached l) :
    l.unlisten = if l.attached.length = 0 then none else some (decide (l.attached.length = 1)) := by
  obtain ⟨m₁, e₁, h₁, hag₁, -⟩ := (InOrder.of_attached h).remove_standing (by decide)
  obtain ⟨m₂, e₂, h₂, hag₂, -⟩ := h₁.remove_standing (by decide)
  obtain ⟨m₃, e₃, h₃, hag₃, -⟩ := h₂.remove_standing (by decide)
  have hremove : l.removeAll = [WlListener.output .frame, .output .present].foldlM
      (fun m x ↦ m.remove (.listener x)) m₃ := by
    simp only [Listeners.removeAll, destroyedListeners, List.foldlM_cons, e₁, e₂, e₃,
      Option.bind_eq_bind, Option.bind_some]
  rw [Listeners.unlisten, hremove]
  cases ha : l.attached with
  | nil =>
    obtain ⟨hframe, hpresent⟩ := h.first ha
    have hag : ∀ x, l.links.AgreeAt m₃ (.listener (.output x)) :=
      fun x ↦ ((hag₁ x).trans (hag₂ x)).trans (hag₃ x)
    rw [removeAll_none (hframe.congr fun x hx ↦ ?_) ((hag .present).2.trans hpresent)]
    · rfl
    · cases List.mem_singleton.mp hx
      exact hag .frame
  | cons i rest =>
    rw [ha] at h₃
    have hnodup := h.nodup
    rw [ha, List.nodup_cons] at hnodup
    obtain ⟨m', e', hstanding, hlatest, hag⟩ := removeAll_some h₃
    rw [e', Option.map_some, if_neg (by simp)]
    congr 1
    rw [Bool.eq_iff_iff, decide_eq_true_iff, List.all_eq_true]
    constructor
    · -- an earlier output's list still leads to the link
      intro hall
      by_contra hlen
      obtain ⟨j, hj⟩ := List.exists_mem_of_ne_nil rest fun hr ↦ hlen (by simp [hr])
      have hne : j ≠ i := fun he ↦ hnodup.1 (he ▸ hj)
      have hjm : j ∈ l.attached := ha ▸ List.mem_cons_of_mem i hj
      have hmem : WlSignal.output .frame j ∈ l.signals := by
        simpa [Listeners.signals] using h.bound j hjm
      have hself := of_decide_eq_true (hall _ hmem)
      have hpoint := (hag .frame j hne).1.trans
        ((h₃.kinds .frame).pointing j (List.mem_cons_of_mem i hj))
      cases hself.symm.trans hpoint
    · intro hlen s hs
      refine isEmpty_of_ring ?_
      cases s with
      | standing s => exact hstanding s
      | output kind j =>
        by_cases hj : j = i
        · exact hj ▸ hlatest kind
        · have hbound : j < l.outputs := by
            cases kind <;> simpa [Listeners.signals] using hs
          have hnot : j ∉ i :: rest := by
            rw [List.eq_nil_of_length_eq_zero (Nat.succ.inj hlen)]
            simpa using hj
          refine ((h₃.kinds kind).idle j hbound hnot).congr fun x hx ↦ ?_
          cases List.mem_singleton.mp hx
          exact hag kind j hj

/-- The links when `playos_compositor_destroy` is called, after these outputs were announced. -/
def linksAtDestroy (backend : Backend) (outputs : List OutputCalls) : Option Listeners :=
  (playosCompositorStartLinks.map fun m ↦ ⟨m, 0, []⟩).bind fun l ↦
    outputs.foldlM (fun l calls ↦ handleNewOutputLinks l backend calls) l

/-- The outputs that were set up to the end. -/
def outputsSetUp (backend : Backend) (outputs : List OutputCalls) : Nat :=
  outputs.countP fun calls ↦ (Event.newOutput calls).completesOutput backend

private theorem attached_outputs {l : Listeners} (h : Attached l) (backend : Backend)
    (outputs : List OutputCalls) :
    ∃ l', outputs.foldlM (fun l calls ↦ handleNewOutputLinks l backend calls) l = some l' ∧
      Attached l' ∧ l'.attached.length = l.attached.length + outputsSetUp backend outputs := by
  induction outputs generalizing l with
  | nil => exact ⟨l, rfl, h, rfl⟩
  | cons calls outputs ih =>
    obtain ⟨l₁, e₁, h₁, hc₁⟩ := h.handleNewOutputLinks backend calls
    obtain ⟨l', e', h', hc'⟩ := ih h₁
    refine ⟨l', ?_, h', ?_⟩
    · rw [List.foldlM_cons, e₁]
      exact e'
    · rw [hc', hc₁, outputsSetUp, outputsSetUp, List.countP_cons, List.countP_cons,
        List.countP_nil]
      omega

/-- A session's end crashes without an output that was set up to the end, and finds every list
empty exactly if there was one. -/
theorem unlisten_linksAtDestroy (backend : Backend) (outputs : List OutputCalls) :
    (linksAtDestroy backend outputs).bind Listeners.unlisten =
      if outputsSetUp backend outputs = 0 then none
      else some (decide (outputsSetUp backend outputs = 1)) := by
  obtain ⟨m, hm, h₀⟩ := attached_start
  obtain ⟨l, hl, h, hc⟩ := attached_outputs h₀ backend outputs
  have hlinks : linksAtDestroy backend outputs = some l := by
    rw [linksAtDestroy, hm, Option.map_some, Option.bind_some, hl]
  have hcount : l.attached.length = outputsSetUp backend outputs := by simpa using hc
  rw [hlinks, Option.bind_some, unlisten_eq h, hcount]

/-! ### Whole runs -/

/-- A run ends in a clean shutdown exactly if one of its events has set an output up to the
end. -/
theorem cleanShutdown_iff (config : StartConfig) {es : List Event}
    {q : Compositor × Option Listeners}
    (hr : listenerSystem.run (startedListening config) es = some q) :
    CleanShutdown q ↔ es.countP (·.completesOutput config.backendType) = 1 := by
  obtain ⟨l, hl, h, hc⟩ := attached_started hr
  rw [← hc, ← removesCleanly_iff h, CleanShutdown, hl]
  simp

/-- One output is set up. -/
def oneOutputRun : List Event := [.newOutput ⟨true, true, true, true, true⟩]

/-- The theorem when one output was set up. -/
theorem cleanShutdown_iff_oneOutput :
    ∃ q ∈ listenerSystem.run (startedListening headlessStart) oneOutputRun,
      (CleanShutdown q ↔ oneOutputRun.countP (·.completesOutput headlessStart.backendType) = 1) ∧
      oneOutputRun.countP (·.completesOutput headlessStart.backendType) = 1 := by
  obtain ⟨q, hq⟩ := Option.isSome_iff_exists.mp (show (listenerSystem.run
    (startedListening headlessStart) oneOutputRun).isSome by decide)
  exact ⟨q, hq, cleanShutdown_iff headlessStart hq, by decide⟩

/-- Without an output `present` is removed with zeroed pointers. -/
theorem cleanShutdown_fails :
    ∃ q ∈ listenerSystem.run (startedListening headlessStart) [], ¬ CleanShutdown q := by
  refine ⟨_, rfl, ?_⟩
  rintro ⟨l, hl, hc⟩
  obtain ⟨l', hl', h, hcount⟩ := @attached_started headlessStart []
    (startedListening headlessStart) rfl
  cases Option.some.inj (hl.symm.trans hl')
  rw [removesCleanly_iff h, hcount] at hc
  exact nomatch hc

end PlayosCompositor
