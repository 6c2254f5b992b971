import PlayosCompositor.Outputs.Shutdown

/-!
# Serving several outputs

An output is served when walking its `frame` and `present` lists meets the compositor's
listener and comes back. The second attachment overwrites the pointers by which the first
output's walk would come back.
-/

namespace PlayosCompositor

/-- Both lists of an output return to their heads and contain the compositor's listener. -/
def Listeners.Served (l : Listeners) (output : Nat) : Prop :=
  ∀ kind, l.links.Circular (.signal (.output kind output)) ∧
    l.links.Visits (.signal (.output kind output)) (.listener (.output kind))

/-- Every output that was set up to the end is served. -/
def AllServed (q : Compositor × Option Listeners) : Prop :=
  ∃ l, q.2 = some l ∧ ∀ output ∈ l.attached, l.Served output

/-- When an event attaches the listeners, neither is in a list at its turn. -/
def AttachesFree (p : Compositor × Option Listeners) (e : Event) : Prop :=
  e.completesOutput p.1.backendType → ∀ l, p.2 = some l →
    (∀ s, ¬ l.announce.links.Visits (.signal s) (.listener (.output .frame))) ∧
      ∀ m, l.announce.links.signalAdd (.signal (.output .frame l.outputs))
        (.listener (.output .frame)) = some m →
          ∀ s, ¬ m.Visits (.signal s) (.listener (.output .present))

private theorem not_circular_of_later {m : Links ListNode} {kind : OutputSignal} {outputs i j : Nat}
    {rest : List Nat} (h : KindAttached m kind outputs (i :: rest)) (hj : j ∈ rest)
    (hne : j ≠ i) : ¬ m.Circular (.signal (.output kind j)) := by
  obtain ⟨-, hto, hback⟩ := Links.Ring.singleton_iff.mp (h.latest i rfl)
  refine Links.not_circular_of_closed
    (s := fun x ↦ x = .listener (.output kind) ∨ x = .signal (.output kind i)) ?_
    (h.pointing j (List.mem_cons_of_mem _ hj)) (Or.inl rfl) (by simp [hne])
  rintro x y (rfl | rfl) hy
  · exact Or.inr (Option.some.inj (hy.symm.trans hback.1))
  · exact Or.inl (Option.some.inj (hy.symm.trans hto.1))

private theorem allServed_iff {l : Listeners} (h : Attached l) :
    (∀ output ∈ l.attached, l.Served output) ↔ l.attached.length ≤ 1 := by
  have hk := h.kinds
  have hn := h.nodup
  cases ha : l.attached with
  | nil => simp
  | cons i rest =>
    rw [ha] at hk hn
    cases rest with
    | nil =>
      refine iff_of_true (fun output ho kind ↦ ?_) (by simp)
      obtain rfl : output = i := List.mem_singleton.mp ho
      have hring := (hk kind).latest output rfl
      exact ⟨hring.circular, hring.visits_iff.mpr (by simp)⟩
    | cons j rest =>
      refine iff_of_false (fun hs ↦ ?_) (by simp)
      have hne : j ≠ i := by
        rintro rfl
        exact (List.nodup_cons.mp hn).1 List.mem_cons_self
      exact not_circular_of_later (hk .frame) List.mem_cons_self hne (hs j (by simp) .frame).1

private theorem attachesFree_of_unattached {p : Compositor × Option Listeners} {l : Listeners}
    (hp : p.2 = some l) (h : Attached l) (ha : l.attached = []) (e : Event) :
    AttachesFree p e := by
  intro _ l' hl'
  cases Option.some.inj (hp.symm.trans hl')
  have hannounced := h.announce
  have hempty : l.announce.attached = [] := ha
  constructor
  · intro s hs
    obtain ⟨i, hi, -⟩ := ((InOrder.of_attached hannounced).visits_output_iff .frame s).mp hs
    rw [hempty] at hi
    exact nomatch hi
  · intro m hm s hs
    obtain ⟨m', -, hm', hstanding, hframe, hpresent, -, -⟩ :=
      hannounced.attach (Nat.lt_succ_self _) h.outputs_not_mem
    cases hm.symm.trans hm'
    rw [hempty] at hframe hpresent
    have horder : InOrder m [.newOutput, .newToplevel, .newInput] l.announce.outputs
        fun kind ↦ if kind = .frame then [l.outputs] else [] := by
      refine ⟨fun s ↦ by cases s <;> exact hstanding _, fun kind ↦ ?_⟩
      cases kind with
      | frame => exact hframe
      | present => exact hpresent
    obtain ⟨i, hi, -⟩ := (horder.visits_output_iff .present s).mp hs
    exact nomatch hi

/-- Along a run every output is served at the end, and no listener was attached while it was in
a list, exactly if at most one event has set an output up to the end. -/
theorem allServed_run_iff (config : StartConfig) {es : List Event}
    {q : Compositor × Option Listeners}
    (hr : listenerSystem.run (startedListening config) es = some q) :
    (AllServed q ∧ listenerSystem.Each (fun p e _ ↦ AttachesFree p e) (startedListening config)
      es) ↔ es.countP (·.completesOutput config.backendType) ≤ 1 := by
  obtain ⟨l, hl, h, hc⟩ := attached_started hr
  have hserved : AllServed q ↔ es.countP (·.completesOutput config.backendType) ≤ 1 := by
    rw [← hc, ← allServed_iff h, AllServed, hl]
    simp
  rw [hserved]
  refine and_iff_left_of_imp fun hle ↦ ?_
  rw [Transition.System.each_iff_run]
  intro pre e p p' hpre hp _
  obtain ⟨l', hl', h', hc'⟩ := attached_started hp
  have hb : p.1.backendType = config.backendType := by
    have hfst : compositorSystem.run (playosCompositorStarted config) pre = some p.1 :=
      (listenerSystem_run (startedListening config) pre).symm.trans
        (congrArg (Option.map Prod.fst) hp)
    exact congrArg Settings.backendType (settings_run hfst)
  by_cases he : e.completesOutput p.1.backendType
  · -- the run goes on with this attachment, so there was none before
    refine attachesFree_of_unattached hl' h' (List.length_eq_zero_iff.mp ?_) e
    have hcount := hpre.sublist.countP_le (p := (·.completesOutput config.backendType))
    rw [List.countP_append, List.countP_singleton, if_pos (hb ▸ he)] at hcount
    omega
  · exact fun hcomplete ↦ absurd hcomplete he

/-- The theorem when one output was set up. -/
theorem allServed_run_iff_oneOutput :
    ∃ q ∈ listenerSystem.run (startedListening headlessStart) oneOutputRun,
      ((AllServed q ∧ listenerSystem.Each (fun p e _ ↦ AttachesFree p e)
        (startedListening headlessStart) oneOutputRun) ↔
          oneOutputRun.countP (·.completesOutput headlessStart.backendType) ≤ 1) ∧
      oneOutputRun.countP (·.completesOutput headlessStart.backendType) ≤ 1 := by
  obtain ⟨q, hq⟩ := Option.isSome_iff_exists.mp (show (listenerSystem.run
    (startedListening headlessStart) oneOutputRun).isSome by decide)
  exact ⟨q, hq, allServed_run_iff headlessStart hq, by decide⟩

/-- With two outputs the list of the first one does not return to its head. -/
theorem allServed_fails :
    ∃ q ∈ listenerSystem.run (startedListening headlessStart) (oneOutputRun ++ oneOutputRun),
      ¬ AllServed q := by
  obtain ⟨q, hq⟩ := Option.isSome_iff_exists.mp (show (listenerSystem.run
    (startedListening headlessStart) (oneOutputRun ++ oneOutputRun)).isSome by decide)
  refine ⟨q, hq, ?_⟩
  rintro ⟨l, hl, hs⟩
  obtain ⟨l', hl', h, hcount⟩ := attached_started hq
  cases Option.some.inj (hl.symm.trans hl')
  rw [allServed_iff h, hcount] at hs
  exact absurd hs (by decide)

end PlayosCompositor
