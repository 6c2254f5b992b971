import PlayosCompositor.Base.Links
import PlayosCompositor.Outputs.Settings

/-!
# Listener links of the compositor

The five listeners that `struct playos_compositor` embeds and the signals of wlroots that they
are added to, as links in memory: what `playos_compositor_init`, `playos_compositor_start` and
`handle_new_output` do to them, and what `playos_compositor_destroy` removes. The links are a
history beside the compositor, which no handler reads.
-/

namespace PlayosCompositor

/-- The events of one output that the compositor listens to. -/
inductive OutputSignal
  | frame
  | present
  deriving DecidableEq, Repr

/-- The signals that exist from the start to the end: `new_output` and `new_input` of the
backend, `new_toplevel` of the xdg shell. -/
inductive StandingSignal
  | newOutput
  | newToplevel
  | newInput
  deriving DecidableEq, Repr

/-- The signals with a listener of the compositor; an output is its place in the order of
announcement. -/
inductive WlSignal
  | standing (signal : StandingSignal)
  | output (signal : OutputSignal) (output : Nat)
  deriving DecidableEq, Repr

/-- The listeners of the compositor, `include/compositor.h:140,147–151`, by the signals they
are meant for: `new_output`, `new_xdg_surface`, `new_input`, `frame` and `present`. -/
inductive WlListener
  | standing (signal : StandingSignal)
  | output (signal : OutputSignal)
  deriving DecidableEq, Repr

/-- A `struct wl_list`: the list of a signal, or the link of a listener. -/
inductive ListNode
  | signal (signal : WlSignal)
  | listener (listener : WlListener)
  deriving DecidableEq, Repr

/-- The links after `playos_compositor_init`, `src/compositor.c:118,126–129`. -/
def playosCompositorInitLinks : Links ListNode :=
  let m := Links.zeroed
  let m := m.init (.listener (.standing .newOutput))
  let m := m.init (.listener (.standing .newToplevel))
  let m := m.init (.listener (.standing .newInput))
  m.init (.listener (.output .frame))

/-- The links after `playos_compositor_start`: wlroots has created the backend and the xdg
shell with empty signals, and `src/compositor.c:448–456` and `src/system_button.c:155–156`
have added the listeners. -/
def playosCompositorStartLinks : Option (Links ListNode) :=
  let m := playosCompositorInitLinks
  let m := m.init (.signal (.standing .newOutput))
  let m := m.init (.signal (.standing .newToplevel))
  let m := m.init (.signal (.standing .newInput))
  (m.signalAdd (.signal (.standing .newOutput)) (.listener (.standing .newOutput))).bind fun m ↦
    (m.signalAdd (.signal (.standing .newToplevel))
      (.listener (.standing .newToplevel))).bind fun m ↦
    m.signalAdd (.signal (.standing .newInput)) (.listener (.standing .newInput))

/-- The links, how many outputs have been announced, and which of them were set up to the
end, the latest first. -/
structure Listeners where
  links : Links ListNode
  outputs : Nat
  attached : List Nat

/-- wlroots announces an output, with empty signals. -/
def Listeners.announce (l : Listeners) : Listeners where
  links := (l.links.init (.signal (.output .frame l.outputs))).init
    (.signal (.output .present l.outputs))
  outputs := l.outputs + 1
  attached := l.attached

/-- The two additions at the end of `handle_new_output`, `src/compositor.c:648–653`. -/
def Listeners.attach (l : Listeners) (output : Nat) : Option Listeners :=
  (l.links.signalAdd (.signal (.output .frame output)) (.listener (.output .frame))).bind fun m ↦
    (m.signalAdd (.signal (.output .present output)) (.listener (.output .present))).map fun m ↦
      { l with links := m, attached := output :: l.attached }

/-- `handle_new_output`, `src/compositor.c:555`: what it does to the links. -/
def handleNewOutputLinks (l : Listeners) (backend : Backend) (calls : OutputCalls) :
    Option Listeners :=
  let output := l.outputs
  let l := l.announce
  if !calls.initRender then some l
  else if backend = .headless ∧ !calls.configure then some l
  else if !calls.layoutAdd then some l
  else if !calls.sceneOutput then some l
  else l.attach output

/-- What an event does to the links; `none` once a NULL pointer has been followed. -/
def noteLinks (h : Option Listeners) (c : Compositor) : Event → Option Listeners
  | .newOutput calls => h.bind fun l ↦ handleNewOutputLinks l c.backendType calls
  | _ => h

/-- The compositor's runs, with the links of its listeners. -/
def listenerSystem : Transition.System (Compositor × Option Listeners) Event :=
  compositorSystem.withHistory (playosCompositorStartLinks.map fun m ↦ ⟨m, 0, []⟩) noteLinks

/-- A compositor with its links runs as the compositor alone. -/
theorem listenerSystem_run (p : Compositor × Option Listeners) (es : List Event) :
    (listenerSystem.run p es).map Prod.fst = compositorSystem.run p.1 es :=
  compositorSystem.withHistory_run_fst p es

/-- The listeners that `playos_compositor_destroy` removes; `src/compositor.c:537–541`. -/
def destroyedListeners : List WlListener :=
  [.standing .newOutput, .standing .newToplevel, .standing .newInput, .output .frame,
    .output .present]

/-- The event announces an output that is set up to the end. -/
def Event.completesOutput (backend : Backend) : Event → Bool
  | .newOutput calls => calls.initRender && (backend != .headless || calls.configure) &&
      calls.layoutAdd && calls.sceneOutput
  | _ => false

private theorem handleNewOutputLinks_eq (l : Listeners) (backend : Backend) (calls : OutputCalls) :
    handleNewOutputLinks l backend calls =
      if (Event.newOutput calls).completesOutput backend then l.announce.attach l.outputs
      else some l.announce := by
  rcases calls with ⟨initRender, configure, layoutAdd, sceneOutput, background⟩
  unfold handleNewOutputLinks Event.completesOutput
  cases initRender <;> cases configure <;> cases layoutAdd <;> cases sceneOutput <;>
    by_cases hb : backend = .headless <;> simp [hb]

/-! ### The links of one kind of output signal -/

/-- The node is a list of this kind, or the link of the one listener for it. -/
def OfKind (kind : OutputSignal) : ListNode → Prop
  | .signal (.output k _) => k = kind
  | .listener (.output k) => k = kind
  | _ => False

private theorem ofKind_signal (kind : OutputSignal) (i : Nat) :
    OfKind kind (.signal (.output kind i)) := rfl

private theorem ofKind_listener (kind : OutputSignal) :
    OfKind kind (.listener (.output kind)) := rfl

/-- The lists of one kind among the links of a compositor with these outputs: an output that
was not set up has an empty list; one that was still points to the listener, but only the
latest has it in its list. -/
structure KindAttached (m : Links ListNode) (kind : OutputSignal) (outputs : Nat)
    (attached : List Nat) : Prop where
  unborn : ∀ i, outputs ≤ i → m.next (.signal (.output kind i)) = none
  idle : ∀ i < outputs, i ∉ attached → m.Ring (.signal (.output kind i)) []
  pointing : ∀ i ∈ attached,
    m.next (.signal (.output kind i)) = some (.listener (.output kind))
  latest : ∀ i ∈ attached.head?, m.Ring (.signal (.output kind i)) [.listener (.output kind)]
  free : attached = [] → ∀ x, m.next (.listener (.output kind)) = some x →
    x = .listener (.output kind)

namespace KindAttached

variable {m m' : Links ListNode} {kind : OutputSignal} {outputs : Nat} {attached : List Nat}

/-- Only the nodes of the kind matter. -/
theorem congr (h : KindAttached m kind outputs attached)
    (hag : ∀ x, OfKind kind x → m.AgreeAt m' x) : KindAttached m' kind outputs attached where
  unborn i hi := (hag _ (ofKind_signal kind i)).1.trans (h.unborn i hi)
  idle i hi hn := (h.idle i hi hn).congr (by simpa using hag _ (ofKind_signal kind i))
  pointing i hi := (hag _ (ofKind_signal kind i)).1.trans (h.pointing i hi)
  latest i hi := by
    refine (h.latest i hi).congr fun x hx ↦ hag x ?_
    rcases List.mem_pair.mp hx with rfl | rfl <;> rfl
  free ha x hx := h.free ha x ((hag _ (ofKind_listener kind)).1.symm.trans hx)

private theorem closed (h : KindAttached m kind outputs attached) (x y : ListNode)
    (hx : OfKind kind x) (hy : m.next x = some y) : OfKind kind y := by
  cases x with
  | signal s =>
    cases s with
    | standing s => exact nomatch hx
    | output k i =>
      cases hx
      by_cases hi : i < outputs
      · by_cases ha : i ∈ attached
        · cases (h.pointing i ha).symm.trans hy
          rfl
        · cases (Links.Ring.nil_iff.mp (h.idle i hi ha)).1.symm.trans hy
          rfl
      · exact nomatch (h.unborn i (not_lt.mp hi)).symm.trans hy
  | listener l =>
    cases l with
    | standing s => exact nomatch hx
    | output k =>
      cases hx
      cases attached with
      | nil =>
        cases h.free rfl y hy
        rfl
      | cons i rest =>
        obtain ⟨-, -, hback⟩ := Links.Ring.singleton_iff.mp (h.latest i rfl)
        cases hback.1.symm.trans hy
        rfl

/-- A walk along a list of the kind meets nodes of the kind only. -/
theorem ofKind_of_visits (h : KindAttached m kind outputs attached) {i : Nat} {x : ListNode}
    (hv : m.Visits (.signal (.output kind i)) x) : OfKind kind x :=
  Links.mem_of_closed h.closed (ofKind_signal kind i) hv.2

/-- The walks that meet the listener are those of the outputs that were set up. -/
theorem visits_iff (h : KindAttached m kind outputs attached) (i : Nat) :
    m.Visits (.signal (.output kind i)) (.listener (.output kind)) ↔ i ∈ attached := by
  constructor
  · intro hv
    by_contra hn
    by_cases hi : i < outputs
    · exact List.not_mem_nil ((h.idle i hi hn).visits_iff.mp hv)
    · rcases Relation.ReflTransGen.cases_head hv.2 with he | ⟨x, hx, -⟩
      · exact hv.1 he.symm
      · exact nomatch (h.unborn i (not_lt.mp hi)).symm.trans hx
  · exact fun hi ↦ ⟨by simp, .single (h.pointing i hi)⟩

private theorem announce (h : KindAttached m kind outputs attached)
    (hb : ∀ i ∈ attached, i < outputs)
    (hag : ∀ x, OfKind kind x → x ≠ .signal (.output kind outputs) → m.AgreeAt m' x)
    (hnew : m'.Ring (.signal (.output kind outputs)) []) :
    KindAttached m' kind (outputs + 1) attached where
  unborn i hi := by
    have hne : i ≠ outputs := by omega
    exact (hag _ (ofKind_signal kind i) (by simpa using hne)).1.trans (h.unborn i (by omega))
  idle i hi hn := by
    by_cases hne : i = outputs
    · exact hne ▸ hnew
    · refine (h.idle i (by omega) hn).congr fun x hx ↦ ?_
      cases List.mem_singleton.mp hx
      exact hag _ (ofKind_signal kind i) (by simpa using hne)
  pointing i hi := by
    have hne : i ≠ outputs := (hb i hi).ne
    exact (hag _ (ofKind_signal kind i) (by simpa using hne)).1.trans (h.pointing i hi)
  latest i hi := by
    have hne : i ≠ outputs := (hb i (List.mem_of_head? hi)).ne
    refine (h.latest i hi).congr fun x hx ↦ ?_
    rcases List.mem_pair.mp hx with rfl | rfl
    · exact hag _ (ofKind_signal kind i) (by simpa using hne)
    · exact hag _ (ofKind_listener kind) (by simp)
  free ha x hx := h.free ha x ((hag _ (ofKind_listener kind) (by simp)).1.symm.trans hx)

private theorem attach (h : KindAttached m kind outputs attached) {i : Nat} (hi : i < outputs)
    (hn : i ∉ attached) :
    ∃ m', m.signalAdd (.signal (.output kind i)) (.listener (.output kind)) = some m' ∧
      KindAttached m' kind outputs (i :: attached) ∧ ∀ x, ¬ OfKind kind x → m.AgreeAt m' x := by
  obtain ⟨m', hm, hring, hag⟩ := (h.idle i hi hn).signalAdd
    (show .listener (.output kind) ∉ [ListNode.signal (.output kind i)] by simp)
  have hother : ∀ j, j ≠ i → m.AgreeAt m' (.signal (.output kind j)) :=
    fun j hj ↦ hag _ (by simp) (by simpa using hj)
  refine ⟨m', hm, ⟨?_, ?_, ?_, ?_, by simp⟩, ?_⟩
  · exact fun j hj ↦ (hother j (by omega)).1.trans (h.unborn j hj)
  · intro j hj hjn
    rw [List.mem_cons, not_or] at hjn
    refine (h.idle j hj hjn.2).congr fun x hx ↦ ?_
    cases List.mem_singleton.mp hx
    exact hother j hjn.1
  · intro j hj
    by_cases hji : j = i
    · rw [hji]
      exact (Links.Ring.singleton_iff.mp hring).2.1.1
    · exact (hother j hji).1.trans (h.pointing j ((List.mem_cons.mp hj).resolve_left hji))
  · intro j hj
    cases Option.some.inj hj
    exact hring
  · intro x hx
    refine hag x (fun he ↦ hx (he ▸ rfl)) fun hm ↦ hx ?_
    rw [List.mem_singleton.mp hm]
    rfl

end KindAttached

/-! ### The links in every run -/

/-- The links in a run: the standing listeners in their lists, the two others as
`KindAttached` says, and before the first attachment only `frame` initialised. -/
structure Attached (l : Listeners) : Prop where
  standing : ∀ s, l.links.Ring (.signal (.standing s)) [.listener (.standing s)]
  kinds : ∀ kind, KindAttached l.links kind l.outputs l.attached
  bound : ∀ i ∈ l.attached, i < l.outputs
  nodup : l.attached.Nodup
  first : l.attached = [] → l.links.Ring (.listener (.output .frame)) [] ∧
    l.links.prev (.listener (.output .present)) = none

private theorem not_ofKind_standing {s : StandingSignal} {kind : OutputSignal} {x : ListNode}
    (hx : x ∈ [.signal (.standing s), .listener (.standing s)]) : ¬ OfKind kind x := by
  rcases List.mem_pair.mp hx with rfl | rfl <;> exact id

/-- The nodes of one kind are not of the other. -/
theorem OfKind.unique {kind kind' : OutputSignal} {x : ListNode} (h : OfKind kind x)
    (h' : OfKind kind' x) : kind = kind' := by
  cases x with
  | signal s =>
    cases s with
    | standing s => exact absurd h id
    | output k i => exact h.symm.trans h'
  | listener l =>
    cases l with
    | standing s => exact absurd h id
    | output k => exact h.symm.trans h'

namespace Attached

variable {l : Listeners}

/-- An announcement keeps the links in order. -/
theorem announce (h : Attached l) : Attached l.announce := by
  have hag : ∀ x, x ≠ .signal (.output .frame l.outputs) →
      x ≠ .signal (.output .present l.outputs) → l.links.AgreeAt l.announce.links x :=
    fun x hf hp ↦ (l.links.agreeAt_init hf).trans (Links.agreeAt_init _ hp)
  refine ⟨fun s ↦ ?_, fun kind ↦ ?_, fun i hi ↦ (h.bound i hi).trans (Nat.lt_succ_self _), h.nodup,
    fun ha ↦ ?_⟩
  · refine (h.standing s).congr fun x hx ↦ hag x ?_ ?_
    · exact fun he ↦ not_ofKind_standing hx (he ▸ ofKind_signal .frame _)
    · exact fun he ↦ not_ofKind_standing hx (he ▸ ofKind_signal .present _)
  · refine (h.kinds kind).announce h.bound (fun x hk hx ↦ hag x ?_ ?_) ?_
    · rintro rfl
      cases hk
      exact hx rfl
    · rintro rfl
      cases hk
      exact hx rfl
    · cases kind with
      | frame =>
        refine (Links.Ring.init l.links _).congr fun x hx ↦ Links.agreeAt_init _ ?_
        simp [List.mem_singleton.mp hx]
      | present => exact Links.Ring.init _ _
  · obtain ⟨hframe, hpresent⟩ := h.first ha
    refine ⟨hframe.congr fun x hx ↦ ?_, (hag _ (by simp) (by simp)).2.trans hpresent⟩
    cases List.mem_singleton.mp hx
    exact hag _ (by simp) (by simp)

/-- An attachment is possible and keeps the links in order. -/
theorem attach (h : Attached l) {i : Nat} (hi : i < l.outputs) (hn : i ∉ l.attached) :
    ∃ m m', l.links.signalAdd (.signal (.output .frame i)) (.listener (.output .frame)) = some m ∧
      (∀ s, m.Ring (.signal (.standing s)) [.listener (.standing s)]) ∧
      KindAttached m .frame l.outputs (i :: l.attached) ∧
      KindAttached m .present l.outputs l.attached ∧
      l.attach i = some ⟨m', l.outputs, i :: l.attached⟩ ∧
      Attached ⟨m', l.outputs, i :: l.attached⟩ := by
  obtain ⟨m, hm, hframe, hag⟩ := (h.kinds .frame).attach hi hn
  have hp : KindAttached m .present l.outputs l.attached :=
    (h.kinds .present).congr fun x hx ↦ hag x fun hf ↦ nomatch hx.unique hf
  have hs : ∀ s, m.Ring (.signal (.standing s)) [.listener (.standing s)] :=
    fun s ↦ (h.standing s).congr fun x hx ↦ hag x (not_ofKind_standing hx)
  obtain ⟨m', hm', hpresent, hag'⟩ := hp.attach hi hn
  refine ⟨m, m', hm, hs, hframe, hp, ?_, fun s ↦ ?_, fun kind ↦ ?_, ?_, ?_, fun ha ↦ nomatch ha⟩
  · rw [Listeners.attach, hm, Option.bind_some, hm']
    rfl
  · exact (hs s).congr fun x hx ↦ hag' x (not_ofKind_standing hx)
  · cases kind with
    | frame => exact hframe.congr fun x hx ↦ hag' x fun hf ↦ nomatch hx.unique hf
    | present => exact hpresent
  · intro j hj
    rcases List.mem_cons.mp hj with rfl | hj
    · exact hi
    · exact h.bound j hj
  · exact List.nodup_cons.mpr ⟨hn, h.nodup⟩

/-- An output that has just been announced was not set up. -/
theorem outputs_not_mem (h : Attached l) : l.outputs ∉ l.attached :=
  fun hm ↦ (h.bound _ hm).false

/-- A new output keeps the links in order, and counts when it is set up to the end. -/
theorem handleNewOutputLinks (h : Attached l) (backend : Backend) (calls : OutputCalls) :
    ∃ l', PlayosCompositor.handleNewOutputLinks l backend calls = some l' ∧ Attached l' ∧
      l'.attached.length =
        l.attached.length + [Event.newOutput calls].countP (·.completesOutput backend) := by
  rw [handleNewOutputLinks_eq]
  split
  · next hc =>
    obtain ⟨m, m', -, -, -, -, ha, h'⟩ := h.announce.attach (Nat.lt_succ_self _) h.outputs_not_mem
    exact ⟨_, ha, h', by simp [hc, Listeners.announce]⟩
  · next hc => exact ⟨_, rfl, h.announce, by simp [hc, Listeners.announce]⟩

end Attached

/-- A standing list that no earlier addition has touched takes its listener. -/
private theorem standing_signalAdd {m : Links ListNode} {s : StandingSignal}
    (h : m.Ring (.signal (.standing s)) []) :
    ∃ m', m.signalAdd (.signal (.standing s)) (.listener (.standing s)) = some m' ∧
      m'.Ring (.signal (.standing s)) [.listener (.standing s)] ∧
      ∀ x, x ∉ [ListNode.signal (.standing s), .listener (.standing s)] → m.AgreeAt m' x := by
  obtain ⟨m', hm, hring, hag⟩ := h.signalAdd
    (show .listener (.standing s) ∉ [ListNode.signal (.standing s)] by simp)
  refine ⟨m', hm, hring, fun x hx ↦ ?_⟩
  simp only [List.mem_cons, List.not_mem_nil, or_false, not_or] at hx
  exact hag x hx.2 (by simpa using hx.1)

/-- The start puts the standing listeners into their lists. -/
theorem attached_start : ∃ m, playosCompositorStartLinks = some m ∧ Attached ⟨m, 0, []⟩ := by
  have hempty : ∀ s, (((playosCompositorInitLinks.init (.signal (.standing .newOutput))).init
      (.signal (.standing .newToplevel))).init (.signal (.standing .newInput))).Ring
        (.signal (.standing s)) [] := by
    intro s
    rw [Links.Ring.nil_iff]
    cases s <;> simp [Links.init, Links.setNext, Links.setPrev]
  have hrest : ∀ x, (∀ s, x ≠ .signal (.standing s)) → playosCompositorInitLinks.AgreeAt
      (((playosCompositorInitLinks.init (.signal (.standing .newOutput))).init
        (.signal (.standing .newToplevel))).init (.signal (.standing .newInput))) x :=
    fun x hx ↦ ((Links.agreeAt_init _ (hx _)).trans (Links.agreeAt_init _ (hx _))).trans
      (Links.agreeAt_init _ (hx _))
  obtain ⟨m₁, h₁, hring₁, hag₁⟩ := standing_signalAdd (hempty .newOutput)
  obtain ⟨m₂, h₂, hring₂, hag₂⟩ := standing_signalAdd (s := .newToplevel)
    ((hempty _).congr fun x hx ↦ hag₁ x (by cases List.mem_singleton.mp hx; simp))
  obtain ⟨m₃, h₃, hring₃, hag₃⟩ := standing_signalAdd (s := .newInput)
    ((hempty _).congr fun x hx ↦ (hag₁ x (by cases List.mem_singleton.mp hx; simp)).trans
      (hag₂ x (by cases List.mem_singleton.mp hx; simp)))
  refine ⟨m₃, ?_, ?_⟩
  · rw [playosCompositorStartLinks, h₁, Option.bind_some, h₂, Option.bind_some, h₃]
  · have hag : ∀ x, (∀ s, x ≠ .signal (.standing s) ∧ x ≠ .listener (.standing s)) →
        playosCompositorInitLinks.AgreeAt m₃ x := by
      intro x hx
      have hne : ∀ s, x ∉ [ListNode.signal (.standing s), .listener (.standing s)] := by
        intro s hm
        rcases List.mem_pair.mp hm with he | he
        · exact (hx s).1 he
        · exact (hx s).2 he
      exact (hrest x fun s ↦ (hx s).1).trans
        ((hag₁ x (hne _)).trans ((hag₂ x (hne _)).trans (hag₃ x (hne _))))
    have hframe : m₃.Ring (.listener (.output .frame)) [] := by
      rw [Links.Ring.nil_iff, (hag _ (by simp)).1, (hag _ (by simp)).2]
      simp [playosCompositorInitLinks, Links.init, Links.setNext, Links.setPrev]
    have hpresent : m₃.next (.listener (.output .present)) = none ∧
        m₃.prev (.listener (.output .present)) = none := by
      rw [(hag _ (by simp)).1, (hag _ (by simp)).2]
      simp [playosCompositorInitLinks, Links.init, Links.setNext, Links.setPrev, Links.zeroed]
    refine ⟨fun s ↦ ?_, fun kind ↦ ⟨fun i _ ↦ ?_, by simp, by simp, by simp, fun _ x hx ↦ ?_⟩,
      by simp, List.nodup_nil, fun _ ↦ ⟨hframe, hpresent.2⟩⟩
    · cases s with
      | newOutput =>
        refine hring₁.congr fun x hx ↦ (hag₂ x ?_).trans (hag₃ x ?_) <;>
          rcases List.mem_pair.mp hx with rfl | rfl <;> simp
      | newToplevel =>
        refine hring₂.congr fun x hx ↦ hag₃ x ?_
        rcases List.mem_pair.mp hx with rfl | rfl <;> simp
      | newInput => exact hring₃
    · rw [(hag _ (by simp)).1]
      simp [playosCompositorInitLinks, Links.init, Links.setNext, Links.setPrev, Links.zeroed]
    · cases kind with
      | frame => exact Option.some.inj (hx.symm.trans (Links.Ring.nil_iff.mp hframe).1)
      | present => cases hpresent.1.symm.trans hx

/-- A step keeps the links in order, and attaches an output when it sets one up to the end. -/
theorem attached_step {c c' : Compositor} {l : Listeners} {h' : Option Listeners} {e : Event}
    (h : Attached l) (hs : listenerSystem.step (c, some l) e = some (c', h')) :
    ∃ l', h' = some l' ∧ Attached l' ∧
      l'.attached.length = l.attached.length + [e].countP (·.completesOutput c.backendType) := by
  obtain ⟨-, hn⟩ := compositorSystem.withHistory_step_some.mp hs
  cases e with
  | newOutput calls =>
    obtain ⟨l', hl, ha, hc⟩ := h.handleNewOutputLinks c.backendType calls
    exact ⟨l', hn.trans hl, ha, hc⟩
  | _ => exact ⟨l, hn, h, rfl⟩

/-- A run keeps the links in order, and attaches every output that it sets up to the end. -/
theorem attached_run {p q : Compositor × Option Listeners} {l : Listeners} {es : List Event}
    (hl : p.2 = some l) (h : Attached l) (hr : listenerSystem.run p es = some q) :
    ∃ l', q.2 = some l' ∧ Attached l' ∧ l'.attached.length =
      l.attached.length + es.countP (·.completesOutput p.1.backendType) := by
  induction es generalizing p l with
  | nil =>
    cases Option.some.inj hr
    exact ⟨l, hl, h, rfl⟩
  | cons e es ih =>
    obtain ⟨p₁, hs, hrest⟩ := listenerSystem.run_cons_some.mp hr
    rcases p with ⟨c, links⟩
    obtain rfl : links = some l := hl
    have hb : p₁.1.backendType = c.backendType := congrArg Settings.backendType
      (settings_step (compositorSystem.withHistory_step_some.mp hs).1)
    obtain ⟨l₁, hl₁, h₁, hc₁⟩ := attached_step h hs
    obtain ⟨l', hl', h', hc'⟩ := ih hl₁ h₁ hrest
    refine ⟨l', hl', h', ?_⟩
    rw [hc', hc₁, hb, Nat.add_assoc, ← List.countP_append, List.singleton_append]

/-- The compositor and its links when the start has succeeded. -/
def startedListening (config : StartConfig) : Compositor × Option Listeners :=
  (playosCompositorStarted config, playosCompositorStartLinks.map fun m ↦ ⟨m, 0, []⟩)

/-- The links of every run from the start are in order, with an attachment for each event that
set an output up to the end. -/
theorem attached_started {config : StartConfig} {es : List Event}
    {q : Compositor × Option Listeners}
    (hr : listenerSystem.run (startedListening config) es = some q) :
    ∃ l, q.2 = some l ∧ Attached l ∧
      l.attached.length = es.countP (·.completesOutput config.backendType) := by
  obtain ⟨m, hm, h⟩ := attached_start
  have hl : (startedListening config).2 = some ⟨m, 0, []⟩ := by
    rw [startedListening, hm, Option.map_some]
  obtain ⟨l, hl, ha, hc⟩ := attached_run hl h hr
  exact ⟨l, hl, ha, hc.trans (Nat.zero_add _)⟩

end PlayosCompositor
