import Mathlib.Data.List.Basic
import Mathlib.Data.Option.Basic

/-!
# Partial transition systems and guarded runs

A deterministic system whose events are not always possible. `Always` and `Each` read a
state property and a step property along one run; `always_iff_each` turns an exact step
guard into an exact description of the runs that keep a property. Histories are an added
component of the state that no step reads.
-/

namespace Transition

universe u v w

/-- Deterministic system; `step s e = none` when the event `e` cannot occur in `s`. -/
structure System (σ : Type u) (ε : Type v) where
  initial : σ → Prop
  step : σ → ε → Option σ

namespace System

variable {σ : Type u} {ε : Type v} (m : System σ ε)

/-- The state after a list of events, or `none` when one of them cannot occur. -/
def run : σ → List ε → Option σ
  | s, [] => some s
  | s, e :: es => (m.step s e).bind fun t ↦ run t es

/-- Some run from an initial state ends in `s`. -/
def Reachable (s : σ) : Prop := ∃ s₀ es, m.initial s₀ ∧ m.run s₀ es = some s

/-- `P` holds initially and no possible event leaves it. -/
structure Invariant (P : σ → Prop) : Prop where
  base : ∀ s, m.initial s → P s
  step : ∀ s e t, P s → m.step s e = some t → P t

/-- `P` holds in every state that the run visits, the first one included. -/
def Always (P : σ → Prop) : σ → List ε → Prop
  | s, [] => P s
  | s, e :: es => P s ∧ ∀ t, m.step s e = some t → Always P t es

/-- `R` relates the states around every step that the run takes. -/
def Each (R : σ → ε → σ → Prop) : σ → List ε → Prop
  | _, [] => True
  | s, e :: es => ∀ t, m.step s e = some t → R s e t ∧ Each R t es

/-- The empty run stays where it is. -/
@[simp] theorem run_nil (s : σ) : m.run s [] = some s := rfl

/-- A nonempty run takes its first step and continues. -/
theorem run_cons (s : σ) (e : ε) (es : List ε) :
    m.run s (e :: es) = (m.step s e).bind fun t ↦ m.run t es := rfl

/-- A nonempty run that succeeds exposes its first step. -/
theorem run_cons_some {s t : σ} {e : ε} {es : List ε} :
    m.run s (e :: es) = some t ↔ ∃ s₁, m.step s e = some s₁ ∧ m.run s₁ es = some t := by
  rw [run_cons, Option.bind_eq_some_iff]

/-- A run of one event is a step. -/
@[simp] theorem run_singleton (s : σ) (e : ε) : m.run s [e] = m.step s e := by
  rw [run_cons]
  exact Option.bind_fun_some _

/-- Runs compose. -/
theorem run_append (s : σ) (es fs : List ε) :
    m.run s (es ++ fs) = (m.run s es).bind fun t ↦ m.run t fs := by
  induction es generalizing s with
  | nil => rfl
  | cons e es ih =>
    rw [List.cons_append, run_cons, run_cons]
    cases m.step s e with
    | none => rfl
    | some s₁ => exact ih s₁

variable {m} in
/-- What is reachable goes on. -/
theorem reachable_step {s t : σ} {e : ε} (h : m.Reachable s) (hs : m.step s e = some t) :
    m.Reachable t := by
  obtain ⟨s₀, es, h₀, hr⟩ := h
  exact ⟨s₀, es ++ [e], h₀, by rw [run_append, hr, Option.bind_some, run_singleton, hs]⟩

namespace Invariant

variable {m} {P : σ → Prop}

/-- An invariant survives every run. -/
theorem run (hP : m.Invariant P) {s t : σ} {es : List ε} (hs : P s) (hr : m.run s es = some t) :
    P t := by
  induction es generalizing s with
  | nil => exact Option.some.inj hr ▸ hs
  | cons e es ih =>
    obtain ⟨s₁, h₁, ht⟩ := m.run_cons_some.mp hr
    exact ih (hP.step s e s₁ hs h₁) ht

/-- An invariant holds in every reachable state. -/
theorem reachable (hP : m.Invariant P) {s : σ} (h : m.Reachable s) : P s := by
  obtain ⟨s₀, es, h₀, hr⟩ := h
  exact hP.run (hP.base s₀ h₀) hr

end Invariant

variable {m} in
/-- What always holds holds at the beginning. -/
theorem Always.head {P : σ → Prop} {s : σ} {es : List ε} (h : m.Always P s es) : P s := by
  cases es with
  | nil => exact h
  | cons e es => exact h.1

variable {m} in
/-- What always holds holds along the run's beginning. -/
theorem Always.of_append {P : σ → Prop} {s : σ} {es fs : List ε} (h : m.Always P s (es ++ fs)) :
    m.Always P s es := by
  induction es generalizing s with
  | nil => exact h.head
  | cons e es ih => exact ⟨h.1, fun t ht ↦ ih (h.2 t ht)⟩

/-- `Always` speaks of the end states of the run's prefixes. -/
theorem always_iff_run (P : σ → Prop) (s : σ) (es : List ε) :
    m.Always P s es ↔ ∀ pre t, pre <+: es → m.run s pre = some t → P t := by
  induction es generalizing s with
  | nil =>
    simp only [Always, List.prefix_nil]
    constructor
    · rintro h pre t rfl hr
      exact Option.some.inj hr ▸ h
    · intro h
      exact h [] s rfl rfl
  | cons e es ih =>
    simp only [Always, ih]
    constructor
    · rintro ⟨hs, hrest⟩ pre t hpre hr
      cases pre with
      | nil => exact Option.some.inj hr ▸ hs
      | cons a pre =>
        obtain ⟨rfl, htail⟩ := List.cons_prefix_cons.mp hpre
        obtain ⟨s₁, h₁, ht⟩ := m.run_cons_some.mp hr
        exact hrest s₁ h₁ pre t htail ht
    · intro h
      refine ⟨h [] s List.nil_prefix rfl, ?_⟩
      intro s₁ h₁ pre t hpre hr
      exact h (e :: pre) t (List.cons_prefix_cons.mpr ⟨rfl, hpre⟩)
        (m.run_cons_some.mpr ⟨s₁, h₁, hr⟩)

/-- `Each` speaks of the last steps of the run's nonempty prefixes. -/
theorem each_iff_run (R : σ → ε → σ → Prop) (s : σ) (es : List ε) :
    m.Each R s es ↔ ∀ pre e t u, pre ++ [e] <+: es → m.run s pre = some t →
      m.step t e = some u → R t e u := by
  induction es generalizing s with
  | nil => simp [Each]
  | cons a es ih =>
    simp only [Each, ih]
    constructor
    · intro h pre e t u hpre hr hstep
      cases pre with
      | nil =>
        obtain ⟨rfl, -⟩ := List.cons_prefix_cons.mp hpre
        cases Option.some.inj hr
        exact (h u hstep).1
      | cons b pre =>
        obtain ⟨rfl, htail⟩ := List.cons_prefix_cons.mp hpre
        obtain ⟨s₁, h₁, ht⟩ := m.run_cons_some.mp hr
        exact (h s₁ h₁).2 pre e t u htail ht hstep
    · intro h s₁ h₁
      refine ⟨h [] a s s₁ (by simp) rfl h₁, ?_⟩
      intro pre e t u hpre hr hstep
      exact h (a :: pre) e t u (List.cons_prefix_cons.mpr ⟨rfl, hpre⟩)
        (m.run_cons_some.mpr ⟨s₁, h₁, hr⟩) hstep

/-- A weaker step property holds along the same runs. -/
theorem Each.mono {R G : σ → ε → σ → Prop} {s : σ} {es : List ε} (h : m.Each R s es)
    (hG : ∀ s e t, R s e t → G s e t) : m.Each G s es := by
  induction es generalizing s with
  | nil => trivial
  | cons e es ih => exact fun t ht ↦ ⟨hG s e t (h t ht).1, ih (h t ht).2⟩

/-- Two state properties that agree under an invariant agree along every run. -/
theorem always_congr {I P Q : σ → Prop} (hI : m.Invariant I) (h : ∀ s, I s → (P s ↔ Q s)) {s : σ}
    (hs : I s) (es : List ε) : m.Always P s es ↔ m.Always Q s es := by
  rw [always_iff_run, always_iff_run]
  constructor
  · exact fun hP pre t hpre hr ↦ (h t (hI.run hs hr)).mp (hP pre t hpre hr)
  · exact fun hQ pre t hpre hr ↦ (h t (hI.run hs hr)).mpr (hQ pre t hpre hr)

/-- Exactness rule: where a step keeps `P` if and only if it meets `G`, a run keeps `P`
if and only if all its steps meet `G`. The invariant `I` may be assumed throughout. -/
theorem always_iff_each {I P : σ → Prop} {G : σ → ε → σ → Prop} (hI : m.Invariant I)
    (hG : ∀ s e t, I s → P s → m.step s e = some t → (P t ↔ G s e t)) {s : σ} (hs : I s)
    (hP : P s) (es : List ε) : m.Always P s es ↔ m.Each G s es := by
  induction es generalizing s with
  | nil => exact ⟨fun _ ↦ trivial, fun _ ↦ hP⟩
  | cons e es ih =>
    constructor
    · rintro ⟨-, hrest⟩ t ht
      have hPt : P t := (hrest t ht).head
      exact ⟨(hG s e t hs hP ht).mp hPt, (ih (hI.step s e t hs ht) hPt).mp (hrest t ht)⟩
    · intro h
      refine ⟨hP, ?_⟩
      intro t ht
      have hPt : P t := (hG s e t hs hP ht).mpr (h t ht).1
      exact (ih (hI.step s e t hs ht) hPt).mpr (h t ht).2

/-- Two step properties that agree under an invariant agree along every run. -/
theorem each_congr {I : σ → Prop} {R G : σ → ε → σ → Prop} (hI : m.Invariant I)
    (hG : ∀ s e t, I s → m.step s e = some t → (R s e t ↔ G s e t)) {s : σ} (hs : I s)
    (es : List ε) : m.Each R s es ↔ m.Each G s es := by
  rw [each_iff_run, each_iff_run]
  constructor
  · exact fun hR pre e t u hpre hr ht ↦ (hG t e u (hI.run hs hr) ht).mp (hR pre e t u hpre hr ht)
  · exact fun hR pre e t u hpre hr ht ↦ (hG t e u (hI.run hs hr) ht).mpr (hR pre e t u hpre hr ht)

/-- A decidable property can be followed along a given run. -/
instance Always.decidable (P : σ → Prop) [DecidablePred P] :
    ∀ (s : σ) (es : List ε), Decidable (m.Always P s es)
  | s, [] => inferInstanceAs (Decidable (P s))
  | s, e :: es =>
    have (t : σ) : Decidable (m.Always P t es) := Always.decidable P t es
    inferInstanceAs (Decidable (P s ∧ ∀ t ∈ m.step s e, m.Always P t es))

section History

variable {η : Type w}

/-- Add a history component, updated by `note` from the state before each step. -/
def withHistory (h₀ : η) (note : η → σ → ε → η) : System (σ × η) ε where
  initial p := m.initial p.1 ∧ p.2 = h₀
  step p e := (m.step p.1 e).map fun t ↦ (t, note p.2 p.1 e)

/-- A step with history is a step of the system and a note. -/
theorem withHistory_step_some {h₀ : η} {note : η → σ → ε → η} {p q : σ × η} {e : ε} :
    (m.withHistory h₀ note).step p e = some q ↔
      m.step p.1 e = some q.1 ∧ q.2 = note p.2 p.1 e := by
  rcases q with ⟨t, h⟩
  simp only [withHistory, Option.map_eq_some_iff, Prod.mk.injEq]
  constructor
  · rintro ⟨u, hu, rfl, rfl⟩
    exact ⟨hu, rfl⟩
  · rintro ⟨hu, rfl⟩
    exact ⟨t, hu, rfl, rfl⟩

/-- The history never influences the run that it records. -/
theorem withHistory_run_fst {h₀ : η} {note : η → σ → ε → η} (p : σ × η) (es : List ε) :
    ((m.withHistory h₀ note).run p es).map Prod.fst = m.run p.1 es := by
  induction es generalizing p with
  | nil => rfl
  | cons e es ih =>
    rw [run_cons, run_cons]
    simp only [withHistory]
    cases hs : m.step p.1 e with
    | none => rfl
    | some t => exact ih (t, note p.2 p.1 e)

end History

section Edit

variable {τ : Type u} {δ : Type v}

/-- The events of a run, each replaced by what `edit` makes of it where it occurs. -/
def edited (edit : σ → ε → List δ) : σ → List ε → List δ
  | _, [] => []
  | s, e :: es => edit s e ++ (m.step s e).elim [] fun t ↦ edited edit t es

/-- Editing goes along the run: the edited prefix of a run is a prefix of the edited run. -/
theorem edited_append (edit : σ → ε → List δ) {s t : σ} {es : List ε} (hr : m.run s es = some t)
    (fs : List ε) : m.edited edit s (es ++ fs) = m.edited edit s es ++ m.edited edit t fs := by
  induction es generalizing s with
  | nil => rw [Option.some.inj hr, List.nil_append, edited, List.nil_append]
  | cons e es ih =>
    obtain ⟨s₁, h₁, ht⟩ := m.run_cons_some.mp hr
    simp only [List.cons_append, edited, h₁, Option.elim_some, ih ht, List.append_assoc]

/-- Edited runs: where `R` survives every step against its edited events, the edited run is
possible and ends in a state related by `R`. The invariant `I` and a property `Q` that holds
throughout may be assumed. -/
theorem run_edited {n : System τ δ} {edit : σ → ε → List δ} {I Q : σ → Prop} {R : σ → τ → Prop}
    (hI : m.Invariant I)
    (hstep : ∀ s e s₁ t, I s → Q s → Q s₁ → R s t → m.step s e = some s₁ →
      ∃ t₁, n.run t (edit s e) = some t₁ ∧ R s₁ t₁)
    {s s' : σ} {t : τ} (hs : I s) (hR : R s t) {es : List ε} (hQ : m.Always Q s es)
    (hr : m.run s es = some s') :
    ∃ t', n.run t (m.edited edit s es) = some t' ∧ R s' t' := by
  induction es generalizing s t with
  | nil =>
    cases Option.some.inj hr
    exact ⟨t, rfl, hR⟩
  | cons e es ih =>
    obtain ⟨s₁, h₁, hs'⟩ := m.run_cons_some.mp hr
    have hQ₁ := hQ.2 s₁ h₁
    obtain ⟨t₁, ht₁, hR₁⟩ := hstep s e s₁ t hs hQ.1 hQ₁.head hR h₁
    obtain ⟨t', ht', hR'⟩ := ih (hI.step s e s₁ hs h₁) hR₁ hQ₁ hs'
    refine ⟨t', ?_, hR'⟩
    rw [edited, h₁, run_append, ht₁]
    exact ht'

/-- Filtered runs: where `R` survives a dropped event, on one side, that meets the guard `G`, and
any other event on both sides, the filtered run is possible and ends in a state related by `R`. -/
theorem run_filter {n : System τ ε} {drop : ε → Bool} {I : σ → Prop} {J : τ → Prop}
    {R : σ → τ → Prop} {G : σ → ε → σ → Prop} (hI : m.Invariant I) (hJ : n.Invariant J)
    (hdrop : ∀ s e s₁ t, I s → R s t → drop e = true → m.step s e = some s₁ → G s e s₁ → R s₁ t)
    (hkeep : ∀ s e s₁ t, I s → J t → R s t → drop e = false → m.step s e = some s₁ →
      ∃ t₁, n.step t e = some t₁ ∧ R s₁ t₁)
    {s s' : σ} {t : τ} (hs : I s) (ht : J t) (hR : R s t) {es : List ε} (hG : m.Each G s es)
    (hr : m.run s es = some s') :
    ∃ t', n.run t (es.filter fun e ↦ !drop e) = some t' ∧ R s' t' := by
  induction es generalizing s t with
  | nil =>
    cases Option.some.inj hr
    exact ⟨t, rfl, hR⟩
  | cons e es ih =>
    obtain ⟨s₁, h₁, hs'⟩ := m.run_cons_some.mp hr
    obtain ⟨hg, hG₁⟩ := hG s₁ h₁
    have hs₁ := hI.step s e s₁ hs h₁
    cases hd : drop e with
    | true =>
      rw [List.filter_cons_of_neg (by simp [hd])]
      exact ih hs₁ ht (hdrop s e s₁ t hs hR hd h₁ hg) hG₁ hs'
    | false =>
      obtain ⟨t₁, ht₁, hR₁⟩ := hkeep s e s₁ t hs ht hR hd h₁
      obtain ⟨t', ht', hR'⟩ := ih hs₁ (hJ.step t e t₁ ht ht₁) hR₁ hG₁ hs'
      rw [List.filter_cons_of_pos (by simp [hd])]
      exact ⟨t', n.run_cons_some.mpr ⟨t₁, ht₁, ht'⟩, hR'⟩

end Edit

section Simulation

variable {τ : Type u} {δ : Type v}

/-- Functional refinement under an invariant: `view` and `label` map every step of `m` to a
step of the abstract system `a`. -/
structure Refines (m : System σ ε) (a : System τ δ) (I : σ → Prop) (view : σ → τ)
    (label : σ → ε → δ) : Prop where
  invariant : m.Invariant I
  initial : ∀ s, m.initial s → a.initial (view s)
  step : ∀ s e t, I s → m.step s e = some t → a.step (view s) (label s e) = some (view t)

namespace Refines

variable {m : System σ ε} {a : System τ δ} {I : σ → Prop} {view : σ → τ} {label : σ → ε → δ}

/-- An invariant of the abstract system holds of every view. -/
theorem transfer (h : m.Refines a I view label) {P : τ → Prop} (hP : a.Invariant P) :
    m.Invariant fun s ↦ I s ∧ P (view s) where
  base s hs := ⟨h.invariant.base s hs, hP.base _ (h.initial s hs)⟩
  step s e t hs ht :=
    ⟨h.invariant.step s e t hs.1 ht, hP.step _ _ _ hs.2 (h.step s e t hs.1 ht)⟩

/-- Exactness transfers: a guard that is exact for the abstract steps is exact for the runs
that they match. -/
theorem always_iff_each (h : m.Refines a I view label) {J P : τ → Prop} {G : τ → δ → Prop}
    (hJ : a.Invariant J)
    (hG : ∀ f i g, J f → P f → a.step f i = some g → (P g ↔ G f i)) {s : σ} (hs : m.initial s)
    (hP : P (view s)) (es : List ε) :
    m.Always (fun s ↦ P (view s)) s es ↔ m.Each (fun s e _ ↦ G (view s) (label s e)) s es := by
  have hI := h.transfer hJ
  refine System.always_iff_each m hI ?_ (hI.base s hs) hP es
  intro s e t hi hp hstep
  exact hG _ _ _ hi.2 hp (h.step s e t hi.1 hstep)

/-- Every run is matched by an abstract run that ends in the view of its last state. -/
theorem run (h : m.Refines a I view label) {s t : σ} (hs : I s) {es : List ε}
    (hr : m.run s es = some t) : ∃ inputs, a.run (view s) inputs = some (view t) := by
  induction es generalizing s with
  | nil => exact ⟨[], by rw [← Option.some.inj hr]; rfl⟩
  | cons e es ih =>
    obtain ⟨s₁, h₁, ht⟩ := m.run_cons_some.mp hr
    obtain ⟨inputs, hi⟩ := ih (h.invariant.step s e s₁ hs h₁) ht
    refine ⟨label s e :: inputs, ?_⟩
    rw [run_cons, h.step s e s₁ hs h₁]
    exact hi

/-- The view of a reachable state is reachable. -/
theorem reachable (h : m.Refines a I view label) {s : σ} (hs : m.Reachable s) :
    a.Reachable (view s) := by
  obtain ⟨s₀, es, h₀, hr⟩ := hs
  obtain ⟨inputs, hi⟩ := h.run (h.invariant.base s₀ h₀) hr
  exact ⟨view s₀, inputs, h.initial s₀ h₀, hi⟩

end Refines

end Simulation

end System
end Transition
