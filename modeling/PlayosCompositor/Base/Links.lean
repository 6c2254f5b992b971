import Mathlib.Data.List.Chain
import Mathlib.Data.List.Nodup
import Mathlib.Logic.Function.Basic

/-!
# Intrusive doubly linked lists

Links as a memory of two pointers for each node, `none` for NULL, with the operations that
list heads and members share: `init`, `insert`, `remove` and the insertion at a signal's tail.
An operation is `none` where it would follow a NULL pointer. Nothing keeps a node from being
inserted twice; a `Ring` is what a list looks like when nobody does.
-/

universe u

/-- The two pointers of every node. -/
structure Links (α : Type u) where
  next : α → Option α
  prev : α → Option α

namespace Links

variable {α : Type u}

/-- Zeroed memory. -/
def zeroed : Links α := ⟨fun _ ↦ none, fun _ ↦ none⟩

section Operations

variable [DecidableEq α] (m : Links α)

/-- Store a `next` pointer. -/
def setNext (x : α) (y : Option α) : Links α := { m with next := Function.update m.next x y }

/-- Store a `prev` pointer. -/
def setPrev (x : α) (y : Option α) : Links α := { m with prev := Function.update m.prev x y }

/-- `wl_list_init`: the node is a list of its own. -/
def init (x : α) : Links α := (m.setPrev x (some x)).setNext x (some x)

/-- `wl_list_insert`: the element goes behind a node, whatever it was linked to before. -/
def insert (x elm : α) : Option (Links α) :=
  let m := m.setPrev elm (some x)
  let m := m.setNext elm (m.next x)
  let m := m.setNext x (some elm)
  (m.next elm).map fun y ↦ m.setPrev y (some elm)

/-- `wl_list_remove`: the neighbours are joined and the element's pointers cleared. -/
def remove (elm : α) : Option (Links α) :=
  (m.prev elm).bind fun x ↦
    let m := m.setNext x (m.next elm)
    (m.next elm).map fun y ↦
      let m := m.setPrev y (m.prev elm)
      (m.setNext elm none).setPrev elm none

/-- `wl_list_empty`. -/
def isEmpty (head : α) : Bool := m.next head = some head

/-- `wl_signal_add`: the listener goes to the tail of the signal's list. -/
def signalAdd (head elm : α) : Option (Links α) := (m.prev head).bind fun x ↦ m.insert x elm

end Operations

/-! ### Well-formed lists -/

variable (m m' : Links α)

/-- Two nodes follow each other. -/
def Joined (x y : α) : Prop := m.next x = some y ∧ m.prev y = some x

/-- A circular list: from the head through its members and back, in both directions. -/
structure Ring (head : α) (members : List α) : Prop where
  nodup : (head :: members).Nodup
  chain : (head :: (members ++ [head])).IsChain m.Joined

/-- Walking from the head returns to it. -/
def Circular (head : α) : Prop := Relation.TransGen (fun x y ↦ m.next x = some y) head head

/-- Walking from the head meets the node, whether or not the walk returns. -/
def Visits (head x : α) : Prop :=
  x ≠ head ∧ Relation.ReflTransGen (fun x y ↦ m.next x = some y) head x

/-- The two memories have the same pointers in a node. -/
def AgreeAt (x : α) : Prop := m'.next x = m.next x ∧ m'.prev x = m.prev x

variable {m m'} {head elm x : α} {members : List α}

/-- A walk never leaves a closed set of nodes. -/
theorem mem_of_closed {s : α → Prop} (hs : ∀ x y, s x → m.next x = some y → s y) {y : α}
    (hx : s x) (h : Relation.ReflTransGen (fun x y ↦ m.next x = some y) x y) : s y := by
  induction h with
  | refl => exact hx
  | tail _ hnext ih => exact hs _ _ ih hnext

/-- A head that leads into a closed set outside of itself is not circular. -/
theorem not_circular_of_closed {s : α → Prop} (hs : ∀ x y, s x → m.next x = some y → s y)
    (hx : m.next head = some x) (hsx : s x) (hh : ¬ s head) : ¬ m.Circular head := by
  intro hc
  obtain ⟨y, hy, hrest⟩ := Relation.TransGen.head'_iff.mp hc
  cases hx.symm.trans hy
  exact hh (mem_of_closed hs hsx hrest)

/-- A chain depends on the `next` pointers of all but its last node and on the `prev`
pointers of all but its first. -/
theorem joined_congr {l : List α} (h : l.IsChain m.Joined)
    (hnext : ∀ x ∈ l.dropLast, m'.next x = m.next x) (hprev : ∀ y ∈ l.tail, m'.prev y = m.prev y) :
    l.IsChain m'.Joined := by
  induction h with
  | nil => exact .nil
  | singleton x => exact .singleton x
  | cons_cons hxy _ ih =>
    rw [List.dropLast_cons_cons, List.forall_mem_cons] at hnext
    rw [List.tail_cons, List.forall_mem_cons] at hprev
    exact .cons_cons ⟨hnext.1.trans hxy.1, hprev.1.trans hxy.2⟩ (ih hnext.2 hprev.2)

namespace Ring

/-- A ring depends on the pointers of its nodes only. -/
theorem congr (h : m.Ring head members) (hag : ∀ x ∈ head :: members, m.AgreeAt m' x) :
    m'.Ring head members where
  nodup := h.nodup
  chain := by
    apply joined_congr h.chain
    · rw [← List.cons_append, List.dropLast_concat]
      exact fun x hx ↦ (hag x hx).1
    · intro y hy
      refine (hag y ?_).2
      simpa [or_comm] using hy

/-- The empty ring: the head points at itself. -/
theorem nil_iff : m.Ring head [] ↔ m.next head = some head ∧ m.prev head = some head := by
  constructor
  · exact fun h ↦ (List.isChain_cons_cons.mp h.chain).1
  · exact fun h ↦ ⟨List.nodup_singleton _, List.isChain_cons_cons.mpr ⟨h, .singleton _⟩⟩

/-- The ring of one member. -/
theorem singleton_iff : m.Ring head [x] ↔
    head ≠ x ∧ m.Joined head x ∧ m.Joined x head := by
  constructor
  · intro h
    obtain ⟨hhx, hrest⟩ := List.isChain_cons_cons.mp h.chain
    exact ⟨by simpa using h.nodup, hhx, (List.isChain_cons_cons.mp hrest).1⟩
  · rintro ⟨hne, hhx, hxh⟩
    exact ⟨by simpa using hne, List.isChain_cons_cons.mpr
      ⟨hhx, List.isChain_cons_cons.mpr ⟨hxh, .singleton _⟩⟩⟩

/-- The head of a ring leads back to itself. -/
theorem circular (h : m.Ring head members) : m.Circular head := by
  have hnext : ∀ (l : List α) (x : α), (x :: (l ++ [head])).IsChain m.Joined →
      Relation.TransGen (fun x y ↦ m.next x = some y) x head := by
    intro l
    induction l with
    | nil => exact fun x hc ↦ .single (List.isChain_cons_cons.mp hc).1.1
    | cons y l ih =>
      intro x hc
      obtain ⟨hxy, hrest⟩ := List.isChain_cons_cons.mp hc
      exact .head hxy.1 (ih y hrest)
  exact hnext members head h.chain

/-- A walk along a ring meets its members and nothing else. -/
theorem visits_iff (h : m.Ring head members) : m.Visits head x ↔ x ∈ members := by
  have hclosed : ∀ y z, y ∈ head :: members → m.next y = some z → z ∈ head :: members := by
    intro y z hy hz
    obtain ⟨l₁, l₂, hl⟩ := List.append_of_mem hy
    have hc := h.chain
    rw [← List.cons_append, hl, List.append_assoc, List.cons_append] at hc
    cases l₂ with
    | nil =>
      cases (List.isChain_append_cons_cons.mp hc).2.1.1.symm.trans hz
      exact List.mem_cons_self
    | cons w l₂ =>
      cases (List.isChain_append_cons_cons.mp hc).2.1.1.symm.trans hz
      rw [hl]
      simp
  constructor
  · rintro ⟨hne, hr⟩
    have hm := mem_of_closed (s := (· ∈ head :: members)) hclosed List.mem_cons_self hr
    exact (List.mem_cons.mp hm).resolve_left hne
  · intro hx
    obtain ⟨l₁, l₂, rfl⟩ := List.append_of_mem hx
    refine ⟨fun he ↦ (List.nodup_cons.mp h.nodup).1 (he ▸ hx), ?_⟩
    have hc := h.chain
    rw [List.append_assoc, List.cons_append, List.isChain_cons_split] at hc
    have hn : (head :: (l₁ ++ [x])).IsChain fun x y ↦ m.next x = some y :=
      hc.1.imp fun _ _ hj ↦ hj.1
    exact List.relationReflTransGen_of_exists_isChain_cons _ hn (by simp)

section Operations

variable [DecidableEq α]

/-- A node that is initialised is an empty ring. -/
theorem init (m : Links α) (head : α) : (m.init head).Ring head [] := by
  rw [nil_iff]
  simp [Links.init, setNext, setPrev]

/-- A signal takes a listener that is not yet in its list to the list's tail. -/
theorem signalAdd (h : m.Ring head members) (he : elm ∉ head :: members) :
    ∃ m', m.signalAdd head elm = some m' ∧ m'.Ring head (members ++ [elm]) ∧
      ∀ x, x ≠ elm → x ∉ head :: members → m.AgreeAt m' x := by
  obtain ⟨init, last, hl⟩ : ∃ init last, head :: members = init ++ [last] :=
    ⟨_, _, (List.dropLast_append_getLast (List.cons_ne_nil head members)).symm⟩
  have hc := h.chain
  rw [← List.cons_append, hl, List.append_assoc, List.singleton_append,
    List.isChain_append_cons_cons] at hc
  obtain ⟨hinit, hlast, -⟩ := hc
  have hne : elm ≠ head := fun hx ↦ he (hx ▸ List.mem_cons_self)
  have hnl : elm ≠ last := fun hx ↦ he (by rw [hl, hx]; simp)
  have hnotin : last ∉ init := fun hm ↦
    List.disjoint_of_nodup_append (hl ▸ h.nodup) hm (List.mem_singleton_self _)
  refine ⟨(((m.setPrev elm (some last)).setNext elm (some head)).setNext last
    (some elm)).setPrev head (some elm), ?_, ⟨?_, ?_⟩, ?_⟩
  · have hread : (m.setPrev elm (some last)).next last = some head := hlast.1
    rw [Links.signalAdd, hlast.2, Option.bind_some, insert, hread]
    simp [setNext, setPrev, hnl]
  · rw [← List.cons_append]
    exact List.nodup_append_comm.mp (List.nodup_cons.mpr ⟨he, h.nodup⟩)
  · rw [List.append_assoc, List.singleton_append, ← List.cons_append, hl, List.append_assoc,
      List.singleton_append, List.isChain_append_cons_cons, List.isChain_cons_cons]
    refine ⟨joined_congr hinit ?_ ?_, ?_, ?_, .singleton _⟩
    · rw [List.dropLast_concat]
      intro x hx
      have hxe : x ≠ elm := fun hxe ↦ he (by rw [hl, ← hxe]; simp [hx])
      have hxl : x ≠ last := fun hxl ↦ hnotin (hxl ▸ hx)
      simp [setNext, setPrev, hxe, hxl]
    · rw [← hl]
      intro y hy
      have hye : y ≠ elm := fun hye ↦ he (hye ▸ List.mem_cons_of_mem _ hy)
      have hyh : y ≠ head := fun hyh ↦ (List.nodup_cons.mp h.nodup).1 (hyh ▸ hy)
      simp [setNext, setPrev, hye, hyh]
    · exact ⟨by simp [setNext, setPrev], by simp [setNext, setPrev, hne]⟩
    · exact ⟨by simp [setNext, setPrev, hnl], by simp [setNext, setPrev]⟩
  · intro x hx hm
    have hxh : x ≠ head := fun hxe ↦ hm (hxe ▸ List.mem_cons_self)
    have hxl : x ≠ last := fun hxe ↦ hm (by rw [hl, hxe]; simp)
    exact ⟨by simp [setNext, setPrev, hx, hxl], by simp [setNext, setPrev, hx, hxh]⟩

/-- The memory after a removal: the neighbours are joined and the node is cleared. -/
private def unlinked (m : Links α) (elm last first : α) : Links α :=
  (((m.setNext last (some first)).setPrev first (some last)).setNext elm none).setPrev elm none

private theorem next_unlinked {last : α} (hx : x ≠ elm ∧ x ≠ last) (first : α) :
    (unlinked m elm last first).next x = m.next x := by
  simp [unlinked, setNext, setPrev, hx.1, hx.2]

private theorem prev_unlinked {first : α} (hx : x ≠ elm ∧ x ≠ first) (last : α) :
    (unlinked m elm last first).prev x = m.prev x := by
  simp [unlinked, setNext, setPrev, hx.1, hx.2]

private theorem joined_unlinked {last first : α} (hl : last ≠ elm) (hf : first ≠ elm) :
    (unlinked m elm last first).Joined last first :=
  ⟨by simp [unlinked, setNext, setPrev, hl], by simp [unlinked, setNext, setPrev, hf]⟩

private theorem cleared_unlinked (m : Links α) (elm last first : α) :
    (unlinked m elm last first).next elm = none := by
  simp [unlinked, setNext, setPrev]

/-- A node is removed by what its own pointers say, also where they lead to itself. -/
private theorem remove_eq {last first : α} (hp : m.prev elm = some last)
    (hn : m.next elm = some first) : m.remove elm = some (unlinked m elm last first) := by
  have hread : (m.setNext last (some first)).next elm = some first := by
    by_cases he : elm = last
    · simp [setNext, he]
    · simp [setNext, he, hn]
  rw [Links.remove, hp, Option.bind_some, hn]
  dsimp only
  rw [hread]
  simp [unlinked, setNext, setPrev, hp]

/-- A member is taken out of its list, and its pointers are cleared. -/
theorem remove {before after : List α} (h : m.Ring head (before ++ elm :: after)) :
    ∃ m', m.remove elm = some m' ∧ m'.Ring head (before ++ after) ∧ m'.next elm = none ∧
      ∀ x, x ∉ head :: (before ++ elm :: after) → m.AgreeAt m' x := by
  obtain ⟨init, last, hl⟩ : ∃ init last, head :: before = init ++ [last] :=
    ⟨_, _, (List.dropLast_append_getLast (List.cons_ne_nil head before)).symm⟩
  obtain ⟨first, tail, ht⟩ : ∃ first tail, after ++ [head] = first :: tail :=
    List.exists_cons_of_ne_nil (by simp)
  have hc := h.chain
  rw [List.append_assoc, List.cons_append, ht, ← List.cons_append, hl, List.append_assoc,
    List.singleton_append, List.isChain_append_cons_cons, List.isChain_cons_cons] at hc
  obtain ⟨hinit, hlast, hfirst, htail⟩ := hc
  -- the node, its predecessor and its successor occur once
  have hn := h.nodup
  rw [← List.cons_append, List.nodup_middle, List.nodup_cons] at hn
  obtain ⟨helm, hnew⟩ := hn
  have hlastOnce : last ∉ init ++ after := by
    rw [hl, List.append_assoc, List.singleton_append, List.nodup_middle] at hnew
    exact (List.nodup_cons.mp hnew).1
  have hfirstOnce : first ∉ before ++ tail := by
    rw [List.cons_append, ← List.singleton_append, List.nodup_append_comm, List.append_assoc, ht,
      List.nodup_middle] at hnew
    exact (List.nodup_cons.mp hnew).1
  -- the nodes that are left, seen from either side of the cut
  have hleft : ∀ x, x ∈ head :: before ++ after ↔ x ∈ init ++ after ∨ x = last := by
    intro x
    rw [hl]
    simp only [List.mem_append, List.mem_singleton]
    exact or_right_comm
  have hright : ∀ x, x ∈ head :: before ++ after ↔ x ∈ before ++ tail ∨ x = first := by
    intro x
    calc x ∈ head :: before ++ after
        ↔ x ∈ before ++ (after ++ [head]) := by
          simp only [List.cons_append, List.mem_cons, List.mem_append, List.not_mem_nil, or_false]
          exact or_comm.trans or_assoc
      _ ↔ x ∈ before ++ first :: tail := by rw [ht]
      _ ↔ x ∈ before ++ tail ∨ x = first := by
          simp only [List.mem_append, List.mem_cons]
          exact (or_congr_right or_comm).trans or_assoc.symm
  have hle : last ≠ elm := fun he ↦ helm ((hleft elm).mpr (Or.inr he.symm))
  have hfe : first ≠ elm := fun he ↦ helm ((hright elm).mpr (Or.inr he.symm))
  refine ⟨_, remove_eq hlast.2 hfirst.1, ⟨hnew, ?_⟩, cleared_unlinked m elm last first, ?_⟩
  · rw [List.append_assoc, ht, ← List.cons_append, hl, List.append_assoc, List.singleton_append,
      List.isChain_append_cons_cons]
    have hnext : ∀ x ∈ init ++ after, (unlinked m elm last first).next x = m.next x := by
      intro x hx
      have hxe : x ≠ elm := fun he ↦ helm (he ▸ (hleft x).mpr (Or.inl hx))
      have hxl : x ≠ last := fun he ↦ hlastOnce (he ▸ hx)
      exact next_unlinked ⟨hxe, hxl⟩ first
    have hprev : ∀ y ∈ before ++ tail, (unlinked m elm last first).prev y = m.prev y := by
      intro y hy
      have hye : y ≠ elm := fun he ↦ helm (he ▸ (hright y).mpr (Or.inl hy))
      have hyf : y ≠ first := fun he ↦ hfirstOnce (he ▸ hy)
      exact prev_unlinked ⟨hye, hyf⟩ last
    refine ⟨joined_congr hinit ?_ ?_, joined_unlinked hle hfe, joined_congr htail ?_ ?_⟩
    · rw [List.dropLast_concat]
      exact fun x hx ↦ hnext x (List.mem_append_left _ hx)
    · rw [← hl]
      exact fun y hy ↦ hprev y (List.mem_append_left _ hy)
    · rw [← ht, List.dropLast_concat]
      exact fun x hx ↦ hnext x (List.mem_append_right _ hx)
    · exact fun y hy ↦ hprev y (List.mem_append_right _ hy)
  · intro x hm
    have hx : x ≠ elm ∧ x ∉ head :: before ++ after :=
      List.ne_and_not_mem_of_not_mem_cons fun h ↦ hm (List.perm_middle.mem_iff.mpr h)
    have hxl : x ≠ last := fun he ↦ hx.2 ((hleft x).mpr (Or.inr he))
    have hxf : x ≠ first := fun he ↦ hx.2 ((hright x).mpr (Or.inr he))
    exact ⟨next_unlinked ⟨hx.1, hxl⟩ first, prev_unlinked ⟨hx.1, hxf⟩ last⟩

/-- A node that is a list of its own is removed from itself. -/
theorem remove_nil (h : m.Ring head []) :
    ∃ m', m.remove head = some m' ∧ m'.next head = none ∧ ∀ x, x ≠ head → m.AgreeAt m' x := by
  obtain ⟨hn, hp⟩ := nil_iff.mp h
  exact ⟨_, remove_eq hp hn, cleared_unlinked m head head head,
    fun x hx ↦ ⟨next_unlinked ⟨hx, hx⟩ head, prev_unlinked ⟨hx, hx⟩ head⟩⟩

end Operations

end Ring

/-- Initialising a node leaves the others alone. -/
theorem agreeAt_init [DecidableEq α] (m : Links α) {x y : α} (h : x ≠ y) :
    m.AgreeAt (m.init y) x :=
  ⟨by simp [init, setNext, setPrev, h], by simp [init, setNext, setPrev, h]⟩

/-- Agreement composes. -/
theorem AgreeAt.trans {m₁ m₂ m₃ : Links α} (h : m₁.AgreeAt m₂ x) (h' : m₂.AgreeAt m₃ x) :
    m₁.AgreeAt m₃ x := ⟨h'.1.trans h.1, h'.2.trans h.2⟩

end Links
