import PlayosCompositor.Base.Links

/-!
# Many lists in one memory

A walk along one list, insertion at a list's beginning, and families of lists that share a
memory: which nodes are heads, and the members of each. An operation on one list of a family
changes that list and no other.
-/

universe u

namespace Links

variable {α : Type u}

/-- The lists of a memory: a ring at every head, and no node in two of them. -/
structure Rings (m : Links α) (lists : α → Option (List α)) : Prop where
  ring : ∀ head, ∀ members ∈ lists head, m.Ring head members
  apart : ∀ head other, head ≠ other → ∀ members ∈ lists head, ∀ others ∈ lists other,
    (head :: members).Disjoint (other :: others)

/-- A node that no list of the family uses. -/
def Free (lists : α → Option (List α)) (x : α) : Prop :=
  ∀ head, ∀ members ∈ lists head, x ∉ head :: members

variable {m m' : Links α} {head elm x : α} {members : List α} {lists : α → Option (List α)}

/-- The members of one list with a free node among them are apart from the other lists. -/
private theorem Rings.disjoint_of_free (h : m.Rings lists) (hm : members ∈ lists head)
    (he : Free lists elm) {others : List α} (hsub : ∀ x ∈ others, x = elm ∨ x ∈ head :: members)
    {other : α} (hne : other ≠ head) {rest : List α} (ho : rest ∈ lists other) :
    others.Disjoint (other :: rest) := by
  intro x hx hx'
  rcases hsub x hx with rfl | hx
  · exact he other rest ho hx'
  · exact h.apart head other hne.symm members hm rest ho hx hx'

variable [DecidableEq α]

/-- A node stays free while the lists get other members. -/
theorem Free.update (h : Free lists x) (hx : x ∉ head :: members) :
    Free (Function.update lists head (some members)) x := by
  intro other others ho
  by_cases he : other = head
  · subst he
    rw [Function.update_self] at ho
    cases ho
    exact hx
  · rw [Function.update_of_ne he] at ho
    exact h other others ho

/-- `wl_list_for_each` from a position: the members that are visited before the head is met
again, or `none` where the walk follows a NULL pointer or is cut off. -/
def walkFrom (m : Links α) (head : α) : Nat → Option α → Option (List α)
  | _, none => none
  | 0, some x => if x = head then some [] else none
  | fuel + 1, some x =>
    if x = head then some [] else (walkFrom m head fuel (m.next x)).map (x :: ·)

/-- `wl_list_for_each`, cut off after a number of members. -/
def walk (m : Links α) (head : α) (fuel : Nat) : Option (List α) :=
  m.walkFrom head fuel (m.next head)

/-- `wl_signal_add` of several listeners, one after the other. -/
def signalAddAll (m : Links α) (head : α) (l : List α) : Option (Links α) :=
  l.foldlM (fun m x ↦ m.signalAdd head x) m

namespace Ring

/-- A walk along a ring meets its members in their order. -/
theorem walk_eq (h : m.Ring head members) {fuel : Nat} (hf : members.length ≤ fuel) :
    m.walk head fuel = some members := by
  have hnot : head ∉ members := (List.nodup_cons.mp h.nodup).1
  -- the part of the ring behind a node that has been reached
  have hwalk : ∀ (l : List α) (x : α) (fuel : Nat), (x :: (l ++ [head])).IsChain m.Joined →
      head ∉ l → l.length ≤ fuel → m.walkFrom head fuel (m.next x) = some l := by
    intro l
    induction l with
    | nil =>
      intro x fuel hc _ _
      rw [(List.isChain_cons_cons.mp hc).1.1]
      cases fuel <;> simp [walkFrom]
    | cons y l ih =>
      intro x fuel hc hn hl
      obtain ⟨hxy, hrest⟩ := List.isChain_cons_cons.mp hc
      rw [List.mem_cons, not_or] at hn
      cases fuel with
      | zero => simp at hl
      | succ fuel =>
        rw [hxy.1, walkFrom, if_neg (Ne.symm hn.1),
          ih y fuel hrest hn.2 (Nat.le_of_succ_le_succ hl)]
        rfl
  exact hwalk members head fuel h.chain hnot hf

/-- An element that is not yet in the list goes to its beginning. -/
theorem insert (h : m.Ring head members) (he : elm ∉ head :: members) :
    ∃ m', m.insert head elm = some m' ∧ m'.Ring head (elm :: members) ∧
      ∀ x, x ≠ elm → x ∉ head :: members → m.AgreeAt m' x := by
  obtain ⟨first, tail, ht⟩ : ∃ first tail, members ++ [head] = first :: tail :=
    List.exists_cons_of_ne_nil (by simp)
  have hc := h.chain
  rw [ht, List.isChain_cons_cons] at hc
  obtain ⟨hfirst, htail⟩ := hc
  have hmem : ∀ x, x ∈ first :: tail ↔ x ∈ head :: members := by
    intro x
    rw [← ht, List.mem_append, List.mem_singleton, List.mem_cons, or_comm]
  have hne : elm ≠ head := fun hx ↦ he (hx ▸ List.mem_cons_self)
  have hnf : elm ≠ first := fun hx ↦ he ((hmem elm).mp (hx ▸ List.mem_cons_self))
  have hnodup : (first :: tail).Nodup := by
    rw [← ht]
    exact List.nodup_append_comm.mp h.nodup
  refine ⟨(((m.setPrev elm (some head)).setNext elm (some first)).setNext head
    (some elm)).setPrev first (some elm), ?_, ⟨?_, ?_⟩, ?_⟩
  · have hread : (m.setPrev elm (some head)).next head = some first := hfirst.1
    rw [Links.insert, hread]
    simp [setNext, setPrev, hne]
  · exact List.nodup_cons.mpr ⟨by simpa using ⟨hne.symm, (List.nodup_cons.mp h.nodup).1⟩,
      List.nodup_cons.mpr ⟨fun hx ↦ he (List.mem_cons_of_mem _ hx),
        (List.nodup_cons.mp h.nodup).2⟩⟩
  · rw [List.cons_append, ht, List.isChain_cons_cons, List.isChain_cons_cons]
    refine ⟨⟨by simp [setNext, setPrev], by simp [setNext, setPrev, hnf]⟩,
      ⟨by simp [setNext, setPrev, hne], by simp [setNext, setPrev]⟩, joined_congr htail ?_ ?_⟩
    · rw [← ht, List.dropLast_concat]
      intro x hx
      have hxe : x ≠ elm := fun hxe ↦ he (hxe ▸ List.mem_cons_of_mem _ hx)
      have hxh : x ≠ head := fun hxh ↦ (List.nodup_cons.mp h.nodup).1 (hxh ▸ hx)
      simp [setNext, setPrev, hxe, hxh]
    · intro y hy
      have hye : y ≠ elm := fun hye ↦ he ((hmem elm).mp (hye ▸ List.mem_cons_of_mem _ hy))
      have hyf : y ≠ first := fun hyf ↦ (List.nodup_cons.mp hnodup).1 (hyf ▸ hy)
      simp [setNext, setPrev, hye, hyf]
  · intro x hx hm
    have hxh : x ≠ head := fun hxe ↦ hm (hxe ▸ List.mem_cons_self)
    have hxf : x ≠ first := fun hxe ↦ hm ((hmem x).mp (hxe ▸ List.mem_cons_self))
    exact ⟨by simp [setNext, setPrev, hx, hxh], by simp [setNext, setPrev, hx, hxf]⟩

end Ring

namespace Rings

/-- One list of a family gets other members: the others must be as before, and apart from it. -/
theorem update (h : m.Rings lists) (hr : m'.Ring head members)
    (hag : ∀ other, other ≠ head → ∀ others ∈ lists other, ∀ x ∈ other :: others, m.AgreeAt m' x)
    (hap : ∀ other, other ≠ head → ∀ others ∈ lists other,
      (head :: members).Disjoint (other :: others)) :
    m'.Rings (Function.update lists head (some members)) where
  ring other others ho := by
    by_cases he : other = head
    · subst he
      rw [Function.update_self] at ho
      cases ho
      exact hr
    · rw [Function.update_of_ne he] at ho
      exact (h.ring other others ho).congr (hag other he others ho)
  apart a b hab l₁ h₁ l₂ h₂ := by
    by_cases ha : a = head
    · subst ha
      rw [Function.update_self] at h₁
      cases h₁
      rw [Function.update_of_ne hab.symm] at h₂
      exact hap b hab.symm l₂ h₂
    · rw [Function.update_of_ne ha] at h₁
      by_cases hb : b = head
      · subst hb
        rw [Function.update_self] at h₂
        cases h₂
        exact fun x hx hx' ↦ hap a ha l₁ h₁ hx' hx
      · rw [Function.update_of_ne hb] at h₂
        exact h.apart a b hab l₁ h₁ l₂ h₂

/-- A free node that is initialised starts an empty list. -/
theorem init (h : m.Rings lists) (hx : Free lists x) :
    (m.init x).Rings (Function.update lists x (some [])) := by
  refine h.update (.init m x) (fun other _ others ho y hy ↦ agreeAt_init m ?_) ?_
  · rintro rfl
    exact hx other others ho hy
  · intro other _ others ho y hy hy'
    rw [List.mem_singleton.mp hy] at hy'
    exact hx other others ho hy'

/-- A list of a family takes a free node to its end. -/
theorem signalAdd (h : m.Rings lists) (hm : members ∈ lists head) (he : Free lists elm) :
    ∃ m', m.signalAdd head elm = some m' ∧
      m'.Rings (Function.update lists head (some (members ++ [elm]))) ∧
      ∀ x, x ≠ elm → x ∉ head :: members → m.AgreeAt m' x := by
  obtain ⟨m', hadd, hring, hag⟩ := (h.ring head members hm).signalAdd (he head members hm)
  refine ⟨m', hadd, h.update hring (fun other hne others ho x hx ↦ hag x ?_ ?_) ?_, hag⟩
  · rintro rfl
    exact he other others ho hx
  · exact fun hx' ↦ h.apart head other hne.symm members hm others ho hx' hx
  · intro other hne others ho
    exact h.disjoint_of_free hm he (by simp; tauto) hne ho

/-- A list of a family takes several free nodes to its end, in their order. -/
theorem signalAddAll (h : m.Rings lists) (hm : members ∈ lists head) {l : List α} (hn : l.Nodup)
    (hf : ∀ x ∈ l, Free lists x) :
    ∃ m', m.signalAddAll head l = some m' ∧
      m'.Rings (Function.update lists head (some (members ++ l))) ∧
      ∀ x, x ∉ l → x ∉ head :: members → m.AgreeAt m' x := by
  induction l generalizing m lists members with
  | nil =>
    refine ⟨m, rfl, ?_, fun _ _ _ ↦ ⟨rfl, rfl⟩⟩
    rwa [List.append_nil, ← Option.mem_def.mp hm, Function.update_eq_self]
  | cons y l ih =>
    obtain ⟨hy, hn⟩ := List.nodup_cons.mp hn
    obtain ⟨m₁, e₁, h₁, ag₁⟩ := h.signalAdd hm (hf y List.mem_cons_self)
    -- the nodes that are still to come are free of the list with the first one in it
    have hf₁ : ∀ x ∈ l, Free (Function.update lists head (some (members ++ [y]))) x := by
      intro x hx
      have hxf := hf x (List.mem_cons_of_mem _ hx)
      refine hxf.update fun hx' ↦ ?_
      rw [← List.cons_append, List.mem_append, List.mem_singleton] at hx'
      exact hx'.elim (hxf head members hm) fun he ↦ hy (he ▸ hx)
    obtain ⟨m', e', h', ag'⟩ := ih h₁ (Function.update_self head _ lists) hn hf₁
    refine ⟨m', ?_, ?_, fun x hx hx' ↦ ?_⟩
    · rw [Links.signalAddAll, List.foldlM_cons, e₁]
      exact e'
    · rwa [Function.update_idem, List.append_assoc] at h'
    · rw [List.mem_cons, not_or] at hx
      refine (ag₁ x hx.1 hx').trans (ag' x hx.2 fun hm' ↦ ?_)
      rw [← List.cons_append, List.mem_append, List.mem_singleton] at hm'
      exact hm'.elim hx' hx.1

/-- A free node starts a list of several others. -/
theorem create (h : m.Rings lists) (hx : Free lists x) {l : List α} (hn : (x :: l).Nodup)
    (hf : ∀ y ∈ l, Free lists y) :
    ∃ m', (m.init x).signalAddAll x l = some m' ∧ m'.Rings (Function.update lists x (some l)) ∧
      ∀ y, y ∉ x :: l → m.AgreeAt m' y := by
  obtain ⟨hx', hn⟩ := List.nodup_cons.mp hn
  have hf' : ∀ y ∈ l, Free (Function.update lists x (some [])) y := fun y hy ↦
    (hf y hy).update (by simpa using ne_of_mem_of_not_mem hy hx')
  obtain ⟨m', e', h', ag'⟩ :=
    (h.init hx).signalAddAll (Function.update_self x (some []) lists) hn hf'
  refine ⟨m', e', by rwa [Function.update_idem] at h', fun y hy ↦ ?_⟩
  rw [List.mem_cons, not_or] at hy
  exact (agreeAt_init m hy.1).trans (ag' y hy.2 (by simpa using hy.1))

/-- A list of a family takes a free node to its beginning. -/
theorem insert (h : m.Rings lists) (hm : members ∈ lists head) (he : Free lists elm) :
    ∃ m', m.insert head elm = some m' ∧
      m'.Rings (Function.update lists head (some (elm :: members))) ∧
      ∀ x, x ≠ elm → x ∉ head :: members → m.AgreeAt m' x := by
  obtain ⟨m', hadd, hring, hag⟩ := (h.ring head members hm).insert (he head members hm)
  refine ⟨m', hadd, h.update hring (fun other hne others ho x hx ↦ hag x ?_ ?_) ?_, hag⟩
  · rintro rfl
    exact he other others ho hx
  · exact fun hx' ↦ h.apart head other hne.symm members hm others ho hx' hx
  · intro other hne others ho
    exact h.disjoint_of_free hm he (by simp; tauto) hne ho

/-- A member leaves its list and the family; its pointers are cleared. -/
theorem remove (h : m.Rings lists) (hm : members ∈ lists head) (he : elm ∈ members) :
    ∃ m', m.remove elm = some m' ∧ m'.next elm = none ∧
      m'.Rings (Function.update lists head (some (members.filter (· ≠ elm)))) ∧
      ∀ x, x ∉ head :: members → m.AgreeAt m' x := by
  obtain ⟨before, after, rfl⟩ := List.append_of_mem he
  have hr := h.ring head _ hm
  obtain ⟨m', hrem, hring, hnone, hag⟩ := hr.remove
  have hfilter : (before ++ elm :: after).filter (· ≠ elm) = before ++ after := by
    have hn := (List.nodup_cons.mp hr.nodup).2
    rw [List.nodup_middle, List.nodup_cons, List.mem_append, not_or] at hn
    rw [List.filter_append, List.filter_cons_of_neg (by simp),
      List.filter_eq_self.mpr fun x hx ↦ by simpa using ne_of_mem_of_not_mem hx hn.1.1,
      List.filter_eq_self.mpr fun x hx ↦ by simpa using ne_of_mem_of_not_mem hx hn.1.2]
  refine ⟨m', hrem, hnone,
    hfilter ▸ h.update hring (fun other hne others ho x hx ↦ hag x ?_) ?_, hag⟩
  · exact fun hx' ↦ h.apart head other hne.symm _ hm others ho hx' hx
  · intro other hne others ho x hx hx'
    refine h.apart head other hne.symm _ hm others ho ?_ hx'
    rcases List.mem_cons.mp hx with rfl | hx
    · exact List.mem_cons_self
    · rw [List.mem_cons, List.mem_append, List.mem_cons]
      rcases List.mem_append.mp hx with hx | hx
      · exact Or.inr (Or.inl hx)
      · exact Or.inr (Or.inr (Or.inr hx))

end Rings

end Links
