import Mathlib.Data.List.Basic
import Mathlib.Order.Lattice

/-!
# The first of the largest elements

A loop over a list that keeps the best element so far, and gives it up only for a strictly
better one, ends with the first of the largest elements. `FirstMax` says which one that is;
`runningMax_cases` is the loop's rule, from any bound that it starts with.
-/

universe u v

variable {α : Type u} {β : Type v} [LinearOrder β] {f : α → β}

/-- The element at an index is larger than every one before it and at least as large as every
one after it. -/
def FirstMax (f : α → β) (l : List α) (i : Nat) (x : α) : Prop :=
  ∃ before after, l = before ++ x :: after ∧ before.length = i ∧
    (∀ y ∈ before, f y < f x) ∧ ∀ y ∈ after, f y ≤ f x

namespace FirstMax

variable {l r : List α} {i j : Nat} {x y : α}

/-- It is the element at its index. -/
theorem getElem?_eq (h : FirstMax f l i x) : l[i]? = some x := by
  obtain ⟨before, after, rfl, rfl, -, -⟩ := h
  simp

/-- It is an element. -/
theorem mem (h : FirstMax f l i x) : x ∈ l := List.mem_of_getElem? h.getElem?_eq

/-- Its index is in range. -/
theorem lt_length (h : FirstMax f l i x) : i < l.length :=
  (List.getElem?_eq_some_iff.mp h.getElem?_eq).1

/-- No element is larger. -/
theorem le (h : FirstMax f l i x) (hy : y ∈ l) : f y ≤ f x := by
  obtain ⟨before, after, rfl, -, hb, ha⟩ := h
  rcases List.mem_append.mp hy with hy | hy
  · exact (hb y hy).le
  · rcases List.mem_cons.mp hy with rfl | hy
    · exact le_rfl
    · exact ha y hy

/-- Every earlier element is smaller. -/
theorem lt_of_lt (h : FirstMax f l i x) (hj : j < i) (hy : l[j]? = some y) : f y < f x := by
  obtain ⟨before, after, rfl, rfl, hb, -⟩ := h
  rw [List.getElem?_append_left hj] at hy
  exact hb y (List.mem_of_getElem? hy)

/-- An element that no other exceeds and no earlier one reaches is the one. -/
theorem of_le_of_lt (hi : l[i]? = some x) (hle : ∀ y ∈ l, f y ≤ f x)
    (hlt : ∀ j y, j < i → l[j]? = some y → f y < f x) : FirstMax f l i x := by
  obtain ⟨hlen, rfl⟩ := List.getElem?_eq_some_iff.mp hi
  refine ⟨l.take i, l.drop (i + 1), ?_, ?_, ?_, fun y hy ↦ hle y (List.mem_of_mem_drop hy)⟩
  · rw [← List.drop_eq_getElem_cons hlen, List.take_append_drop]
  · exact List.length_take_of_le (Nat.le_of_lt hlen)
  · intro y hy
    obtain ⟨j, hj, rfl⟩ := List.mem_iff_getElem.mp hy
    rw [List.length_take] at hj
    refine hlt j _ (by omega) ?_
    rw [List.getElem_take, List.getElem?_eq_getElem]

/-- There is only one. -/
theorem unique (h : FirstMax f l i x) (h' : FirstMax f l j y) : i = j ∧ x = y := by
  have hij : i = j := by
    rcases Nat.lt_trichotomy i j with hlt | heq | hlt
    · exact absurd (h'.lt_of_lt hlt h.getElem?_eq) (not_lt_of_ge (h.le h'.mem))
    · exact heq
    · exact absurd (h.lt_of_lt hlt h'.getElem?_eq) (not_lt_of_ge (h'.le h.mem))
  have hx := h.getElem?_eq
  rw [hij, h'.getElem?_eq] at hx
  exact ⟨hij, (Option.some.inj hx).symm⟩

/-- A smaller element in front moves it by one. -/
theorem cons (h : FirstMax f l i x) (hy : f y < f x) : FirstMax f (y :: l) (i + 1) x := by
  obtain ⟨before, after, rfl, rfl, hb, ha⟩ := h
  exact ⟨y :: before, after, rfl, rfl, List.forall_mem_cons.mpr ⟨hy, hb⟩, ha⟩

/-- An element in front that no other exceeds is the first. -/
theorem head (h : ∀ y ∈ l, f y ≤ f x) : FirstMax f (x :: l) 0 x :=
  ⟨[], l, rfl, rfl, List.forall_mem_nil _, h⟩

/-- More elements change it only to one of them that is larger. -/
theorem of_append (h : FirstMax f (l ++ r) i x) :
    FirstMax f l i x ∨ l.length ≤ i ∧ x ∈ r ∧ ∀ y ∈ l, f y < f x := by
  rcases Nat.lt_or_ge i l.length with hi | hi
  · refine Or.inl (of_le_of_lt ?_ (fun y hy ↦ h.le (List.mem_append_left r hy)) ?_)
    · rw [← List.getElem?_append_left hi]
      exact h.getElem?_eq
    · intro j y hj hy
      refine h.lt_of_lt hj ?_
      rw [List.getElem?_append_left (Nat.lt_trans hj hi)]
      exact hy
  · refine Or.inr ⟨hi, ?_, ?_⟩
    · have hx := h.getElem?_eq
      rw [List.getElem?_append_right hi] at hx
      exact List.mem_of_getElem? hx
    · intro y hy
      obtain ⟨j, hj, rfl⟩ := List.mem_iff_getElem.mp hy
      refine h.lt_of_lt (Nat.lt_of_lt_of_le hj hi) ?_
      rw [List.getElem?_append_left hj, List.getElem?_eq_getElem]

/-- The first of the largest images is the image of the first of the largest elements. -/
theorem of_map {γ : Type u} {g : γ → α} {l : List γ} (h : FirstMax f (l.map g) i x) :
    ∃ y, g y = x ∧ FirstMax (fun y ↦ f (g y)) l i y := by
  obtain ⟨before, after, he, rfl, hb, ha⟩ := h
  obtain ⟨l₁, l₂, rfl, rfl, hl₂⟩ := List.map_eq_append_iff.mp he
  obtain ⟨y, l₃, rfl, rfl, rfl⟩ := List.map_eq_cons_iff.mp hl₂
  refine ⟨y, rfl, l₁, l₃, rfl, (List.length_map _).symm, fun z hz ↦ ?_, fun z hz ↦ ?_⟩
  · exact hb _ (List.mem_map_of_mem hz)
  · exact ha _ (List.mem_map_of_mem hz)

end FirstMax

/-! ### The loop -/

/-- The best element so far, with its index and its value, and the elements that are left, from
an index on. -/
def runningMax (f : α → β) : List α → Nat → Option (Nat × α) × β → Option (Nat × α) × β
  | [], _, best => best
  | x :: l, i, best => runningMax f l (i + 1) (if best.2 < f x then (some (i, x), f x) else best)

/-- Loop rule: the incumbent stays where no element exceeds it, and else the first of the
largest elements takes its place. -/
theorem runningMax_cases (f : α → β) (l : List α) (i : Nat) (best : Option (Nat × α) × β) :
    ((∀ x ∈ l, f x ≤ best.2) ∧ runningMax f l i best = best) ∨
      ∃ j x, FirstMax f l j x ∧ best.2 < f x ∧
        runningMax f l i best = (some (i + j, x), f x) := by
  induction l generalizing i best with
  | nil => exact Or.inl ⟨List.forall_mem_nil _, rfl⟩
  | cons x l ih =>
    rw [runningMax]
    split
    · next hlt =>
      refine Or.inr ?_
      rcases ih (i + 1) (some (i, x), f x) with ⟨hle, he⟩ | ⟨j, y, hm, hxy, he⟩
      · exact ⟨0, x, .head hle, hlt, he⟩
      · exact ⟨j + 1, y, hm.cons hxy, hlt.trans hxy, by rw [he, Nat.add_right_comm, Nat.add_assoc]⟩
    · next hnot =>
      have hle : f x ≤ best.2 := le_of_not_gt hnot
      rcases ih (i + 1) best with ⟨hrest, he⟩ | ⟨j, y, hm, hby, he⟩
      · exact Or.inl ⟨List.forall_mem_cons.mpr ⟨hle, hrest⟩, he⟩
      · refine Or.inr ⟨j + 1, y, hm.cons (hle.trans_lt hby), hby, ?_⟩
        rw [he, Nat.add_right_comm, Nat.add_assoc]
