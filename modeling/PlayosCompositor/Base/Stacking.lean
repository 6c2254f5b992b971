import Mathlib.Data.List.Nodup

/-!
# Stacking orders

Items from bottom to top, each at most once, with the moves of a scene list: a new item
goes on top, an item is raised to the top, lowered to the bottom or removed. Raising a
list of items one after the other leaves exactly that list on top (`raiseAll_items`).
-/

universe u

/-- A stacking order: the items from bottom to top, without repetition. -/
structure Stacking (α : Type u) where
  items : List α
  nodup : items.Nodup

namespace Stacking

variable {α : Type u}

/-- Stacking orders with the same items are equal. -/
@[ext] theorem ext {s t : Stacking α} (h : s.items = t.items) : s = t := by
  cases s
  cases t
  cases h
  rfl

/-- `a` lies somewhere below `b`. -/
def Below (s : Stacking α) (a b : α) : Prop := [a, b].Sublist s.items

/-- An item of the lower part lies below every item of the upper part. -/
theorem below_of_append {s : Stacking α} {low high : List α} (h : s.items = low ++ high) {a b : α}
    (ha : a ∈ low) (hb : b ∈ high) : s.Below a b := by
  rw [Below, h]
  exact List.Sublist.append (List.singleton_sublist.mpr ha) (List.singleton_sublist.mpr hb)

/-- Two items of the upper part that stand in this order are stacked in this order. -/
theorem below_of_sublist {s : Stacking α} {low high : List α} (h : s.items = low ++ high) {a b : α}
    (hab : [a, b].Sublist high) : s.Below a b := by
  rw [Below, h]
  exact hab.trans (List.sublist_append_right low high)

variable [DecidableEq α]

instance (s : Stacking α) (a b : α) : Decidable (s.Below a b) :=
  inferInstanceAs (Decidable ([a, b].Sublist s.items))

/-- Nothing is stacked. -/
def empty : Stacking α := ⟨[], List.nodup_nil⟩

/-- Take an item out; the order of the others stays. -/
def remove (s : Stacking α) (a : α) : Stacking α :=
  ⟨s.items.filter (· ≠ a), s.nodup.filter _⟩

private theorem not_mem_remove (s : Stacking α) (a : α) : a ∉ (s.remove a).items := by
  simp [remove]

/-- Put a new item on top; an item that is already stacked keeps its place. -/
def push (s : Stacking α) (a : α) : Stacking α :=
  if h : a ∈ s.items then s
  else ⟨s.items ++ [a], List.nodup_append.mpr ⟨s.nodup, List.nodup_singleton a, by
    intro x hx y hy
    rw [List.mem_singleton.mp hy]
    exact ne_of_mem_of_not_mem hx h⟩⟩

/-- Move an item to the top; an item that is not stacked is ignored. -/
def raise (s : Stacking α) (a : α) : Stacking α :=
  if a ∈ s.items then (s.remove a).push a else s

/-- Move an item to the bottom; an item that is not stacked is ignored. -/
def lower (s : Stacking α) (a : α) : Stacking α :=
  if a ∈ s.items then
    ⟨a :: (s.remove a).items, List.nodup_cons.mpr ⟨not_mem_remove s a, (s.remove a).nodup⟩⟩
  else s

/-- Raise several items, the last of them to the very top. -/
def raiseAll (s : Stacking α) (as : List α) : Stacking α := as.foldl raise s

/-- Removal keeps every other item. -/
@[simp] theorem mem_remove {s : Stacking α} {a x : α} :
    x ∈ (s.remove a).items ↔ x ∈ s.items ∧ x ≠ a := by
  simp [remove]

/-- A pushed item that was not stacked is the new top. -/
theorem push_items_of_not_mem {s : Stacking α} {a : α} (h : a ∉ s.items) :
    (s.push a).items = s.items ++ [a] := by
  simp [push, h]

private theorem filter_ne_of_not_mem {l : List α} {a : α} (h : a ∉ l) :
    l.filter (· ≠ a) = l := by
  rw [List.filter_eq_self]
  intro x hx
  simpa using ne_of_mem_of_not_mem hx h

/-- Pushing adds at most the pushed item. -/
@[simp] theorem mem_push {s : Stacking α} {a x : α} :
    x ∈ (s.push a).items ↔ x ∈ s.items ∨ x = a := by
  unfold push
  split
  · next h => exact ⟨Or.inl, fun hx ↦ hx.elim id fun he ↦ he ▸ h⟩
  · simp

/-- A new item that is removed at once leaves nothing behind. -/
theorem remove_push {s : Stacking α} {a : α} (h : a ∉ s.items) : (s.push a).remove a = s := by
  apply ext
  change (s.push a).items.filter (· ≠ a) = s.items
  rw [push_items_of_not_mem h, List.filter_append, filter_ne_of_not_mem h]
  simp

/-- A raised item leaves its place and is put on top. -/
theorem raise_items_of_mem {s : Stacking α} {a : α} (h : a ∈ s.items) :
    (s.raise a).items = s.items.filter (· ≠ a) ++ [a] := by
  rw [raise, if_pos h, push_items_of_not_mem (not_mem_remove s a)]
  rfl

/-- Raising moves items and adds none. -/
@[simp] theorem mem_raise {s : Stacking α} {a x : α} : x ∈ (s.raise a).items ↔ x ∈ s.items := by
  by_cases h : a ∈ s.items
  · rw [raise_items_of_mem h]
    by_cases hx : x = a
    · simp [hx, h]
    · simp [hx]
  · rw [raise, if_neg h]

/-- A lowered item becomes the bottom. -/
theorem lower_items_of_mem {s : Stacking α} {a : α} (h : a ∈ s.items) :
    (s.lower a).items = a :: s.items.filter (· ≠ a) := by
  rw [lower, if_pos h]
  rfl

/-- A new item that is lowered at once lies below everything else. -/
theorem lower_push_items {s : Stacking α} {a : α} (h : a ∉ s.items) :
    ((s.push a).lower a).items = a :: s.items := by
  rw [lower_items_of_mem (by simp), push_items_of_not_mem h, List.filter_append,
    filter_ne_of_not_mem h]
  simp

/-- Raising several items adds none. -/
@[simp] theorem mem_raiseAll {s : Stacking α} {as : List α} {x : α} :
    x ∈ (s.raiseAll as).items ↔ x ∈ s.items := by
  unfold raiseAll
  induction as generalizing s with
  | nil => rfl
  | cons a as ih => rw [List.foldl_cons, ih, mem_raise]

/-- Raising distinct stacked items in turn puts exactly them on top, in that order. -/
theorem raiseAll_items {s : Stacking α} {as : List α} (hs : ∀ a ∈ as, a ∈ s.items)
    (hn : as.Nodup) : (s.raiseAll as).items = s.items.filter (· ∉ as) ++ as := by
  unfold raiseAll
  induction as generalizing s with
  | nil => simp
  | cons a as ih =>
    obtain ⟨ha, hn⟩ := List.nodup_cons.mp hn
    have hmem : ∀ b ∈ as, b ∈ (s.raise a).items := by
      intro b hb
      exact mem_raise.mpr (hs b (List.mem_cons_of_mem a hb))
    rw [List.foldl_cons, ih hmem hn, raise_items_of_mem (hs a List.mem_cons_self),
      List.filter_append, List.filter_filter, List.append_assoc]
    congr 1
    · apply List.filter_congr
      intro x _
      simp [Bool.and_comm]
    · simp [ha]

end Stacking
