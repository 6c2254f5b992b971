import Mathlib.Algebra.Order.Group.Multiset
import PlayosCompositor.Base.Transition

/-!
# Descriptor accounting

Programs that open and close descriptors, with a record of what they have done. A descriptor is
named by the number of those opened before it, so no name is used twice. The table replays a
record; `Spec` tells what a program makes of the descriptors that are open.
-/

namespace Descriptors

/-- What is done with descriptors. At `handedOver` all of them have to be closed. -/
inductive Op
  | opened (fd : Nat)
  | closed (fd : Nat)
  | handedOver
  deriving DecidableEq, Repr

/-- The open descriptors, and the name of the next one. -/
structure Table where
  next : Nat
  held : Multiset Nat

/-- Only open descriptors are closed, and none is open when control is handed over. -/
def tableSystem : Transition.System Table Op where
  initial t := t = ⟨0, 0⟩
  step t
    | .opened fd => if fd = t.next then some ⟨fd + 1, fd ::ₘ t.held⟩ else none
    | .closed fd => if fd ∈ t.held then some { t with held := t.held.erase fd } else none
    | .handedOver => if t.held = 0 then some t else none

/-- Every descriptor that is opened is closed once, after it was opened and before control is
handed over. -/
structure Balanced (ops : List Op) : Prop where
  closedOnce : ∀ fd, .opened fd ∈ ops → ops.count (.closed fd) = 1
  openedBefore : ∀ before fd, before ++ [.closed fd] <+: ops → .opened fd ∈ before
  closedBefore : ∀ before, before ++ [.handedOver] <+: ops →
    ∀ fd, .opened fd ∈ before → .closed fd ∈ before

/-! ### Replaying a record -/

variable {t u : Table} {ops : List Op}

/-- The books of one descriptor. -/
theorem count_run (h : tableSystem.run t ops = some u) (fd : Nat) :
    t.held.count fd + ops.count (.opened fd) = u.held.count fd + ops.count (.closed fd) := by
  induction ops generalizing t with
  | nil => rw [Option.some.inj h]; rfl
  | cons op ops ih =>
    obtain ⟨v, hv, hu⟩ := tableSystem.run_cons_some.mp h
    have ih := ih hu
    cases op with
    | opened other =>
      obtain ⟨-, he⟩ := Option.ite_none_right_eq_some.mp hv
      rw [← Option.some.inj he, Multiset.count_cons] at ih
      simp only [List.count_cons, beq_iff_eq, Op.opened.injEq, reduceCtorEq, if_false]
      by_cases hfd : other = fd
      · simp only [hfd, if_true] at ih ⊢
        omega
      · simp only [hfd, Ne.symm hfd, if_false] at ih ⊢
        omega
    | closed other =>
      obtain ⟨hm, he⟩ := Option.ite_none_right_eq_some.mp hv
      rw [← Option.some.inj he] at ih
      simp only [List.count_cons, beq_iff_eq, Op.closed.injEq, reduceCtorEq, if_false]
      by_cases hfd : other = fd
      · subst hfd
        have hpos := Multiset.count_pos.mpr hm
        rw [Multiset.count_erase_self] at ih
        simp only [if_true]
        omega
      · rw [Multiset.count_erase_of_ne (Ne.symm hfd)] at ih
        simp only [hfd, if_false]
        omega
    | handedOver =>
      obtain ⟨-, he⟩ := Option.ite_none_right_eq_some.mp hv
      rw [← Option.some.inj he] at ih
      simpa using ih

/-- No descriptor is opened twice, and none that is older than the table. -/
theorem count_opened_le (h : tableSystem.run t ops = some u) (fd : Nat) :
    ops.count (.opened fd) ≤ if fd < t.next then 0 else 1 := by
  induction ops generalizing t with
  | nil => exact Nat.zero_le _
  | cons op ops ih =>
    obtain ⟨v, hv, hu⟩ := tableSystem.run_cons_some.mp h
    have ih := ih hu
    cases op with
    | opened other =>
      obtain ⟨rfl, he⟩ := Option.ite_none_right_eq_some.mp hv
      rw [← Option.some.inj he] at ih
      simp only [List.count_cons, beq_iff_eq, Op.opened.injEq]
      dsimp only at ih
      split_ifs at ih ⊢ <;> omega
    | closed other =>
      obtain ⟨-, he⟩ := Option.ite_none_right_eq_some.mp hv
      rw [← Option.some.inj he] at ih
      simpa using ih
    | handedOver =>
      obtain ⟨-, he⟩ := Option.ite_none_right_eq_some.mp hv
      rw [← Option.some.inj he] at ih
      simpa using ih

/-- A prefix of a record can be replayed as far as its last entry. -/
private theorem run_before {before : List Op} {op : Op}
    (h : tableSystem.run t ops = some u) (hp : before ++ [op] <+: ops) :
    ∃ v w, tableSystem.run t before = some v ∧ tableSystem.step v op = some w := by
  obtain ⟨after, rfl⟩ := hp
  rw [List.append_assoc, Transition.System.run_append] at h
  obtain ⟨v, hv, h⟩ := Option.bind_eq_some_iff.mp h
  obtain ⟨w, hw, -⟩ := tableSystem.run_cons_some.mp h
  exact ⟨v, w, hv, hw⟩

/-- A record that ends with nothing open is balanced. -/
theorem balanced_of_run (h : tableSystem.run ⟨0, 0⟩ ops = some u) (hu : u.held = 0) :
    Balanced ops where
  closedOnce fd hm := by
    have hcount := count_run h fd
    have hle := count_opened_le h fd
    have hpos := List.count_pos_iff.mpr hm
    rw [hu, Multiset.count_zero] at hcount
    simp only [Nat.not_lt_zero, if_false] at hle
    omega
  openedBefore before fd hp := by
    obtain ⟨v, w, hv, hw⟩ := run_before h hp
    obtain ⟨hm, -⟩ := Option.ite_none_right_eq_some.mp hw
    have hcount := count_run hv fd
    have hpos := Multiset.count_pos.mpr hm
    rw [Multiset.count_zero] at hcount
    exact List.count_pos_iff.mp (by omega)
  closedBefore before hp fd hm := by
    obtain ⟨v, w, hv, hw⟩ := run_before h hp
    obtain ⟨hzero, -⟩ := Option.ite_none_right_eq_some.mp hw
    have hcount := count_run hv fd
    have hpos := List.count_pos_iff.mpr hm
    rw [hzero, Multiset.count_zero] at hcount
    exact List.count_pos_iff.mp (by omega)

/-! ### Programs -/

/-- What a program has done so far, and the name of the next descriptor. -/
structure Record where
  next : Nat
  ops : List Op
  deriving DecidableEq, Repr

/-- Nothing has been done. -/
def Record.empty : Record := ⟨0, []⟩

/-- Programs that open and close descriptors. -/
abbrev Prog (α : Type) := StateM Record α

/-- A call that opens a descriptor if it succeeds. -/
def openFd (succeeds : Bool) : Prog (Option Nat) := fun r ↦
  if succeeds then (some r.next, ⟨r.next + 1, r.ops ++ [.opened r.next]⟩) else (none, r)

/-- A call that closes a descriptor. -/
def closeFd (fd : Nat) : Prog Unit := fun r ↦ ((), { r with ops := r.ops ++ [.closed fd] })

/-- Somebody else takes over. -/
def handOver : Prog Unit := fun r ↦ ((), { r with ops := r.ops ++ [.handedOver] })

/-- The record can be replayed and leaves these descriptors open. -/
def Record.Holds (r : Record) (held : Multiset Nat) : Prop :=
  tableSystem.run ⟨0, 0⟩ r.ops = some ⟨r.next, held⟩

/-- The descriptor that a call may have given. -/
def owned (fd : Option Nat) : Multiset Nat := fd.elim 0 fun fd ↦ {fd}

/-- A call that failed gave none. -/
theorem owned_none_add (held : Multiset Nat) : owned none + held = held := zero_add held

/-- Started with `held` open, the program ends with a result and open descriptors as stated. -/
def Spec {α : Type} (held : Multiset Nat) (prog : Prog α) (post : α → Multiset Nat → Prop) : Prop :=
  ∀ r : Record, r.Holds held → ∃ held', (prog r).2.Holds held' ∧ post (prog r).1 held'

section Rules

variable {α β : Type} {held : Multiset Nat} {post : α → Multiset Nat → Prop}

/-- A program that returns at once. -/
theorem Spec.pure {a : α} (h : post a held) : Spec held (Pure.pure a) post :=
  fun _ hr ↦ ⟨held, hr, h⟩

/-- One program after the other. -/
theorem Spec.bind {prog : Prog α} {next : α → Prog β} {post' : β → Multiset Nat → Prop}
    (h : Spec held prog post) (hn : ∀ a held', post a held' → Spec held' (next a) post') :
    Spec held (prog >>= next) post' := by
  intro r hr
  obtain ⟨held', hr', hpost⟩ := h r hr
  exact hn _ held' hpost _ hr'

/-- Less can be said. -/
theorem Spec.mono {prog : Prog α} {post' : α → Multiset Nat → Prop} (h : Spec held prog post)
    (hp : ∀ a held', post a held' → post' a held') : Spec held prog post' := by
  intro r hr
  obtain ⟨held', hr', hpost⟩ := h r hr
  exact ⟨held', hr', hp _ _ hpost⟩

/-- Two things can be said of one program, the second of its result alone. -/
theorem Spec.and {prog : Prog α} {fact : α → Prop} (h : Spec held prog post)
    (hs : Spec held prog fun a _ ↦ fact a) :
    Spec held prog fun a held' ↦ post a held' ∧ fact a := by
  intro r hr
  obtain ⟨held', hr', hpost⟩ := h r hr
  obtain ⟨-, -, hfact⟩ := hs r hr
  exact ⟨held', hr', hpost, hfact⟩

/-- One more entry in a record. -/
private theorem holds_append {r : Record} {held' : Multiset Nat} {op : Op} {next : Nat}
    (hr : r.Holds held) (hs : tableSystem.step ⟨r.next, held⟩ op = some ⟨next, held'⟩) :
    Record.Holds ⟨next, r.ops ++ [op]⟩ held' := by
  unfold Record.Holds at hr ⊢
  rw [Transition.System.run_append, hr, Option.bind_some, Transition.System.run_singleton, hs]

/-- A call that succeeds leaves one more descriptor open. -/
theorem spec_openFd (succeeds : Bool) : Spec held (openFd succeeds) fun fd held' ↦
    fd.isSome = succeeds ∧ held' = owned fd + held := by
  intro r hr
  cases succeeds with
  | false => exact ⟨held, hr, rfl, (owned_none_add held).symm⟩
  | true => exact ⟨r.next ::ₘ held, holds_append hr (if_pos rfl), rfl, rfl⟩

/-- An open descriptor can be closed. -/
theorem spec_closeFd (fd : Nat) :
    Spec (fd ::ₘ held) (closeFd fd) fun _ held' ↦ held' = held := by
  intro r hr
  refine ⟨held, holds_append hr ?_, rfl⟩
  change (if fd ∈ fd ::ₘ held then _ else _) = _
  rw [if_pos (Multiset.mem_cons_self fd held), Multiset.erase_cons_head]

/-- Control is handed over with nothing open. -/
theorem spec_handOver : Spec 0 handOver fun _ held' ↦ held' = 0 := by
  intro r hr
  have hs : tableSystem.step ⟨r.next, 0⟩ .handedOver = some ⟨r.next, 0⟩ := by
    change (if (0 : Multiset Nat) = 0 then some (⟨r.next, 0⟩ : Table) else none) = _
    rw [if_pos rfl]
  exact ⟨0, holds_append hr hs, rfl⟩

/-- A program that starts and ends with nothing open keeps a balanced record. -/
theorem Spec.balanced {prog : Prog α} (h : Spec 0 prog fun _ held' ↦ held' = 0) :
    Balanced (prog .empty).2.ops := by
  obtain ⟨held', hr, hzero⟩ := h .empty rfl
  exact balanced_of_run hr hzero

end Rules

end Descriptors
