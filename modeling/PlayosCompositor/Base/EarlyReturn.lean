import PlayosCompositor.Base.Transition

/-!
# Code that may return early

Code with a state, which goes on with a value or returns early. `Ensures` tells what holds in
either case. Code that keeps a log of what it does is checked against a protocol, a transition
system that replays the log.
-/

namespace EarlyReturn

variable {σ α β : Type}

/-- Code that goes on with a value, or with none. -/
abbrev Code (σ α : Type) := OptionT (StateM σ) α

/-- The state is changed. -/
def change (f : σ → σ) : Code σ Unit := fun s ↦ (some (), f s)

/-- The code returns early. -/
def leave : Code σ α := fun s ↦ (none, s)

/-- After an early return nothing follows. -/
theorem bind_apply (code : Code σ α) (next : α → Code σ β) (s : σ) :
    (code >>= next) s = (code s).1.elim (none, (code s).2) fun a ↦ next a (code s).2 := by
  simp only [bind, OptionT.bind, OptionT.mk, StateT.bind]
  rcases code s with ⟨_ | a, t⟩ <;> rfl

/-- Started where `pre` holds, the code goes on as the one postcondition says, or returns early
as the other one says. -/
def Ensures (pre : σ → Prop) (code : Code σ α) (goesOn : α → σ → Prop) (leaves : σ → Prop) :
    Prop :=
  ∀ s, pre s → ((code s).1.elim (leaves (code s).2) fun a ↦ goesOn a (code s).2)

namespace Ensures

variable {pre pre' : σ → Prop} {code : Code σ α} {goesOn goesOn' : α → σ → Prop}
  {leaves leaves' : σ → Prop}

/-- A value without an effect. -/
theorem pure {a : α} (h : ∀ s, pre s → goesOn a s) :
    Ensures pre (Pure.pure a : Code σ α) goesOn leaves := h

/-- A change of the state. -/
theorem change {f : σ → σ} {goesOn : Unit → σ → Prop} (h : ∀ s, pre s → goesOn () (f s)) :
    Ensures pre (change f) goesOn leaves := h

/-- A change of the state, and a value. -/
theorem change_pure {f : σ → σ} {a : α} (h : ∀ s, pre s → goesOn a (f s)) :
    Ensures pre (do EarlyReturn.change f; return a) goesOn leaves := h

/-- An early return. -/
theorem leave (h : ∀ s, pre s → leaves s) :
    Ensures pre (leave : Code σ α) goesOn leaves := h

/-- One piece of code after the other; both may return early. -/
theorem bind {next : α → Code σ β} {post : β → σ → Prop} (h : Ensures pre code goesOn leaves)
    (hn : ∀ a, Ensures (goesOn a) (next a) post leaves) :
    Ensures pre (code >>= next) post leaves := by
  intro s hs
  have hc := h s hs
  rw [bind_apply]
  rcases hcode : code s with ⟨_ | a, t⟩
  · rw [hcode] at hc
    exact hc
  · rw [hcode] at hc
    exact hn a t hc

/-- Less can be said of a code that starts with more. -/
theorem mono (h : Ensures pre' code goesOn' leaves') (hp : ∀ s, pre s → pre' s)
    (hg : ∀ a s, goesOn' a s → goesOn a s) (hl : ∀ s, leaves' s → leaves s) :
    Ensures pre code goesOn leaves := by
  intro s hs
  have hc := h s (hp s hs)
  rcases hcode : code s with ⟨_ | a, t⟩
  · rw [hcode] at hc
    exact hl t hc
  · rw [hcode] at hc
    exact hg a t hc

/-- A decision that the state does not take part in. -/
theorem ite {c : Prop} [Decidable c] {other : Code σ α} (h : c → Ensures pre code goesOn leaves)
    (ho : ¬c → Ensures pre other goesOn leaves) :
    Ensures pre (if c then code else other) goesOn leaves := by
  split
  · next hc => exact h hc
  · next hc => exact ho hc

/-- A precondition may say something that is not about the state. -/
theorem of_fact {fact : Prop} (h : fact → Ensures pre code goesOn leaves) :
    Ensures (fun s ↦ fact ∧ pre s) code goesOn leaves :=
  fun s hs ↦ h hs.1 s hs.2

end Ensures

end EarlyReturn
