import PlayosCompositor.Ipc.Scanner

/-!
# The member that `json_get_string` reads

The first member with the name that is asked for, for the well-formed objects in which the
scanner meets no other literal that the key ends.
-/

namespace PlayosCompositor

open Memory
open JsonText (Value readObject)

/-- A text that is a JSON object of scalars. -/
structure JsonObject where
  text : List UInt8
  members : List (List UInt8 × Value)
  read : readObject text = some members

/-- The string of the first member with this name. -/
def namedString (key : List UInt8) (members : List (List UInt8 × Value)) : Option (List UInt8) :=
  (members.lookup key).bind Value.string?

/-- The call reads the member that it is asked for, whatever the size of the buffer. -/
def ReadsMember (key : Identifier) (object : JsonObject) : Prop :=
  ∀ fuel out, object.text.length < fuel → 0 < out.length →
    jsonGetString fuel object.text key.toCString out =
      .ok (answer out (namedString key.bytes object.members))

/-- Up to the first member with this name, a name that the key ends behind an escaped quote has
the value that is asked for, and a string value that the key ends stands only where no string is
asked for. -/
def Answerable (key : List UInt8) : List (List UInt8 × Value) → Prop
  | [] => True
  | (name, value) :: members =>
    if name = key then True
    else if EndsLiteral key name then value.string? = namedString key members
    else if ∃ raw ∈ value.string?, EndsLiteral key raw then namedString key members = none
    else Answerable key members

/-- Behind the terminator the buffer is as it was. -/
private theorem length_le_of_ones {v w tail : List UInt8} {n : Nat}
    (h : v ++ 0 :: List.replicate n 1 = w ++ 0 :: tail) : w.length ≤ v.length := by
  by_contra hlt
  obtain ⟨k, hk⟩ : ∃ k, w.length = v.length + (k + 1) := ⟨w.length - v.length - 1, by omega⟩
  have hat := congrArg (·[w.length]?) h
  simp [hk, List.getElem?_append_right, List.getElem?_replicate] at hat

private theorem answer_inj {found found' : Option (List UInt8)}
    (h : ∀ out : List UInt8, 0 < out.length → answer out found = answer out found') :
    found = found' := by
  cases found with
  | none =>
    cases found' with
    | none => rfl
    | some w => exact absurd (congrArg Prod.fst (h [0] (by decide))) (by simp [answer])
  | some v =>
    cases found' with
    | none => exact absurd (congrArg Prod.fst (h [0] (by decide))) (by simp [answer])
    | some w =>
      -- a buffer of ones that has room for both
      have hones := h (List.replicate (v.length + w.length + 1) 1) (by simp)
      have hv : v.take (v.length + w.length) = v := List.take_of_length_le (by omega)
      have hw : w.take (v.length + w.length) = w := List.take_of_length_le (by omega)
      simp only [answer, stored, List.length_replicate, Nat.add_sub_cancel, hv, hw,
        List.drop_replicate, Prod.mk.injEq, true_and] at hones
      have hlen := Nat.le_antisymm (length_le_of_ones hones.symm) (length_le_of_ones hones)
      rw [(List.append_inj hones hlen).1]

private theorem scanMembers_eq_iff (key : List UInt8) (members : List (List UInt8 × Value)) :
    scanMembers key members = namedString key members ↔ Answerable key members := by
  induction members with
  | nil => exact iff_of_true rfl trivial
  | cons member members ih =>
    obtain ⟨name, value⟩ := member
    unfold scanMembers Answerable
    by_cases hn : name = key
    · subst hn
      have hends : EndsLiteral name name := List.suffix_refl _
      rw [if_pos hends, if_pos rfl]
      refine iff_of_true ?_ trivial
      simp [namedString]
    · have hlookup : namedString key ((name, value) :: members) = namedString key members := by
        have hne : (key == name) = false := by simpa using Ne.symm hn
        rw [namedString, List.lookup_cons, hne]
        rfl
      rw [if_neg hn, hlookup]
      split
      · exact Iff.rfl
      · split
        · exact eq_comm
        · exact ih

/-- The call reads the member that it is asked for exactly in the answerable objects. -/
theorem readsMember_iff (key : Identifier) (object : JsonObject) :
    ReadsMember key object ↔ Answerable key.bytes object.members := by
  rw [← scanMembers_eq_iff, ← findString_object key.plain object.read]
  have hcall : ∀ fuel out, object.text.length < fuel → 0 < out.length →
      jsonGetString fuel object.text key.toCString out =
        .ok (answer out (findString key.bytes object.text)) :=
    fun fuel out hf hout ↦ jsonGetString_eq hf hout key.toCString
  constructor
  · intro h
    refine answer_inj fun out hout ↦ ?_
    have hf := Nat.lt_succ_self object.text.length
    exact Except.ok.inj ((hcall _ out hf hout).symm.trans (h _ out hf hout))
  · intro h fuel out hf hout
    rw [hcall fuel out hf hout, h]

/-- A game that is called like a member. -/
def ambiguousObject : JsonObject where
  text := (CString.ofString "\x7b\"v\":1,\"type\":\"SetExpectedGame\"," ++
    .ofString "\"game_id\":\"launch_token\",\"launch_token\":\"t\"\x7d").bytes
  members := [((CString.ofString "v").bytes, .number [0x31]),
    ((CString.ofString "type").bytes, .string (CString.ofString "SetExpectedGame").bytes),
    ((CString.ofString "game_id").bytes, .string (CString.ofString "launch_token").bytes),
    ((CString.ofString "launch_token").bytes, .string [0x74])]
  read := by decide +kernel

/-- The value that is equal to the key ends the search, in front of the member. -/
theorem readsMember_fails : ¬ ReadsMember launchTokenName ambiguousObject ∧
    namedString launchTokenName.bytes ambiguousObject.members = some [0x74] ∧
      ∀ out : List UInt8, 0 < out.length →
        jsonGetString 200 ambiguousObject.text launchTokenName.toCString out = .ok (-1, out) := by
  have hcall : ∀ out : List UInt8, 0 < out.length →
      jsonGetString 200 ambiguousObject.text launchTokenName.toCString out = .ok (-1, out) := by
    intro out hout
    rw [jsonGetString_eq (by decide) hout,
      findString_object launchTokenName.plain ambiguousObject.read]
    rfl
  refine ⟨fun h ↦ ?_, by decide, hcall⟩
  have hread := (hcall [0] (by decide)).symm.trans (h 200 [0] (by decide) (by decide))
  exact absurd (congrArg Prod.fst (Except.ok.inj hread)) (by decide)

end PlayosCompositor
