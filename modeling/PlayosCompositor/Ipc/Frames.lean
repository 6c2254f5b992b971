import PlayosCompositor.Ipc.Members
import PlayosCompositor.Ipc.RoundTrip

/-!
# Frames with any number of string members

What the scanner finds in the body that `frame_send` writes around a type and string members,
such as those of SetExpectedGame: what `scanMembers` says of the type and the members.
-/

namespace PlayosCompositor

open Memory
open JsonText (Spaces openBrace closeBrace comma)

/-- A member whose value is a string. -/
structure StringMember where
  name : Identifier
  content : ContentString

namespace StringMember

/-- `"name":"content"`. -/
def text (m : StringMember) : CString := extraMember m.name m.content

/-- The member as a reader of JSON takes it. -/
def entry (m : StringMember) : List UInt8 × JsonText.Value :=
  (m.name.bytes, .string m.content.bytes)

/-- The members behind the first one, each after a comma. -/
def more : List StringMember → CString
  | [] => .empty
  | m :: ms => .ofString "," ++ m.text ++ more ms

/-- The members with commas between them. -/
def texts : List StringMember → CString
  | [] => .empty
  | m :: ms => m.text ++ more ms

private theorem bytes_text (m : StringMember) : m.text.bytes =
    quote :: m.name.bytes ++ quote :: colon :: (quote :: m.content.bytes ++ [quote]) := by
  simp only [text, extraMember, CString.bytes_append, List.append_assoc]
  rfl

end StringMember

section Scan

variable (key : Identifier)

private theorem quote_notMem_identifier (name : Identifier) : quote ∉ name.bytes :=
  fun h ↦ absurd (name.plain quote h) (by decide)

/-- Identifiers have no quotes, so one ends another only if it is the other. -/
private theorem endsLiteral_identifier (name : Identifier) :
    EndsLiteral key.bytes name.bytes ↔ name.bytes = key.bytes := by
  constructor
  · intro h
    rcases List.suffix_cons_iff.mp h with he | hm
    · exact (List.cons.inj he).2.symm
    · exact absurd (hm.subset List.mem_cons_self) (quote_notMem_identifier name)
  · intro h
    exact List.suffix_cons_iff.mpr (Or.inl (by rw [h]))

/-- A comma or a closing brace follows every member. -/
private theorem findString_text (m : StringMember) {c : UInt8} (hc : c = comma ∨ c = closeBrace)
    (rest : List UInt8) : findString key.bytes (m.text.bytes ++ c :: rest) =
      if m.name.bytes = key.bytes then some m.content.bytes
      else if EndsLiteral key.bytes m.content.bytes then none
      else findString key.bytes rest := by
  obtain ⟨hid, hquote, hspace, hcolon⟩ : isIdentifierByte c = false ∧ c ≠ quote ∧
      JsonText.isSpace c = false ∧ c ≠ colon := by
    rcases hc with rfl | rfl <;> decide
  have hnone : Spaces [] := fun b hb ↦ absurd hb List.not_mem_nil
  have hsplit : m.text.bytes ++ c :: rest = quote :: m.name.bytes ++ quote ::
      (colon :: (quote :: m.content.bytes ++ quote :: c :: rest)) := by
    rw [m.bytes_text]
    simp
  rw [hsplit, findString_quoted (quote_notMem_identifier key) (quote_notMem_identifier m.name)]
  split
  · exact stringContent_rawContent m.content.raw _
  · have hcolonSkip : findString key.bytes
        (quote :: colon :: (quote :: m.content.bytes ++ quote :: c :: rest)) =
          findString key.bytes (quote :: m.content.bytes ++ quote :: c :: rest) :=
      findString_between key.plain hnone (by decide) (by decide) _
    have hend : memberString (c :: rest) = none := memberString_end hnone hspace hcolon rest
    have hskip : findString key.bytes (quote :: c :: rest) = findString key.bytes rest :=
      findString_between key.plain hnone hid hquote rest
    rw [hcolonSkip, findString_literal key.plain m.content.raw, hend, hskip]

/-- What `scanMembers` finds from a member on. -/
theorem scanMembers_entry (m : StringMember) (members : List (List UInt8 × JsonText.Value)) :
    scanMembers key.bytes (m.entry :: members) =
      if m.name.bytes = key.bytes then some m.content.bytes
      else if EndsLiteral key.bytes m.content.bytes then none
      else scanMembers key.bytes members := by
  rw [StringMember.entry, scanMembers]
  simp [endsLiteral_identifier, JsonText.Value.string?]

/-- What the scanner finds from a member to the closing brace. -/
private theorem findString_texts (m : StringMember) (ms : List StringMember) :
    findString key.bytes ((StringMember.texts (m :: ms)).bytes ++ [closeBrace]) =
      scanMembers key.bytes ((m :: ms).map StringMember.entry) := by
  induction ms generalizing m with
  | nil =>
    have hbytes : (StringMember.texts [m]).bytes = m.text.bytes := List.append_nil _
    rw [hbytes, findString_text key m (Or.inr rfl), List.map_cons, scanMembers_entry]
    rfl
  | cons n ms ih =>
    have hbytes : (StringMember.texts (m :: n :: ms)).bytes ++ [closeBrace] =
        m.text.bytes ++ comma :: ((StringMember.texts (n :: ms)).bytes ++ [closeBrace]) := by
      simp only [StringMember.texts, StringMember.more, CString.bytes_append, List.append_assoc]
      rfl
    have hentries : (m :: n :: ms).map StringMember.entry =
        m.entry :: (n :: ms).map StringMember.entry := rfl
    rw [hbytes, findString_text key m (Or.inl rfl), ih n, hentries, scanMembers_entry]

end Scan

/-! ### The body of a frame -/

/-- A frame around short strings can be sent. -/
theorem exists_frameBytes {type extraJson : CString}
    (h : type.bytes.length + extraJson.bytes.length < 65000) :
    ∃ bytes, frameBytes type extraJson = some bytes := by
  have hopen : (CString.ofString "\x7b\"v\":1,\"type\":\"").bytes.length = 15 := by decide
  have hcomma : (CString.ofString "\",").bytes.length = 2 := by decide
  have hclose : (CString.ofString "\x7d").bytes.length = 1 := by decide
  have hquoted : (CString.ofString "\"\x7d").bytes.length = 2 := by decide
  have hbody : ¬ (frameBody type extraJson).bytes.length ≥ ipcMaxBody.toNat := by
    change ¬ 65536 ≤ _
    unfold frameBody
    split <;> simp only [CString.bytes_append, List.length_append] <;> omega
  exact ⟨_, if_neg hbody⟩

private theorem plain_type : ∀ b ∈ (CString.ofString "type").bytes, isIdentifierByte b = true :=
  List.all_eq_true.mp (by decide)

/-- `type`, as a member. -/
def typeMember (type : Identifier) : StringMember where
  name := ⟨.ofString "type", plain_type⟩
  content := ⟨type.toCString, type.rawContent⟩

/-- The body of the frame with these members. -/
def bodyOf (type : Identifier) (ms : List StringMember) : List UInt8 :=
  (frameBody type.toCString (StringMember.texts ms)).bytes

/-- The body opens with the version, and the type is the first of its string members. -/
private theorem bodyOf_eq (type : Identifier) (ms : List StringMember) :
    bodyOf type ms = [openBrace] ++ (quote :: (CString.ofString "v").bytes ++
      quote :: colon :: ([0x31, comma] ++
        ((StringMember.texts (typeMember type :: ms)).bytes ++ [closeBrace]))) := by
  have htexts : (StringMember.texts (typeMember type :: ms)).bytes =
      (typeMember type).text.bytes ++ (StringMember.more ms).bytes := rfl
  rw [htexts, StringMember.bytes_text]
  unfold bodyOf frameBody
  cases ms with
  | nil =>
    rw [if_neg (by simp [StringMember.texts, CString.empty])]
    simp only [CString.bytes_append, List.append_assoc, List.cons_append, List.nil_append]
    rfl
  | cons m ms =>
    have hne : (StringMember.texts (m :: ms)).bytes ≠ [] := by
      intro h
      rw [StringMember.texts, CString.bytes_append, StringMember.bytes_text] at h
      simp at h
    rw [if_pos hne]
    simp only [StringMember.texts, StringMember.more, CString.bytes_append, List.append_assoc,
      List.cons_append, List.nil_append]
    rfl

/-- In a frame's body the scanner finds what `scanMembers` says of the type and the members. -/
theorem findString_bodyOf (key type : Identifier) (ms : List StringMember)
    (hkey : (CString.ofString "v").bytes ≠ key.bytes) :
    findString key.bytes (bodyOf type ms) =
      scanMembers key.bytes ((typeMember type :: ms).map StringMember.entry) := by
  have hnone : Spaces [] := fun b hb ↦ absurd hb List.not_mem_nil
  rw [bodyOf_eq, findString_skip _ (by decide),
    findString_quoted (quote_notMem_identifier key) (by decide), if_neg hkey]
  have hcolon : ∀ rest, findString key.bytes (quote :: colon :: rest) =
      findString key.bytes rest :=
    fun rest ↦ findString_between key.plain hnone (by decide) (by decide) rest
  rw [hcolon, findString_skip _ (by decide)]
  exact findString_texts key (typeMember type) ms

end PlayosCompositor
