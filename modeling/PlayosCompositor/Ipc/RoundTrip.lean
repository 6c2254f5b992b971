import PlayosCompositor.Ipc.Scanner
import PlayosCompositor.Ipc.Wire

/-!
# What is sent in a frame is read from it

The frame that `frame_send` writes for a type and one more member, through the checks of
`ipc_fd_handler` and two calls of `json_get_string`.
-/

namespace PlayosCompositor

open Memory
open JsonText (Spaces openBrace closeBrace comma)

/-- A string that can stand between quotes as it is. -/
structure ContentString extends CString where
  raw : RawContent bytes

/-- The extra member of a frame: `"key":"content"`. -/
def extraMember (key : Identifier) (content : ContentString) : CString :=
  .ofString "\"" ++ key.toCString ++ .ofString "\":\"" ++ content.toCString ++ .ofString "\""

/-- A call for the key leaves this string in every buffer that is larger. -/
def Reads (body : List UInt8) (key s : CString) : Prop :=
  ∀ fuel out, body.length < fuel → s.bytes.length < out.length →
    ∃ out', jsonGetString fuel body key out = .ok (0, out') ∧ loadString out' = .ok s

/-- A frame as its receiver takes it: it fits the buffer and passes the checks, and its body has
the type and the member. -/
structure Received (bytes body : List UInt8) (type key : Identifier) (content : ContentString) :
    Prop where
  fits : bytes.length ≤ ipcMaxFrame
  declared : declaredLength bytes = body.length
  checked : frameChecks bytes = .ok (some body)
  type : Reads body (.ofString "type") type.toCString
  member : Reads body key.toCString content.toCString

/-- A call leaves in a larger buffer what the scanner finds. -/
theorem reads_of_findString {body : List UInt8} {key s : CString}
    (h : findString key.bytes body = some s.bytes) : Reads body key s := by
  intro fuel out hf hout
  refine ⟨stored out s.bytes, ?_, ?_⟩
  · rw [jsonGetString_eq hf (by omega), h]
    rfl
  · change loadString (answer out (some s.bytes)).2 = _
    rw [loadString_answer]
    dsimp only
    rw [List.take_of_length_le (by omega)]
    congr 1
    apply CString.ext
    exact List.takeWhile_eq_self_iff.mpr fun b hb ↦ decide_eq_true fun h0 ↦ s.noNul (h0 ▸ hb)

/-- The body of a frame with one more member. -/
private theorem frameBody_extraMember (type key : Identifier) (content : ContentString) :
    (frameBody type.toCString (extraMember key content)).bytes =
      [openBrace] ++ (quote :: (CString.ofString "v").bytes ++ quote :: colon ::
        ([0x31, comma] ++ (quote :: (CString.ofString "type").bytes ++ quote :: colon ::
          (quote :: type.bytes ++ quote :: comma :: (quote :: key.bytes ++ quote :: colon ::
            (quote :: content.bytes ++ quote :: [closeBrace])))))) := by
  have hne : (extraMember key content).bytes ≠ [] := by
    intro h
    have hlen := congrArg List.length h
    simp only [extraMember, CString.bytes_append, List.length_append, List.length_nil,
      Nat.add_eq_zero_iff] at hlen
    exact absurd hlen.2 (by decide)
  rw [frameBody, if_pos hne]
  simp only [extraMember, CString.bytes_append, List.append_assoc]
  rfl

private theorem quote_notMem (key : Identifier) : quote ∉ key.bytes :=
  fun h ↦ absurd (key.plain quote h) (by decide)

/-- A literal that is not the key, and the byte behind it, hold no key. -/
private theorem findString_other (key : Identifier) {raw : List UInt8} (hraw : quote ∉ raw)
    (hne : raw ≠ key.bytes) {c : UInt8} (hc : isIdentifierByte c = false) (hq : c ≠ quote)
    (rest : List UInt8) :
    findString key.bytes (quote :: raw ++ quote :: c :: rest) = findString key.bytes rest := by
  rw [findString_quoted (quote_notMem key) hraw, if_neg hne]
  have hnone : Spaces [] := fun b hb ↦ absurd hb List.not_mem_nil
  exact findString_between key.plain hnone hc hq rest

/-- The key and a string behind a colon are a hit. -/
private theorem findString_hit (key : Identifier) {raw : List UInt8} (h : RawContent raw)
    (rest : List UInt8) :
    findString key.bytes (quote :: key.bytes ++ quote :: colon :: (quote :: raw ++ quote :: rest)) =
      some raw := by
  rw [findString_quoted (quote_notMem key) (quote_notMem key), if_pos rfl]
  exact stringContent_rawContent h rest

/-- `type`. -/
private def typeName : Identifier := ⟨.ofString "type", List.all_eq_true.mp (by decide)⟩

/-- What `frame_send` accepts is received with its type and its member; it rejects a body exactly
if that has more than `IPC_MAX_BODY - 1` bytes. -/
theorem frame_received (type key : Identifier) (content : ContentString)
    (hkey : key.bytes ∉
      [(CString.ofString "v").bytes, (CString.ofString "type").bytes, type.bytes]) :
    (frameBytes type.toCString (extraMember key content) = none ↔
      ipcMaxBody.toNat - 1 < (frameBody type.toCString (extraMember key content)).bytes.length) ∧
    ∀ bytes, frameBytes type.toCString (extraMember key content) = some bytes →
      Received bytes (frameBody type.toCString (extraMember key content)).bytes type key
        content := by
  simp only [List.mem_cons, List.not_mem_nil, or_false, not_or] at hkey
  obtain ⟨hv, ht, htype⟩ := hkey
  have hbody := frameBody_extraMember type key content
  have hreject : frameBytes type.toCString (extraMember key content) = none ↔
      ipcMaxBody.toNat - 1 < (frameBody type.toCString (extraMember key content)).bytes.length := by
    have hmax : ipcMaxBody.toNat = 65536 := rfl
    unfold frameBytes
    dsimp only
    split
    · exact iff_of_true rfl (by omega)
    · exact iff_of_false (Option.some_ne_none _) (by omega)
  refine ⟨hreject, fun bytes h ↦ ⟨?_, (layout_frameBytes h).declared, frameChecks_frameBytes h, ?_,
    ?_⟩⟩
  · have hfits := (layout_frameBytes h).fits
    rw [(layout_frameBytes h).length, ipcMaxFrame]
    omega
  · apply reads_of_findString
    change findString typeName.bytes _ = _
    rw [hbody, findString_skip _ (by decide),
      findString_other _ (by decide) (by decide) (by decide) (by decide),
      findString_skip _ (by decide)]
    exact findString_hit _ type.rawContent _
  · apply reads_of_findString
    rw [hbody, findString_skip _ (by decide),
      findString_other key (by decide) (Ne.symm hv) (by decide) (by decide),
      findString_skip _ (by decide),
      findString_other key (by decide) (Ne.symm ht) (by decide) (by decide),
      findString_other key (quote_notMem type) (Ne.symm htype) (by decide) (by decide)]
    exact findString_hit key content.raw _

/-- A string with an escaped quote. -/
def escapedContent : ContentString :=
  ⟨⟨[0x61, backslash, quote, 0x62], by decide⟩,
    .plain (by decide) (by decide) (.escape (.plain (by decide) (by decide) .nil))⟩

/-- `GameSurfaceReady`. -/
def readyType : Identifier := ⟨.ofString "GameSurfaceReady", List.all_eq_true.mp (by decide)⟩

/-- The theorem at GameSurfaceReady with such a token. -/
theorem frame_received_ready :
    ∃ bytes body, Received bytes body readyType launchTokenName escapedContent :=
  ⟨_, _, (frame_received _ _ escapedContent (by decide)).2 _ rfl⟩

end PlayosCompositor
