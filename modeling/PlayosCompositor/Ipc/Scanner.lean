import PlayosCompositor.Base.JsonText
import PlayosCompositor.Ipc.Json

/-!
# The scanner of `json_get_string` in a JSON text

The scanner tests for the key at every quote. In a string literal the test can succeed only
before the closing quote: at the opening quote, or at an escaped quote that the key follows. What
is found in an object is `scanMembers` of its members.
-/

namespace PlayosCompositor

open JsonText (Spaces Value MemberWritten MembersWritten readObject comma closeBrace)

/-! ### Identifiers and contents -/

/-- Letters, digits and the underscore. -/
def isIdentifierByte (b : UInt8) : Bool :=
  0x30 ≤ b ∧ b ≤ 0x39 ∨ 0x41 ≤ b ∧ b ≤ 0x5a ∨ 0x61 ≤ b ∧ b ≤ 0x7a ∨ b = 0x5f

/-- A string of letters, digits and underscores. -/
structure Identifier extends CString where
  plain : ∀ b ∈ bytes, isIdentifierByte b = true

/-- `launch_token`. -/
def launchTokenName : Identifier := ⟨.ofString "launch_token", List.all_eq_true.mp (by decide)⟩

/-- `game_id`. -/
def gameIdName : Identifier := ⟨.ofString "game_id", List.all_eq_true.mp (by decide)⟩

/-- The content of a string literal: no bare quote, and a byte after every backslash. -/
inductive RawContent : List UInt8 → Prop
  | nil : RawContent []
  | plain {b : UInt8} {raw : List UInt8} (hq : b ≠ quote) (he : b ≠ backslash)
      (h : RawContent raw) : RawContent (b :: raw)
  | escape {b : UInt8} {raw : List UInt8} (h : RawContent raw) :
    RawContent (backslash :: b :: raw)

private theorem rawContent_of_plain {bytes : List UInt8}
    (h : ∀ b ∈ bytes, isIdentifierByte b = true) : RawContent bytes := by
  induction bytes with
  | nil => exact .nil
  | cons b bytes ih =>
    have hb := h b List.mem_cons_self
    refine .plain ?_ ?_ (ih fun c hc ↦ h c (List.mem_cons_of_mem b hc))
    · rintro rfl
      exact absurd hb (by decide)
    · rintro rfl
      exact absurd hb (by decide)

/-- An identifier needs no escapes. -/
theorem Identifier.rawContent (key : Identifier) : RawContent key.bytes :=
  rawContent_of_plain key.plain

/-- The compositor reads such a content whole. -/
theorem stringContent_rawContent {raw : List UInt8} (h : RawContent raw) (rest : List UInt8) :
    stringContent false (raw ++ quote :: rest) = some raw := by
  induction h with
  | nil => rfl
  | plain hq he _ ih =>
    rw [List.cons_append, stringContent, if_neg hq, decide_eq_false he, ih]
    rfl
  | escape _ ih =>
    rw [List.cons_append, List.cons_append, stringContent, if_neg (by decide),
      decide_eq_true rfl, stringContent, ih]
    rfl

/-- One byte of a content: only a backslash that is not escaped itself opens an escape, and
neither a quote nor a NUL stands unescaped. -/
theorem next_cases {place next : JsonText.Place} {b : UInt8}
    (h : place.next b = some next) : b ≠ 0 ∧
      ((place = .escape ∧ next ≠ .escape) ∨
        (place ≠ .escape ∧ b ≠ quote ∧ (b = backslash ↔ next = .escape))) := by
  cases place with
  | plain =>
    obtain ⟨hb, hn⟩ := Option.ite_none_left_eq_some.mp h
    rw [not_or] at hb
    refine ⟨fun h0 ↦ hb.2 (by rw [h0]; decide), Or.inr ⟨by decide, hb.1, ?_⟩⟩
    split at hn
    · next he => exact iff_of_true he (Option.some.inj hn).symm
    · next he =>
      refine iff_of_false he fun h' ↦ ?_
      rw [h'] at hn
      exact nomatch hn
  | escape =>
    rw [JsonText.Place.next] at h
    split at h
    · next hb => exact ⟨by rw [hb]; decide, Or.inl ⟨rfl, by rw [← Option.some.inj h]; decide⟩⟩
    · obtain ⟨hb, hn⟩ := Option.ite_none_right_eq_some.mp h
      refine ⟨fun h0 ↦ ?_, Or.inl ⟨rfl, by rw [← Option.some.inj hn]; decide⟩⟩
      rw [h0] at hb
      exact absurd hb (by decide)
  | hex left =>
    have hhex : JsonText.isHex b ∧ next ≠ .escape := by
      cases left with
      | zero =>
        obtain ⟨hb, hn⟩ := Option.ite_none_right_eq_some.mp h
        exact ⟨hb, by rw [← Option.some.inj hn]; decide⟩
      | succ left =>
        obtain ⟨hb, hn⟩ := Option.ite_none_right_eq_some.mp h
        exact ⟨hb, by rw [← Option.some.inj hn]; simp⟩
    obtain ⟨hb, hn⟩ := hhex
    refine ⟨fun h0 ↦ ?_, Or.inr ⟨by simp, fun hq ↦ ?_, iff_of_false (fun he ↦ ?_) hn⟩⟩
    · rw [h0] at hb
      exact absurd hb (by decide)
    · rw [hq] at hb
      exact absurd hb (by decide)
    · rw [he] at hb
      exact absurd hb (by decide)

/-- What stands between the quotes of a JSON string is such a content. -/
theorem rawContent_of_closed {raw : List UInt8}
    (h : JsonText.Place.plain.run raw = some .plain) : RawContent raw := by
  -- a reader after a backslash has the backslash still to count
  suffices hplace : ∀ place : JsonText.Place, place.run raw = some .plain →
      RawContent (if place = .escape then backslash :: raw else raw) from hplace .plain h
  clear h
  induction raw with
  | nil =>
    intro place h
    cases Option.some.inj h
    exact .nil
  | cons b raw ih =>
    intro place h
    obtain ⟨next, hn, hr⟩ := Option.bind_eq_some_iff.mp h
    have ih := ih next hr
    rcases (next_cases hn).2 with ⟨rfl, hne⟩ | ⟨hp, hq, he⟩
    · rw [if_neg hne] at ih
      exact .escape ih
    · rw [if_neg hp]
      by_cases hne : next = .escape
      · rw [if_pos hne] at ih
        rwa [he.mpr hne]
      · rw [if_neg hne] at ih
        exact .plain hq (fun hb ↦ hne (he.mp hb)) ih

/-- No NUL stands in a JSON string. -/
theorem zero_notMem_of_run {place : JsonText.Place} {raw : List UInt8}
    (h : place.run raw = some .plain) : 0 ∉ raw := by
  induction raw generalizing place with
  | nil => exact List.not_mem_nil
  | cons b raw ih =>
    obtain ⟨next, hn, hr⟩ := Option.bind_eq_some_iff.mp h
    rw [List.mem_cons, not_or]
    exact ⟨Ne.symm (next_cases hn).1, ih hr⟩

/-! ### Over a string literal -/

/-- The key ends the literal, and a quote stands before it. -/
def EndsLiteral (key raw : List UInt8) : Prop := quote :: key <:+ quote :: raw

instance (key raw : List UInt8) : Decidable (EndsLiteral key raw) :=
  inferInstanceAs (Decidable (_ <:+ _))

section Literal

variable {key : List UInt8} (hkey : ∀ b ∈ key, isIdentifierByte b = true)

include hkey in
private theorem notMem_key {b : UInt8} (hb : isIdentifierByte b = false) : b ∉ key :=
  fun h ↦ Bool.false_ne_true (hb.symm.trans (hkey b h))

/-- Only the part behind the last quote of a literal matters. -/
private theorem endsLiteral_append (hq : quote ∉ key) (before raw : List UInt8) :
    EndsLiteral key (before ++ quote :: raw) ↔ EndsLiteral key raw := by
  have hsuffix : quote :: raw <:+ quote :: (before ++ quote :: raw) :=
    (List.suffix_append before _).trans (List.suffix_cons _ _)
  refine ⟨fun h ↦ ?_, fun h ↦ h.trans hsuffix⟩
  rcases List.suffix_or_suffix_of_suffix h hsuffix with h | h
  · exact h
  · rcases List.suffix_cons_iff.mp h with he | hm
    · obtain rfl := (List.cons.inj he).2
      exact List.suffix_refl _
    · exact absurd (hm.subset List.mem_cons_self) hq

private theorem endsLiteral_iff {raw : List UInt8} (hr : quote ∉ raw) :
    EndsLiteral key raw ↔ raw = key := by
  refine ⟨fun h ↦ ?_, fun h ↦ h ▸ List.suffix_refl _⟩
  rcases List.suffix_cons_iff.mp h with he | hm
  · exact (List.cons.inj he).2.symm
  · exact absurd (hm.subset List.mem_cons_self) hr

/-- Between two quotes the test looks for the key itself. -/
theorem findString_quoted (hq : quote ∉ key) {raw : List UInt8} (hr : quote ∉ raw)
    (rest : List UInt8) : findString key (quote :: raw ++ quote :: rest) =
      if raw = key then memberString rest else findString key (quote :: rest) := by
  have hstands : (key ++ [quote]).isPrefixOf (raw ++ quote :: rest) = true ↔ raw = key := by
    rw [List.isPrefixOf_iff_prefix]
    constructor
    · rintro ⟨tail, ht⟩
      have htake : ∀ bs : List UInt8, quote ∉ bs → ∀ tail,
          (bs ++ quote :: tail).takeWhile (· ≠ quote) = bs := by
        intro bs hbs tail
        have hpos : ∀ b ∈ bs, decide (b ≠ quote) = true :=
          fun b hb ↦ decide_eq_true fun h ↦ hbs (h ▸ hb)
        rw [List.takeWhile_append_of_pos hpos]
        simp
      rw [List.append_assoc] at ht
      have hw := congrArg (List.takeWhile (· ≠ quote)) ht
      rw [List.singleton_append, htake key hq, htake raw hr] at hw
      exact hw.symm
    · rintro rfl
      exact ⟨rest, by simp⟩
  rw [List.cons_append, findString]
  by_cases h : raw = key
  · rw [if_pos ⟨rfl, hstands.mpr h⟩, if_pos h, h, ← List.drop_drop, List.drop_left]
    rfl
  · rw [if_neg fun hp ↦ h (hstands.mp hp.2), if_neg h, findString_skip _ hr]

include hkey in
/-- A literal is a hit exactly if the key ends it. -/
theorem findString_literal {raw : List UInt8} (h : RawContent raw) (rest : List UInt8) :
    findString key (quote :: raw ++ quote :: rest) =
      if EndsLiteral key raw then memberString rest else findString key (quote :: rest) := by
  have hq : quote ∉ key := notMem_key hkey (by decide)
  -- what has been read since the last quote is `before`
  suffices hbefore : ∀ before, quote ∉ before →
      findString key (quote :: (before ++ raw) ++ quote :: rest) =
        if EndsLiteral key (before ++ raw) then memberString rest
        else findString key (quote :: rest) from hbefore [] List.not_mem_nil
  induction h with
  | nil =>
    intro before hb
    rw [List.append_nil, findString_quoted hq hb]
    simp only [endsLiteral_iff hb]
  | @plain b raw hne _ _ ih =>
    intro before hb
    have := ih (before ++ [b]) (by simp [hb, hne.symm])
    simpa using this
  | @escape b raw _ ih =>
    intro before hb
    have hslash : quote ∉ before ++ [backslash] := List.not_mem_append hb (by decide)
    by_cases he : b = quote
    · -- the escaped quote looks like an opening one
      have hne : before ++ [backslash] ≠ key := by
        rintro rfl
        exact absurd (hkey backslash (by simp)) (by decide)
      have hsplit : before ++ backslash :: b :: raw = (before ++ [backslash]) ++ quote :: raw := by
        rw [he, List.append_assoc, List.singleton_append]
      have hskip : ∀ tail, findString key (quote :: (before ++ [backslash] ++ quote :: tail)) =
          findString key (quote :: tail) := by
        intro tail
        rw [← List.cons_append, findString_quoted hq hslash, if_neg hne]
      rw [hsplit, List.cons_append, List.append_assoc, List.cons_append, hskip]
      simp only [endsLiteral_append hq]
      exact ih [] List.not_mem_nil
    · have hpair : quote ∉ [backslash, b] :=
        List.not_mem_cons_of_ne_of_not_mem (by decide) (by simpa using Ne.symm he)
      have hbytes : quote ∉ before ++ [backslash, b] := List.not_mem_append hb hpair
      have := ih (before ++ [backslash, b]) hbytes
      simpa using this

include hkey in
/-- Between two members, or a name and its value, no key stands. -/
theorem findString_between {space : List UInt8} (hs : Spaces space) {c : UInt8}
    (hc : isIdentifierByte c = false) (hq : c ≠ quote) (rest : List UInt8) :
    findString key (quote :: space ++ c :: rest) = findString key rest := by
  have hspace : ∀ b ∈ space, isIdentifierByte b = false ∧ b ≠ quote := by
    intro b hb
    rcases of_decide_eq_true (hs b hb) with rfl | rfl | rfl | rfl <;> decide
  -- the first byte behind the quote is neither a quote nor part of a key
  have hclose : ∀ b tail, isIdentifierByte b = false → b ≠ quote →
      findString key (quote :: b :: tail) = findString key (b :: tail) := by
    intro b tail hb hne
    rw [findString, if_neg]
    rintro ⟨-, hp⟩
    cases key with
    | nil => simp [hne.symm] at hp
    | cons k key =>
      simp only [List.cons_append, List.isPrefixOf_cons_cons, Bool.and_eq_true, beq_iff_eq] at hp
      exact notMem_key hkey hb (hp.1 ▸ List.mem_cons_self)
  have hskip : quote ∉ space ++ [c] :=
    List.not_mem_append (fun hm ↦ (hspace _ hm).2 rfl) (by simpa using hq.symm)
  calc findString key (quote :: space ++ c :: rest)
      = findString key (space ++ c :: rest) := by
        cases space with
        | nil => exact hclose c rest hc hq
        | cons b space =>
          obtain ⟨hb, hne⟩ := hspace b List.mem_cons_self
          exact hclose b (space ++ c :: rest) hb hne
    _ = findString key ((space ++ [c]) ++ rest) := by
        rw [List.append_assoc, List.singleton_append]
    _ = findString key rest := findString_skip key hskip rest

/-! ### Over an object -/

/-- Both readers skip the same bytes. -/
private theorem dropWhile_spaces {space : List UInt8} (hs : Spaces space) {c : UInt8}
    (hc : JsonText.isSpace c = false) (rest : List UInt8) :
    (space ++ c :: rest).dropWhile isSpace = c :: rest := by
  have hsame : ∀ b, isSpace b = JsonText.isSpace b :=
    fun b ↦ decide_eq_decide.mpr (or_congr_right (or_congr_right or_comm))
  have hpos : ∀ b ∈ space, isSpace b = true := fun b hb ↦ (hsame b).trans (hs b hb)
  rw [List.dropWhile_append_of_pos hpos, List.dropWhile_cons_of_neg]
  rw [hsame, hc]
  decide

/-- Behind a colon stands a string, or another value. -/
private theorem memberString_colon {between after : List UInt8} (hb : Spaces between)
    (ha : Spaces after) {c : UInt8} (hc : JsonText.isSpace c = false) (rest : List UInt8) :
    memberString (between ++ colon :: (after ++ c :: rest)) =
      if c = quote then stringContent false rest else none := by
  rw [memberString, dropWhile_spaces hb (by decide)]
  dsimp only
  rw [if_pos rfl, dropWhile_spaces ha hc]

private theorem memberString_value {between after text : List UInt8} (hb : Spaces between)
    (ha : Spaces after) {value : Value} (hv : value.Written text) (rest : List UInt8) :
    memberString (between ++ colon :: after ++ text ++ rest) = value.string? := by
  have hsplit : between ++ colon :: after ++ text ++ rest =
      between ++ colon :: (after ++ (text ++ rest)) := by
    simp
  rw [hsplit]
  cases hv with
  | @string raw hclosed =>
    have hquote : JsonText.quote :: raw ++ [JsonText.quote] ++ rest =
        quote :: (raw ++ quote :: rest) := by
      simp [quote]
    rw [hquote, memberString_colon hb ha (by decide), if_pos rfl]
    exact stringContent_rawContent (rawContent_of_closed hclosed) rest
  | @scalar _ b text hv hspace hq =>
    have hne : b ≠ quote := fun he ↦ hq (he ▸ List.mem_cons_self)
    rw [List.cons_append, memberString_colon hb ha hspace, if_neg hne, hv]

/-- Behind a value stands no string. -/
theorem memberString_end {after : List UInt8} (ha : Spaces after) {c : UInt8}
    (hc : JsonText.isSpace c = false) (hne : c ≠ colon) (rest : List UInt8) :
    memberString (after ++ c :: rest) = none := by
  rw [memberString, dropWhile_spaces ha hc]
  exact if_neg hne

/-- What the scanner finds among the members of an object: it takes the string of the first name
that the key ends, and gives up at a string value that the key ends. -/
def scanMembers (key : List UInt8) : List (List UInt8 × Value) → Option (List UInt8)
  | [] => none
  | (name, value) :: members =>
    if EndsLiteral key name then value.string?
    else if ∃ raw ∈ value.string?, EndsLiteral key raw then none
    else scanMembers key members

private theorem quote_notMem_spaces {space : List UInt8} (hs : Spaces space) : quote ∉ space :=
  fun h ↦ absurd (hs quote h) (by decide)

include hkey in
/-- What the scanner finds from a member on. -/
private theorem findString_member {name text : List UInt8} {value : Value}
    (hm : MemberWritten (name, value) text) {after : List UInt8} (ha : Spaces after) {c : UInt8}
    (hc : c = comma ∨ c = closeBrace) (rest : List UInt8) :
    findString key (text ++ after ++ c :: rest) =
      if EndsLiteral key name then value.string?
      else if ∃ raw ∈ value.string?, EndsLiteral key raw then none
      else findString key rest := by
  obtain ⟨hid, hquote, hspace, hcolon⟩ : isIdentifierByte c = false ∧ c ≠ quote ∧
      JsonText.isSpace c = false ∧ c ≠ colon := by
    rcases hc with rfl | rfl <;> decide
  cases hm with
  | @intro _ before between after' text _ hclosed hbefore hbetween hafter hv =>
    have hsplit : before ++ quote :: name ++ quote :: between ++ colon :: after' ++ text ++ after ++
        c :: rest = before ++ (quote :: name ++ quote ::
          (between ++ colon :: after' ++ text ++ (after ++ c :: rest))) := by
      simp
    change findString key (before ++ quote :: name ++ quote :: between ++ colon :: after' ++ text ++
      after ++ c :: rest) = _
    rw [hsplit, findString_skip key (quote_notMem_spaces hbefore),
      findString_literal hkey (rawContent_of_closed hclosed), memberString_value hbetween hafter hv]
    congr 1
    have hvalue : quote :: (between ++ colon :: after' ++ text ++ (after ++ c :: rest)) =
        quote :: between ++ colon :: (after' ++ (text ++ (after ++ c :: rest))) := by
      simp
    rw [hvalue, findString_between hkey hbetween (by decide) (by decide),
      findString_skip key (quote_notMem_spaces hafter)]
    cases hv with
    | @string raw hraw =>
      have hstring : JsonText.quote :: raw ++ [JsonText.quote] ++ (after ++ c :: rest) =
          quote :: raw ++ quote :: (after ++ c :: rest) := by
        simp [quote]
      rw [hstring, findString_literal hkey (rawContent_of_closed hraw),
        memberString_end ha hspace hcolon, ← List.cons_append,
        findString_between hkey ha hid hquote]
      simp [Value.string?]
    | @scalar _ b text hv _ hq =>
      have hskip : quote ∉ b :: text ++ after ++ [c] :=
        List.not_mem_append (List.not_mem_append hq (quote_notMem_spaces ha))
          (by simpa using hquote.symm)
      have hrest : b :: text ++ (after ++ c :: rest) = (b :: text ++ after ++ [c]) ++ rest := by
        simp
      rw [hrest, findString_skip key hskip, hv]
      simp

include hkey in
private theorem findString_members {members : List (List UInt8 × Value)} {text : List UInt8}
    (h : MembersWritten members text) {rest : List UInt8} (hr : quote ∉ rest) :
    findString key (text ++ rest) = scanMembers key members := by
  induction h with
  | @last member text after hm ha =>
    have hnone : findString key rest = none := by
      rw [← List.append_nil rest, findString_skip key hr]
      rfl
    rw [List.append_assoc, List.singleton_append, findString_member hkey hm ha (Or.inr rfl), hnone]
    rfl
  | @cons member members text after texts hm ha _ ih =>
    rw [List.append_assoc, List.cons_append, findString_member hkey hm ha (Or.inl rfl), ih]
    rfl

include hkey in
/-- In an object the scanner finds what `scanMembers` says. -/
theorem findString_object {members : List (List UInt8 × Value)} {text : List UInt8}
    (h : readObject text = some members) : findString key text = scanMembers key members := by
  cases JsonText.readObject_written h with
  | @empty before between after hbefore hbetween hafter =>
    have hopen : quote ∉ JsonText.openBrace :: between :=
      List.not_mem_cons_of_ne_of_not_mem (by decide) (quote_notMem_spaces hbetween)
    have hclose : quote ∉ closeBrace :: after :=
      List.not_mem_cons_of_ne_of_not_mem (by decide) (quote_notMem_spaces hafter)
    have hskip : quote ∉ before ++ JsonText.openBrace :: between ++ closeBrace :: after :=
      List.not_mem_append (List.not_mem_append (quote_notMem_spaces hbefore) hopen) hclose
    rw [← List.append_nil (before ++ _ ++ _), findString_skip key hskip]
    rfl
  | @members _ before text after hbefore hms hafter =>
    have hskip : quote ∉ before ++ [JsonText.openBrace] :=
      List.not_mem_append (quote_notMem_spaces hbefore) (by decide)
    have hsplit : before ++ JsonText.openBrace :: text ++ after =
        before ++ [JsonText.openBrace] ++ (text ++ after) := by
      simp
    rw [hsplit, findString_skip key hskip, findString_members hkey hms (quote_notMem_spaces hafter)]

end Literal

end PlayosCompositor
