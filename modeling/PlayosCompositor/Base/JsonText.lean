import Mathlib.Data.List.Basic
import Mathlib.Data.List.TakeWhile
import Mathlib.Data.Option.Basic

/-!
# JSON objects of scalars

A strict reader of JSON objects whose values are strings, numbers and literals. Strings keep
their raw content: the bytes between the quotes, with the escapes that stand there. The
encoding of bytes above `0x7f` is not looked at.
-/

namespace JsonText

/-- `'"'`. -/
abbrev quote : UInt8 := 0x22

/-- `'\\'`. -/
abbrev backslash : UInt8 := 0x5c

/-- `':'`. -/
abbrev colon : UInt8 := 0x3a

/-- `','`. -/
abbrev comma : UInt8 := 0x2c

/-- The braces of an object. -/
abbrev openBrace : UInt8 := 0x7b

@[inherit_doc openBrace] abbrev closeBrace : UInt8 := 0x7d

/-- White space between tokens. -/
def isSpace (b : UInt8) : Bool := b = 0x20 ∨ b = 0x09 ∨ b = 0x0a ∨ b = 0x0d

/-- Drop white space. -/
def skipSpace (bs : List UInt8) : List UInt8 := bs.dropWhile isSpace

/-! ### Strings -/

/-- A decimal digit. -/
def isDigit (b : UInt8) : Bool := 0x30 ≤ b ∧ b ≤ 0x39

/-- A hexadecimal digit. -/
def isHex (b : UInt8) : Bool := isDigit b ∨ 0x41 ≤ b ∧ b ≤ 0x46 ∨ 0x61 ≤ b ∧ b ≤ 0x66

/-- Where a reader stands in a string: at a character, after a backslash, or before the last
`left + 1` digits of a code point. -/
inductive Place
  | plain
  | escape
  | hex (left : Nat)
  deriving DecidableEq, Repr

/-- The place after one more byte of the content, if the byte is allowed there. -/
def Place.next : Place → UInt8 → Option Place
  | .plain, b =>
    if b = quote ∨ b < 0x20 then none
    else if b = backslash then some .escape
    else some .plain
  | .escape, b =>
    if b = 0x75 then some (.hex 3)
    else if b ∈ [quote, backslash, 0x2f, 0x62, 0x66, 0x6e, 0x72, 0x74] then some .plain
    else none
  | .hex 0, b => if isHex b then some .plain else none
  | .hex (left + 1), b => if isHex b then some (.hex left) else none

/-- The place after a sequence of bytes. -/
def Place.run : Place → List UInt8 → Option Place
  | place, [] => some place
  | place, b :: rest => (place.next b).bind fun place ↦ place.run rest

/-- The raw content of a string: it neither closes the string nor leaves an escape open. -/
structure RawString where
  bytes : List UInt8
  closed : Place.plain.run bytes = some .plain

/-- The raw content up to the closing quote, and what follows it. -/
def readString : Place → List UInt8 → Option (List UInt8 × List UInt8)
  | _, [] => none
  | place, b :: rest =>
    if place = .plain ∧ b = quote then some ([], rest)
    else (place.next b).bind fun place ↦
      (readString place rest).map fun read ↦ (b :: read.1, read.2)

private theorem ne_quote_of_next {place next : Place} {b : UInt8} (h : place.next b = some next) :
    ¬ (place = .plain ∧ b = quote) := by
  rintro ⟨rfl, rfl⟩
  simp [Place.next] at h

/-- A string that is closed is read whole, whatever follows it. -/
theorem readString_append {place : Place} {raw : List UInt8} (h : place.run raw = some .plain)
    (rest : List UInt8) : readString place (raw ++ quote :: rest) = some (raw, rest) := by
  induction raw generalizing place with
  | nil =>
    cases Option.some.inj h
    exact if_pos ⟨rfl, rfl⟩
  | cons b raw ih =>
    obtain ⟨next, hn, hr⟩ := Option.bind_eq_some_iff.mp h
    rw [List.cons_append, readString, if_neg (ne_quote_of_next hn), hn, Option.bind_some, ih hr]
    rfl

/-- What is read as a string stands before a quote and is closed there. -/
theorem readString_some {place : Place} {bs raw rest : List UInt8}
    (h : readString place bs = some (raw, rest)) :
    bs = raw ++ quote :: rest ∧ place.run raw = some .plain := by
  induction bs generalizing place raw rest with
  | nil => exact nomatch h
  | cons b bs ih =>
    rw [readString] at h
    split at h
    · next hq =>
      cases h
      exact ⟨by rw [hq.2]; rfl, by rw [hq.1]; rfl⟩
    · obtain ⟨next, hn, hr⟩ := Option.bind_eq_some_iff.mp h
      obtain ⟨⟨raw', rest'⟩, hr', he⟩ := Option.map_eq_some_iff.mp hr
      cases he
      obtain ⟨rfl, hrun⟩ := ih hr'
      exact ⟨rfl, by rw [Place.run, hn]; exact hrun⟩

/-! ### Numbers -/

/-- Where a reader stands in a number. -/
inductive NumberPlace
  | start
  | sign
  | zero
  | integer
  | point
  | fraction
  | exponent
  | exponentSign
  | exponentDigits
  deriving DecidableEq, Repr

/-- The place after one more byte of the number. -/
def NumberPlace.next (place : NumberPlace) (b : UInt8) : Option NumberPlace :=
  match place with
  | .start =>
    if b = 0x2d then some .sign else if b = 0x30 then some .zero
    else if isDigit b then some .integer else none
  | .sign => if b = 0x30 then some .zero else if isDigit b then some .integer else none
  | .zero =>
    if b = 0x2e then some .point else if b = 0x65 ∨ b = 0x45 then some .exponent else none
  | .integer =>
    if isDigit b then some .integer else if b = 0x2e then some .point
    else if b = 0x65 ∨ b = 0x45 then some .exponent else none
  | .point => if isDigit b then some .fraction else none
  | .fraction =>
    if isDigit b then some .fraction else if b = 0x65 ∨ b = 0x45 then some .exponent else none
  | .exponent =>
    if b = 0x2b ∨ b = 0x2d then some .exponentSign
    else if isDigit b then some .exponentDigits else none
  | .exponentSign => if isDigit b then some .exponentDigits else none
  | .exponentDigits => if isDigit b then some .exponentDigits else none

/-- The bytes are a number. -/
def isNumber (bs : List UInt8) : Bool :=
  match bs.foldlM NumberPlace.next .start with
  | some place => place ∈ [.zero, .integer, .fraction, .exponentDigits]
  | none => false

/-- A byte that can stand in a number. -/
def isNumberByte (b : UInt8) : Bool := isDigit b ∨ b ∈ [0x2b, 0x2d, 0x2e, 0x45, 0x65]

/-! ### Members and objects -/

/-- A scalar value; strings and numbers with their text. -/
inductive Value
  | string (raw : List UInt8)
  | number (text : List UInt8)
  | bool (b : Bool)
  | null
  deriving DecidableEq, Repr

/-- A value and what follows it. -/
def readValue : List UInt8 → Option (Value × List UInt8)
  | [] => none
  | b :: rest =>
    if b = quote then (readString .plain rest).map fun read ↦ (.string read.1, read.2)
    else if [0x74, 0x72, 0x75, 0x65].isPrefixOf (b :: rest) then some (.bool true, rest.drop 3)
    else if [0x66, 0x61, 0x6c, 0x73, 0x65].isPrefixOf (b :: rest) then
      some (.bool false, rest.drop 4)
    else if [0x6e, 0x75, 0x6c, 0x6c].isPrefixOf (b :: rest) then some (.null, rest.drop 3)
    else if isNumber ((b :: rest).takeWhile isNumberByte) then
      some (.number ((b :: rest).takeWhile isNumberByte), (b :: rest).dropWhile isNumberByte)
    else none

/-- The byte that comes next, after white space, and what follows it. -/
def expect (b : UInt8) (bs : List UInt8) : Option (List UInt8) :=
  match skipSpace bs with
  | [] => none
  | c :: rest => if c = b then some rest else none

/-- A member of an object: its raw name, its value, and what follows. -/
def readMember (bs : List UInt8) : Option ((List UInt8 × Value) × List UInt8) :=
  (expect quote bs).bind fun bs ↦ (readString .plain bs).bind fun name ↦
    (expect colon name.2).bind fun bs ↦ (readValue (skipSpace bs)).map fun value ↦
      ((name.1, value.1), value.2)

/-- The members up to the closing brace, and what follows it. -/
def readMembers : Nat → List UInt8 → Option (List (List UInt8 × Value) × List UInt8)
  | 0, _ => none
  | fuel + 1, bs => (readMember bs).bind fun member ↦
    match expect comma member.2 with
    | some rest => (readMembers fuel rest).map fun read ↦ (member.1 :: read.1, read.2)
    | none => (expect closeBrace member.2).map fun rest ↦ ([member.1], rest)

/-- The members of a text that is an object of scalars. -/
def readObject (text : List UInt8) : Option (List (List UInt8 × Value)) :=
  (expect openBrace text).bind fun bs ↦
    (((expect closeBrace bs).map fun rest ↦ ([], rest)).or (readMembers bs.length bs)).bind
      fun read ↦ if skipSpace read.2 = [] then some read.1 else none

/-- A byte that stands first is found. -/
theorem expect_cons {b : UInt8} (hb : isSpace b = false) (rest : List UInt8) :
    expect b (b :: rest) = some rest := by
  simp [expect, skipSpace, hb]

/-- Where another byte stands, nothing is found. -/
theorem expect_cons_ne {b c : UInt8} (hc : isSpace c = false) (h : c ≠ b) (rest : List UInt8) :
    expect b (c :: rest) = none := by
  simp [expect, skipSpace, hc, h]

/-- A member whose value opens a string is read as far as that string is. -/
theorem readMember_string (name : RawString) (bs : List UInt8) :
    readMember (quote :: name.bytes ++ quote :: colon :: quote :: bs) =
      (readString .plain bs).map fun read ↦ ((name.bytes, .string read.1), read.2) := by
  unfold readMember
  rw [List.cons_append, expect_cons (by decide), Option.bind_some, readString_append name.closed,
    Option.bind_some, expect_cons (by decide), Option.bind_some]
  change ((readString .plain bs).map _).map _ = _
  rw [Option.map_map]
  rfl

/-- After a member and a comma the other members follow. -/
theorem readMembers_comma {fuel : Nat} {bs rest : List UInt8} {member : List UInt8 × Value}
    (h : readMember bs = some (member, comma :: rest)) :
    readMembers (fuel + 1) bs =
      (readMembers fuel rest).map fun read ↦ (member :: read.1, read.2) := by
  rw [readMembers, h, Option.bind_some, expect_cons (by decide)]

/-- After a member and a closing brace nothing follows. -/
theorem readMembers_close {fuel : Nat} {bs rest : List UInt8} {member : List UInt8 × Value}
    (h : readMember bs = some (member, closeBrace :: rest)) :
    readMembers (fuel + 1) bs = some ([member], rest) := by
  rw [readMembers, h, Option.bind_some, expect_cons_ne (by decide) (by decide),
    expect_cons (by decide)]
  rfl

/-! ### How an object is written -/

/-- A run of white space. -/
def Spaces (bs : List UInt8) : Prop := ∀ b ∈ bs, isSpace b = true

/-- The raw content of a value that is a string. -/
def Value.string? : Value → Option (List UInt8)
  | .string raw => some raw
  | .number _ | .bool _ | .null => none

/-- How a value is written: a string between its quotes, any other value without one. -/
inductive Value.Written : Value → List UInt8 → Prop
  | string {raw : List UInt8} (closed : Place.plain.run raw = some .plain) :
    Written (.string raw) (quote :: raw ++ [quote])
  | scalar {value : Value} {b : UInt8} {text : List UInt8} (hv : value.string? = none)
      (hb : isSpace b = false) (hq : quote ∉ b :: text) : Written value (b :: text)

/-- How a member is written. -/
inductive MemberWritten : List UInt8 × Value → List UInt8 → Prop
  | intro {name before between after text : List UInt8} {value : Value}
      (closed : Place.plain.run name = some .plain) (hbefore : Spaces before)
      (hbetween : Spaces between) (hafter : Spaces after) (hv : value.Written text) :
    MemberWritten (name, value)
      (before ++ quote :: name ++ quote :: between ++ colon :: after ++ text)

/-- How the members of an object are written, with the closing brace. -/
inductive MembersWritten : List (List UInt8 × Value) → List UInt8 → Prop
  | last {member : List UInt8 × Value} {text after : List UInt8} (hm : MemberWritten member text)
      (ha : Spaces after) : MembersWritten [member] (text ++ after ++ [closeBrace])
  | cons {member : List UInt8 × Value} {members : List (List UInt8 × Value)}
      {text after texts : List UInt8} (hm : MemberWritten member text) (ha : Spaces after)
      (hms : MembersWritten members texts) :
    MembersWritten (member :: members) (text ++ after ++ comma :: texts)

/-- How an object is written. -/
inductive ObjectWritten : List (List UInt8 × Value) → List UInt8 → Prop
  | empty {before between after : List UInt8} (hbefore : Spaces before)
      (hbetween : Spaces between) (hafter : Spaces after) :
    ObjectWritten [] (before ++ openBrace :: between ++ closeBrace :: after)
  | members {members : List (List UInt8 × Value)} {before text after : List UInt8}
      (hbefore : Spaces before) (hms : MembersWritten members text) (hafter : Spaces after) :
    ObjectWritten members (before ++ openBrace :: text ++ after)

/-- White space is dropped. -/
theorem skipSpace_split (bs : List UInt8) : ∃ space, Spaces space ∧ bs = space ++ skipSpace bs :=
  ⟨bs.takeWhile isSpace, fun _ hb ↦ List.mem_takeWhile_imp hb,
    List.takeWhile_append_dropWhile.symm⟩

/-- An expected byte stands behind white space. -/
theorem expect_split {b : UInt8} {bs rest : List UInt8} (h : expect b bs = some rest) :
    ∃ space, Spaces space ∧ bs = space ++ b :: rest := by
  obtain ⟨space, hs, he⟩ := skipSpace_split bs
  refine ⟨space, hs, ?_⟩
  unfold expect at h
  cases hd : skipSpace bs with
  | nil => rw [hd] at h; cases h
  | cons c tail =>
    rw [hd] at h
    obtain ⟨rfl, ht⟩ := Option.ite_none_right_eq_some.mp h
    rw [← Option.some.inj ht, ← hd]
    exact he

/-- No white space stands in a number. -/
theorem isSpace_of_isNumberByte {b : UInt8} (h : isNumberByte b = true) : isSpace b = false := by
  rw [Bool.eq_false_iff]
  intro hs
  rcases of_decide_eq_true hs with rfl | rfl | rfl | rfl <;> exact absurd h (by decide)

/-- A literal is written without quotes. -/
private theorem written_literal {literal bs : List UInt8} {b : UInt8} {value : Value}
    (h : (b :: literal).isPrefixOf bs = true) (hv : value.string? = none)
    (hb : isSpace b = false) (hq : quote ∉ b :: literal) :
    value.Written (b :: literal) ∧ bs = b :: literal ++ bs.tail.drop literal.length := by
  obtain ⟨rest, rfl⟩ := List.isPrefixOf_iff_prefix.mp h
  exact ⟨.scalar hv hb hq, by simp⟩

/-- What is read as a value is written so. -/
theorem readValue_written {bs rest : List UInt8} {value : Value}
    (h : readValue bs = some (value, rest)) : ∃ text, value.Written text ∧ bs = text ++ rest := by
  cases bs with
  | nil => cases h
  | cons b tail =>
    rw [readValue] at h
    split at h
    · next hb =>
      obtain ⟨⟨raw, rest'⟩, hr, he⟩ := Option.map_eq_some_iff.mp h
      obtain ⟨rfl, hclosed⟩ := readString_some hr
      cases he
      exact ⟨_, .string hclosed, by rw [hb]; simp⟩
    split at h
    · next ht =>
      cases h
      exact ⟨_, written_literal ht rfl (by decide) (by decide)⟩
    split at h
    · next hf =>
      cases h
      exact ⟨_, written_literal hf rfl (by decide) (by decide)⟩
    split at h
    · next hn =>
      cases h
      exact ⟨_, written_literal hn rfl (by decide) (by decide)⟩
    split at h
    · next hn =>
      cases h
      have hbytes : ∀ c ∈ (b :: tail).takeWhile isNumberByte, isNumberByte c = true :=
        fun c hc ↦ List.mem_takeWhile_imp hc
      have hsplit := (List.takeWhile_append_dropWhile (p := isNumberByte) (l := b :: tail)).symm
      generalize (b :: tail).takeWhile isNumberByte = text at hn hbytes hsplit ⊢
      cases text with
      | nil => cases hn
      | cons c text =>
        refine ⟨_, .scalar rfl (isSpace_of_isNumberByte (hbytes c List.mem_cons_self)) fun hq ↦ ?_,
          hsplit⟩
        exact absurd (hbytes quote hq) (by decide)
    · cases h

/-- What is read as a member is written so. -/
theorem readMember_written {bs rest : List UInt8} {member : List UInt8 × Value}
    (h : readMember bs = some (member, rest)) :
    ∃ text, MemberWritten member text ∧ bs = text ++ rest := by
  obtain ⟨bs₁, h₁, h⟩ := Option.bind_eq_some_iff.mp h
  obtain ⟨⟨name, bs₂⟩, h₂, h⟩ := Option.bind_eq_some_iff.mp h
  obtain ⟨bs₃, h₃, h⟩ := Option.bind_eq_some_iff.mp h
  obtain ⟨⟨value, rest'⟩, h₄, he⟩ := Option.map_eq_some_iff.mp h
  cases he
  obtain ⟨before, hbefore, rfl⟩ := expect_split h₁
  obtain ⟨rfl, hclosed⟩ := readString_some h₂
  obtain ⟨between, hbetween, hb⟩ := expect_split h₃
  obtain ⟨after, hafter, ha⟩ := skipSpace_split bs₃
  obtain ⟨text, hv, ht⟩ := readValue_written h₄
  refine ⟨_, .intro hclosed hbefore hbetween hafter hv, ?_⟩
  dsimp only at hb
  rw [hb, ha, ht]
  simp

/-- What is read as members is written so. -/
theorem readMembers_written {fuel : Nat} {bs rest : List UInt8}
    {members : List (List UInt8 × Value)} (h : readMembers fuel bs = some (members, rest)) :
    ∃ text, MembersWritten members text ∧ bs = text ++ rest := by
  induction fuel generalizing bs members with
  | zero => cases h
  | succ fuel ih =>
    obtain ⟨⟨member, tail⟩, hm, hrest⟩ := Option.bind_eq_some_iff.mp h
    obtain ⟨text, hw, rfl⟩ := readMember_written hm
    dsimp only at hrest
    cases hc : expect comma tail with
    | some tail' =>
      rw [hc] at hrest
      obtain ⟨⟨members', rest'⟩, hms, he⟩ := Option.map_eq_some_iff.mp hrest
      cases he
      obtain ⟨texts, hws, rfl⟩ := ih hms
      obtain ⟨after, ha, rfl⟩ := expect_split hc
      exact ⟨_, .cons hw ha hws, by simp⟩
    | none =>
      rw [hc] at hrest
      obtain ⟨rest', hr, he⟩ := Option.map_eq_some_iff.mp hrest
      cases he
      obtain ⟨after, ha, rfl⟩ := expect_split hr
      exact ⟨_, .last hw ha, by simp⟩

/-- What is read as an object is written so. -/
theorem readObject_written {text : List UInt8} {members : List (List UInt8 × Value)}
    (h : readObject text = some members) : ObjectWritten members text := by
  obtain ⟨bs, ho, h⟩ := Option.bind_eq_some_iff.mp h
  obtain ⟨⟨members', rest⟩, hr, h⟩ := Option.bind_eq_some_iff.mp h
  obtain ⟨hspace, he⟩ := Option.ite_none_right_eq_some.mp h
  cases he
  obtain ⟨before, hbefore, rfl⟩ := expect_split ho
  have hafter : Spaces rest := by
    obtain ⟨space, hs, he⟩ := skipSpace_split rest
    rw [hspace, List.append_nil] at he
    rwa [he]
  rcases Option.or_eq_some_iff.mp hr with hempty | ⟨-, hms⟩
  · obtain ⟨rest', hc, he⟩ := Option.map_eq_some_iff.mp hempty
    cases he
    obtain ⟨between, hbetween, rfl⟩ := expect_split hc
    simpa using ObjectWritten.empty hbefore hbetween hafter
  · obtain ⟨texts, hws, rfl⟩ := readMembers_written hms
    simpa using ObjectWritten.members hbefore hws hafter

end JsonText
