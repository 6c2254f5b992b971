import PlayosCompositor.Base.CString
import PlayosCompositor.Base.Memory

/-!
# JSON string extraction

`json_get_string`, `src/compositor_ipc.c:50–100`, with checked accesses, and what it computes:
`findString` reads the bytes that remain. `raw` is the region of `len` bytes that the caller
passes, `out` the region of `out_sz` bytes that receives the string.
-/

namespace PlayosCompositor

open Memory

/-- `'"'`. -/
def quote : UInt8 := 0x22

/-- `'\\'`. -/
def backslash : UInt8 := 0x5c

/-- `':'`. -/
def colon : UInt8 := 0x3a

/-- The four bytes that are skipped around a colon. -/
def isSpace (b : UInt8) : Bool := b = 0x20 ∨ b = 0x09 ∨ b = 0x0d ∨ b = 0x0a

/-! ### The function -/

/-- The loop over white space; `src/compositor_ipc.c:71,76`. -/
def skipSpace (fuel : Nat) (raw : List UInt8) : Nat → Exec Nat :=
  loop (fun p ↦ do
    if p < raw.length then
      if isSpace (← load raw p) then return .next (p + 1)
      else return .done p
    else return .done p) fuel

/-- The loop to the closing quote; `src/compositor_ipc.c:83–87`. -/
def scanString (fuel : Nat) (raw : List UInt8) : Nat → Exec Nat :=
  loop (fun p ↦ do
    if p < raw.length then
      let b ← load raw p
      if b ≠ quote then
        let p := if b = backslash ∧ p + 1 < raw.length then p + 1 else p
        return .next (p + 1)
      else return .done p
    else return .done p) fuel

/-- The test for the quoted key at a quote; `src/compositor_ipc.c:66–68`. -/
def keyAt (raw : List UInt8) (key : CString) (p : Nat) : Exec Bool := do
  if raw.length - p ≥ key.bytes.length + 2 then
    if (← load raw (p + key.bytes.length + 1)) = quote then sameBytes raw (p + 1) key.bytes
    else return false
  else return false

/-- The rest of the call once the key is found; `src/compositor_ipc.c:70–96`. -/
def extractString (fuel : Nat) (raw out : List UInt8) (p : Nat) : Exec (Int × List UInt8) := do
  let p ← skipSpace fuel raw p
  if p ≥ raw.length then return (-1, out)
  if (← load raw p) ≠ colon then return (-1, out)
  let p ← skipSpace fuel raw (p + 1)
  if p ≥ raw.length then return (-1, out)
  if (← load raw p) ≠ quote then return (-1, out)
  let start := p + 1
  let p ← scanString fuel raw start
  if p ≥ raw.length then return (-1, out)
  let vlen := p - start
  let vlen := if vlen ≥ out.length then out.length - 1 else vlen
  let out ← memcpy out raw start vlen
  let out ← store out vlen 0
  return (0, out)

/-- `json_get_string`, `src/compositor_ipc.c:51`: the returned value and the output buffer
afterwards. -/
def jsonGetString (fuel : Nat) (raw : List UInt8) (key : CString) (out : List UInt8) :
    Exec (Int × List UInt8) :=
  if out.length = 0 then .ok (-1, out)
  else
    loop (fun p ↦ do
      if p < raw.length then
        match ← memchr raw quote p (raw.length - p) with
        | none => return .done (-1, out)
        | some p =>
          if ← keyAt raw key p then
            return .done (← extractString fuel raw out (p + key.bytes.length + 2))
          else return .next (p + 1)
      else return .done (-1, out)) fuel 0

/-! ### What it reads -/

/-- The content of a string up to its closing quote; the flag says that the byte before was a
backslash that escapes. -/
def stringContent : Bool → List UInt8 → Option (List UInt8)
  | _, [] => none
  | true, b :: rest => (stringContent false rest).map (b :: ·)
  | false, b :: rest =>
    if b = quote then some [] else (stringContent (b = backslash) rest).map (b :: ·)

/-- The string that follows a key: a colon and an opening quote, with space around. -/
def memberString (bs : List UInt8) : Option (List UInt8) :=
  match bs.dropWhile isSpace with
  | [] => none
  | b :: rest =>
    if b = colon then
      match rest.dropWhile isSpace with
      | [] => none
      | b :: rest => if b = quote then stringContent false rest else none
    else none

/-- What the call finds: the string after the first place where the quoted key stands. -/
def findString (key : List UInt8) : List UInt8 → Option (List UInt8)
  | [] => none
  | b :: rest =>
    if b = quote ∧ (key ++ [quote]).isPrefixOf rest then
      memberString (rest.drop (key.length + 1))
    else findString key rest

/-- The buffer after a string has been stored: cut to what fits, terminated. -/
def stored (out v : List UInt8) : List UInt8 :=
  v.take (out.length - 1) ++ 0 :: out.drop (min v.length (out.length - 1) + 1)

/-- The returned value and the buffer for what was found. -/
def answer (out : List UInt8) : Option (List UInt8) → Int × List UInt8
  | none => (-1, out)
  | some v => (0, stored out v)

/-! ### The loops -/

variable {fuel : Nat} {raw : List UInt8} {p : Nat}

private theorem skipSpace_eq (hp : p ≤ raw.length) (hf : raw.length < fuel) :
    skipSpace fuel raw p = .ok (p + ((raw.drop p).takeWhile isSpace).length) := by
  refine loop_eq (· ≤ raw.length) (raw.length - ·)
    (fun p ↦ p + ((raw.drop p).takeWhile isSpace).length) ?_ hp (by omega)
  intro p hp
  by_cases hlt : p < raw.length
  · obtain ⟨b, hd⟩ := drop_cons_of_lt hlt
    rw [if_pos hlt, load_drop hd, hd, List.takeWhile_cons, ok_bind]
    cases hs : isSpace b with
    | true =>
      refine Or.inl ⟨p + 1, rfl, hlt, by omega, ?_⟩
      rw [if_pos rfl, List.length_cons]
      omega
    | false => exact Or.inr rfl
  · rw [if_neg hlt, List.drop_of_length_le (by omega)]
    exact Or.inr rfl

/-- The number of bytes to the closing quote, or to the end of the region. -/
private def scanLength (bs : List UInt8) : Nat :=
  match stringContent false bs with
  | none => bs.length
  | some v => v.length

private theorem scanLength_cons {b : UInt8} {rest : List UInt8} (hq : b ≠ quote)
    (he : b ≠ backslash) : scanLength (b :: rest) = 1 + scanLength rest := by
  unfold scanLength
  rw [stringContent, if_neg hq, decide_eq_false he]
  cases stringContent false rest <;> simp [Nat.add_comm]

private theorem scanLength_escape (b : UInt8) (rest : List UInt8) :
    scanLength (backslash :: b :: rest) = 2 + scanLength rest := by
  unfold scanLength
  rw [stringContent, if_neg (by decide), decide_eq_true rfl, stringContent]
  cases stringContent false rest <;> simp <;> omega

private theorem scanString_eq_scanLength (hp : p ≤ raw.length) (hf : raw.length < fuel) :
    scanString fuel raw p = .ok (p + scanLength (raw.drop p)) := by
  refine loop_eq (· ≤ raw.length) (raw.length - ·)
    (fun p ↦ p + scanLength (raw.drop p)) ?_ hp (by omega)
  intro p hp
  by_cases hlt : p < raw.length
  · obtain ⟨b, hd⟩ := drop_cons_of_lt hlt
    rw [if_pos hlt, load_drop hd, hd, ok_bind]
    by_cases hq : b = quote
    · refine Or.inr ?_
      rw [if_neg (not_not.mpr hq), hq]
      rfl
    · rw [if_pos hq]
      refine Or.inl ?_
      by_cases he : b = backslash ∧ p + 1 < raw.length
      · obtain ⟨b', hd'⟩ := drop_cons_of_lt he.2
        refine ⟨p + 1 + 1, by rw [if_pos he]; rfl, he.2, by omega, ?_⟩
        rw [hd', he.1, scanLength_escape]
        omega
      · refine ⟨p + 1, by rw [if_neg he]; rfl, hlt, by omega, ?_⟩
        by_cases hb : b = backslash
        · -- an escape that ends the region
          have hend : raw.length ≤ p + 1 := Nat.le_of_not_lt fun h ↦ he ⟨hb, h⟩
          rw [List.drop_of_length_le hend, hb]
          rfl
        · rw [scanLength_cons hq hb]
          omega
  · rw [if_neg hlt, List.drop_of_length_le (by omega)]
    exact Or.inr rfl

private theorem stringContent_some {escaped : Bool} {bs v : List UInt8}
    (h : stringContent escaped bs = some v) : ∃ rest, bs = v ++ quote :: rest := by
  induction bs generalizing escaped v with
  | nil => exact nomatch h
  | cons b rest ih =>
    have hcons : ∀ e, (stringContent e rest).map (b :: ·) = some v →
        ∃ tail, b :: rest = v ++ quote :: tail := by
      intro e he
      obtain ⟨w, hw, rfl⟩ := Option.map_eq_some_iff.mp he
      obtain ⟨tail, ht⟩ := ih hw
      exact ⟨tail, congrArg (b :: ·) ht⟩
    cases escaped with
    | true => exact hcons false h
    | false =>
      rw [stringContent] at h
      split at h
      · next hb =>
        cases Option.some.inj h
        exact ⟨rest, congrArg (· :: rest) hb⟩
      · exact hcons _ h

private theorem scanString_some {v : List UInt8} (hp : p ≤ raw.length) (hf : raw.length < fuel)
    (hv : stringContent false (raw.drop p) = some v) :
    scanString fuel raw p = .ok (p + v.length) := by
  rw [scanString_eq_scanLength hp hf, scanLength, hv]

private theorem scanString_none (hp : p ≤ raw.length) (hf : raw.length < fuel)
    (hv : stringContent false (raw.drop p) = none) :
    scanString fuel raw p = .ok raw.length := by
  rw [scanString_eq_scanLength hp hf, scanLength, hv]
  dsimp only
  rw [List.length_drop, Nat.add_sub_of_le hp]

/-! ### The key -/

private theorem keyAt_eq {key : CString} {rest : List UInt8} (h : raw.drop p = quote :: rest) :
    keyAt raw key p = .ok ((key.bytes ++ [quote]).isPrefixOf rest) := by
  have hlen : raw.length - p = rest.length + 1 := by rw [← List.length_drop, h, List.length_cons]
  have hrest := drop_succ h
  unfold keyAt
  by_cases hr : key.bytes.length < rest.length
  · have hk := List.drop_eq_getElem_cons hr
    have hload : raw.drop (p + key.bytes.length + 1) =
        rest[key.bytes.length] :: rest.drop (key.bytes.length + 1) := by
      rw [← hk, ← hrest, List.drop_drop]
      congr 1
      omega
    rw [if_pos (by omega), load_drop hload, ok_bind, sameBytes_eq (by omega), hrest]
    split
    · next hq =>
      congr 1
      rw [Bool.eq_iff_iff, List.isPrefixOf_iff_prefix, List.isPrefixOf_iff_prefix]
      constructor
      · rintro ⟨tail, rfl⟩
        obtain ⟨b, tail, rfl⟩ := List.exists_cons_of_ne_nil
          (l := tail) (fun ht ↦ by simp [ht] at hr)
        have hb : b = quote := by simpa using hq
        exact ⟨tail, by rw [hb, List.append_assoc]; rfl⟩
      · exact fun hpre ↦ (List.prefix_append _ _).trans hpre
    · next hq =>
      congr 1
      rw [eq_comm, Bool.eq_false_iff, Ne, List.isPrefixOf_iff_prefix]
      rintro ⟨tail, rfl⟩
      exact hq (by simp)
  · rw [if_neg (by omega)]
    congr 1
    rw [eq_comm, Bool.eq_false_iff, Ne, List.isPrefixOf_iff_prefix]
    intro hpre
    have := hpre.length_le
    rw [List.length_append, List.length_singleton] at this
    omega

/-! ### The call -/

private theorem drop_skipSpace (raw : List UInt8) (p : Nat) :
    raw.drop (p + ((raw.drop p).takeWhile isSpace).length) = (raw.drop p).dropWhile isSpace := by
  rw [← List.drop_drop]
  nth_rewrite 2 [← List.takeWhile_append_dropWhile (p := isSpace) (l := raw.drop p)]
  exact List.drop_left

/-- A string that is found is copied, cut and terminated. -/
private theorem copy_eq {out : List UInt8} (hp : p ≤ raw.length) (hout : 0 < out.length)
    {v rest : List UInt8} (h : raw.drop p = v ++ rest) :
    (do
      let out' ← memcpy out raw p (if v.length ≥ out.length then out.length - 1 else v.length)
      let out' ← store out' (if v.length ≥ out.length then out.length - 1 else v.length) 0
      return ((0 : Int), out')) = Except.ok (0, stored out v) := by
  have hn : (if v.length ≥ out.length then out.length - 1 else v.length) =
      min v.length (out.length - 1) := by
    split <;> omega
  have hlen : v.length + rest.length = raw.length - p := by
    rw [← List.length_append, ← h, List.length_drop]
  have htake : ((raw.drop p).take (min v.length (out.length - 1))) = v.take (out.length - 1) := by
    rw [h, List.take_append_of_le_length (by omega), Nat.min_comm, ← List.take_take,
      List.take_length]
  have hlt : (v.take (out.length - 1)).length = min v.length (out.length - 1) := by
    rw [List.length_take, Nat.min_comm]
  rw [hn, memcpy_eq (by omega) (by omega), ok_bind, htake,
    store_of_lt (by rw [List.length_append, hlt, List.length_drop]; omega), ok_bind]
  rw [List.set_append_right (h := by rw [hlt]), hlt, Nat.sub_self]
  obtain ⟨b, hb⟩ := drop_cons_of_lt (show min v.length (out.length - 1) < out.length by omega)
  rw [hb, List.set_cons_zero]
  rfl

private theorem extractString_eq {out : List UInt8} (hp : p ≤ raw.length) (hf : raw.length < fuel)
    (hout : 0 < out.length) :
    extractString fuel raw out p = .ok (answer out (memberString (raw.drop p))) := by
  unfold extractString memberString
  rw [skipSpace_eq hp hf, ok_bind, ← drop_skipSpace]
  generalize p + ((raw.drop p).takeWhile isSpace).length = p
  cases hd : raw.drop p with
  | nil =>
    rw [if_pos (length_le_of_drop hd)]
    rfl
  | cons b rest =>
    have hlt := lt_of_drop hd
    rw [if_neg (by omega), load_drop hd, ok_bind]
    dsimp only
    by_cases hc : b = colon
    · rw [if_neg (not_not.mpr hc), if_pos hc, skipSpace_eq hlt hf, ok_bind, ← drop_succ hd,
        ← drop_skipSpace]
      generalize p + 1 + ((raw.drop (p + 1)).takeWhile isSpace).length = p
      cases hd : raw.drop p with
      | nil =>
        rw [if_pos (length_le_of_drop hd)]
        rfl
      | cons b rest =>
        have hlt := lt_of_drop hd
        rw [if_neg (by omega), load_drop hd, ok_bind]
        dsimp only
        by_cases hq : b = quote
        · rw [if_neg (not_not.mpr hq), if_pos hq, ← drop_succ hd]
          cases hv : stringContent false (raw.drop (p + 1)) with
          | none =>
            rw [scanString_none hlt hf hv, ok_bind, if_pos (Nat.le_refl _)]
            rfl
          | some v =>
            obtain ⟨tail, ht⟩ := stringContent_some hv
            have hle : p + 1 + v.length < raw.length := by
              have hl := congrArg List.length ht
              rw [List.length_drop, List.length_append, List.length_cons] at hl
              omega
            rw [scanString_some hlt hf hv, ok_bind, if_neg (by omega), Nat.add_sub_cancel_left]
            exact copy_eq hlt hout ht
        · rw [if_pos hq, if_neg hq]
          rfl
    · rw [if_pos hc, if_neg hc]
      rfl

/-- Bytes before the next quote hold no key. -/
theorem findString_skip (key : List UInt8) {skipped : List UInt8} (h : quote ∉ skipped)
    (bs : List UInt8) : findString key (skipped ++ bs) = findString key bs := by
  induction skipped with
  | nil => rfl
  | cons b skipped ih =>
    rw [List.mem_cons, not_or] at h
    rw [List.cons_append, findString, if_neg fun hb ↦ h.1 hb.1.symm]
    exact ih h.2

/-- `json_get_string` terminates within its region and answers what `findString` finds. -/
theorem jsonGetString_eq {out : List UInt8} (hf : raw.length < fuel) (hout : 0 < out.length)
    (key : CString) :
    jsonGetString fuel raw key out = .ok (answer out (findString key.bytes raw)) := by
  unfold jsonGetString
  rw [if_neg (by omega)]
  refine loop_eq (· ≤ raw.length) (raw.length - ·)
    (fun p ↦ answer out (findString key.bytes (raw.drop p))) ?_ (Nat.zero_le _) (by omega)
  intro p hp
  by_cases hlt : p < raw.length
  · rw [if_pos hlt]
    rcases memchr_cases quote hp with ⟨hm, hq⟩ | ⟨skipped, rest, hm, hd, hq⟩
    · -- no quote is left
      refine Or.inr ?_
      have hnone : findString key.bytes (raw.drop p) = none := by
        rw [← List.append_nil (raw.drop p), findString_skip _ hq]
        rfl
      rw [hm, hnone]
      rfl
    · have hd' : raw.drop (p + skipped.length) = quote :: rest := by
        rw [← List.drop_drop, hd, List.drop_left]
      have hlt' := lt_of_drop hd'
      rw [hm, ok_bind, hd, findString_skip _ hq, findString]
      dsimp only
      rw [keyAt_eq hd', ok_bind]
      by_cases hk : (key.bytes ++ [quote]).isPrefixOf rest
      · refine Or.inr ?_
        have hlen := (List.isPrefixOf_iff_prefix.mp hk).length_le
        have hrest : rest.length + 1 = raw.length - (p + skipped.length) := by
          rw [← List.length_drop, hd', List.length_cons]
        rw [List.length_append, List.length_singleton] at hlen
        have hnext : raw.drop (p + skipped.length + key.bytes.length + 2) =
            rest.drop (key.bytes.length + 1) := by
          rw [← drop_succ hd', List.drop_drop]
          congr 1
          omega
        rw [if_pos hk, if_pos ⟨rfl, hk⟩, extractString_eq (by omega) hf hout, ok_bind, hnext]
        rfl
      · refine Or.inl ⟨p + skipped.length + 1, ?_, hlt', by omega, ?_⟩
        · rw [if_neg hk]
          rfl
        · rw [if_neg fun h ↦ hk h.2, drop_succ hd']
  · rw [if_neg hlt, List.drop_of_length_le (by omega)]
    exact Or.inr rfl

/-! ### The output buffer -/

/-- A region holds a terminated string; without a terminator it is read past its end. -/
def loadString (mem : List UInt8) : Exec CString :=
  if 0 ∈ mem then .ok (.ofBytes mem) else .error .outOfBounds

/-- The call leaves the buffer's size as it is. -/
theorem length_answer {out : List UInt8} (hout : 0 < out.length) (found : Option (List UInt8)) :
    (answer out found).2.length = out.length := by
  cases found with
  | none => rfl
  | some v =>
    simp only [answer, stored, List.length_append, List.length_take, List.length_cons,
      List.length_drop]
    omega

/-- A successful call terminates the buffer, any other leaves it alone. -/
theorem answer_cases (out : List UInt8) (found : Option (List UInt8)) :
    ((answer out found).1 = 0 ∧ 0 ∈ (answer out found).2) ∨ answer out found = (-1, out) := by
  cases found with
  | none => exact Or.inr rfl
  | some v => exact Or.inl ⟨rfl, by simp [answer, stored]⟩

/-- The string in the buffer: what was found, cut to what fits, or what was there before. -/
theorem loadString_answer (out : List UInt8) (found : Option (List UInt8)) :
    loadString (answer out found).2 =
      match found with
      | none => loadString out
      | some v => .ok (.ofBytes (v.take (out.length - 1))) := by
  cases found with
  | none => rfl
  | some v =>
    dsimp only [answer, stored]
    rw [loadString, if_pos (by simp)]
    congr 1
    apply CString.ext
    change List.takeWhile _ (_ ++ _ :: _) = List.takeWhile _ _
    rw [List.takeWhile_append]
    split
    · next h =>
      rw [(List.takeWhile_prefix _).eq_of_length h]
      simp
    · rfl

end PlayosCompositor
