import PlayosCompositor.Foreground.View
import PlayosCompositor.Ipc.Wire

/-!
# What arrives on `compositor.sock`

Two properties of the bytes that playos-init sends: a malformed frame is dropped without an
access outside of it, and a command acts on what it received, unless SetExpectedGame lacks a
member that it stores all the same.
-/

namespace PlayosCompositor

open Memory

/-! ### Malformed input -/

/-- A frame to be dropped: its header is short or invalid, its declared body is too long or was
not received, or no type can be read from the body. -/
def Malformed (received : List UInt8) : Prop :=
  received.length < 8 ∨ leNat (received.take 4) ≠ 0x504c4f53 ∨
    declaredLength received > 65536 ∨ received.length < 8 + declaredLength received ∨
    findString (CString.ofString "type").bytes
      ((received.drop 8).take (declaredLength received)) = none

/-- What a call of `json_get_string` promises of its region and its buffer: it ends without an
access out of bounds, and either terminates the buffer or leaves it alone. -/
def ExtractsSafely (fuel : Nat) (body : List UInt8) (key : CString) (out : List UInt8) : Prop :=
  ∃ result out', jsonGetString fuel body key out = .ok (result, out') ∧
    out'.length = out.length ∧ (result = 0 ∧ 0 ∈ out' ∨ result = -1 ∧ out' = out)

private theorem extractsSafely {fuel : Nat} {body out : List UInt8} (hf : body.length < fuel)
    (hout : 0 < out.length) (key : CString) : ExtractsSafely fuel body key out := by
  refine ⟨(answer out (findString key.bytes body)).1, (answer out (findString key.bytes body)).2,
    jsonGetString_eq hf hout key, length_answer hout _, ?_⟩
  rcases answer_cases out (findString key.bytes body) with h | h
  · exact Or.inl h
  · exact Or.inr ⟨congrArg Prod.fst h, congrArg Prod.snd h⟩

/-- Whatever is read, the frame checks stay within the received bytes, every extraction stays
within the declared body, which was received, and a malformed frame changes nothing. -/
theorem malformedInput_harmless {received : List UInt8} (hn : 1 ≤ received.length)
    (hmax : received.length ≤ ipcMaxFrame) {fuel : Nat} (hf : ipcMaxFrame < fuel) :
    ∃ accepted, frameChecks received = .ok accepted ∧
      (∀ body ∈ accepted, 8 + declaredLength received ≤ received.length ∧
        body = (received.drop 8).take (declaredLength received) ∧
        ∀ key out, 1 ≤ out.length → ExtractsSafely fuel body key out) ∧
      (Malformed received → ∀ c locals,
        ipcFdHandlerBytes fuel c locals ⟨false, true⟩ received = .ok c) := by
  have hne : received ≠ [] := List.ne_nil_of_length_pos hn
  rcases frameChecks_cases received with ⟨hv, hc⟩ | ⟨hv, hc⟩
  · have hlen : ((received.drop 8).take (declaredLength received)).length < fuel := by
      rw [List.length_take]
      exact (Nat.min_le_left _ _).trans_lt (by have := hv.complete; omega)
    refine ⟨_, hc, ?_, ?_⟩
    · intro body hb
      obtain rfl := Option.mem_some_iff.mp hb
      exact ⟨hv.complete, rfl, fun key out hout ↦ extractsSafely hlen hout key⟩
    · rintro (h | h | h | h | h) c locals
      · exact absurd hv.header (by omega)
      · exact absurd hv.magic h
      · exact absurd hv.bounded (by omega)
      · exact absurd hv.complete (by omega)
      · unfold ipcFdHandlerBytes
        rw [if_neg (by decide), if_neg (by decide), if_neg hne, hc, ok_bind]
        dsimp only
        rw [ipcDispatchBytes_eq c locals hlen, bodyString, h]
        rfl
  · refine ⟨none, hc, by simp, fun _ c locals ↦ ?_⟩
    unfold ipcFdHandlerBytes
    rw [if_neg (by decide), if_neg (by decide), if_neg hne, hc]
    rfl

/-- The theorem at a frame with an empty object. -/
theorem malformedInput_harmless_object :
    ∃ accepted, frameChecks [0x53, 0x4f, 0x4c, 0x50, 2, 0, 0, 0, 0x7b, 0x7d] = .ok accepted ∧
      (∀ body ∈ accepted,
        8 + declaredLength [0x53, 0x4f, 0x4c, 0x50, 2, 0, 0, 0, 0x7b, 0x7d] ≤ 10 ∧
        body = ([0x7b, 0x7d] : List UInt8).take
          (declaredLength [0x53, 0x4f, 0x4c, 0x50, 2, 0, 0, 0, 0x7b, 0x7d]) ∧
        ∀ key out, 1 ≤ out.length → ExtractsSafely (ipcMaxFrame + 1) body key out) ∧
      (Malformed [0x53, 0x4f, 0x4c, 0x50, 2, 0, 0, 0, 0x7b, 0x7d] → ∀ c locals,
        ipcFdHandlerBytes (ipcMaxFrame + 1) c locals ⟨false, true⟩
          [0x53, 0x4f, 0x4c, 0x50, 2, 0, 0, 0, 0x7b, 0x7d] = .ok c) :=
  malformedInput_harmless (by decide) (by decide) (Nat.lt_succ_self _)

/-! ### Commands act on what was received -/

/-- The outcome of a dispatch is a matter of the state and the body: it is the same for any
two contents of the local buffers. -/
def ActsOnBody (fuel : Nat) (c : Compositor) (body : List UInt8) : Prop :=
  ∀ locals locals', ipcDispatchBytes fuel c locals body = ipcDispatchBytes fuel c locals' body

/-- Local buffers that hold one letter each, or nothing. -/
def lettered (launchToken gameId : UInt8) : IpcLocals where
  type := List.replicate 128 0
  launchToken := launchToken :: List.replicate 63 0
  gameId := gameId :: List.replicate 255 0
  length_type := List.length_replicate
  length_launchToken := by rw [List.length_cons, List.length_replicate]
  length_gameId := by rw [List.length_cons, List.length_replicate]

/-- A buffer with one letter holds a string, whatever the call found. -/
theorem fetched_lettered (found : Option CString) (b : UInt8) (n : Nat) :
    fetched found (b :: List.replicate (n + 1) 0) =
      .ok (found.getD (.ofBytes (b :: List.replicate (n + 1) 0))) := by
  cases found with
  | none => exact if_pos (by simp)
  | some s => rfl

private theorem expected_ipcDispatch (c : Compositor) (launchToken gameId : CString) :
    (ipcDispatch c (.setExpectedGame launchToken gameId)).expectedLaunchToken =
        launchToken.store 64 ∧
      (ipcDispatch c (.setExpectedGame launchToken gameId)).expectedGameId = gameId.store 256 := by
  simp [ipcDispatch, Foreground.launch]

/-- Dispatching acts on the body alone exactly when SetExpectedGame has its members. -/
theorem actsOnBody_iff (c : Compositor) {fuel : Nat} {body : List UInt8}
    (hf : body.length < fuel) : ActsOnBody fuel c body ↔ ReadsWhatItStores body := by
  unfold ActsOnBody ReadsWhatItStores
  constructor
  · intro h ht
    -- the buffers with a letter and the buffers without it
    have heq := h (lettered 65 65) (lettered 0 0)
    rw [ipcDispatchBytes_eq c _ hf, ipcDispatchBytes_eq c _ hf, ht] at heq
    dsimp only at heq
    rw [if_pos rfl, if_pos rfl] at heq
    dsimp only [lettered] at heq
    rw [fetched_lettered, fetched_lettered, fetched_lettered, fetched_lettered] at heq
    have hc := Except.ok.inj heq
    have htok := congrArg (fun d ↦ d.expectedLaunchToken) hc
    have hid := congrArg (fun d ↦ d.expectedGameId) hc
    rw [(expected_ipcDispatch _ _ _).1, (expected_ipcDispatch _ _ _).1] at htok
    rw [(expected_ipcDispatch _ _ _).2, (expected_ipcDispatch _ _ _).2] at hid
    constructor
    · cases hfound : bodyString "launch_token" 64 body with
      | some s => rfl
      | none =>
        rw [hfound] at htok
        exact absurd htok (by decide)
    · cases hfound : bodyString "game_id" 256 body with
      | some s => rfl
      | none =>
        rw [hfound] at hid
        exact absurd hid (by decide)
  · intro h locals locals'
    rw [ipcDispatchBytes_eq c _ hf, ipcDispatchBytes_eq c _ hf]
    cases ht : bodyString "type" 128 body with
    | none => rfl
    | some type =>
      dsimp only
      split
      · next hs =>
        obtain ⟨htok, hid⟩ := h (by rw [ht, hs])
        obtain ⟨token, htok⟩ := Option.isSome_iff_exists.mp htok
        obtain ⟨gameId, hid⟩ := Option.isSome_iff_exists.mp hid
        rw [htok, hid]
        rfl
      · rfl

/-- A complete SetExpectedGame. -/
def launchBody : List UInt8 :=
  (CString.ofString
    "\x7b\"type\":\"SetExpectedGame\",\"launch_token\":\"t\",\"game_id\":\"g\"\x7d").bytes

/-- The theorem at a complete SetExpectedGame. -/
theorem actsOnBody_iff_launchBody :
    ActsOnBody 100 (playosCompositorInit .headless) launchBody ↔ ReadsWhatItStores launchBody :=
  actsOnBody_iff _ (by decide +kernel)

/-- A SetExpectedGame without a launch token. -/
def tokenlessBody : List UInt8 :=
  (CString.ofString "\x7b\"type\":\"SetExpectedGame\",\"game_id\":\"g\"\x7d").bytes

/-- The bytes that the stack held become the expected token. -/
theorem actsOnBody_fails :
    ¬ ActsOnBody 100 (playosCompositorInit .headless) tokenlessBody ∧
      ∀ b ∈ [65, 66], (ipcDispatchBytes 100 (playosCompositorInit .headless) (lettered b 0)
        tokenlessBody).map (fun c ↦ c.expectedLaunchToken) =
          .ok (CString.store 64 (.ofBytes [b])) := by
  have hkept : ∀ b ∈ [65, 66], (ipcDispatchBytes 100 (playosCompositorInit .headless)
      (lettered b 0) tokenlessBody).map (fun c ↦ c.expectedLaunchToken) =
        .ok (CString.store 64 (.ofBytes [b])) := by
    decide +kernel
  refine ⟨fun h ↦ ?_, hkept⟩
  have heq := h (lettered 65 0) (lettered 66 0)
  have h₁ := hkept 65 (by decide)
  have h₂ := hkept 66 (by decide)
  rw [heq, h₂] at h₁
  exact absurd (Except.ok.inj h₁) (by decide)

end PlayosCompositor
