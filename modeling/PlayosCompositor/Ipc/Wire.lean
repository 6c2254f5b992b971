import PlayosCompositor.Ipc.Json
import PlayosCompositor.Model.System

/-!
# Frames of `compositor.sock`

`src/compositor_ipc.c:24–46,104–167,252–287` down to the bytes: the frame that is sent, the
checks on a frame that was read, and `ipc_dispatch` with its three local buffers, which hold
arbitrary bytes when it is called. `ipcFdHandlerBytes_eq` connects them to the handler that
the compositor's runs use.
-/

namespace PlayosCompositor

open Memory

/-- `IPC_MAGIC`. -/
def ipcMagic : UInt32 := 0x504c4f53

/-- `IPC_MAX_BODY`. -/
def ipcMaxBody : UInt32 := 65536

/-- `IPC_MAX_FRAME`. -/
def ipcMaxFrame : Nat := 8 + ipcMaxBody.toNat

/-! ### Little-endian helpers -/

/-- Four bytes put together, the least significant first. -/
def le32 (b₀ b₁ b₂ b₃ : UInt8) : UInt32 :=
  b₀.toUInt32 ||| (b₁.toUInt32 <<< 8) ||| (b₂.toUInt32 <<< 16) ||| (b₃.toUInt32 <<< 24)

/-- `le32_load`, `src/compositor_ipc.c:31`. -/
def le32Load (mem : List UInt8) (p : Nat) : Exec UInt32 := do
  return le32 (← load mem p) (← load mem (p + 1)) (← load mem (p + 2)) (← load mem (p + 3))

/-- The four bytes that `le32_store` writes; `src/compositor_ipc.c:40`. -/
def le32Store (v : UInt32) : List UInt8 :=
  [v.toUInt8, (v >>> 8).toUInt8, (v >>> 16).toUInt8, (v >>> 24).toUInt8]

/-- The number that little-endian bytes stand for. -/
def leNat : List UInt8 → Nat
  | [] => 0
  | b :: rest => b.toNat + 256 * leNat rest

private theorem or_shiftLeft {a i : Nat} (h : a < 2 ^ i) (b : Nat) :
    a ||| b <<< i = a + b * 2 ^ i := by
  rw [Nat.or_comm, ← Nat.shiftLeft_add_eq_or_of_lt h, Nat.shiftLeft_eq, Nat.add_comm]

private theorem toNat_shiftLeft_byte (b : UInt8) {i : Nat} (hi : i ≤ 24) :
    b.toNat <<< i % 2 ^ 32 = b.toNat <<< i := by
  apply Nat.mod_eq_of_lt
  rw [Nat.shiftLeft_eq]
  calc b.toNat * 2 ^ i < 2 ^ 8 * 2 ^ i :=
        Nat.mul_lt_mul_of_pos_right b.toNat_lt (Nat.two_pow_pos i)
    _ = 2 ^ (8 + i) := (Nat.pow_add 2 8 i).symm
    _ ≤ 2 ^ 32 := Nat.pow_le_pow_right (by decide) (by omega)

private theorem toNat_le32 (b₀ b₁ b₂ b₃ : UInt8) :
    (le32 b₀ b₁ b₂ b₃).toNat = leNat [b₀, b₁, b₂, b₃] := by
  have h₀ := b₀.toNat_lt
  have h₁ := b₁.toNat_lt
  have h₂ := b₂.toNat_lt
  have hsh : ∀ (b : UInt8) (i : UInt32), i.toNat ≤ 24 →
      (b.toUInt32 <<< i).toNat = b.toNat <<< i.toNat := by
    intro b i hi
    rw [UInt32.toNat_shiftLeft, UInt8.toNat_toUInt32, Nat.mod_eq_of_lt (by omega : i.toNat < 32),
      toNat_shiftLeft_byte b hi]
  unfold le32
  rw [UInt32.toNat_or, UInt32.toNat_or, UInt32.toNat_or, UInt8.toNat_toUInt32,
    hsh b₁ 8 (by decide), hsh b₂ 16 (by decide), hsh b₃ 24 (by decide)]
  change b₀.toNat ||| b₁.toNat <<< 8 ||| b₂.toNat <<< 16 ||| b₃.toNat <<< 24 = _
  have h₀₁ : b₀.toNat + b₁.toNat * 2 ^ 8 < 2 ^ 16 := by omega
  have h₀₂ : b₀.toNat + b₁.toNat * 2 ^ 8 + b₂.toNat * 2 ^ 16 < 2 ^ 24 := by omega
  rw [or_shiftLeft h₀, or_shiftLeft h₀₁, or_shiftLeft h₀₂]
  simp only [leNat]
  omega

private theorem le32Load_eq {mem : List UInt8} {p : Nat} (h : p + 4 ≤ mem.length) :
    ∃ v, le32Load mem p = .ok v ∧ v.toNat = leNat ((mem.drop p).take 4) := by
  obtain ⟨b₀, h₀⟩ := drop_cons_of_lt (show p < mem.length by omega)
  obtain ⟨b₁, h₁⟩ := drop_cons_of_lt (show p + 1 < mem.length by omega)
  obtain ⟨b₂, h₂⟩ := drop_cons_of_lt (show p + 2 < mem.length by omega)
  obtain ⟨b₃, h₃⟩ := drop_cons_of_lt (show p + 3 < mem.length by omega)
  refine ⟨le32 b₀ b₁ b₂ b₃, ?_, ?_⟩
  · rw [le32Load, load_drop h₀, load_drop h₁, load_drop h₂, load_drop h₃]
    rfl
  · rw [toNat_le32, h₀, h₁, h₂, h₃]
    rfl

/-! ### Frame send -/

/-- The body that `snprintf` would write in `frame_send`, `src/compositor_ipc.c:111–116`. -/
def frameBody (type extraJson : CString) : CString :=
  if extraJson.bytes ≠ [] then
    .ofString "\x7b\"v\":1,\"type\":\"" ++ type ++ .ofString "\"," ++ extraJson ++ .ofString "\x7d"
  else .ofString "\x7b\"v\":1,\"type\":\"" ++ type ++ .ofString "\"\x7d"

/-- The bytes that `frame_send` hands to `send`, `src/compositor_ipc.c:105`; `none` when the
body would not fit. -/
def frameBytes (type extraJson : CString) : Option (List UInt8) :=
  let body := (frameBody type extraJson).bytes
  if body.length ≥ ipcMaxBody.toNat then none
  else some (le32Store ipcMagic ++ le32Store (.ofNat body.length) ++ body)

/-- The body of a message's frame. -/
def IpcMessage.body (message : IpcMessage) : CString :=
  frameBody (.ofString message.type) message.extraJson

/-! ### Dispatch -/

/-- The local buffers of `ipc_dispatch`, `src/compositor_ipc.c:142,150–151`, with the bytes
that the stack held. -/
structure IpcLocals where
  type : List UInt8
  launchToken : List UInt8
  gameId : List UInt8
  length_type : type.length = 128
  length_launchToken : launchToken.length = 64
  length_gameId : gameId.length = 256

/-- `ipc_dispatch`, `src/compositor_ipc.c:140`, on the bytes of a body. -/
def ipcDispatchBytes (fuel : Nat) (c : Compositor) (locals : IpcLocals) (body : List UInt8) :
    Exec Compositor := do
  let (result, type) ← jsonGetString fuel body (.ofString "type") locals.type
  if result ≠ 0 then return c
  let type ← loadString type
  if type = .ofString "SetExpectedGame" then
    let (_, launchToken) ← jsonGetString fuel body (.ofString "launch_token") locals.launchToken
    let (_, gameId) ← jsonGetString fuel body (.ofString "game_id") locals.gameId
    let launchToken ← loadString launchToken
    let gameId ← loadString gameId
    return ipcDispatch c (.setExpectedGame launchToken gameId)
  else if type = .ofString "ClearExpectedGame" then return ipcDispatch c .clearExpectedGame
  else if type = .ofString "ForceTerminateGame" then return ipcDispatch c .forceTerminateGame
  else if type = .ofString "ShowOverlay" then return ipcDispatch c .showOverlay
  else if type = .ofString "HideOverlay" then return ipcDispatch c .hideOverlay
  else return c

/-- The checks of `ipc_fd_handler` on a frame that was read, `src/compositor_ipc.c:269–284`:
the body, unless the frame is dropped. -/
def frameChecks (received : List UInt8) : Exec (Option (List UInt8)) := do
  if received.length < 8 then return none
  let magic ← le32Load received 0
  let length ← le32Load received 4
  if magic ≠ ipcMagic ∨ length > ipcMaxBody ∨ received.length < 8 + length.toNat then return none
  return some (← slice received 8 length.toNat)

/-- `ipc_fd_handler`, `src/compositor_ipc.c:252`, on the bytes that `read` returned; none at
the end of the connection and on an error. -/
def ipcFdHandlerBytes (fuel : Nat) (c : Compositor) (locals : IpcLocals) (mask : FdMask)
    (received : List UInt8) : Exec Compositor := do
  if mask.hangupOrError then return { c with ipc := c.ipc.ipcDisconnect.ipcScheduleReconnect }
  if !mask.readable then return c
  if received = [] then return { c with ipc := c.ipc.ipcDisconnect.ipcScheduleReconnect }
  match ← frameChecks received with
  | none => return c
  | some body => ipcDispatchBytes fuel c locals body

/-- The length that a frame's header declares. -/
def declaredLength (received : List UInt8) : Nat := leNat ((received.drop 4).take 4)

/-- A frame whose header is complete and valid, and whose body was received whole. -/
structure ValidFrame (received : List UInt8) : Prop where
  header : 8 ≤ received.length
  magic : leNat (received.take 4) = 0x504c4f53
  bounded : declaredLength received ≤ 65536
  complete : 8 + declaredLength received ≤ received.length

/-- The checks stay within the received bytes; they let valid frames pass and nothing else. -/
theorem frameChecks_cases (received : List UInt8) :
    (ValidFrame received ∧
        frameChecks received = .ok (some ((received.drop 8).take (declaredLength received)))) ∨
      (¬ ValidFrame received ∧ frameChecks received = .ok none) := by
  unfold frameChecks
  by_cases hlen : received.length < 8
  · refine Or.inr ⟨fun h ↦ ?_, by rw [if_pos hlen]; rfl⟩
    have := h.header
    omega
  · obtain ⟨magic, hmagic, hm⟩ := le32Load_eq (show 0 + 4 ≤ received.length by omega)
    obtain ⟨length, hlength, hl⟩ := le32Load_eq (show 4 + 4 ≤ received.length by omega)
    have hmagic' : magic = ipcMagic ↔ leNat (received.take 4) = 0x504c4f53 := by
      rw [← List.drop_zero (l := received), ← hm]
      exact UInt32.toNat_inj.symm
    have hlength' : length.toNat = declaredLength received := hl
    have hbad : (magic ≠ ipcMagic ∨ length > ipcMaxBody ∨ received.length < 8 + length.toNat) ↔
        ¬ ValidFrame received := by
      rw [← not_iff_not, not_not, not_or, not_or, not_not, hmagic', gt_iff_lt,
        UInt32.lt_iff_toNat_lt, hlength', Nat.not_lt, Nat.not_lt]
      exact ⟨fun h ↦ ⟨by omega, h.1, h.2.1, h.2.2⟩, fun h ↦ ⟨h.magic, h.bounded, h.complete⟩⟩
    rw [if_neg hlen, hmagic, ok_bind, hlength, ok_bind]
    by_cases hv : ValidFrame received
    · refine Or.inl ⟨hv, ?_⟩
      rw [if_neg fun h ↦ hbad.mp h hv, slice, hlength', if_pos hv.complete]
      rfl
    · exact Or.inr ⟨hv, if_pos (hbad.mpr hv)⟩

/-- The four bytes that are stored stand for the number. -/
theorem leNat_le32Store (v : UInt32) : leNat (le32Store v) = v.toNat := by
  have hv := v.toNat_lt
  have hbyte : ∀ i : UInt32, i.toNat < 32 →
      (v >>> i).toUInt8.toNat = v.toNat / 2 ^ i.toNat % 256 := by
    intro i hi
    rw [UInt32.toNat_toUInt8, UInt32.toNat_shiftRight, Nat.mod_eq_of_lt hi,
      Nat.shiftRight_eq_div_pow]
  simp only [le32Store, leNat, hbyte 8 (by decide), hbyte 16 (by decide), hbyte 24 (by decide),
    UInt32.toNat_toUInt8]
  change v.toNat % 256 + 256 * (v.toNat / 256 % 256 + 256 * (v.toNat / 65536 % 256 +
    256 * (v.toNat / 16777216 % 256 + 256 * 0))) = v.toNat
  omega

/-- How a frame lies in the bytes that are sent. -/
structure FrameLayout (bytes body : List UInt8) : Prop where
  fits : body.length < ipcMaxBody.toNat
  length : bytes.length = 8 + body.length
  magic : bytes.take 4 = le32Store ipcMagic
  declared : declaredLength bytes = body.length
  body : bytes.drop 8 = body

/-- What is sent is a frame around the body. -/
theorem layout_frameBytes {type extraJson : CString} {bytes : List UInt8}
    (h : frameBytes type extraJson = some bytes) :
    FrameLayout bytes (frameBody type extraJson).bytes := by
  obtain ⟨hlen, he⟩ := Option.ite_none_left_eq_some.mp h
  generalize (frameBody type extraJson).bytes = body at hlen he ⊢
  have hfits : body.length < 65536 := Nat.lt_of_not_le hlen
  have hsplit : bytes = le32Store ipcMagic ++ (le32Store (.ofNat body.length) ++ body) := by
    rw [← List.append_assoc]
    exact (Option.some.inj he).symm
  have hdrop : bytes.drop 4 = le32Store (.ofNat body.length) ++ body := by
    rw [hsplit]
    rfl
  refine ⟨hfits, ?_, ?_, ?_, ?_⟩
  · rw [hsplit, List.length_append, List.length_append]
    change 4 + (4 + body.length) = _
    omega
  · rw [hsplit]
    rfl
  · rw [declaredLength, hdrop]
    change leNat (le32Store (.ofNat body.length)) = body.length
    rw [leNat_le32Store, UInt32.toNat_ofNat', Nat.mod_eq_of_lt (by omega)]
  · rw [← List.drop_drop (i := 4) (j := 4), hdrop]
    rfl

/-- The checks let every frame pass that is sent, and find its body. -/
theorem frameChecks_frameBytes {type extraJson : CString} {bytes : List UInt8}
    (h : frameBytes type extraJson = some bytes) :
    frameChecks bytes = .ok (some (frameBody type extraJson).bytes) := by
  obtain ⟨hfits, hlength, hmagic, hdeclared, hbody⟩ := layout_frameBytes h
  change _ < 65536 at hfits
  have hvalid : ValidFrame bytes :=
    ⟨by omega, by rw [hmagic, leNat_le32Store]; rfl, by omega, by omega⟩
  rcases frameChecks_cases bytes with ⟨-, hc⟩ | ⟨hn, -⟩
  · rw [hc, hdeclared, hbody, List.take_length]
  · exact absurd hvalid hn

/-- Every message is sent in a frame, in which the checks find its body. -/
theorem frameChecks_message (message : IpcMessage) :
    ∃ bytes, frameBytes (.ofString message.type) message.extraJson = some bytes ∧
      frameChecks bytes = .ok (some message.body.bytes) := by
  have hextra : message.extraJson.bytes.length < 192 := by
    cases message with
    | stateChanged state => exact (CharBuf.fits _).trans (by decide)
    | gameSurfaceReady launchToken => exact CharBuf.fits _
  have htype : (CString.ofString message.type).bytes.length ≤ 22 := by
    cases message with
    | stateChanged state =>
      exact (by decide : (CString.ofString "CompositorStateChanged").bytes.length ≤ 22)
    | gameSurfaceReady launchToken =>
      exact (by decide : (CString.ofString "GameSurfaceReady").bytes.length ≤ 22)
  have hopen : (CString.ofString "\x7b\"v\":1,\"type\":\"").bytes.length = 15 := by decide
  have hcomma : (CString.ofString "\",").bytes.length = 2 := by decide
  have hclose : (CString.ofString "\x7d").bytes.length = 1 := by decide
  have hquoted : (CString.ofString "\"\x7d").bytes.length = 2 := by decide
  have hbody : ¬ (frameBody (.ofString message.type) message.extraJson).bytes.length ≥
      ipcMaxBody.toNat := by
    change ¬ 65536 ≤ _
    unfold frameBody
    split <;> simp only [CString.bytes_append, List.length_append] <;> omega
  exact ⟨_, if_neg hbody, frameChecks_frameBytes (if_neg hbody)⟩

/-! ### What a body says -/

/-- The string of a member, as a buffer of `n` bytes receives it. -/
def bodyString (key : String) (n : Nat) (body : List UInt8) : Option CString :=
  (findString (CString.ofString key).bytes body).map fun v ↦ .ofBytes (v.take (n - 1))

/-- The string in a buffer after a member has been asked for: the member's, or else what was
there before. -/
def fetched (found : Option CString) (out : List UInt8) : Exec CString :=
  match found with
  | none => loadString out
  | some s => .ok s

/-- The commands that carry nothing but their type. -/
def commandOfType (type : CString) : Option IpcCommand :=
  if type = .ofString "ClearExpectedGame" then some .clearExpectedGame
  else if type = .ofString "ForceTerminateGame" then some .forceTerminateGame
  else if type = .ofString "ShowOverlay" then some .showOverlay
  else if type = .ofString "HideOverlay" then some .hideOverlay
  else none

private theorem loadString_bodyString {key : String} {n : Nat} {out body : List UInt8}
    (hn : out.length = n) :
    loadString (answer out (findString (CString.ofString key).bytes body)).2 =
      fetched (bodyString key n body) out := by
  rw [loadString_answer, bodyString, hn]
  cases findString (CString.ofString key).bytes body <;> rfl

/-- `ipc_dispatch` acts on the type; only SetExpectedGame looks into its buffers again. -/
theorem ipcDispatchBytes_eq {fuel : Nat} (c : Compositor) (locals : IpcLocals)
    {body : List UInt8} (hf : body.length < fuel) :
    ipcDispatchBytes fuel c locals body =
      match bodyString "type" 128 body with
      | none => .ok c
      | some type =>
        if type = .ofString "SetExpectedGame" then do
          let launchToken ← fetched (bodyString "launch_token" 64 body) locals.launchToken
          let gameId ← fetched (bodyString "game_id" 256 body) locals.gameId
          return ipcDispatch c (.setExpectedGame launchToken gameId)
        else .ok ((commandOfType type).elim c (ipcDispatch c)) := by
  have hget : ∀ (key : String) (out : List UInt8), 0 < out.length →
      jsonGetString fuel body (.ofString key) out =
        .ok (answer out (findString (CString.ofString key).bytes body)) :=
    fun key out hout ↦ jsonGetString_eq hf hout (.ofString key)
  have htype := @loadString_bodyString "type" _ _ body locals.length_type
  have htoken := @loadString_bodyString "launch_token" _ _ body locals.length_launchToken
  have hid := @loadString_bodyString "game_id" _ _ body locals.length_gameId
  unfold ipcDispatchBytes
  rw [hget _ _ (by rw [locals.length_type]; decide), ok_bind]
  cases hv : findString (CString.ofString "type").bytes body with
  | none =>
    rw [bodyString, hv]
    rfl
  | some v =>
    rw [hv] at htype
    have hb : bodyString "type" 128 body = some (.ofBytes (v.take 127)) := by
      rw [bodyString, hv]
      rfl
    rw [hb] at htype ⊢
    dsimp only [answer] at htype ⊢
    rw [if_neg (by decide), htype, fetched, ok_bind]
    split
    · rw [hget _ _ (by rw [locals.length_launchToken]; decide), ok_bind,
        hget _ _ (by rw [locals.length_gameId]; decide), ok_bind]
      rw [htoken, hid]
    · unfold commandOfType
      repeat' split
      all_goals rfl

/-! ### The handler of the runs -/

/-- A SetExpectedGame body has both members that the command stores. -/
def ReadsWhatItStores (body : List UInt8) : Prop :=
  bodyString "type" 128 body = some (.ofString "SetExpectedGame") →
    (bodyString "launch_token" 64 body).isSome ∧ (bodyString "game_id" 256 body).isSome

/-- The command that a body carries. -/
def commandOfBody (body : List UInt8) : Option IpcCommand :=
  (bodyString "type" 128 body).bind fun type ↦
    if type = .ofString "SetExpectedGame" then
      (bodyString "launch_token" 64 body).bind fun launchToken ↦
        (bodyString "game_id" 256 body).map (.setExpectedGame launchToken ·)
    else commandOfType type

/-- What the handler makes of the bytes that were read. -/
def IpcRead.ofBytes (received : List UInt8) : IpcRead :=
  if received = [] then .failed
  else if 8 ≤ received.length ∧ leNat (received.take 4) = 0x504c4f53 ∧
      declaredLength received ≤ 65536 ∧ 8 + declaredLength received ≤ received.length then
    ((commandOfBody ((received.drop 8).take (declaredLength received))).map .command).getD .dropped
  else .dropped

private theorem ipcDispatchBytes_of_reads {fuel : Nat} (c : Compositor) (locals : IpcLocals)
    {body : List UInt8} (hf : body.length < fuel) (h : ReadsWhatItStores body) :
    ipcDispatchBytes fuel c locals body = .ok ((commandOfBody body).elim c (ipcDispatch c)) := by
  unfold ReadsWhatItStores at h
  rw [ipcDispatchBytes_eq c locals hf, commandOfBody]
  cases ht : bodyString "type" 128 body with
  | none => rfl
  | some type =>
    rw [ht] at h
    by_cases hs : type = .ofString "SetExpectedGame"
    · obtain ⟨htok, hid⟩ := h (congrArg some hs)
      obtain ⟨token, htok⟩ := Option.isSome_iff_exists.mp htok
      obtain ⟨gameId, hid⟩ := Option.isSome_iff_exists.mp hid
      simp only [if_pos hs, htok, hid, Option.bind_some, Option.map_some]
      rfl
    · simp only [if_neg hs, Option.bind_some]

/-- Down to the bytes, the handler does what it does in the compositor's runs. -/
theorem ipcFdHandlerBytes_eq {fuel : Nat} (c : Compositor) (locals : IpcLocals) (mask : FdMask)
    {received : List UInt8} (hf : received.length < fuel)
    (h : ReadsWhatItStores ((received.drop 8).take (declaredLength received))) :
    ipcFdHandlerBytes fuel c locals mask received =
      .ok (ipcFdHandler c mask (.ofBytes received)) := by
  unfold ipcFdHandlerBytes ipcFdHandler IpcRead.ofBytes
  cases mask.hangupOrError with
  | true => rfl
  | false =>
    cases mask.readable with
    | false => rfl
    | true =>
      simp only [Bool.not_true, Bool.false_eq_true, if_false]
      by_cases hne : received = []
      · rw [if_pos hne, if_pos hne]
        rfl
      · rw [if_neg hne, if_neg hne]
        rcases frameChecks_cases received with ⟨hv, hc⟩ | ⟨hv, hc⟩
        · have hlen : ((received.drop 8).take (declaredLength received)).length < fuel := by
            rw [List.length_take, List.length_drop]
            omega
          rw [hc, ok_bind, if_pos ⟨hv.header, hv.magic, hv.bounded, hv.complete⟩]
          dsimp only
          rw [ipcDispatchBytes_of_reads c locals hlen h]
          cases commandOfBody ((received.drop 8).take (declaredLength received)) <;> rfl
        · rw [hc, ok_bind, if_neg fun hx ↦ hv ⟨hx.1, hx.2.1, hx.2.2.1, hx.2.2.2⟩]
          rfl

end PlayosCompositor
