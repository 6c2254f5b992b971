import PlayosCompositor.Ipc.Frames
import PlayosCompositor.Ipc.Input
import PlayosCompositor.Runs.Launch

/-!
# Runs over the wire

The compositor as it runs on the bytes of `compositor.sock`, with whatever the stack holds in the
buffers of `ipc_dispatch`, against the compositor that runs on commands. The frames of commands
that the buffers hold whole lead to the same states, and what the compositor sends can be read
back from its frames.
-/

namespace PlayosCompositor

open Memory

/-! ### Commands in frames -/

namespace IpcCommand

/-- `SetExpectedGame`. -/
def setExpectedGameType : Identifier :=
  ⟨.ofString "SetExpectedGame", List.all_eq_true.mp (by decide)⟩

/-- `PLAYOS_COMPOSITOR_MSG_*`, `include/compositor.h:66–70`. -/
def type : IpcCommand → Identifier
  | .setExpectedGame _ _ => setExpectedGameType
  | .clearExpectedGame => ⟨.ofString "ClearExpectedGame", List.all_eq_true.mp (by decide)⟩
  | .forceTerminateGame => ⟨.ofString "ForceTerminateGame", List.all_eq_true.mp (by decide)⟩
  | .showOverlay => ⟨.ofString "ShowOverlay", List.all_eq_true.mp (by decide)⟩
  | .hideOverlay => ⟨.ofString "HideOverlay", List.all_eq_true.mp (by decide)⟩

/-- The members of the command's body besides its type, with the strings as they are. -/
def extraJson : IpcCommand → CString
  | .setExpectedGame launchToken gameId =>
    .ofString "\"launch_token\":\"" ++ launchToken ++ .ofString "\",\"game_id\":\"" ++ gameId ++
      .ofString "\""
  | _ => .empty

/-- The command in a frame. -/
def frame (command : IpcCommand) : Option (List UInt8) :=
  frameBytes command.type.toCString command.extraJson

/-- The strings of the command can stand between quotes. -/
def Quotable : IpcCommand → Prop
  | .setExpectedGame launchToken gameId =>
    RawContent launchToken.bytes ∧ RawContent gameId.bytes
  | _ => True

/-- The strings of the command fit the buffers of `ipc_dispatch`, and the scanner does not take
the token for the name of the member behind it. -/
def Fits : IpcCommand → Prop
  | .setExpectedGame launchToken gameId =>
    launchToken.bytes.length < 64 ∧ gameId.bytes.length < 256 ∧
      ¬ EndsLiteral gameIdName.bytes launchToken.bytes
  | _ => True

/-- The members of a quotable command. -/
def members : (command : IpcCommand) → command.Quotable → List StringMember
  | .setExpectedGame launchToken gameId, h =>
    [⟨launchTokenName, ⟨launchToken, h.1⟩⟩, ⟨gameIdName, ⟨gameId, h.2⟩⟩]
  | .clearExpectedGame, _ => []
  | .forceTerminateGame, _ => []
  | .showOverlay, _ => []
  | .hideOverlay, _ => []

private theorem body_eq (command : IpcCommand) (h : command.Quotable) :
    (frameBody command.type.toCString command.extraJson).bytes =
      bodyOf command.type (command.members h) := by
  have hextra : command.extraJson = StringMember.texts (command.members h) := by
    cases command with
    | setExpectedGame launchToken gameId =>
      apply CString.ext
      simp only [extraJson, members, StringMember.texts, StringMember.more, StringMember.text,
        extraMember, CString.bytes_append, List.append_assoc]
      rfl
    | _ => rfl
  rw [hextra, bodyOf]

private theorem exists_frame {command : IpcCommand} (h : command.Fits) :
    ∃ bytes, command.frame = some bytes := by
  apply exists_frameBytes
  cases command with
  | setExpectedGame launchToken gameId =>
    obtain ⟨ht, hg, -⟩ := h
    have htype : setExpectedGameType.bytes.length = 15 := by decide
    have htoken : (CString.ofString "\"launch_token\":\"").bytes.length = 16 := by decide
    have hid : (CString.ofString "\",\"game_id\":\"").bytes.length = 13 := by decide
    have hclose : (CString.ofString "\"").bytes.length = 1 := by decide
    simp only [type, extraJson, CString.bytes_append, List.length_append]
    omega
  | _ => decide

end IpcCommand

/-! ### What a frame's receiver reads -/

private theorem bodyString_of_scan {key : String} {n : Nat} {type : Identifier}
    {ms : List StringMember} {found : Option CString}
    (hplain : ∀ b ∈ (CString.ofString key).bytes, isIdentifierByte b = true)
    (hkey : (CString.ofString "v").bytes ≠ (CString.ofString key).bytes)
    (h : scanMembers (CString.ofString key).bytes ((typeMember type :: ms).map StringMember.entry) =
      found.map CString.bytes) :
    bodyString key n (bodyOf type ms) =
      found.map fun s ↦ .ofBytes (s.bytes.take (n - 1)) := by
  rw [bodyString, findString_bodyOf ⟨.ofString key, hplain⟩ type ms hkey, h, Option.map_map]
  rfl

private theorem bodyString_type_bodyOf {type : Identifier} (h : type.bytes.length < 128)
    (ms : List StringMember) :
    bodyString "type" 128 (bodyOf type ms) = some type.toCString := by
  have hscan : scanMembers (CString.ofString "type").bytes
      ((typeMember type :: ms).map StringMember.entry) =
        (some type.toCString).map CString.bytes :=
    if_pos (List.suffix_refl _)
  rw [bodyString_of_scan (List.all_eq_true.mp (by decide)) (by decide) hscan, Option.map_some]
  congr 1
  apply CString.ext
  rw [CString.bytes_ofBytes_take, List.take_of_length_le (by omega)]

/-- The command in a SetExpectedGame frame: its strings as far as the buffers hold them, unless
the token hides the member behind it. -/
theorem commandOfBody_setExpectedGame (launchToken gameId : CString)
    (h : (IpcCommand.setExpectedGame launchToken gameId).Quotable) :
    commandOfBody (bodyOf IpcCommand.setExpectedGameType (IpcCommand.members _ h)) =
      if EndsLiteral gameIdName.bytes launchToken.bytes then none
      else some (.setExpectedGame (.ofBytes (launchToken.bytes.take 63))
        (.ofBytes (gameId.bytes.take 255))) := by
  have hms : IpcCommand.members _ h = [⟨launchTokenName, ⟨launchToken, h.1⟩⟩,
      ⟨gameIdName, ⟨gameId, h.2⟩⟩] := rfl
  rw [hms]
  generalize hl : ([⟨launchTokenName, ⟨launchToken, h.1⟩⟩,
    ⟨gameIdName, ⟨gameId, h.2⟩⟩] : List StringMember) = ms
  have htoken : scanMembers launchTokenName.bytes
      ((typeMember IpcCommand.setExpectedGameType :: ms).map StringMember.entry) =
        (some launchToken).map CString.bytes := by
    rw [← hl, List.map_cons, scanMembers_entry, if_neg (by decide), if_neg (by decide),
      List.map_cons, scanMembers_entry, if_pos rfl]
    rfl
  have hid : scanMembers gameIdName.bytes
      ((typeMember IpcCommand.setExpectedGameType :: ms).map StringMember.entry) =
        (if EndsLiteral gameIdName.bytes launchToken.bytes then none
          else some gameId).map CString.bytes := by
    have hne : launchTokenName.bytes ≠ gameIdName.bytes := by decide
    rw [← hl, List.map_cons, scanMembers_entry, if_neg (by decide), if_neg (by decide),
      List.map_cons, scanMembers_entry, if_neg hne, List.map_cons, scanMembers_entry, if_pos rfl]
    dsimp only
    split <;> rfl
  have hreadToken := @bodyString_of_scan "launch_token" 64 _ ms _
    (List.all_eq_true.mp (by decide)) (by decide) htoken
  have hreadId := @bodyString_of_scan "game_id" 256 _ ms _
    (List.all_eq_true.mp (by decide)) (by decide) hid
  have htype : IpcCommand.setExpectedGameType.toCString = .ofString "SetExpectedGame" := rfl
  rw [commandOfBody, bodyString_type_bodyOf (by decide), Option.bind_some, if_pos htype,
    hreadToken, hreadId]
  split <;> rfl

private theorem body_of_frameBytes {type extraJson : CString} {bytes : List UInt8}
    (h : frameBytes type extraJson = some bytes) :
    (bytes.drop 8).take (declaredLength bytes) = (frameBody type extraJson).bytes := by
  obtain ⟨-, -, -, hdeclared, hbody⟩ := layout_frameBytes h
  rw [hdeclared, hbody, List.take_length]

private theorem ofBytes_frameBytes {type extraJson : CString} {bytes : List UInt8}
    (h : frameBytes type extraJson = some bytes) :
    IpcRead.ofBytes bytes =
      ((commandOfBody (frameBody type extraJson).bytes).map .command).getD .dropped := by
  have hbody := body_of_frameBytes h
  obtain ⟨hfits, hlength, hmagic, hdeclared, -⟩ := layout_frameBytes h
  change _ < 65536 at hfits
  have hne : bytes ≠ [] := List.ne_nil_of_length_pos (by omega)
  have hvalid : 8 ≤ bytes.length ∧ leNat (bytes.take 4) = 0x504c4f53 ∧
      declaredLength bytes ≤ 65536 ∧ 8 + declaredLength bytes ≤ bytes.length :=
    ⟨by omega, by rw [hmagic, leNat_le32Store]; rfl, by omega, by omega⟩
  rw [IpcRead.ofBytes, if_neg hne, if_pos hvalid, hbody]

private theorem commandOfBody_plain {command : IpcCommand} (hq : command.Quotable)
    (h : ∀ launchToken gameId, command ≠ .setExpectedGame launchToken gameId) :
    commandOfBody (bodyOf command.type (command.members hq)) = some command := by
  have htype : command.type.bytes.length < 128 := by
    cases command with
    | setExpectedGame launchToken gameId => exact absurd rfl (h launchToken gameId)
    | _ => decide
  rw [commandOfBody, bodyString_type_bodyOf htype, Option.bind_some]
  cases command with
  | setExpectedGame launchToken gameId => exact absurd rfl (h launchToken gameId)
  | _ =>
    rw [if_neg (by decide)]
    rfl

/-- A buffer keeps a string exactly if that is shorter. -/
private theorem ofBytes_take_eq_iff (s : CString) (n : Nat) :
    CString.ofBytes (s.bytes.take n) = s ↔ s.bytes.length < n + 1 := by
  have hb := CString.bytes_ofBytes_take s n
  constructor
  · intro h
    rw [h] at hb
    have hlen := congrArg List.length hb
    rw [List.length_take] at hlen
    omega
  · intro h
    apply CString.ext
    rw [hb, List.take_of_length_le (by omega)]

private theorem command_arrives_iff {command : IpcCommand} (hq : command.Quotable)
    {bytes : List UInt8} (hb : command.frame = some bytes) :
    IpcRead.ofBytes bytes = .command command ↔ command.Fits := by
  rw [ofBytes_frameBytes hb, IpcCommand.body_eq command hq]
  cases command with
  | setExpectedGame launchToken gameId =>
    change ((commandOfBody (bodyOf IpcCommand.setExpectedGameType _)).map _).getD _ = _ ↔ _
    rw [commandOfBody_setExpectedGame, IpcCommand.Fits]
    split
    · next hends => exact iff_of_false (by simp) fun h ↦ h.2.2 hends
    · next hends =>
      simp [hends, ofBytes_take_eq_iff]
  | _ =>
    rw [commandOfBody_plain hq (by simp)]
    exact iff_of_true rfl trivial

/-! ### The compositor on bytes -/

/-- What can happen to the compositor, with the bytes of `compositor.sock` and with what the
stack holds when they are dispatched. -/
inductive ByteEvent
  | ipcFd (mask : FdMask) (locals : IpcLocals) (received : List UInt8)
  | other (e : Event)

/-- One event of the compositor on bytes; after a fault nothing happens any more. -/
def byteStep (fuel : Nat) : Exec Compositor → ByteEvent → Option (Exec Compositor)
  | .error _, _ => none
  | .ok c, .ipcFd mask locals received =>
    if c.ipc.ipcSource.isSome then some (ipcFdHandlerBytes fuel c locals mask received) else none
  | .ok c, .other e => (step c e).map .ok

/-- The compositor on bytes. -/
def byteSystem (fuel : Nat) : Transition.System (Exec Compositor) ByteEvent where
  initial c := ∃ config, c = .ok (playosCompositorStarted config)
  step := byteStep fuel

/-- No command has this type. -/
def UnknownType (type : CString) : Prop :=
  type ≠ .ofString "SetExpectedGame" ∧ commandOfType type = none

/-- The bytes carry what the handler is to read: the frame of a command that fits, a frame that
is dropped, or the end of the connection. -/
inductive Carries : IpcRead → List UInt8 → Prop
  | command {command : IpcCommand} {bytes : List UInt8} (hq : command.Quotable)
      (hf : command.Fits) (hb : command.frame = some bytes) : Carries (.command command) bytes
  | unknown {type : Identifier} {ms : List StringMember} {bytes : List UInt8}
      (h : UnknownType type.toCString) (hlen : type.bytes.length < 128)
      (hb : frameBytes type.toCString (StringMember.texts ms) = some bytes) :
    Carries .dropped bytes
  | malformed {bytes : List UInt8} (hne : bytes ≠ []) (h : Malformed bytes) :
    Carries .dropped bytes
  | closed : Carries .failed []

/-- The event on bytes is the event. -/
inductive OnBytes : Event → ByteEvent → Prop
  | ipcFd (mask : FdMask) (locals : IpcLocals) {read : IpcRead} {received : List UInt8}
      (hmax : received.length ≤ ipcMaxFrame) (h : Carries read received) :
    OnBytes (.ipcFd mask read) (.ipcFd mask locals received)
  | other {e : Event} (h : ∀ mask read, e ≠ .ipcFd mask read) : OnBytes e (.other e)

/-- A command that fits has in its frame what is stored of it. -/
private theorem readsWhatItStores_command {command : IpcCommand} (hq : command.Quotable)
    (hf : command.Fits) : ReadsWhatItStores (bodyOf command.type (command.members hq)) := by
  intro ht
  have hc : (commandOfBody (bodyOf command.type (command.members hq))).isSome := by
    cases command with
    | setExpectedGame launchToken gameId =>
      change (commandOfBody (bodyOf IpcCommand.setExpectedGameType _)).isSome
      rw [commandOfBody_setExpectedGame, if_neg hf.2.2]
      rfl
    | _ =>
      rw [commandOfBody_plain hq (by simp)]
      rfl
  rw [commandOfBody, ht, Option.bind_some, if_pos rfl] at hc
  obtain ⟨command, hc⟩ := Option.isSome_iff_exists.mp hc
  obtain ⟨launchToken, htoken, hid⟩ := Option.bind_eq_some_iff.mp hc
  obtain ⟨gameId, hid, -⟩ := Option.map_eq_some_iff.mp hid
  exact ⟨Option.isSome_of_eq_some htoken, Option.isSome_of_eq_some hid⟩

/-- A malformed frame changes nothing. -/
private theorem ipcFdHandlerBytes_malformed {fuel : Nat} (c : Compositor) (locals : IpcLocals)
    (mask : FdMask) {received : List UInt8} (hf : received.length < fuel) (hne : received ≠ [])
    (h : Malformed received) :
    ipcFdHandlerBytes fuel c locals mask received = .ok (ipcFdHandler c mask .dropped) := by
  rcases frameChecks_cases received with ⟨hv, hc⟩ | ⟨hv, hc⟩
  · have htype : findString (CString.ofString "type").bytes
        ((received.drop 8).take (declaredLength received)) = none := by
      obtain ⟨hheader, hmagic, hbounded, hcomplete⟩ := hv
      rcases h with h | h | h | h | h
      · omega
      · exact absurd hmagic h
      · omega
      · omega
      · exact h
    have hnone :
        bodyString "type" 128 ((received.drop 8).take (declaredLength received)) = none := by
      rw [bodyString, htype, Option.map_none]
    have hread : IpcRead.ofBytes received = .dropped := by
      rw [IpcRead.ofBytes, if_neg hne,
        if_pos ⟨hv.header, hv.magic, hv.bounded, hv.complete⟩, commandOfBody, hnone]
      rfl
    rw [← hread]
    apply ipcFdHandlerBytes_eq c locals mask hf
    intro hs
    rw [hnone] at hs
    cases hs
  · unfold ipcFdHandlerBytes ipcFdHandler
    cases mask.hangupOrError with
    | true => rfl
    | false =>
      cases mask.readable with
      | false => rfl
      | true =>
        rw [if_neg (by decide), if_neg (by decide), if_neg hne, hc]
        rfl

/-- On the bytes that carry it, the handler does what it does on what it reads. -/
private theorem ipcFdHandlerBytes_carries {fuel : Nat} (c : Compositor) (locals : IpcLocals)
    (mask : FdMask) {read : IpcRead} {received : List UInt8} (hf : received.length < fuel)
    (h : Carries read received) :
    ipcFdHandlerBytes fuel c locals mask received = .ok (ipcFdHandler c mask read) := by
  cases h with
  | @command command _ hq hfits hb =>
    rw [← (command_arrives_iff hq hb).mpr hfits]
    apply ipcFdHandlerBytes_eq c locals mask hf
    rw [body_of_frameBytes hb, IpcCommand.body_eq command hq]
    exact readsWhatItStores_command hq hfits
  | @unknown type ms _ hu hlen hb =>
    have hread : IpcRead.ofBytes received = .dropped := by
      change _ = some _ at hb
      rw [ofBytes_frameBytes hb, commandOfBody]
      change ((bodyString "type" 128 (bodyOf type ms)).bind _ |>.map _).getD _ = _
      rw [bodyString_type_bodyOf hlen, Option.bind_some, if_neg hu.1, hu.2]
      rfl
    rw [← hread]
    apply ipcFdHandlerBytes_eq c locals mask hf
    rw [body_of_frameBytes hb]
    intro hs
    change bodyString "type" 128 (bodyOf type ms) = _ at hs
    rw [bodyString_type_bodyOf hlen] at hs
    exact absurd (Option.some.inj hs) hu.1
  | malformed hne h => exact ipcFdHandlerBytes_malformed c locals mask hf hne h
  | closed =>
    unfold ipcFdHandlerBytes ipcFdHandler
    cases mask.hangupOrError with
    | true => rfl
    | false => cases mask.readable <;> rfl

private theorem byteStep_onBytes {fuel : Nat} (hf : ipcMaxFrame < fuel) (c : Compositor) {e : Event}
    {b : ByteEvent} (h : OnBytes e b) : byteStep fuel (.ok c) b = (step c e).map .ok := by
  cases h with
  | other _ => rfl
  | ipcFd mask locals hmax h =>
    rw [byteStep, step, ipcFdHandlerBytes_carries c locals mask (by omega) h]
    split <;> rfl

private theorem byteRun_eq {fuel : Nat} (hf : ipcMaxFrame < fuel) {es : List Event}
    {bs : List ByteEvent} (h : List.Forall₂ OnBytes es bs) (c : Compositor) :
    (byteSystem fuel).run (.ok c) bs = (compositorSystem.run c es).map .ok := by
  induction h generalizing c with
  | nil => rfl
  | @cons e b es bs hb _ ih =>
    rw [Transition.System.run_cons, Transition.System.run_cons]
    have hstep : (byteSystem fuel).step (.ok c) b = (compositorSystem.step c e).map .ok :=
      byteStep_onBytes hf c hb
    rw [hstep]
    cases compositorSystem.step c e with
    | none => rfl
    | some d => exact ih d

/-! ### What is read of the messages -/

namespace IpcMessage

/-- `state`. -/
def stateName : Identifier := ⟨.ofString "state", List.all_eq_true.mp (by decide)⟩

/-- The name of a message's member besides its type. -/
def key : IpcMessage → Identifier
  | .stateChanged _ => stateName
  | .gameSurfaceReady _ => launchTokenName

/-- The content of that member. -/
def content : IpcMessage → CString
  | .stateChanged state => .ofString (foregroundStateName state)
  | .gameSurfaceReady launchToken => launchToken.toCString

/-- `CompositorStateChanged`. -/
def stateChangedType : Identifier :=
  ⟨.ofString "CompositorStateChanged", List.all_eq_true.mp (by decide)⟩

/-- The type of a message, as an identifier. -/
def typeName : IpcMessage → Identifier
  | .stateChanged _ => stateChangedType
  | .gameSurfaceReady _ => readyType

/-- The message is sent in a frame from which `json_get_string` takes its type and its content. -/
def ReadBack (message : IpcMessage) : Prop :=
  ∃ bytes body, frameBytes (.ofString message.type) message.extraJson = some bytes ∧
    bytes.length ≤ ipcMaxFrame ∧ frameChecks bytes = .ok (some body) ∧
    Reads body (.ofString "type") (.ofString message.type) ∧
    Reads body message.key.toCString message.content

/-- Names of foreground states need no escapes. -/
private theorem rawContent_foregroundStateName (state : ForegroundState) :
    RawContent (CString.ofString (foregroundStateName state)).bytes :=
  Identifier.rawContent ⟨_, List.all_eq_true.mp (by cases state <;> decide)⟩

/-- In a frame, the scanner finds the type first and the content behind it. -/
private theorem findString_message (message : IpcMessage) (content : ContentString) :
    findString (CString.ofString "type").bytes
        (bodyOf message.typeName [⟨message.key, content⟩]) = some message.typeName.bytes ∧
      findString message.key.bytes (bodyOf message.typeName [⟨message.key, content⟩]) =
        some content.bytes := by
  have hnames : (CString.ofString "v").bytes ≠ message.key.bytes ∧
      (CString.ofString "type").bytes ≠ message.key.bytes ∧
      ¬ EndsLiteral message.key.bytes message.typeName.bytes := by
    cases message with
    | stateChanged _ =>
      exact (by decide : (CString.ofString "v").bytes ≠ stateName.bytes ∧
        (CString.ofString "type").bytes ≠ stateName.bytes ∧
        ¬ EndsLiteral stateName.bytes stateChangedType.bytes)
    | gameSurfaceReady _ =>
      exact (by decide : (CString.ofString "v").bytes ≠ launchTokenName.bytes ∧
        (CString.ofString "type").bytes ≠ launchTokenName.bytes ∧
        ¬ EndsLiteral launchTokenName.bytes readyType.bytes)
  obtain ⟨hv, hname, hends⟩ := hnames
  constructor
  · have hscan := findString_bodyOf (typeMember message.typeName).name message.typeName
      [⟨message.key, content⟩] (by decide : (CString.ofString "v").bytes ≠
        (CString.ofString "type").bytes)
    apply hscan.trans
    rw [List.map_cons, scanMembers_entry, if_pos rfl]
    rfl
  · have hname' : (typeMember message.typeName).name.bytes ≠ message.key.bytes := hname
    have hends' : ¬ EndsLiteral message.key.bytes (typeMember message.typeName).content.bytes :=
      hends
    rw [findString_bodyOf _ _ _ hv, List.map_cons, scanMembers_entry, if_neg hname',
      if_neg hends', List.map_cons, scanMembers_entry, if_pos rfl]

private theorem readBack_of_raw {message : IpcMessage} (h : RawContent message.content.bytes) :
    message.ReadBack := by
  have htype : CString.ofString message.type = message.typeName.toCString := by
    cases message <;> rfl
  have hextra : message.extraJson = StringMember.texts [⟨message.key, ⟨message.content, h⟩⟩] := by
    have hone : StringMember.texts [⟨message.key, ⟨message.content, h⟩⟩] =
        extraMember message.key ⟨message.content, h⟩ := CString.ext (List.append_nil _)
    rw [hone]
    cases message with
    | stateChanged state =>
      rw [extraJson_stateChanged]
      rfl
    | gameSurfaceReady launchToken =>
      rw [extraJson_gameSurfaceReady]
      rfl
  obtain ⟨bytes, hb, hchecks⟩ := frameChecks_message message
  have hbody : message.body.bytes =
      bodyOf message.typeName [⟨message.key, ⟨message.content, h⟩⟩] := by
    rw [bodyOf, IpcMessage.body, htype, hextra]
  have hfits : message.body.bytes.length < 65536 := (layout_frameBytes hb).fits
  have hlength : bytes.length = 8 + message.body.bytes.length := (layout_frameBytes hb).length
  have hmax : ipcMaxFrame = 65544 := rfl
  obtain ⟨hfoundType, hfoundContent⟩ := findString_message message ⟨message.content, h⟩
  refine ⟨bytes, message.body.bytes, hb, by omega, hchecks, ?_, ?_⟩
  · apply reads_of_findString
    rw [hbody, hfoundType, htype]
  · apply reads_of_findString
    rw [hbody, hfoundContent]

end IpcMessage

/-- While a game is starting, its token can stand between quotes, and so could all those that
were sent. -/
structure TokensQuotable (c : Compositor) : Prop where
  wf : c.WF
  token : c.fgState = .gameStarting → RawContent c.expectedLaunchToken.bytes
  sent : ∀ message ∈ c.messages, RawContent message.content.bytes

/-- A launch over the wire has a token that can stand between quotes and is stored whole. -/
private theorem rawContent_of_launch {c : Compositor} {e : Event} {b : ByteEvent}
    (h : OnBytes e b) {launchToken : CharBuf 64} {gameId : CharBuf 256}
    (hi : foregroundInput c e = .launch launchToken gameId) : RawContent launchToken.bytes := by
  have hc := comesFrom_foregroundInput c e
  rw [hi] at hc
  obtain ⟨t, i, rfl, rfl, -⟩ := hc
  cases h with
  | other hne => exact absurd rfl (hne _ _)
  | ipcFd mask locals hmax hcarries =>
    cases hcarries with
    | command hq hf _ =>
      rw [CString.store_of_fits hf.1]
      exact hq.1

/-- An event over the wire keeps the tokens quotable. -/
theorem tokensQuotable_step {c c' : Compositor} {e : Event} {b : ByteEvent} (hb : OnBytes e b)
    (h : TokensQuotable c) (hs : compositorSystem.step c e = some c') : TokensQuotable c' := by
  have hw := compositorSystem_wf.step _ _ _ h.wf hs
  refine ⟨hw, ?_, ?_⟩
  · intro hg
    by_cases hl : ∃ launchToken gameId, foregroundInput c e = .launch launchToken gameId
    · obtain ⟨launchToken, gameId, hl⟩ := hl
      have hstep := toForeground_step h.wf.linked hs
      rw [hl] at hstep
      have htoken : c'.expectedLaunchToken = launchToken := by
        rw [← Option.some.inj hstep]
        simp [Foreground.launch]
      rw [htoken]
      exact rawContent_of_launch hb hl
    · have hstill := Foreground.stillStarting_step h.wf.foreground
        (toForeground_step h.wf.linked hs) fun t i hi ↦ hl ⟨t, i, hi⟩
      obtain ⟨hf, ht⟩ := hstill hg
      rw [ht]
      exact h.token hf
  · intro message hm
    rw [messages_step h.wf hs, List.mem_append, List.mem_append] at hm
    rcases hm with hm | hm | hm
    · exact h.sent message hm
    · obtain ⟨rfl, _, _, -, -, -, ha⟩ := mem_readyMessages.mp hm
      exact h.token ha.1
    · unfold announce at hm
      split at hm
      · exact absurd hm List.not_mem_nil
      · rw [List.mem_singleton.mp hm]
        exact IpcMessage.rawContent_foregroundStateName _

/-- A run over the wire keeps the tokens quotable. -/
theorem tokensQuotable_run {es : List Event} {bs : List ByteEvent} (hb : List.Forall₂ OnBytes es bs)
    {c d : Compositor} (h : TokensQuotable c) (hr : compositorSystem.run c es = some d) :
    TokensQuotable d := by
  induction hb generalizing c with
  | nil => exact Option.some.inj hr ▸ h
  | cons hb _ ih =>
    obtain ⟨c₁, hs, hr⟩ := compositorSystem.run_cons_some.mp hr
    exact ih (tokensQuotable_step hb h hs) hr

end PlayosCompositor
