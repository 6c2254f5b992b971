import PlayosCompositor.Ipc.Input
import PlayosCompositor.Ipc.Scanner
import PlayosCompositor.Runs.Launch

/-!
# The launch token on its way back

SetExpectedGame brings a token as the raw content of a JSON string, GameSurfaceReady takes it
back between the quotes of another. The buffers in between hold 63 bytes of it.
-/

namespace PlayosCompositor

open Foreground Memory
open JsonText (RawString Value readObject readMembers readMember expect closeBrace)

/-! ### The two bodies -/

private def launchOpen : List UInt8 :=
  (CString.ofString "\x7b\"v\":1,\"type\":\"SetExpectedGame\",\"launch_token\":\"").bytes

/-- A SetExpectedGame body with the given raw contents. -/
def setExpectedGameBody (launchToken gameId : RawString) : List UInt8 :=
  launchOpen ++ (launchToken.bytes ++ quote ::
    ((CString.ofString ",\"game_id\":\"").bytes ++ (gameId.bytes ++
      (CString.ofString "\"\x7d").bytes)))

private def launchTokenKey : RawString := ⟨(CString.ofString "launch_token").bytes, by decide⟩

/-- The body is a JSON object whose `launch_token` member has the given raw content. -/
def CarriesToken (body raw : List UInt8) : Prop :=
  ∃ members, readObject body = some members ∧
    members.lookup (CString.ofString "launch_token").bytes = some (.string raw)

private def readyOpen : List UInt8 :=
  (CString.ofString "\x7b\"v\":1,\"type\":\"GameSurfaceReady\",\"launch_token\":\"").bytes

private theorem body_gameSurfaceReady (launchToken : CharBuf 64) :
    (IpcMessage.gameSurfaceReady launchToken).body.bytes =
      readyOpen ++ (launchToken.bytes ++ [quote, closeBrace]) := by
  have htoken : (IpcMessage.gameSurfaceReady launchToken).extraJson.bytes =
      (CString.ofString "\"launch_token\":\"").bytes ++ (launchToken.bytes ++ [quote]) := by
    rw [IpcMessage.extraJson_gameSurfaceReady, ← List.append_assoc]
    rfl
  have hne : (IpcMessage.gameSurfaceReady launchToken).extraJson.bytes ≠ [] := by
    rw [htoken]
    exact List.cons_ne_nil _ _
  have hopen : readyOpen = (CString.ofString "\x7b\"v\":1,\"type\":\"").bytes ++
      ((CString.ofString "GameSurfaceReady").bytes ++ ((CString.ofString "\",").bytes ++
        (CString.ofString "\"launch_token\":\"").bytes)) := by
    decide
  rw [IpcMessage.body, frameBody, if_pos hne, hopen]
  simp only [CString.bytes_append, htoken, List.append_assoc]
  rfl

/-- The two members before the token are read first. -/
private theorem readObject_readyOpen (bs : List UInt8) : ∃ n first second,
    first.1 ≠ launchTokenKey.bytes ∧ second.1 ≠ launchTokenKey.bytes ∧
    readObject (readyOpen ++ bs) = ((readMembers (n + 1)
        (JsonText.quote :: launchTokenKey.bytes ++
          JsonText.quote :: JsonText.colon :: JsonText.quote :: bs)).map
      fun read ↦ (first :: second :: read.1, read.2)).bind
        fun read ↦ if JsonText.skipSpace read.2 = [] then some read.1 else none := by
  have hopen : expect JsonText.openBrace (readyOpen ++ bs) = some (readyOpen.tail ++ bs) := rfl
  have hclose : expect closeBrace (readyOpen.tail ++ bs) = none := rfl
  have hfirst : readMember (readyOpen.tail ++ bs) =
      some (((CString.ofString "v").bytes, .number [0x31]),
        JsonText.comma :: (readyOpen.drop 7 ++ bs)) := rfl
  have hsecond : readMember (readyOpen.drop 7 ++ bs) =
      some (((CString.ofString "type").bytes, .string (CString.ofString "GameSurfaceReady").bytes),
        JsonText.comma :: (readyOpen.drop 33 ++ bs)) := rfl
  refine ⟨bs.length + 45, ((CString.ofString "v").bytes, .number [0x31]),
    ((CString.ofString "type").bytes, .string (CString.ofString "GameSurfaceReady").bytes),
    by decide, by decide, ?_⟩
  have hlen : (readyOpen.tail ++ bs).length = bs.length + 45 + 1 + 1 + 1 := by
    rw [List.length_append, Nat.add_comm]
    rfl
  rw [readObject, hopen, Option.bind_some, hclose, hlen, JsonText.readMembers_comma hfirst,
    JsonText.readMembers_comma hsecond, Option.map_map]
  rfl

private theorem lookup_third {first second : List UInt8 × Value}
    (h₁ : first.1 ≠ launchTokenKey.bytes) (h₂ : second.1 ≠ launchTokenKey.bytes) (value : Value)
    (more : List (List UInt8 × Value)) :
    List.lookup (CString.ofString "launch_token").bytes
      (first :: second :: (launchTokenKey.bytes, value) :: more) = some value := by
  have hfirst : ((CString.ofString "launch_token").bytes == first.1) = false :=
    beq_eq_false_iff_ne.mpr (Ne.symm h₁)
  have hsecond : ((CString.ofString "launch_token").bytes == second.1) = false :=
    beq_eq_false_iff_ne.mpr (Ne.symm h₂)
  have hthird : ((CString.ofString "launch_token").bytes == launchTokenKey.bytes) = true :=
    beq_self_eq_true _
  dsimp only [List.lookup]
  rw [hfirst, hsecond, hthird]

/-- A token whose frame carries a raw content is at least as long. -/
private theorem length_le_of_carries {launchToken : CharBuf 64} {raw : List UInt8}
    (h : CarriesToken (IpcMessage.gameSurfaceReady launchToken).body.bytes raw) :
    raw.length ≤ launchToken.bytes.length := by
  obtain ⟨members, ho, hl⟩ := h
  rw [body_gameSurfaceReady] at ho
  obtain ⟨n, first, second, h₁, h₂, he⟩ :=
    readObject_readyOpen (launchToken.bytes ++ [quote, closeBrace])
  rw [he] at ho
  obtain ⟨read, hr, hm⟩ := Option.bind_eq_some_iff.mp ho
  obtain ⟨⟨others, rest⟩, hread, rfl⟩ := Option.map_eq_some_iff.mp hr
  obtain ⟨-, hm⟩ := Option.ite_none_right_eq_some.mp hm
  cases Option.some.inj hm
  -- the third member is the token
  rw [readMembers, JsonText.readMember_string] at hread
  obtain ⟨member, hs, hread⟩ := Option.bind_eq_some_iff.mp hread
  obtain ⟨⟨raw', tail⟩, hstring, rfl⟩ := Option.map_eq_some_iff.mp hs
  have hothers : ∃ more, others = (launchTokenKey.bytes, .string raw') :: more := by
    dsimp only at hread
    split at hread
    · obtain ⟨_, -, heq⟩ := Option.map_eq_some_iff.mp hread
      cases heq
      exact ⟨_, rfl⟩
    · obtain ⟨_, -, heq⟩ := Option.map_eq_some_iff.mp hread
      cases heq
      exact ⟨[], rfl⟩
  obtain ⟨more, rfl⟩ := hothers
  have hraw : raw' = raw := by
    rw [lookup_third h₁ h₂] at hl
    cases hl
    rfl
  -- its closing quote is not the last byte
  have hbytes := (JsonText.readString_some hstring).1
  have hlen := congrArg List.length hbytes
  rw [hraw] at hbytes hlen
  simp only [List.length_append, List.length_cons, List.length_nil] at hlen
  by_contra hlt
  have htail : tail = [] := List.length_eq_zero_iff.mp (by omega)
  have hlast := congrArg List.getLast? hbytes
  rw [htail] at hlast
  simp at hlast
  exact absurd hlast (by decide)

/-- The frame of a raw content carries it. -/
private theorem carries_of_eq {launchToken : CharBuf 64} {raw : RawString}
    (h : launchToken.bytes = raw.bytes) :
    CarriesToken (IpcMessage.gameSurfaceReady launchToken).body.bytes raw.bytes := by
  obtain ⟨n, first, second, h₁, h₂, he⟩ :=
    readObject_readyOpen (launchToken.bytes ++ [quote, closeBrace])
  have hread : JsonText.readString .plain (launchToken.bytes ++ [quote, closeBrace]) =
      some (raw.bytes, [closeBrace]) := by
    rw [h]
    exact JsonText.readString_append raw.closed [closeBrace]
  have hmember := JsonText.readMember_string launchTokenKey
    (launchToken.bytes ++ [quote, closeBrace])
  rw [hread, Option.map_some] at hmember
  rw [JsonText.readMembers_close hmember] at he
  exact ⟨_, (congrArg readObject (body_gameSurfaceReady launchToken)).trans he,
    lookup_third h₁ h₂ _ []⟩

/-! ### The way in -/

/-- What the buffer of 64 bytes takes from a raw content. -/
def keptToken (raw : RawString) : CString where
  bytes := raw.bytes.take 63
  noNul h := zero_notMem_of_run raw.closed (List.mem_of_mem_take h)

/-- The command finds its type. -/
private theorem bodyString_type (launchToken gameId : RawString) :
    bodyString "type" 128 (setExpectedGameBody launchToken gameId) =
      some (.ofString "SetExpectedGame") := rfl

/-- The command finds its token, as far as the buffer holds it. -/
private theorem bodyString_launchToken (launchToken gameId : RawString) :
    bodyString "launch_token" 64 (setExpectedGameBody launchToken gameId) =
      some (keptToken launchToken) := by
  have hfound : findString (CString.ofString "launch_token").bytes
      (setExpectedGameBody launchToken gameId) = some launchToken.bytes :=
    stringContent_rawContent (rawContent_of_closed launchToken.closed) _
  rw [bodyString, hfound, Option.map_some]
  congr 1
  apply CString.ext
  refine List.takeWhile_eq_self_iff.mpr fun b hb ↦ decide_eq_true fun h0 ↦ ?_
  exact (keptToken launchToken).noNul (h0 ▸ hb)

/-- The command finds its game, unless the end of the token looks like the member's name. -/
private theorem bodyString_gameId (launchToken gameId : RawString) :
    bodyString "game_id" 256 (setExpectedGameBody launchToken gameId) =
      if EndsLiteral gameIdName.bytes launchToken.bytes then none
      else some (.ofBytes (gameId.bytes.take 255)) := by
  have hopen : ∀ bs, findString gameIdName.bytes (launchOpen ++ bs) =
      findString gameIdName.bytes (quote :: bs) := fun _ ↦ rfl
  have hid : findString gameIdName.bytes (quote :: ((CString.ofString ",\"game_id\":\"").bytes ++
      (gameId.bytes ++ (CString.ofString "\"\x7d").bytes))) = some gameId.bytes :=
    stringContent_rawContent (rawContent_of_closed gameId.closed) _
  have hliteral := findString_literal gameIdName.plain (rawContent_of_closed launchToken.closed)
    ((CString.ofString ",\"game_id\":\"").bytes ++
      (gameId.bytes ++ (CString.ofString "\"\x7d").bytes))
  rw [hid] at hliteral
  rw [bodyString, setExpectedGameBody]
  change (findString gameIdName.bytes _).map _ = _
  rw [hopen]
  change (findString gameIdName.bytes (quote :: launchToken.bytes ++ quote :: _)).map _ = _
  rw [hliteral]
  split <;> rfl

/-- A SetExpectedGame is dispatched as the command with the token that was kept, once there is a
game to go with it. -/
private theorem ipcDispatchBytes_setExpectedGame {fuel : Nat} (c : Compositor)
    (locals : IpcLocals) {launchToken gameId : RawString}
    (hf : (setExpectedGameBody launchToken gameId).length < fuel) :
    ipcDispatchBytes fuel c locals (setExpectedGameBody launchToken gameId) =
      (fetched (if EndsLiteral gameIdName.bytes launchToken.bytes then none
        else some (.ofBytes (gameId.bytes.take 255))) locals.gameId).map fun id ↦
          ipcDispatch c (.setExpectedGame (keptToken launchToken) id) := by
  rw [ipcDispatchBytes_eq c locals hf, bodyString_type, bodyString_launchToken, bodyString_gameId]
  dsimp only
  rw [if_pos rfl, fetched, ok_bind]
  rfl

/-! ### The runs of one launch -/

/-- The event announces another launch. -/
def Announces (e : Event) : Prop :=
  ∃ launchToken gameId, e = .command (.setExpectedGame launchToken gameId)

/-- Whatever happens until another launch is announced, GameSurfaceReady carries the raw
content. -/
def EchoesToken (raw : RawString) (c : Compositor) : Prop :=
  ∀ es e d d', (∀ e ∈ es, ¬ Announces e) → compositorSystem.run c es = some d →
    compositorSystem.step d e = some d' →
      ∀ launchToken, .gameSurfaceReady launchToken ∈ d'.messages.drop d.messages.length →
        CarriesToken (IpcMessage.gameSurfaceReady launchToken).body.bytes raw.bytes

/-- Wherever it arrives and whatever the stack holds, SetExpectedGame with these contents is
dispatched without an access out of bounds, and it is rejected or its token comes back. -/
def LaunchEchoed (launchToken gameId : RawString) : Prop :=
  ∀ fuel c locals, compositorSystem.Reachable c → c.ipc.ipcSource.isSome →
    (setExpectedGameBody launchToken gameId).length < fuel →
      ∃ c', ipcDispatchBytes fuel c locals (setExpectedGameBody launchToken gameId) = .ok c' ∧
        (c' = c ∨ EchoesToken launchToken c')

/-- While a game is starting, the token is the given one. -/
structure StartingUnder (launchToken : CharBuf 64) (c : Compositor) : Prop where
  wf : c.WF
  token : c.fgState = .gameStarting → c.expectedLaunchToken = launchToken

private theorem startingUnder_step {launchToken : CharBuf 64} {c c' : Compositor} {e : Event}
    (h : StartingUnder launchToken c) (he : ¬ Announces e)
    (hs : compositorSystem.step c e = some c') : StartingUnder launchToken c' := by
  have hl : ∀ t i, foregroundInput c e ≠ .launch t i := by
    intro t i hi
    have hc := comesFrom_foregroundInput c e
    rw [hi] at hc
    obtain ⟨t', i', hc, -⟩ := hc
    exact he ⟨t', i', hc⟩
  have hst := stillStarting_step h.wf.foreground (toForeground_step h.wf.linked hs) hl
  refine ⟨compositorSystem_wf.step _ _ _ h.wf hs, fun hg ↦ ?_⟩
  obtain ⟨hf, ht⟩ := hst hg
  exact ht.trans (h.token hf)

private theorem startingUnder_run {launchToken : CharBuf 64} {c d : Compositor} {es : List Event}
    (h : StartingUnder launchToken c) (he : ∀ e ∈ es, ¬ Announces e)
    (hr : compositorSystem.run c es = some d) : StartingUnder launchToken d := by
  induction es generalizing c with
  | nil => exact Option.some.inj hr ▸ h
  | cons e es ih =>
    obtain ⟨c₁, hs, hr⟩ := compositorSystem.run_cons_some.mp hr
    exact ih (startingUnder_step h (he e List.mem_cons_self) hs)
      (fun e' he' ↦ he e' (List.mem_cons_of_mem e he')) hr

/-- Readiness is reported under the token of the starting game. -/
private theorem ready_of_startingUnder {launchToken launchToken' : CharBuf 64}
    {d d' : Compositor} {e : Event} (h : StartingUnder launchToken d)
    (hs : compositorSystem.step d e = some d')
    (hm : .gameSurfaceReady launchToken' ∈ d'.messages.drop d.messages.length) :
    launchToken' = launchToken := by
  rw [messages_step h.wf hs, List.drop_left, List.mem_append, mem_readyMessages] at hm
  rcases hm with ⟨ht, tree, surface, -, -, -, ha⟩ | hm
  · cases ht
    exact h.token ha.1
  · unfold announce at hm
    split at hm <;> simp at hm

/-- The token that is kept starts the launch. -/
private theorem startingUnder_dispatch {c : Compositor} (hc : compositorSystem.Reachable c)
    (hi : c.ipc.ipcSource.isSome) (launchToken gameId : CString) :
    StartingUnder (launchToken.store 64) (ipcDispatch c (.setExpectedGame launchToken gameId)) := by
  have hs : compositorSystem.step c (.command (.setExpectedGame launchToken gameId)) =
      some (ipcDispatch c (.setExpectedGame launchToken gameId)) := if_pos hi
  refine ⟨compositorSystem_wf.step _ _ _ (compositorSystem_wf.reachable hc) hs, fun _ ↦ ?_⟩
  simp [ipcDispatch, Foreground.launch]

/-- The compositor that has launched with a token and gets the first window of a game. -/
private theorem ready_run (launchToken gameId : CString) :
    ∃ d d', compositorSystem.run
        (ipcDispatch (playosCompositorStarted headlessStart) (.setExpectedGame launchToken gameId))
        [.connect 1, .newToplevel 1 .ok] = some d ∧
      compositorSystem.step d (.commit 0 bufferCommit) = some d' ∧
      .gameSurfaceReady (launchToken.store 64) ∈ d'.messages.drop d.messages.length :=
  ⟨_, _, rfl, rfl, List.mem_cons_self⟩

/-- A token that does not fit is not echoed. -/
private theorem not_launchEchoed {launchToken : RawString} (h : 64 ≤ launchToken.bytes.length)
    (gameId : RawString) : ¬ LaunchEchoed launchToken gameId := by
  intro he
  have hf := Nat.lt_succ_self (setExpectedGameBody launchToken gameId).length
  have hc : compositorSystem.Reachable (playosCompositorStarted headlessStart) :=
    ⟨_, [], ⟨headlessStart, rfl⟩, rfl⟩
  obtain ⟨c', hd, he⟩ := he _ _ (lettered 0 0) hc rfl hf
  rw [ipcDispatchBytes_setExpectedGame _ _ hf] at hd
  dsimp only [lettered] at hd
  rw [fetched_lettered] at hd
  obtain ⟨id, rfl⟩ : ∃ id, c' = ipcDispatch (playosCompositorStarted headlessStart)
      (.setExpectedGame (keptToken launchToken) id) := ⟨_, (Except.ok.inj hd).symm⟩
  rcases he with hsame | hecho
  · have hstate : (ipcDispatch (playosCompositorStarted headlessStart)
        (.setExpectedGame (keptToken launchToken) id)).fgState = .gameStarting := by
      simp [ipcDispatch, Foreground.launch]
    rw [hsame] at hstate
    exact absurd hstate (by decide)
  · obtain ⟨d, d', hr, hs, hm⟩ := ready_run (keptToken launchToken) id
    have hle := length_le_of_carries (hecho _ _ d d' (by simp [Announces]) hr hs _ hm)
    have hlt := ((keptToken launchToken).store 64).fits
    omega

/-- A stack without a single zero where the game's identity is to be stored. -/
private def unterminated : IpcLocals :=
  { lettered 0 0 with
    gameId := List.replicate 256 65
    length_gameId := List.length_replicate }

/-- A token that hides the member behind it leads out of the buffer of the game's identity. -/
private theorem not_launchEchoed_of_endsLiteral {launchToken : RawString}
    (h : EndsLiteral gameIdName.bytes launchToken.bytes) (gameId : RawString) :
    ¬ LaunchEchoed launchToken gameId := by
  intro he
  have hf := Nat.lt_succ_self (setExpectedGameBody launchToken gameId).length
  have hc : compositorSystem.Reachable (playosCompositorStarted headlessStart) :=
    ⟨_, [], ⟨headlessStart, rfl⟩, rfl⟩
  obtain ⟨c', hd, -⟩ := he _ _ unterminated hc rfl hf
  have hfault : loadString unterminated.gameId = .error .outOfBounds :=
    if_neg fun hm ↦ absurd (List.eq_of_mem_replicate hm) (by decide)
  rw [ipcDispatchBytes_setExpectedGame _ _ hf, if_pos h, fetched, hfault] at hd
  cases hd

/-- The launch token comes back, or the message is rejected, exactly when the token's raw
content has at most 63 bytes and does not end as the name of the member behind it would. -/
theorem launchEchoed_iff (launchToken gameId : RawString) :
    LaunchEchoed launchToken gameId ↔ launchToken.bytes.length ≤ 63 ∧
      ¬ EndsLiteral gameIdName.bytes launchToken.bytes := by
  constructor
  · intro h
    refine ⟨?_, fun hends ↦ not_launchEchoed_of_endsLiteral hends gameId h⟩
    by_contra hl
    exact not_launchEchoed (by omega) gameId h
  · rintro ⟨hl, hends⟩ fuel c locals hc hi hf
    rw [ipcDispatchBytes_setExpectedGame c locals hf, if_neg hends]
    refine ⟨_, rfl, Or.inr fun es e d d' he hr hs token hm ↦ ?_⟩
    have hstart := startingUnder_run (startingUnder_dispatch hc hi (keptToken launchToken) _) he hr
    rw [ready_of_startingUnder hstart hs hm]
    apply carries_of_eq
    change (launchToken.bytes.take 63).take 63 = launchToken.bytes
    rw [List.take_of_length_le hl, List.take_of_length_le hl]

/-- A content of 64 bytes that ends with an escape. -/
def cutToken : RawString := ⟨List.replicate 62 0x61 ++ [backslash, 0x6e], by decide⟩

/-- The cut leaves a lone backslash before the closing quote: the frame that is emitted for
the launch is no JSON at all. -/
theorem launchEchoed_fails :
    ¬ LaunchEchoed cutToken ⟨[0x67], by decide⟩ ∧
      readObject (IpcMessage.gameSurfaceReady ((keptToken cutToken).store 64)).body.bytes = none :=
  ⟨not_launchEchoed (by decide) _, by decide +kernel⟩

end PlayosCompositor
