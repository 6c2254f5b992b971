import PlayosCompositor.Base.Rings
import PlayosCompositor.Runs.Foreground

/-!
# Keyboards that come and go

Input devices of wlroots and the two listeners that `src/system_button.c:107–146` adds for every
keyboard. A key event runs whatever listeners are found in the keyboard's list, in memory; the
compositor of `compositorSystem` is the abstract view, for which a key is one event.
-/

namespace PlayosCompositor

/-- The events of a keyboard that the compositor listens to: `key` of the keyboard and `destroy`
of its device. -/
inductive DeviceSignal
  | key
  | destroy
  deriving DecidableEq, Repr

/-- A `struct wl_list`: the list of a signal, or a link in a `struct playos_keyboard`. A keyboard
is its place in the order of announcement. -/
inductive SeatNode
  | signal (signal : DeviceSignal) (device : Nat)
  | listener (signal : DeviceSignal) (device : Nat)
  deriving DecidableEq, Repr

/-- The compositor with the links of its keyboards, `none` once a NULL pointer has been followed:
how many keyboards have been announced, which of them are plugged in, and which of these have a
`struct playos_keyboard`. -/
structure Seat where
  compositor : Compositor
  links : Option (Links SeatNode)
  devices : Nat
  live : List Nat
  keyboards : List Nat

/-- What can happen to the compositor and to its input devices. -/
inductive SeatEvent
  | callback (event : Event)
  | newInput (keyboard created : Bool)
  | key (device : Nat) (keycode : UInt32) (state : KeyState)
  | destroy (device : Nat)
  deriving DecidableEq

/-- The event is a key of some keyboard. -/
def Event.isKey : Event → Bool
  | .key _ _ => true
  | _ => false

namespace Seat

/-- wlroots announces a keyboard, with empty signals. -/
def announce (s : Seat) : Seat where
  compositor := s.compositor
  links := s.links.map fun m ↦ (m.init (.signal .key s.devices)).init (.signal .destroy s.devices)
  devices := s.devices + 1
  live := s.devices :: s.live
  keyboards := s.keyboards

/-- `handle_new_input`, `src/system_button.c:118`; `created` is whether its allocation
succeeds. -/
def handleNewInput (s : Seat) (keyboard created : Bool) : Seat :=
  if !keyboard then s
  else if !created then s.announce
  else
    let device := s.devices
    let s := s.announce
    let links := s.links.bind fun m ↦
      (m.signalAdd (.signal .key device) (.listener .key device)).bind fun m ↦
        m.signalAdd (.signal .destroy device) (.listener .destroy device)
    { s with links, keyboards := device :: s.keyboards }

/-- The `notify` function of a listener that receives a key. -/
def notifyKey (keycode : UInt32) (state : KeyState) (c : Compositor) : SeatNode → Compositor
  | .listener .key _ => handleKeyboardKey c keycode state
  | _ => c

/-- `wl_signal_emit` of a key. -/
def emitKey (s : Seat) (device : Nat) (keycode : UInt32) (state : KeyState) : Seat :=
  match s.links.bind fun m ↦ m.walk (.signal .key device) s.devices with
  | none => { s with links := none }
  | some listeners =>
    { s with compositor := listeners.foldl (notifyKey keycode state) s.compositor }

/-- `handle_keyboard_destroy`, `src/system_button.c:106`. -/
def handleKeyboardDestroy (m : Links SeatNode) (device : Nat) : Option (Links SeatNode) :=
  (m.remove (.listener .key device)).bind fun m ↦ m.remove (.listener .destroy device)

/-- The `notify` function of a listener that receives a destruction. -/
def notifyDestroy (m : Links SeatNode) : SeatNode → Option (Links SeatNode)
  | .listener .destroy device => handleKeyboardDestroy m device
  | _ => some m

/-- `wl_signal_emit` of a destruction, after which wlroots frees the device. -/
def emitDestroy (s : Seat) (device : Nat) : Seat where
  compositor := s.compositor
  links := s.links.bind fun m ↦
    (m.walk (.signal .destroy device) s.devices).bind fun listeners ↦
      listeners.foldlM notifyDestroy m
  devices := s.devices
  live := s.live.filter (· ≠ device)
  keyboards := s.keyboards.filter (· ≠ device)

/-- One event, or `none` when it cannot occur: only a keyboard that is plugged in sends keys or is
destroyed. -/
def step (s : Seat) : SeatEvent → Option Seat
  | .callback event =>
    if event.isKey then none
    else (PlayosCompositor.step s.compositor event).map fun c ↦ { s with compositor := c }
  | .newInput keyboard created => some (s.handleNewInput keyboard created)
  | .key device keycode state =>
    if device ∈ s.live then some (s.emitKey device keycode state) else none
  | .destroy device => if device ∈ s.live then some (s.emitDestroy device) else none

end Seat

/-- The compositor and its links when the start has succeeded: no device has been announced. -/
def startedSeat (config : StartConfig) : Seat where
  compositor := playosCompositorStarted config
  links := some Links.zeroed
  devices := 0
  live := []
  keyboards := []

/-- The compositor's runs with keyboards that come and go. -/
def seatSystem : Transition.System Seat SeatEvent where
  initial s := ∃ config, s = startedSeat config
  step := Seat.step

/-- What an event means to the compositor: a key counts if the keyboard is tracked. -/
def seatEvents (s : Seat) : SeatEvent → List Event
  | .callback event => [event]
  | .newInput _ _ => []
  | .key device keycode state => if device ∈ s.keyboards then [.key keycode state] else []
  | .destroy _ => []

/-- The members of every list: a tracked keyboard has its own listener in either list, another
one has none. -/
def seatLists (devices : Nat) (keyboards : List Nat) : SeatNode → Option (List SeatNode)
  | .signal s device =>
    if device < devices then some (if device ∈ keyboards then [.listener s device] else [])
    else none
  | .listener _ _ => none

/-- The links are those of the tracked keyboards, which are plugged in, and the links of a
keyboard that is not tracked lead nowhere. -/
structure Plugged (m : Links SeatNode) (devices : Nat) (live keyboards : List Nat) : Prop where
  rings : m.Rings (seatLists devices keyboards)
  known : ∀ device ∈ live, device < devices
  tracked : ∀ device ∈ keyboards, device ∈ live
  cleared : ∀ device, device ∉ keyboards → ∀ s, m.next (.listener s device) = none

namespace Plugged

variable {m : Links SeatNode} {devices device : Nat} {live keyboards : List Nat}

private theorem free_listener (h : device ∉ keyboards) (s : DeviceSignal) :
    Links.Free (seatLists devices keyboards) (.listener s device) := by
  intro head members hm
  cases head with
  | signal s' other =>
    obtain ⟨-, hm⟩ := Option.ite_none_right_eq_some.mp hm
    cases hm
    split
    · next ho =>
      have hne : device ≠ other := fun he ↦ h (he ▸ ho)
      simp [hne]
    · simp
  | listener s' other => cases hm

private theorem free_signal (h : devices ≤ device) (s : DeviceSignal) :
    Links.Free (seatLists devices keyboards) (.signal s device) := by
  intro head members hm
  cases head with
  | signal s' other =>
    obtain ⟨ho, hm⟩ := Option.ite_none_right_eq_some.mp hm
    cases hm
    have hne : device ≠ other := (ho.trans_le h).ne'
    split <;> simp [hne]
  | listener s' other => cases hm

private theorem announce (h : Plugged m devices live keyboards) :
    Plugged ((m.init (.signal .key devices)).init (.signal .destroy devices)) (devices + 1)
      (devices :: live) keyboards where
  rings := by
    have hnot : devices ∉ keyboards := fun hk ↦ (h.known _ (h.tracked _ hk)).false
    have hr := (h.rings.init (free_signal le_rfl .key)).init
      ((free_signal le_rfl .destroy).update (by simp))
    have hl : seatLists (devices + 1) keyboards = Function.update (Function.update
        (seatLists devices keyboards) (.signal .key devices) (some []))
        (.signal .destroy devices) (some []) := by
      funext node
      cases node with
      | signal s device =>
        by_cases hd : device = devices
        · subst hd
          cases s <;> simp [seatLists, hnot]
        · have hlt : device < devices + 1 ↔ device < devices := by omega
          simp [seatLists, hd, hlt]
      | listener s device => simp [seatLists]
    exact hl ▸ hr
  known device hd := by
    rcases List.mem_cons.mp hd with rfl | hd
    · exact Nat.lt_succ_self _
    · exact (h.known device hd).trans (Nat.lt_succ_self _)
  tracked device hd := List.mem_cons_of_mem _ (h.tracked device hd)
  cleared device hd s :=
    ((Links.agreeAt_init m (by simp)).trans (Links.agreeAt_init _ (by simp))).1.trans
      (h.cleared device hd s)

private theorem attach (h : Plugged m devices live keyboards) (hd : device ∈ live)
    (hn : device ∉ keyboards) :
    ∃ m', ((m.signalAdd (.signal .key device) (.listener .key device)).bind fun m ↦
        m.signalAdd (.signal .destroy device) (.listener .destroy device)) = some m' ∧
      Plugged m' devices live (device :: keyboards) := by
  have hlt := h.known device hd
  have hm₁ : [] ∈ seatLists devices keyboards (.signal .key device) := by simp [seatLists, hlt, hn]
  obtain ⟨m₁, e₁, h₁, ag₁⟩ := h.rings.signalAdd hm₁ (free_listener hn .key)
  have hm₂ : [] ∈ Function.update (seatLists devices keyboards) (.signal .key device)
      (some ([] ++ [.listener .key device])) (.signal .destroy device) := by
    simp [seatLists, hlt, hn]
  obtain ⟨m₂, e₂, h₂, ag₂⟩ := h₁.signalAdd hm₂ ((free_listener hn .destroy).update (by simp))
  have hl : seatLists devices (device :: keyboards) = Function.update (Function.update
      (seatLists devices keyboards) (.signal .key device) (some ([] ++ [.listener .key device])))
      (.signal .destroy device) (some ([] ++ [.listener .destroy device])) := by
    funext node
    cases node with
    | signal s other =>
      by_cases ho : other = device
      · subst ho
        cases s <;> simp [seatLists, hlt]
      · simp [seatLists, ho]
    | listener s other => simp [seatLists]
  refine ⟨m₂, by rw [e₁, Option.bind_some, e₂], ⟨hl ▸ h₂, h.known, ?_, ?_⟩⟩
  · intro other ho
    rcases List.mem_cons.mp ho with rfl | ho
    · exact hd
    · exact h.tracked other ho
  · intro other ho s
    rw [List.mem_cons, not_or] at ho
    have hne : ∀ s', SeatNode.listener s other ≠ .listener s' device := by simp [ho.1]
    exact ((ag₁ _ (hne .key) (by simp)).trans (ag₂ _ (hne .destroy) (by simp))).1.trans
      (h.cleared other ho.2 s)

private theorem detach (h : Plugged m devices live keyboards) (hd : device ∈ keyboards) :
    ∃ m', Seat.handleKeyboardDestroy m device = some m' ∧
      Plugged m' devices (live.filter (· ≠ device)) (keyboards.filter (· ≠ device)) := by
  have hlt := h.known device (h.tracked device hd)
  have hm₁ : [.listener .key device] ∈ seatLists devices keyboards (.signal .key device) := by
    simp [seatLists, hlt, hd]
  obtain ⟨m₁, e₁, n₁, h₁, ag₁⟩ := h.rings.remove hm₁ (List.mem_singleton_self _)
  rw [List.filter_cons_of_neg (by simp), List.filter_nil] at h₁
  have hm₂ : [.listener .destroy device] ∈ Function.update (seatLists devices keyboards)
      (.signal .key device) (some []) (.signal .destroy device) := by simp [seatLists, hlt, hd]
  obtain ⟨m₂, e₂, n₂, h₂, ag₂⟩ := h₁.remove hm₂ (List.mem_singleton_self _)
  rw [List.filter_cons_of_neg (by simp), List.filter_nil] at h₂
  have hl : seatLists devices (keyboards.filter (· ≠ device)) = Function.update (Function.update
      (seatLists devices keyboards) (.signal .key device) (some []))
      (.signal .destroy device) (some []) := by
    funext node
    cases node with
    | signal s other =>
      by_cases ho : other = device
      · subst ho
        cases s <;> simp [seatLists, hlt]
      · simp [seatLists, ho]
    | listener s other => simp [seatLists]
  refine ⟨m₂, by rw [Seat.handleKeyboardDestroy, e₁, Option.bind_some, e₂],
    ⟨hl ▸ h₂, fun other ho ↦ h.known other (List.mem_of_mem_filter ho), ?_, ?_⟩⟩
  · intro other ho
    obtain ⟨ho, hne⟩ := List.mem_filter.mp ho
    exact List.mem_filter.mpr ⟨h.tracked other ho, hne⟩
  · intro other ho s
    by_cases he : other = device
    · subst he
      cases s with
      | key => exact (ag₂ _ (by simp)).1.trans n₁
      | destroy => exact n₂
    · have hn : other ∉ keyboards := fun hk ↦ ho (List.mem_filter.mpr ⟨hk, by simpa using he⟩)
      have hout : ∀ s', SeatNode.listener s other ∉ [.signal s' device, .listener s' device] := by
        simp [he]
      exact ((ag₁ _ (hout .key)).trans (ag₂ _ (hout .destroy))).1.trans (h.cleared other hn s)

private theorem walk_eq (h : Plugged m devices live keyboards) (hd : device < devices)
    (s : DeviceSignal) :
    m.walk (.signal s device) devices =
      some (if device ∈ keyboards then [.listener s device] else []) := by
  refine (h.rings.ring (.signal s device) _ (if_pos hd)).walk_eq ?_
  split
  · exact Nat.one_le_of_lt hd
  · exact Nat.zero_le _

end Plugged

/-! ### Keyboards in every run -/

/-- The links are in order. -/
def Seat.InOrder (s : Seat) : Prop :=
  ∃ m, s.links = some m ∧ Plugged m s.devices s.live s.keyboards

variable {s s' : Seat}

private theorem Seat.InOrder.handleNewInput (h : s.InOrder) (keyboard created : Bool) :
    (s.handleNewInput keyboard created).InOrder := by
  obtain ⟨m, hm, h⟩ := h
  have ha := h.announce
  cases keyboard
  case false => exact ⟨m, hm, h⟩
  case true =>
    cases created
    case false => exact ⟨_, by simp [Seat.handleNewInput, Seat.announce, hm], ha⟩
    case true =>
      have hnot : s.devices ∉ s.keyboards := fun hk ↦ (h.known _ (h.tracked _ hk)).false
      obtain ⟨m', e', h'⟩ := ha.attach List.mem_cons_self hnot
      exact ⟨m', by simpa [Seat.handleNewInput, Seat.announce, hm] using e', h'⟩

private theorem Seat.InOrder.emitKey_eq (h : s.InOrder) {device : Nat} (hd : device ∈ s.live)
    (keycode : UInt32) (state : KeyState) : s.emitKey device keycode state =
      { s with compositor := if device ∈ s.keyboards then
          handleKeyboardKey s.compositor keycode state else s.compositor } := by
  obtain ⟨m, hm, h⟩ := h
  rw [Seat.emitKey, hm, Option.bind_some, h.walk_eq (h.known device hd)]
  by_cases hk : device ∈ s.keyboards <;> simp [hk, Seat.notifyKey]

private theorem Seat.InOrder.emitDestroy (h : s.InOrder) {device : Nat} (hd : device ∈ s.live) :
    (s.emitDestroy device).InOrder := by
  obtain ⟨m, hm, h⟩ := h
  have hw := h.walk_eq (h.known device hd) .destroy
  by_cases hk : device ∈ s.keyboards
  · obtain ⟨m', e', h'⟩ := h.detach hk
    refine ⟨m', ?_, h'⟩
    rw [if_pos hk] at hw
    simp [Seat.emitDestroy, hm, hw, Seat.notifyDestroy, e']
  · have hkeep : s.keyboards.filter (· ≠ device) = s.keyboards :=
      List.filter_eq_self.mpr fun other ho ↦ by simpa using ne_of_mem_of_not_mem ho hk
    rw [if_neg hk] at hw
    refine ⟨m, by simp [Seat.emitDestroy, hm, hw], ?_⟩
    refine ⟨?_, fun other ho ↦ h.known other (List.mem_of_mem_filter ho), ?_, ?_⟩
    · exact (congrArg (fun k ↦ m.Rings (seatLists s.devices k)) hkeep).mpr h.rings
    · intro other ho
      refine List.mem_filter.mpr ⟨h.tracked other (List.mem_of_mem_filter ho), ?_⟩
      exact (List.mem_filter.mp ho).2
    · intro other ho
      exact h.cleared other fun hk' ↦ ho (by
        rw [Seat.emitDestroy, hkeep]
        exact hk')

private theorem seatSystem_inOrder : seatSystem.Invariant Seat.InOrder where
  base := by
    rintro s ⟨config, rfl⟩
    refine ⟨Links.zeroed, rfl, ⟨?_, ?_⟩, ?_, ?_, fun _ _ _ ↦ rfl⟩
    · intro head members hm
      cases head <;> simp [startedSeat, seatLists] at hm
    · intro head other _ members hm
      cases head <;> simp [startedSeat, seatLists] at hm
    · simp [startedSeat]
    · simp [startedSeat]
  step s e t h hs := by
    cases e with
    | callback event =>
      obtain ⟨-, hs⟩ := Option.ite_none_left_eq_some.mp hs
      obtain ⟨c, -, rfl⟩ := Option.map_eq_some_iff.mp hs
      exact h
    | newInput keyboard created =>
      cases Option.some.inj hs
      exact h.handleNewInput keyboard created
    | key device keycode state =>
      obtain ⟨hd, hs⟩ := Option.ite_none_right_eq_some.mp hs
      cases Option.some.inj hs
      rw [h.emitKey_eq hd]
      exact h
    | destroy device =>
      obtain ⟨hd, hs⟩ := Option.ite_none_right_eq_some.mp hs
      cases Option.some.inj hs
      exact h.emitDestroy hd

private theorem run_seatEvents {e : SeatEvent} (h : s.InOrder)
    (hs : seatSystem.step s e = some s') :
    compositorSystem.run s.compositor (seatEvents s e) = some s'.compositor := by
  cases e with
  | callback event =>
    obtain ⟨-, hs⟩ := Option.ite_none_left_eq_some.mp hs
    obtain ⟨c, hc, rfl⟩ := Option.map_eq_some_iff.mp hs
    exact (compositorSystem.run_singleton _ _).trans hc
  | newInput keyboard created =>
    cases Option.some.inj hs
    cases keyboard <;> cases created <;> rfl
  | key device keycode state =>
    obtain ⟨hd, hs⟩ := Option.ite_none_right_eq_some.mp hs
    cases Option.some.inj hs
    rw [h.emitKey_eq hd, seatEvents]
    split <;> rfl
  | destroy device =>
    obtain ⟨hd, hs⟩ := Option.ite_none_right_eq_some.mp hs
    cases Option.some.inj hs
    rfl

/-- Every run with keyboards that come and go is a run of the compositor in which a key of a
tracked keyboard is one event and any other key none, and throughout a keyboard's two signals
have exactly its own listeners while it is tracked and none afterwards. -/
theorem keyboards_refine {config : StartConfig} {es : List SeatEvent}
    (hr : seatSystem.run (startedSeat config) es = some s) :
    compositorSystem.run (playosCompositorStarted config)
        (seatSystem.edited seatEvents (startedSeat config) es) = some s.compositor ∧
      ∃ m, s.links = some m ∧ (∀ device ∈ s.keyboards, device ∈ s.live) ∧
        ∀ device < s.devices, ∀ sig, m.walk (.signal sig device) s.devices =
            some (if device ∈ s.keyboards then [.listener sig device] else []) ∧
          (device ∉ s.keyboards → m.next (.listener sig device) = none) := by
  have hinit := seatSystem_inOrder.base _ ⟨config, rfl⟩
  constructor
  · obtain ⟨c, hc, rfl⟩ := seatSystem.run_edited (n := compositorSystem) (Q := fun _ ↦ True)
      (R := fun s c ↦ c = s.compositor) seatSystem_inOrder
      (fun s e s₁ c hs _ _ hR h₁ ↦ ⟨s₁.compositor, hR ▸ run_seatEvents hs h₁, rfl⟩) hinit rfl
      ((seatSystem.always_iff_run _ _ _).mpr fun _ _ _ _ ↦ trivial) hr
    exact hc
  · obtain ⟨m, hm, h⟩ := seatSystem_inOrder.run hinit hr
    exact ⟨m, hm, h.tracked,
      fun device hd sig ↦ ⟨h.walk_eq hd sig, fun hn ↦ h.cleared device hn sig⟩⟩

/-- A keyboard is plugged in, its SYSTEM button pressed, and it is pulled out. -/
def pluggedRun : List SeatEvent := [.newInput true true, .key 0 0x13c .pressed, .destroy 0]

/-- The theorem when the keyboard is gone. -/
theorem keyboards_refine_gone : ∃ s ∈ seatSystem.run (startedSeat headlessStart) pluggedRun,
    compositorSystem.run (playosCompositorStarted headlessStart)
      (seatSystem.edited seatEvents (startedSeat headlessStart) pluggedRun) =
        some s.compositor := by
  obtain ⟨s, hs⟩ := Option.isSome_iff_exists.mp (show (seatSystem.run (startedSeat headlessStart)
    pluggedRun).isSome by decide)
  exact ⟨s, hs, (keyboards_refine hs).1⟩

end PlayosCompositor
