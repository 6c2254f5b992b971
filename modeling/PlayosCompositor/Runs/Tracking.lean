import PlayosCompositor.Base.Rings
import PlayosCompositor.Overlay.Binding
import PlayosCompositor.Runs.Foreground

/-!
# Windows and bindings as links in memory

The two lists that `struct playos_compositor` heads, `toplevels` and `overlay_resources`, and
the two listeners that every tracked window adds to its surface, as links in memory:
`src/compositor.c:130–131,694–702,781–783` and `src/playos_manager.c:199,226`. The links are a
history beside the compositor, whose lists say what they should look like.

The signals are not the compositor's alone: wlroots and its scene helper listen to them too.
How many listeners they have there when the compositor adds its own is a parameter, and later
they add and remove listeners of theirs whenever they like.
-/

namespace PlayosCompositor

/-- The events of a surface that its track listens to. -/
inductive SurfaceSignal
  | commit
  | destroy
  deriving DecidableEq, Repr

/-- A `struct wl_list`: a head in the compositor, the list of a surface's signal, a link in a
`struct playos_toplevel_track` or a `struct playos_overlay_bound`, or the link of a listener that
somebody else has on a surface. -/
inductive TrackNode
  | toplevels
  | overlayResources
  | signal (signal : SurfaceSignal) (tree : TreeId)
  | link (tree : TreeId)
  | listener (signal : SurfaceSignal) (tree : TreeId)
  | bound (resource : ResourceId)
  | other (signal : SurfaceSignal) (tree : TreeId) (index : Nat)
  deriving DecidableEq, Repr

/-- The listeners of others on one signal: those that came before the compositor's own, and
those that came after it. -/
structure OtherListeners where
  earlier : List Nat
  later : List Nat

/-- What others do with listeners of theirs. -/
inductive OthersMove
  | join (signal : SurfaceSignal) (tree : TreeId) (index : Nat)
  | leave (signal : SurfaceSignal) (tree : TreeId) (index : Nat)

/-- The links, the windows that have been tracked so far, and the others on their signals. -/
structure Tracking where
  links : Links TrackNode
  mapped : List TreeId
  others : SurfaceSignal → TreeId → OtherListeners

/-- The links after `playos_compositor_init`, `src/compositor.c:130–131`. -/
def playosCompositorInitTracking : Tracking where
  links := (Links.zeroed.init .toplevels).init .overlayResources
  mapped := []
  others _ _ := ⟨[], []⟩

namespace Tracking

/-- The listeners of others that a new surface's signal has. -/
def present (there : TreeId → SurfaceSignal → Nat) (s : SurfaceSignal) (tree : TreeId) :
    List TrackNode :=
  (List.range (there tree s)).map (.other s tree)

/-- `handle_new_xdg_toplevel`, `src/compositor.c:694–702`, on a surface that wlroots has created
and that its scene helper listens to by now. -/
def track (l : Tracking) (there : TreeId → SurfaceSignal → Nat) (tree : TreeId) :
    Option Tracking :=
  let others s t := if t = tree then ⟨List.range (there tree s), []⟩ else l.others s t
  ((l.links.init (.signal .commit tree)).signalAddAll (.signal .commit tree)
    (present there .commit tree)).bind fun m ↦
  ((m.init (.signal .destroy tree)).signalAddAll (.signal .destroy tree)
    (present there .destroy tree)).bind fun m ↦
  (m.signalAdd .toplevels (.link tree)).bind fun m ↦
  (m.signalAdd (.signal .commit tree) (.listener .commit tree)).bind fun m ↦
  (m.signalAdd (.signal .destroy tree) (.listener .destroy tree)).map fun m ↦
    ⟨m, tree :: l.mapped, others⟩

/-- `handle_toplevel_destroy`, `src/compositor.c:781–783`. -/
def untrack (l : Tracking) (tree : TreeId) : Option Tracking :=
  (l.links.remove (.listener .commit tree)).bind fun m ↦
    (m.remove (.listener .destroy tree)).bind fun m ↦
      (m.remove (.link tree)).map fun m ↦ { l with links := m }

/-- `playos_overlay_bind`, `src/playos_manager.c:226`. -/
def bind (l : Tracking) (resource : ResourceId) : Option Tracking :=
  (l.links.insert .overlayResources (.bound resource)).map fun m ↦ { l with links := m }

/-- `playos_overlay_resource_destroy`, `src/playos_manager.c:199`. -/
def unbind (l : Tracking) (resource : ResourceId) : Option Tracking :=
  (l.links.remove (.bound resource)).map fun m ↦ { l with links := m }

/-- Destruction of one object. -/
def destroyObject (l : Tracking) : ClientObject → Option Tracking
  | .toplevel tree => l.untrack tree
  | .overlayBinding resource => l.unbind resource

/-- Destruction of several objects, one after the other. -/
def destroyObjects (l : Tracking) : List ClientObject → Option Tracking
  | [] => some l
  | object :: order => (l.destroyObject object).bind fun l ↦ l.destroyObjects order

/-- What an event does to the links; `none` once a NULL pointer has been followed. -/
def note (l : Tracking) (there : TreeId → SurfaceSignal → Nat) (c : Compositor) :
    Event → Option Tracking
  | .newToplevel _ .ok => l.track there c.nextId
  | .destroyToplevel tree => l.untrack tree
  | .bindOverlay _ true => l.bind c.nextId
  | .disconnect _ order => l.destroyObjects order
  | _ => some l

/-- Whether somebody else's listener is on a signal. -/
def Listens (l : Tracking) (s : SurfaceSignal) (tree : TreeId) (index : Nat) : Prop :=
  index ∈ (l.others s tree).earlier ++ (l.others s tree).later

instance (l : Tracking) (s : SurfaceSignal) (tree : TreeId) (index : Nat) :
    Decidable (l.Listens s tree index) :=
  inferInstanceAs (Decidable (_ ∈ _))

/-- The others on one signal are replaced. -/
def setOthers (l : Tracking) (s : SurfaceSignal) (tree : TreeId) (o : OtherListeners) : Tracking :=
  { l with others := fun s' tree' ↦ if s' = s ∧ tree' = tree then o else l.others s' tree' }

/-- `wl_signal_add` and `wl_list_remove` by others. A listener joins one signal once, and leaves
only where it is; a surface that the compositor has not met has no links here. -/
def move (l : Tracking) : OthersMove → Option Tracking
  | .join s tree index =>
    let o := l.others s tree
    if tree ∈ l.mapped ∧ ¬ l.Listens s tree index then
      (l.links.signalAdd (.signal s tree) (.other s tree index)).map fun m ↦
        { l.setOthers s tree { o with later := o.later ++ [index] } with links := m }
    else some l
  | .leave s tree index =>
    let o := l.others s tree
    if tree ∈ l.mapped ∧ l.Listens s tree index then
      (l.links.remove (.other s tree index)).map fun m ↦
        { l.setOthers s tree ⟨o.earlier.filter (· ≠ index), o.later.filter (· ≠ index)⟩ with
          links := m }
    else some l

/-- The listeners of a signal: the compositor's own is there while the window is tracked. -/
def listeners (l : Tracking) (c : Compositor) (s : SurfaceSignal) (tree : TreeId) :
    List TrackNode :=
  (l.others s tree).earlier.map (.other s tree) ++
    ((if tree ∈ c.trees then [.listener s tree] else []) ++
      (l.others s tree).later.map (.other s tree))

end Tracking

/-- The compositor's runs, with the links of its windows and bindings, interleaved with what
others do on the surfaces. -/
def trackingSystem (there : TreeId → SurfaceSignal → Nat) :
    Transition.System (Compositor × Option Tracking) (Event ⊕ OthersMove) where
  initial p := compositorSystem.initial p.1 ∧ p.2 = some playosCompositorInitTracking
  step p
    | .inl e => (step p.1 e).map fun c ↦ (c, p.2.bind fun l ↦ l.note there p.1 e)
    | .inr move => some (p.1, p.2.bind fun l ↦ l.move move)

/-- The members of every list, as the compositor's own lists have them. -/
def trackLists (c : Compositor) (l : Tracking) : TrackNode → Option (List TrackNode)
  | .toplevels => some (c.trees.map .link)
  | .overlayResources => some (c.overlayResources.map fun bound ↦ .bound bound.resource)
  | .signal s tree => if tree ∈ l.mapped then some (l.listeners c s tree) else none
  | .link _ => none
  | .listener _ _ => none
  | .bound _ => none
  | .other _ _ _ => none

/-- A node of a window that was tracked and is gone. -/
def Gone (c : Compositor) (mapped : List TreeId) : TrackNode → Prop
  | .link tree => tree ∈ mapped ∧ tree ∉ c.trees
  | .listener _ tree => tree ∈ mapped ∧ tree ∉ c.trees
  | _ => False

/-- The links are those of the compositor's lists, every surface that was tracked included, and
the links of a window that is gone lead nowhere. -/
structure Tracked (c : Compositor) (l : Tracking) : Prop where
  rings : l.links.Rings (trackLists c l)
  mapped : ∀ tree ∈ c.trees, tree ∈ l.mapped
  fresh : ∀ tree ∈ l.mapped, tree < c.nextId
  cleared : ∀ x, Gone c l.mapped x → l.links.next x = none

variable {c c' : Compositor} {l : Tracking} {mapped : List TreeId} {tree : TreeId}
  {s : SurfaceSignal} {index : Nat} {there : TreeId → SurfaceSignal → Nat}

/-! ### Nodes that no list uses -/

private theorem mem_listeners {x : TrackNode} : x ∈ l.listeners c s tree ↔
    (x = .listener s tree ∧ tree ∈ c.trees) ∨ ∃ index, l.Listens s tree index ∧
      x = .other s tree index := by
  have hown : x ∈ (if tree ∈ c.trees then [TrackNode.listener s tree] else []) ↔
      x = .listener s tree ∧ tree ∈ c.trees := by split <;> simp [*]
  simp only [Tracking.listeners, Tracking.Listens, List.mem_append, List.mem_map, hown,
    or_and_right, exists_or, @eq_comm _ _ x]
  exact or_left_comm

/-- A node of nothing that is tracked or bound. -/
def Unused (c : Compositor) (l : Tracking) : TrackNode → Prop
  | .toplevels => False
  | .overlayResources => False
  | .signal _ tree => tree ∉ l.mapped
  | .link tree => tree ∉ c.trees
  | .listener _ tree => tree ∉ c.trees
  | .bound resource => ∀ bound ∈ c.overlayResources, bound.resource ≠ resource
  | .other s tree index => tree ∈ l.mapped → ¬ l.Listens s tree index

private theorem free_of_unused {x : TrackNode} (h : Unused c l x) :
    Links.Free (trackLists c l) x := by
  intro head members hm
  cases head with
  | toplevels =>
    cases hm
    cases x <;> simp_all [Unused]
  | overlayResources =>
    cases hm
    cases x <;> simp_all [Unused]
  | signal s tree =>
    obtain ⟨ht, hm⟩ := Option.ite_none_right_eq_some.mp hm
    cases hm
    intro hx
    rcases List.mem_cons.mp hx with rfl | hx
    · exact h ht
    · obtain ⟨rfl, hc⟩ | ⟨index, hi, rfl⟩ := mem_listeners.mp hx
      · exact h hc
      · exact h ht hi
  | _ => cases hm

private theorem not_mem_of_gone {x : TrackNode} (h : Gone c mapped x) :
    x ∉ .signal s tree :: l.listeners c s tree := by
  intro hx
  rcases List.mem_cons.mp hx with rfl | hx
  · exact h
  · obtain ⟨rfl, hc⟩ | ⟨index, -, rfl⟩ := mem_listeners.mp hx
    · exact h.2 hc
    · exact h

/-! ### Windows -/

/-- The lists when wlroots has created a surface that the compositor does not listen to yet. -/
def createdLists (there : TreeId → SurfaceSignal → Nat) (c : Compositor) (l : Tracking)
    (tree : TreeId) : TrackNode → Option (List TrackNode) :=
  Function.update (Function.update (trackLists c l)
    (.signal .commit tree) (some (Tracking.present there .commit tree)))
    (.signal .destroy tree) (some (Tracking.present there .destroy tree))

private theorem mem_present {x : TrackNode} (hx : x ∈ Tracking.present there s tree) :
    ∃ index, x = .other s tree index := by
  obtain ⟨index, -, rfl⟩ := List.mem_map.mp hx
  exact ⟨index, rfl⟩

private theorem free_createdLists {x : TrackNode} (h : Unused c l x)
    (hs : ∀ s, x ≠ .signal s tree) (ho : ∀ s index, x ≠ .other s tree index) :
    Links.Free (createdLists there c l tree) x := by
  have hx : ∀ s, x ∉ .signal s tree :: Tracking.present there s tree := by
    intro s hx
    rcases List.mem_cons.mp hx with rfl | hx
    · exact hs s rfl
    · obtain ⟨index, rfl⟩ := mem_present hx
      exact ho s index rfl
  exact ((free_of_unused h).update (hx .commit)).update (hx .destroy)

/-- A surface is created: the scene helper's listeners are the only ones on its signals. -/
private theorem rings_created (h : Tracked c l) (hn : tree ∉ l.mapped)
    (there : TreeId → SurfaceSignal → Nat) :
    ∃ m₁ m₂, (l.links.init (.signal .commit tree)).signalAddAll (.signal .commit tree)
        (Tracking.present there .commit tree) = some m₁ ∧
      (m₁.init (.signal .destroy tree)).signalAddAll (.signal .destroy tree)
        (Tracking.present there .destroy tree) = some m₂ ∧
      m₂.Rings (createdLists there c l tree) ∧
      ∀ x, (∀ s, x ∉ .signal s tree :: Tracking.present there s tree) → l.links.AgreeAt m₂ x := by
  have hnodup : ∀ s, (TrackNode.signal s tree :: Tracking.present there s tree).Nodup := by
    intro s
    refine List.nodup_cons.mpr ⟨fun hx ↦ ?_, List.nodup_range.map fun a b he ↦ by simpa using he⟩
    obtain ⟨index, hx⟩ := mem_present hx
    cases hx
  have hfree : ∀ s, ∀ x ∈ Tracking.present there s tree, Links.Free (trackLists c l) x := by
    intro s x hx
    obtain ⟨index, rfl⟩ := mem_present hx
    exact free_of_unused fun hm ↦ absurd hm hn
  obtain ⟨m₁, e₁, h₁, ag₁⟩ :=
    h.rings.create (free_of_unused (x := .signal .commit tree) hn) (hnodup .commit) (hfree .commit)
  have hne : ∀ x, x ∈ TrackNode.signal .destroy tree :: Tracking.present there .destroy tree →
      x ∉ TrackNode.signal .commit tree :: Tracking.present there .commit tree := by
    intro x hx hx'
    rcases List.mem_cons.mp hx with rfl | hx <;> rcases List.mem_cons.mp hx' with he | hx'
    · cases he
    · obtain ⟨index, he⟩ := mem_present hx'
      cases he
    · obtain ⟨index, rfl⟩ := mem_present hx
      cases he
    · obtain ⟨index, rfl⟩ := mem_present hx
      obtain ⟨index', he⟩ := mem_present hx'
      cases he
  obtain ⟨m₂, e₂, h₂, ag₂⟩ := h₁.create
    ((free_of_unused (x := .signal .destroy tree) hn).update (hne _ List.mem_cons_self))
    (hnodup .destroy)
    (fun x hx ↦ (hfree .destroy x hx).update (hne x (List.mem_cons_of_mem _ hx)))
  exact ⟨m₁, m₂, e₁, e₂, h₂, fun x hx ↦ (ag₁ x (hx .commit)).trans (ag₂ x (hx .destroy))⟩

/-- The lists when the new surface is tracked. -/
private theorem trackLists_track (ht : c'.trees = c.trees ++ [tree])
    (hb : c'.overlayResources = c.overlayResources) (m : Links TrackNode) :
    Function.update (Function.update (Function.update (createdLists there c l tree)
      .toplevels (some (c.trees.map .link ++ [.link tree])))
      (.signal .commit tree)
        (some (Tracking.present there .commit tree ++ [.listener .commit tree])))
      (.signal .destroy tree)
        (some (Tracking.present there .destroy tree ++ [.listener .destroy tree])) =
    trackLists c' ⟨m, tree :: l.mapped,
      fun s t ↦ if t = tree then ⟨List.range (there tree s), []⟩ else l.others s t⟩ := by
  funext node
  cases node with
  | signal s other =>
    by_cases ho : other = tree
    · subst ho
      cases s <;> simp [createdLists, trackLists, Tracking.listeners, Tracking.present, ht]
    · simp [createdLists, trackLists, Tracking.listeners, ht, ho]
  | _ => simp [createdLists, trackLists, ht, hb]

/-- The nodes of a window and of its surface. -/
def OfWindow (tree : TreeId) : TrackNode → Prop
  | .signal _ other => other = tree
  | .link other => other = tree
  | .listener _ other => other = tree
  | .other _ other _ => other = tree
  | _ => False

private theorem Tracked.track (h : Tracked c l) (hn : tree ∉ l.mapped)
    (ht : c'.trees = c.trees ++ [tree])
    (hb : c'.overlayResources = c.overlayResources) (hid : c.nextId ≤ c'.nextId)
    (hlt : tree < c'.nextId) : ∃ l', l.track there tree = some l' ∧ Tracked c' l' := by
  have hc : tree ∉ c.trees := fun hc ↦ hn (h.mapped tree hc)
  obtain ⟨m₁, m₂, e₁, e₂, h₂, ag₂⟩ := rings_created h hn there
  have hm₃ : c.trees.map .link ∈ createdLists there c l tree .toplevels := rfl
  obtain ⟨m₃, e₃, h₃, ag₃⟩ := h₂.signalAdd hm₃
    (free_createdLists (x := .link tree) hc (by simp) (by simp))
  have hm₄ : Tracking.present there .commit tree ∈ Function.update (createdLists there c l tree)
      .toplevels (some (c.trees.map .link ++ [.link tree])) (.signal .commit tree) := by
    simp [createdLists]
  obtain ⟨m₄, e₄, h₄, ag₄⟩ := h₃.signalAdd hm₄
    ((free_createdLists (x := .listener .commit tree) hc (by simp) (by simp)).update (by simp))
  have hm₅ : Tracking.present there .destroy tree ∈
      Function.update (Function.update (createdLists there c l tree) .toplevels
        (some (c.trees.map .link ++ [.link tree]))) (.signal .commit tree)
        (some (Tracking.present there .commit tree ++ [.listener .commit tree]))
        (.signal .destroy tree) := by
    simp [createdLists]
  obtain ⟨m₅, e₅, h₅, ag₅⟩ := h₄.signalAdd hm₅
    (((free_createdLists (x := .listener .destroy tree) hc (by simp) (by simp)).update
      (by simp)).update (by simp [Tracking.present]))
  refine ⟨⟨m₅, tree :: l.mapped, fun s t ↦
    if t = tree then ⟨List.range (there tree s), []⟩ else l.others s t⟩, ?_, ?_, ?_, ?_, ?_⟩
  · rw [Tracking.track, e₁, Option.bind_some, e₂, Option.bind_some, e₃, Option.bind_some, e₄,
      Option.bind_some, e₅, Option.map_some]
  · exact trackLists_track ht hb m₅ ▸ h₅
  · intro other ho
    rw [ht, List.mem_append, List.mem_singleton] at ho
    exact ho.elim (fun ho ↦ List.mem_cons_of_mem _ (h.mapped other ho))
      fun ho ↦ ho ▸ List.mem_cons_self
  · intro other ho
    rcases List.mem_cons.mp ho with rfl | ho
    · exact hlt
    · exact (h.fresh other ho).trans_le hid
  · intro x hx
    obtain ⟨hgone, hof⟩ : Gone c l.mapped x ∧ ¬ OfWindow tree x := by
      cases x <;> simp only [Gone, OfWindow, ht, List.mem_cons, List.mem_append,
        List.not_mem_nil, or_false, not_or] at hx ⊢ <;> tauto
    have hne : ∀ y, OfWindow tree y → x ≠ y := fun y hy he ↦ hof (he ▸ hy)
    have htop : x ∉ .toplevels :: c.trees.map .link := by
      cases x <;> simp_all [Gone]
    have hsig : ∀ s, x ∉ .signal s tree :: Tracking.present there s tree := by
      intro s hx'
      rcases List.mem_cons.mp hx' with rfl | hx'
      · exact hne (.signal s tree) rfl rfl
      · obtain ⟨index, rfl⟩ := mem_present hx'
        exact hne (.other s tree index) rfl rfl
    have hadded := (ag₃ x (hne (.link tree) rfl) htop).trans
      ((ag₄ x (hne (.listener .commit tree) rfl) (hsig .commit)).trans
        (ag₅ x (hne (.listener .destroy tree) rfl) (hsig .destroy)))
    exact ((ag₂ x hsig).trans hadded).1.trans (h.cleared x hgone)

private theorem listeners_filter (hc : tree ∉ c'.trees) :
    (l.listeners c s tree).filter (· ≠ .listener s tree) = l.listeners c' s tree := by
  have hothers : ∀ is : List Nat, (is.map (TrackNode.other s tree)).filter
      (· ≠ .listener s tree) = is.map (.other s tree) := fun is ↦
    List.filter_eq_self.mpr (by simp)
  rw [Tracking.listeners, Tracking.listeners, List.filter_append, List.filter_append, hothers,
    hothers, if_neg hc]
  split <;> simp

/-- The lists when a window is no longer tracked. -/
private theorem trackLists_untrack (hm : tree ∈ l.mapped)
    (ht : c'.trees = c.trees.filter (· ≠ tree)) (hb : c'.overlayResources = c.overlayResources) :
    Function.update (Function.update (Function.update (trackLists c l)
      (.signal .commit tree) (some (l.listeners c' .commit tree)))
      (.signal .destroy tree) (some (l.listeners c' .destroy tree)))
      .toplevels (some ((c.trees.map .link).filter (· ≠ .link tree))) =
    trackLists c' l := by
  have hfilter : (c.trees.map TrackNode.link).filter (· ≠ .link tree) = c'.trees.map .link := by
    rw [ht, List.filter_map]
    simp [Function.comp_def]
  funext node
  cases node with
  | toplevels => rw [Function.update_self, hfilter, trackLists]
  | signal s other =>
    by_cases ho : other = tree
    · subst ho
      cases s <;> simp [trackLists, hm]
    · simp [trackLists, Tracking.listeners, ht, ho]
  | _ => simp [trackLists, hb]

private theorem Tracked.untrack (h : Tracked c l) (hc : tree ∈ c.trees)
    (ht : c'.trees = c.trees.filter (· ≠ tree)) (hb : c'.overlayResources = c.overlayResources)
    (hid : c.nextId ≤ c'.nextId) : ∃ l', l.untrack tree = some l' ∧ Tracked c' l' := by
  have hm := h.mapped tree hc
  have hc' : tree ∉ c'.trees := by simp [ht]
  have hown : ∀ s, .listener s tree ∈ l.listeners c s tree := fun s ↦
    mem_listeners.mpr (Or.inl ⟨rfl, hc⟩)
  have hm₁ : l.listeners c .commit tree ∈ trackLists c l (.signal .commit tree) := if_pos hm
  obtain ⟨m₁, e₁, n₁, h₁, ag₁⟩ := h.rings.remove hm₁ (hown .commit)
  rw [listeners_filter hc'] at h₁
  have hm₂ : l.listeners c .destroy tree ∈ Function.update (trackLists c l)
      (.signal .commit tree) (some (l.listeners c' .commit tree)) (.signal .destroy tree) := by
    simp [trackLists, hm]
  obtain ⟨m₂, e₂, n₂, h₂, ag₂⟩ := h₁.remove hm₂ (hown .destroy)
  rw [listeners_filter hc'] at h₂
  have hm₃ : c.trees.map .link ∈ Function.update (Function.update (trackLists c l)
      (.signal .commit tree) (some (l.listeners c' .commit tree)))
      (.signal .destroy tree) (some (l.listeners c' .destroy tree)) .toplevels := rfl
  obtain ⟨m₃, e₃, n₃, h₃, ag₃⟩ := h₂.remove hm₃ (List.mem_map_of_mem hc)
  rw [trackLists_untrack hm ht hb] at h₃
  refine ⟨{ l with links := m₃ }, ?_, h₃, ?_, fun other ho ↦ (h.fresh other ho).trans_le hid, ?_⟩
  · rw [Tracking.untrack, e₁, Option.bind_some, e₂, Option.bind_some, e₃, Option.map_some]
  · intro other ho
    rw [ht] at ho
    exact h.mapped other (List.mem_of_mem_filter ho)
  · intro x hx
    -- a node that was gone before is in none of the three lists
    have hold : Gone c l.mapped x → m₃.next x = none := by
      intro hgone
      have htop : x ∉ .toplevels :: c.trees.map .link := by
        cases x <;> simp_all [Gone]
      exact (((ag₁ x (not_mem_of_gone hgone)).trans (ag₂ x (not_mem_of_gone hgone))).trans
        (ag₃ x htop)).1.trans (h.cleared x hgone)
    cases x with
    | link other =>
      by_cases ho : other = tree
      · exact ho ▸ n₃
      · refine hold ⟨hx.1, fun hm ↦ hx.2 ?_⟩
        rw [ht]
        exact List.mem_filter.mpr ⟨hm, by simpa using ho⟩
    | listener s other =>
      by_cases ho : other = tree
      · subst ho
        cases s with
        | commit =>
          have hnot : .listener .commit other ∉
              .signal .destroy other :: l.listeners c .destroy other := by simp [mem_listeners]
          exact ((ag₂ _ hnot).trans (ag₃ _ (by simp))).1.trans n₁
        | destroy => exact (ag₃ _ (by simp)).1.trans n₂
      · refine hold ⟨hx.1, fun hm ↦ hx.2 ?_⟩
        rw [ht]
        exact List.mem_filter.mpr ⟨hm, by simpa using ho⟩
    | _ => cases hx

/-! ### Others on a surface -/

private theorem trackLists_setOthers (hm : tree ∈ l.mapped) {o : OtherListeners}
    {members : List TrackNode} (hl : (l.setOthers s tree o).listeners c s tree = members)
    (m : Links TrackNode) :
    Function.update (trackLists c l) (.signal s tree) (some members) =
      trackLists c { l.setOthers s tree o with links := m } := by
  subst hl
  funext node
  cases node with
  | signal s' other =>
    by_cases ho : s' = s ∧ other = tree
    · obtain ⟨rfl, rfl⟩ := ho
      rw [Function.update_self]
      exact (if_pos hm).symm
    · rw [Function.update_of_ne fun he ↦ ho (by simpa using he)]
      simp only [trackLists, Tracking.listeners, Tracking.setOthers, if_neg ho]
  | _ => rfl

private theorem Tracked.move (h : Tracked c l) (move : OthersMove) :
    ∃ l', l.move move = some l' ∧ Tracked c l' := by
  cases move with
  | join s tree index =>
    by_cases hj : tree ∈ l.mapped ∧ ¬ l.Listens s tree index
    · have hm : l.listeners c s tree ∈ trackLists c l (.signal s tree) := if_pos hj.1
      obtain ⟨m, e, hr, ag⟩ := h.rings.signalAdd hm
        (free_of_unused (x := .other s tree index) fun _ ↦ hj.2)
      have hl : (l.setOthers s tree ⟨(l.others s tree).earlier,
          (l.others s tree).later ++ [index]⟩).listeners c s tree =
          l.listeners c s tree ++ [.other s tree index] := by
        simp [Tracking.listeners, Tracking.setOthers]
      refine ⟨_, (if_pos hj).trans (congrArg _ e), ?_, h.mapped, h.fresh, ?_⟩
      · exact trackLists_setOthers hj.1 hl m ▸ hr
      · intro x hx
        refine (ag x ?_ (not_mem_of_gone hx)).1.trans (h.cleared x hx)
        rintro rfl
        exact hx
    · exact ⟨l, if_neg hj, h⟩
  | leave s tree index =>
    by_cases hj : tree ∈ l.mapped ∧ l.Listens s tree index
    · have hm : l.listeners c s tree ∈ trackLists c l (.signal s tree) := if_pos hj.1
      obtain ⟨m, e, -, hr, ag⟩ := h.rings.remove hm
        (mem_listeners.mpr (Or.inr ⟨index, hj.2, rfl⟩))
      have hothers : ∀ is : List Nat, (is.map (TrackNode.other s tree)).filter
          (· ≠ .other s tree index) = (is.filter (· ≠ index)).map (.other s tree) := by
        intro is
        rw [List.filter_map]
        simp [Function.comp_def]
      have hl : (l.setOthers s tree ⟨(l.others s tree).earlier.filter (· ≠ index),
          (l.others s tree).later.filter (· ≠ index)⟩).listeners c s tree =
          (l.listeners c s tree).filter (· ≠ .other s tree index) := by
        rw [Tracking.listeners, Tracking.listeners, List.filter_append, List.filter_append,
          hothers, hothers]
        split <;> simp [Tracking.setOthers]
      refine ⟨_, (if_pos hj).trans (congrArg _ e), ?_, h.mapped, h.fresh, ?_⟩
      · exact trackLists_setOthers hj.1 hl m ▸ hr
      · exact fun x hx ↦ (ag x (not_mem_of_gone hx)).1.trans (h.cleared x hx)
    · exact ⟨l, if_neg hj, h⟩

/-! ### Bindings -/

private theorem gone_congr (ht : c'.trees = c.trees) (x : TrackNode) :
    Gone c' mapped x ↔ Gone c mapped x := by
  cases x <;> simp [Gone, ht]

private theorem Tracked.bind (h : Tracked c l) {resource : ResourceId} {client : ClientId}
    (hn : ∀ bound ∈ c.overlayResources, bound.resource ≠ resource) (ht : c'.trees = c.trees)
    (hb : c'.overlayResources = ⟨client, resource⟩ :: c.overlayResources)
    (hid : c.nextId ≤ c'.nextId) : ∃ l', l.bind resource = some l' ∧ Tracked c' l' := by
  have hm : c.overlayResources.map (fun bound ↦ .bound bound.resource) ∈
      trackLists c l .overlayResources := rfl
  obtain ⟨m, e, hr, ag⟩ := h.rings.insert hm (free_of_unused (x := .bound resource) hn)
  refine ⟨{ l with links := m }, ?_, ?_, ?_, fun other ho ↦ (h.fresh other ho).trans_le hid, ?_⟩
  · rw [Tracking.bind, e, Option.map_some]
  · convert hr using 1
    funext node
    cases node <;> simp [trackLists, Tracking.listeners, ht, hb]
  · rw [ht]
    exact h.mapped
  · intro x hx
    rw [gone_congr ht] at hx
    refine (ag x ?_ ?_).1.trans (h.cleared x hx) <;> cases x <;> simp_all [Gone]

private theorem Tracked.unbind (h : Tracked c l) {resource : ResourceId}
    (hm : resource ∈ c.overlayResources.map OverlayBound.resource) (ht : c'.trees = c.trees)
    (hb : c'.overlayResources = c.overlayResources.filter fun bound ↦ bound.resource ≠ resource)
    (hid : c.nextId ≤ c'.nextId) : ∃ l', l.unbind resource = some l' ∧ Tracked c' l' := by
  have hmem : c.overlayResources.map (fun bound ↦ .bound bound.resource) ∈
      trackLists c l .overlayResources := rfl
  obtain ⟨bound, hbound, rfl⟩ := List.mem_map.mp hm
  obtain ⟨m, e, -, hr, ag⟩ := h.rings.remove hmem (List.mem_map_of_mem hbound)
  refine ⟨{ l with links := m }, ?_, ?_, ?_, fun other ho ↦ (h.fresh other ho).trans_le hid, ?_⟩
  · rw [Tracking.unbind, e, Option.map_some]
  · convert hr using 1
    funext node
    cases node with
    | overlayResources => simp [trackLists, hb, List.filter_map, Function.comp_def]
    | _ => simp [trackLists, Tracking.listeners, ht]
  · rw [ht]
    exact h.mapped
  · intro x hx
    rw [gone_congr ht] at hx
    refine (ag x ?_).1.trans (h.cleared x hx)
    cases x <;> simp_all [Gone]

/-! ### A client that leaves -/

/-- The object has a window or a binding behind it. -/
def Standing (c : Compositor) : ClientObject → Prop
  | .toplevel tree => tree ∈ c.trees
  | .overlayBinding resource => resource ∈ c.overlayResources.map OverlayBound.resource

private theorem trees_destroyObject_toplevel (c : Compositor) (tree : TreeId) :
    (destroyObject c (.toplevel tree)).trees = c.trees.filter (· ≠ tree) := by
  have hf : (destroyObject c (.toplevel tree)).toplevels =
      c.toplevels.filter fun track ↦ track.tree ≠ tree := by
    rw [toForeground_destroyObject]
    exact Foreground.toplevels_unmap _ _
  rw [Foreground.trees, hf, Foreground.trees, List.filter_map]
  rfl

private theorem trees_destroyObject_overlayBinding (c : Compositor) (resource : ResourceId) :
    (destroyObject c (.overlayBinding resource)).trees = c.trees := by
  rw [toForeground_destroyObject]

private theorem Tracked.destroyObject (h : Tracked c l) {object : ClientObject}
    (hs : Standing c object) :
    ∃ l', l.destroyObject object = some l' ∧
      Tracked (PlayosCompositor.destroyObject c object) l' := by
  cases object with
  | toplevel tree =>
    have hr := toRegistry_destroyObject_toplevel c tree
    exact h.untrack hs (trees_destroyObject_toplevel c tree) (congrArg _ hr) (by rw [hr])
  | overlayBinding resource =>
    have hr := toRegistry_destroyObject_overlayBinding c resource
    exact h.unbind hs (trees_destroyObject_overlayBinding c resource) (congrArg _ hr) (by rw [hr])

private theorem Standing.destroyObject {object other : ClientObject} (hs : Standing c other)
    (hne : other ≠ object) : Standing (PlayosCompositor.destroyObject c object) other := by
  cases object with
  | toplevel tree =>
    have hr := toRegistry_destroyObject_toplevel c tree
    cases other with
    | toplevel tree' =>
      simp only [Standing, trees_destroyObject_toplevel, List.mem_filter]
      exact ⟨hs, by simpa using hne⟩
    | overlayBinding resource =>
      simp only [Standing, hr]
      exact hs
  | overlayBinding resource =>
    have hr := toRegistry_destroyObject_overlayBinding c resource
    cases other with
    | toplevel tree' =>
      simp only [Standing, trees_destroyObject_overlayBinding]
      exact hs
    | overlayBinding resource' =>
      obtain ⟨bound, hb, rfl⟩ := List.mem_map.mp hs
      simp only [Standing, hr]
      exact List.mem_map_of_mem (List.mem_filter.mpr ⟨hb, by simpa using hne⟩)

private theorem Tracked.destroyObjects {order : List ClientObject} (h : Tracked c l)
    (hn : order.Nodup) (hs : ∀ object ∈ order, Standing c object) :
    ∃ l', l.destroyObjects order = some l' ∧
      Tracked (order.foldl PlayosCompositor.destroyObject c) l' := by
  induction order generalizing c l with
  | nil => exact ⟨l, rfl, h⟩
  | cons object order ih =>
    obtain ⟨hnot, hn⟩ := List.nodup_cons.mp hn
    obtain ⟨l₁, e₁, h₁⟩ := h.destroyObject (hs object List.mem_cons_self)
    obtain ⟨l', e', h'⟩ := ih h₁ hn fun other ho ↦
      (hs other (List.mem_cons_of_mem _ ho)).destroyObject fun he ↦ hnot (he ▸ ho)
    exact ⟨l', by rw [Tracking.destroyObjects, e₁, Option.bind_some, e'], h'⟩

private theorem Tracked.congr (h : Tracked c l) (ht : c'.trees = c.trees)
    (hb : c'.overlayResources = c.overlayResources) (hid : c.nextId ≤ c'.nextId) :
    Tracked c' l where
  rings := by
    have hl : trackLists c' l = trackLists c l := by
      funext node
      cases node <;> simp [trackLists, Tracking.listeners, ht, hb]
    exact hl ▸ h.rings
  mapped := ht ▸ h.mapped
  fresh tree hm := (h.fresh tree hm).trans_le hid
  cleared x hx := h.cleared x ((gone_congr ht x).mp hx)

private theorem nodup_ownedObjects (h : Tracked c l) (client : ClientId) :
    (ownedObjects c client).Nodup := by
  have ht := (List.nodup_cons.mp (h.rings.ring .toplevels _ rfl).nodup).2.of_map
  have hb := (List.nodup_cons.mp (h.rings.ring .overlayResources _ rfl).nodup).2
  rw [show c.overlayResources.map (fun bound ↦ TrackNode.bound bound.resource) =
    (c.overlayResources.map OverlayBound.resource).map .bound by rw [List.map_map]; rfl] at hb
  have hw : (c.toplevels.map fun track ↦ ClientObject.toplevel track.tree).Nodup := by
    have hm := ht.map (f := ClientObject.toplevel) fun a b he ↦ by simpa using he
    rwa [Foreground.trees, List.map_map] at hm
  have hr : (c.overlayResources.map fun b ↦ ClientObject.overlayBinding b.resource).Nodup := by
    have hm := hb.of_map.map (f := ClientObject.overlayBinding) fun a b he ↦ by simpa using he
    rwa [List.map_map] at hm
  refine List.nodup_append.mpr ⟨(List.Sublist.map _ List.filter_sublist).nodup hw,
    (List.Sublist.map _ List.filter_sublist).nodup hr, ?_⟩
  intro a ha b hb' he
  obtain ⟨track, -, rfl⟩ := List.mem_map.mp ha
  obtain ⟨bound, -, rfl⟩ := List.mem_map.mp hb'
  cases he

/-! ### The links in every run -/

private theorem standing_of_owned {client : ClientId} {object : ClientObject}
    (ho : object ∈ ownedObjects c client) : Standing c object := by
  cases object with
  | toplevel tree =>
    obtain ⟨track, ht, -, rfl⟩ := toplevel_mem_ownedObjects.mp ho
    exact List.mem_map_of_mem ht
  | overlayBinding resource =>
    obtain ⟨bound, hb, -, rfl⟩ := overlayBinding_mem_ownedObjects.mp ho
    exact List.mem_map_of_mem hb

private theorem Foreground.SameWindows.trees {f g : Foreground} (h : f.SameWindows g) :
    g.trees = f.trees := by rw [Foreground.trees, h.toplevels, Foreground.trees]

/-- Trees come with a new window and go with a destroyed one or with their client. -/
theorem trees_step {e : Event} (hs : step c e = some c')
    (hnew : ∀ client, e ≠ .newToplevel client .ok) (hdes : ∀ tree, e ≠ .destroyToplevel tree)
    (hdis : ∀ client order, e ≠ .disconnect client order) : c'.trees = c.trees := by
  cases handled_of_step hs with
  | ipcFd mask read _ =>
    unfold ipcFdHandler
    repeat' split
    all_goals first | rfl | exact (sameWindows_ipcDispatch c _).trees
  | disconnect client order _ _ => exact absurd rfl (hdis client order)
  | registerShell client _ =>
    rw [toForeground_playosManagerRegisterShell, Foreground.claimShell]
    split
    · rfl
    · exact Foreground.trees_classify _
  | registerOverlay client _ =>
    rw [toForeground_playosManagerRegisterOverlay, Foreground.claimOverlay]
    split
    · rfl
    · exact Foreground.trees_classify _
  | overlayRequest resource request bound _ =>
    exact (sameWindows_playosOverlayRequest c bound.client request).trees
  | newToplevel client alloc _ =>
    cases alloc with
    | ok => exact absurd rfl (hnew client)
    | noTree => rfl
    | noTrack => rfl
  | commit tree surface track _ => exact (sameWindows_handleToplevelCommit c track surface).trees
  | destroyToplevel tree track _ => exact absurd rfl (hdes tree)
  | key keycode state => exact (sameWindows_handleKeyboardKey c keycode state).trees
  | _ => simp

/-- Nothing is tracked at the start. -/
theorem tracked_started (config : StartConfig) :
    Tracked (playosCompositorStarted config) playosCompositorInitTracking where
  rings := by
    have h₀ : (Links.zeroed : Links TrackNode).Rings fun _ ↦ none := ⟨by simp, by simp⟩
    have hnone : Links.Free (fun _ ↦ none) TrackNode.toplevels := fun _ _ hm ↦ by cases hm
    have hnone' : Links.Free (fun _ ↦ none) TrackNode.overlayResources := fun _ _ hm ↦ by cases hm
    have h := (h₀.init hnone).init (hnone'.update (by simp))
    have hl : trackLists (playosCompositorStarted config) playosCompositorInitTracking =
        Function.update (Function.update (fun _ ↦ none) TrackNode.toplevels (some []))
          TrackNode.overlayResources (some []) := by
      funext node
      cases node <;> simp [trackLists, playosCompositorInitTracking, playosCompositorStarted,
        playosCompositorInit, playosStateInit, Foreground.trees]
    exact hl ▸ h
  mapped tree hm := by cases hm
  fresh tree hm := by cases hm
  cleared x hx := by cases x <;> first | cases hx.1 | cases hx

/-- A step follows no NULL pointer and keeps the links in step with the lists. -/
theorem tracked_step {e : Event} (h : Tracked c l) (hb : Bound c) (hs : step c e = some c')
    (there : TreeId → SurfaceSignal → Nat) : ∃ l', l.note there c e = some l' ∧ Tracked c' l' := by
  cases handled_of_step hs with
  | newToplevel client alloc _ =>
    cases alloc with
    | ok =>
      have hr := toRegistry_handleNewXdgToplevel c client .ok
      refine h.track (fun hm ↦ (h.fresh _ hm).false) ?_ (by rw [hr]) (by simp) (by simp)
      rw [toForeground_handleNewXdgToplevel_ok]
      exact Foreground.trees_map _ _ _
    | noTree => exact ⟨l, rfl, h.congr rfl rfl le_rfl⟩
    | noTrack => exact ⟨l, rfl, h.congr rfl rfl (Nat.le_succ _)⟩
  | destroyToplevel tree track ht =>
    have hd : destroyObject c (.toplevel tree) = handleToplevelDestroy c track := by
      simp only [destroyObject, ht]
    obtain ⟨hm, rfl⟩ := Foreground.track?_some ht
    have hst : Standing c (.toplevel track.tree) := List.mem_map_of_mem hm
    exact hd ▸ h.destroyObject hst
  | bindOverlay client created _ =>
    have hr := toRegistry_playosOverlayBind c client created
    have ht : (playosOverlayBind c client created).trees = c.trees := by simp
    cases created with
    | true =>
      exact h.bind (fun bound hm ↦ (hb.fresh bound hm).ne) ht (congrArg _ hr) (by rw [hr]; simp)
    | false => exact ⟨l, rfl, h.congr ht (congrArg _ hr) (by rw [hr]; simp)⟩
  | disconnect client order _ ho =>
    have hlis : Tracked (runDestroyListeners c client) l := by
      rw [runDestroyListeners_eq]
      exact h.congr rfl rfl le_rfl
    have hst : ∀ object ∈ order, Standing (runDestroyListeners c client) object := by
      intro object hm
      have hst := standing_of_owned (ho.mem_iff.mp hm)
      rw [runDestroyListeners_eq]
      cases object <;> exact hst
    obtain ⟨l', e', h'⟩ :=
      hlis.destroyObjects (ho.nodup_iff.mpr (nodup_ownedObjects h client)) hst
    exact ⟨l', e', h'.congr rfl rfl le_rfl⟩
  | registerOverlay client _ =>
    have hr := toRegistry_playosManagerRegisterOverlay c client
    refine ⟨l, rfl, h.congr (trees_step hs (by simp) (by simp) (by simp)) ?_ ?_⟩ <;>
      (rw [hr]; split <;> simp)
  | _ =>
    have hb := sameBindings_step hs (by simp) (by simp) (by simp)
    exact ⟨l, rfl, h.congr (trees_step hs (by simp) (by simp) (by simp)) hb.overlayResources
      hb.nextId⟩

/-- A run follows no NULL pointer and keeps the links in step with the lists. -/
theorem tracked_run {p q : Compositor × Option Tracking} {es : List (Event ⊕ OthersMove)}
    (hp : p.2 = some l) (h : Tracked p.1 l) (hb : p.1.WF ∧ Bound p.1)
    (hr : (trackingSystem there).run p es = some q) : ∃ l', q.2 = some l' ∧ Tracked q.1 l' := by
  induction es generalizing p l with
  | nil =>
    cases Option.some.inj hr
    exact ⟨l, hp, h⟩
  | cons e es ih =>
    obtain ⟨p₁, hs, hrest⟩ := (trackingSystem there).run_cons_some.mp hr
    cases e with
    | inl e =>
      obtain ⟨c₁, hstep, rfl⟩ := Option.map_eq_some_iff.mp hs
      obtain ⟨l₁, e₁, h₁⟩ := tracked_step h hb.2 hstep there
      have hnote : (p.2.bind fun l ↦ l.note there p.1 e) = some l₁ := by
        rw [hp, Option.bind_some, e₁]
      exact ih (p := (c₁, _)) hnote h₁ (compositorSystem_bound.step _ e _ hb hstep) hrest
    | inr move =>
      cases Option.some.inj hs
      obtain ⟨l₁, e₁, h₁⟩ := h.move move
      have hmove : (p.2.bind fun l ↦ l.move move) = some l₁ := by rw [hp, Option.bind_some, e₁]
      exact ih (p := (p.1, p.2.bind fun l ↦ l.move move)) hmove h₁ hb hrest

/-- The compositor and its links when the start has succeeded. -/
def startedTracking (config : StartConfig) : Compositor × Option Tracking :=
  (playosCompositorStarted config, some playosCompositorInitTracking)

/-- In every run, and whatever listeners others add and remove meanwhile,
`playos_compositor_reclassify_toplevels` walks the windows and `playos_overlay_resolve_resource`
the bindings in the order of the compositor's lists, a surface has its track's two listeners
among those of others while it is tracked and only those of others afterwards, and the links of a
window that is gone are cleared. -/
theorem tracking_walks {there : TreeId → SurfaceSignal → Nat} {config : StartConfig}
    {es : List (Event ⊕ OthersMove)} {q : Compositor × Option Tracking}
    (hr : (trackingSystem there).run (startedTracking config) es = some q) :
    ∃ l, q.2 = some l ∧
      l.links.walk .toplevels q.1.toplevels.length =
        some (q.1.toplevels.map fun track ↦ .link track.tree) ∧
      l.links.walk .overlayResources q.1.overlayResources.length =
        some (q.1.overlayResources.map fun bound ↦ .bound bound.resource) ∧
      (∀ tree ∈ q.1.trees, tree ∈ l.mapped) ∧
      (∀ tree ∈ l.mapped, ∀ s, l.links.walk (.signal s tree)
        ((l.others s tree).earlier.length + (l.others s tree).later.length + 1) =
        some ((l.others s tree).earlier.map (.other s tree) ++
          (if tree ∈ q.1.trees then [.listener s tree] else []) ++
          (l.others s tree).later.map (.other s tree))) ∧
      ∀ tree ∈ l.mapped, tree ∉ q.1.trees → l.links.next (.link tree) = none ∧
        ∀ s, l.links.next (.listener s tree) = none := by
  have hinit := compositorSystem_bound.base _ ⟨config, rfl⟩
  obtain ⟨l, hq, h⟩ := tracked_run rfl (tracked_started config) hinit hr
  have htop : q.1.toplevels.map (fun track ↦ TrackNode.link track.tree) = q.1.trees.map .link := by
    rw [Foreground.trees, List.map_map]
    rfl
  refine ⟨l, hq, ?_, ?_, h.mapped, ?_, fun tree hm hc ↦ ⟨h.cleared (.link tree) ⟨hm, hc⟩,
    fun s ↦ h.cleared (.listener s tree) ⟨hm, hc⟩⟩⟩
  · rw [htop]
    exact (h.rings.ring .toplevels _ rfl).walk_eq (by simp [Foreground.trees])
  · exact (h.rings.ring .overlayResources _ rfl).walk_eq (by simp)
  · intro tree hm s
    rw [List.append_assoc]
    refine (h.rings.ring (.signal s tree) (l.listeners q.1 s tree) (if_pos hm)).walk_eq ?_
    rw [Tracking.listeners]
    split <;> simp only [List.length_append, List.length_map, List.length_cons, List.length_nil] <;>
      omega

/-- Two clients bind the overlay and map windows, and the first one leaves; the scene helper's
listener leaves its surface before. -/
def trackedRun : List (Event ⊕ OthersMove) :=
  [.inl (.connect 0), .inl (.connect 1), .inl (.bindOverlay 0 true), .inl (.bindOverlay 1 true),
    .inl (.newToplevel 0 .ok), .inl (.newToplevel 1 .ok), .inr (.join .commit 3 2),
    .inr (.leave .commit 2 0), .inr (.leave .destroy 2 0),
    .inl (.disconnect 0 [.toplevel 2, .overlayBinding 0])]

/-- The theorem when a client has left, and the scene helper has one listener on every signal. -/
theorem tracking_walks_left :
    ∃ q ∈ (trackingSystem fun _ _ ↦ 1).run (startedTracking headlessStart) trackedRun,
      ∃ l ∈ q.2, l.links.walk .toplevels q.1.toplevels.length =
          some (q.1.toplevels.map fun track ↦ .link track.tree) ∧
        ∀ tree ∈ l.mapped, ∀ s, l.links.walk (.signal s tree)
          ((l.others s tree).earlier.length + (l.others s tree).later.length + 1) =
          some ((l.others s tree).earlier.map (.other s tree) ++
            (if tree ∈ q.1.trees then [.listener s tree] else []) ++
            (l.others s tree).later.map (.other s tree)) := by
  obtain ⟨q, hq⟩ := Option.isSome_iff_exists.mp (show ((trackingSystem fun _ _ ↦ 1).run
    (startedTracking headlessStart) trackedRun).isSome by decide)
  obtain ⟨l, hl, hw, -, -, hs, -⟩ := tracking_walks hq
  exact ⟨q, hq, l, hl, hw, hs⟩

end PlayosCompositor
