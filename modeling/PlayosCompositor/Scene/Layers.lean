import PlayosCompositor.Foreground.Invariant

/-!
# Scene layers and visibility

A foreground determines what the scene should look like: background rects at the bottom,
then the trees of windows that stand for no role, then the designated trees of shell, game
and overlay, each enabled as the foreground state says. `restackScene` and `refreshScene`
bring a scene into that shape.
-/

namespace PlayosCompositor

/-- The designated trees from bottom to top. -/
def Foreground.designatedTrees (f : Foreground) : List TreeId :=
  [TrustedRole.shell, .game, .overlay].filterMap f.designated

/-- The effect of `compositor_restack` on a scene. -/
def restackScene (f : Foreground) (s : Scene) : Scene :=
  { s with order := s.order.raiseAll (f.designatedTrees.map .tree) }

/-- The effect of `playos_state_refresh` on a scene. -/
def refreshScene (f : Foreground) (s : Scene) : Scene :=
  let s := setTreeEnabled s f.shellTree f.fgState.shellVisible
  let s := setTreeEnabled s f.gameTree f.fgState.gameVisible
  setTreeEnabled s f.overlayTree (f.fgState.overlayVisible f.overlayVisible)

/-- Whether the foreground shows what stands for a role. -/
def Foreground.shows (f : Foreground) : TrustedRole → Bool
  | .none => true
  | .shell => f.fgState.shellVisible
  | .game => f.fgState.gameVisible
  | .overlay => f.fgState.overlayVisible f.overlayVisible

/-- Every designated tree is enabled as the foreground says. -/
def Shown (f : Foreground) (s : Scene) : Prop :=
  ∀ role tree, f.designated role = some tree → s.enabled (.tree tree) = f.shows role

/-- Rects lie below all trees. -/
def Grounded (s : Scene) : Prop :=
  ∃ (rects : List Nat) (low : List TreeId), s.order.items = rects.map .rect ++ low.map .tree

/-- Rects lie below all trees, and the designated trees on top of the others. -/
def Layered (f : Foreground) (s : Scene) : Prop :=
  ∃ (rects : List Nat) (low : List TreeId),
    s.order.items = rects.map .rect ++ low.map .tree ++ f.designatedTrees.map .tree

/-- The scene holds exactly the trees of the tracked windows. -/
def Tracks (f : Foreground) (s : Scene) : Prop :=
  ∀ tree, .tree tree ∈ s.order.items ↔ tree ∈ f.trees

/-- The scene is what the foreground determines. -/
structure Composited (f : Foreground) (s : Scene) : Prop where
  tracks : Tracks f s
  layered : Layered f s
  shown : Shown f s

namespace Foreground

/-- A designated tree is the tree of a window with that role. -/
theorem WFExcept.designated_mem {f : Foreground} {outdated : ClientId → Prop}
    (h : f.WFExcept outdated) {role : TrustedRole} {tree : TreeId}
    (hd : f.designated role = some tree) :
    ∃ track ∈ f.toplevels, track.tree = tree ∧ track.role = role := by
  have hf : f.first role = some tree := by
    rcases h.designated role with hn | hf
    · exact nomatch hn.symm.trans hd
    · exact hf.symm.trans hd
  obtain ⟨track, hm, ht⟩ := Option.map_eq_some_iff.mp hf
  exact ⟨track, List.mem_of_find?_eq_some hm, ht, by simpa using List.find?_some hm⟩

/-- One tree stands for one role. -/
theorem WFExcept.designated_inj {f : Foreground} {outdated : ClientId → Prop}
    (h : f.WFExcept outdated) {role role' : TrustedRole} {tree : TreeId}
    (hd : f.designated role = some tree) (hd' : f.designated role' = some tree) :
    role = role' := by
  obtain ⟨track, hm, ht, rfl⟩ := h.designated_mem hd
  obtain ⟨track', hm', ht', rfl⟩ := h.designated_mem hd'
  rw [List.inj_on_of_nodup_map h.nodup hm hm' (ht.trans ht'.symm)]

/-- Nothing stands for windows without a role. -/
theorem ne_none_of_designated {f : Foreground} {role : TrustedRole} {tree : TreeId}
    (h : f.designated role = some tree) : role ≠ .none := by
  rintro rfl
  cases h

/-- The designated trees are those that stand for a role. -/
theorem mem_designatedTrees {f : Foreground} {tree : TreeId} :
    tree ∈ f.designatedTrees ↔ ∃ role, f.designated role = some tree := by
  unfold designatedTrees
  rw [List.mem_filterMap]
  constructor
  · exact fun ⟨role, _, h⟩ ↦ ⟨role, h⟩
  · rintro ⟨role, h⟩
    refine ⟨role, ?_, h⟩
    cases role
    case none => exact nomatch h
    all_goals decide

/-- The designated trees are tracked. -/
theorem WFExcept.designatedTrees_subset {f : Foreground} {outdated : ClientId → Prop}
    (h : f.WFExcept outdated) {tree : TreeId} (ht : tree ∈ f.designatedTrees) :
    tree ∈ f.trees := by
  obtain ⟨role, hd⟩ := mem_designatedTrees.mp ht
  obtain ⟨track, hm, rfl, -⟩ := h.designated_mem hd
  exact List.mem_map_of_mem hm

private theorem WFExcept.nodup_designatedTrees {f : Foreground} {outdated : ClientId → Prop}
    (h : f.WFExcept outdated) : f.designatedTrees.Nodup :=
  List.Nodup.filterMap (fun _ _ _ hd hd' ↦ h.designated_inj hd hd') (by decide)

end Foreground

/-! ### Bringing a scene into shape -/

@[simp] theorem order_setTreeEnabled (s : Scene) (tree : Option TreeId) (b : Bool) :
    (setTreeEnabled s tree b).order = s.order := by
  cases tree <;> rfl

@[simp] theorem order_refreshScene (f : Foreground) (s : Scene) :
    (refreshScene f s).order = s.order := by
  simp [refreshScene]

@[simp] theorem enabled_restackScene (f : Foreground) (s : Scene) :
    (restackScene f s).enabled = s.enabled := rfl

private theorem enabled_setTreeEnabled (s : Scene) (tree : Option TreeId) (b : Bool)
    (node : SceneNode) :
    (setTreeEnabled s tree b).enabled node =
      if tree.map SceneNode.tree = some node then b else s.enabled node := by
  cases tree with
  | none => rfl
  | some tree => simp [setTreeEnabled, Scene.setEnabled, eq_comm]

/-- A refresh shows what the foreground says, whatever was shown before. -/
theorem shown_refreshScene {f : Foreground} {outdated : ClientId → Prop} (h : f.WFExcept outdated)
    (s : Scene) : Shown f (refreshScene f s) := by
  intro role tree hd
  have hne : ∀ role', role' ≠ role → f.designated role' ≠ some tree := fun role' hr hd' ↦
    hr (h.designated_inj hd' hd)
  simp only [refreshScene, enabled_setTreeEnabled, Option.map_eq_some_iff, SceneNode.tree.injEq,
    exists_eq_right]
  cases role
  case none => cases hd
  case shell =>
    have hg : f.gameTree ≠ some tree := hne .game (by decide)
    have ho : f.overlayTree ≠ some tree := hne .overlay (by decide)
    have hs : f.shellTree = some tree := hd
    simp [hg, ho, hs, Foreground.shows]
  case game =>
    have ho : f.overlayTree ≠ some tree := hne .overlay (by decide)
    have hg : f.gameTree = some tree := hd
    simp [ho, hg, Foreground.shows]
  case overlay =>
    have ho : f.overlayTree = some tree := hd
    simp [ho, Foreground.shows]

/-- Restacking keeps the trees in the scene. -/
theorem Tracks.restackScene {f g : Foreground} {s : Scene} (h : Tracks f s) :
    Tracks f (restackScene g s) := by
  intro tree
  simp only [PlayosCompositor.restackScene, Stacking.mem_raiseAll]
  exact h tree

private theorem filter_grounded (rects : List Nat) (low trees : List TreeId) :
    (rects.map SceneNode.rect ++ low.map SceneNode.tree).filter
        (· ∉ trees.map SceneNode.tree) =
      rects.map .rect ++ (low.filter (· ∉ trees)).map .tree := by
  rw [List.filter_append, List.filter_map, List.filter_map]
  congr 2
  · rw [List.filter_eq_self]
    simp
  · apply List.filter_congr
    intro tree _
    have hm : SceneNode.tree tree ∈ trees.map SceneNode.tree ↔ tree ∈ trees :=
      List.mem_map_of_injective fun _ _ he ↦ SceneNode.tree.inj he
    simp only [Function.comp, hm]

/-- Restacking puts the designated trees on top. -/
theorem layered_restackScene {f : Foreground} {s : Scene} {outdated : ClientId → Prop}
    (h : f.WFExcept outdated) (ht : Tracks f s) (hg : Grounded s) :
    Layered f (restackScene f s) := by
  obtain ⟨rects, low, hi⟩ := hg
  refine ⟨rects, low.filter (· ∉ f.designatedTrees), ?_⟩
  unfold restackScene
  rw [Stacking.raiseAll_items, hi, filter_grounded]
  · intro node hn
    obtain ⟨tree, hm, rfl⟩ := List.mem_map.mp hn
    exact (ht tree).mpr (h.designatedTrees_subset hm)
  · exact h.nodup_designatedTrees.map fun _ _ he ↦ SceneNode.tree.inj he

/-- A layered scene is grounded. -/
theorem Layered.grounded {f : Foreground} {s : Scene} (h : Layered f s) : Grounded s := by
  obtain ⟨rects, low, hi⟩ := h
  refine ⟨rects, low ++ f.designatedTrees, ?_⟩
  rw [hi, List.map_append, List.append_assoc]

/-- A new tree lies above all rects. -/
theorem Grounded.add {s : Scene} (h : Grounded s) {tree : TreeId}
    (ht : .tree tree ∉ s.order.items) : Grounded (s.add (.tree tree)) := by
  obtain ⟨rects, low, hi⟩ := h
  refine ⟨rects, low ++ [tree], ?_⟩
  change (s.order.push _).items = _
  rw [Stacking.push_items_of_not_mem ht, hi, List.map_append, List.append_assoc]
  rfl

/-- A destroyed tree leaves the others where they are. -/
theorem Grounded.destroy {s : Scene} (h : Grounded s) (tree : TreeId) :
    Grounded (s.destroy (.tree tree)) := by
  obtain ⟨rects, low, hi⟩ := h
  refine ⟨rects, low.filter (· ∉ [tree]), ?_⟩
  rw [← filter_grounded, ← hi]
  simp [Scene.destroy, Stacking.remove]

/-- Visibility is a matter of the pointers, the state and the overlay flag. -/
theorem Shown.of_le {f g : Foreground} {s : Scene} (h : Shown f s)
    (hd : ∀ role tree, g.designated role = some tree → f.designated role = some tree)
    (hs : g.fgState = f.fgState) (ho : g.overlayVisible = f.overlayVisible) : Shown g s := by
  intro role tree ht
  rw [h role tree (hd role tree ht)]
  cases role <;> simp [Foreground.shows, hs, ho]

/-- The game's tree lies above every window that does not stand over it as an overlay. -/
theorem Composited.below_game {f : Foreground} {s : Scene} (h : Composited f s) (hw : f.WF)
    {tree : TreeId} (hg : f.gameTree = some tree) {track : ToplevelTrack}
    (ht : track ∈ f.toplevels) (hr : track.role ≠ .overlay) (hne : track.tree ≠ tree) :
    s.order.Below (.tree track.tree) (.tree tree) := by
  obtain ⟨rects, low, hi⟩ := h.layered
  have hm : .tree track.tree ∈ s.order.items := (h.tracks _).mpr (List.mem_map_of_mem ht)
  have hgm : tree ∈ f.designatedTrees :=
    Foreground.mem_designatedTrees.mpr ⟨.game, hg⟩
  rw [hi, List.mem_append] at hm
  rcases hm with hm | hm
  · exact Stacking.below_of_append hi hm (List.mem_map_of_mem hgm)
  · -- the other window is designated too, and can only stand for the shell
    obtain ⟨other, ho, he⟩ := List.mem_map.mp hm
    cases he
    obtain ⟨role, hd⟩ := Foreground.mem_designatedTrees.mp ho
    obtain ⟨track', ht', htree, hrole⟩ := hw.designated_mem hd
    have heq : track' = track := List.inj_on_of_nodup_map hw.nodup ht' ht htree
    subst heq
    have hs : f.shellTree = some track'.tree := by
      cases role
      case none => cases hd
      case shell => exact hd
      case overlay => exact absurd hrole hr
      case game => exact absurd (Option.some.inj (hd.symm.trans hg)) hne
    apply Stacking.below_of_sublist hi
    simp [Foreground.designatedTrees, Foreground.designated, hs, hg]

/-! ### What a classification makes of a scene -/

/-- Restack and refresh, as a classification does. -/
def presentScene (f : Foreground) (s : Scene) : Scene := refreshScene f (restackScene f s)

/-- Nothing enters or leaves a scene that is presented. -/
theorem mem_presentScene {f : Foreground} {s : Scene} {node : SceneNode} :
    node ∈ (presentScene f s).order.items ↔ node ∈ s.order.items := by
  rw [presentScene, order_refreshScene]
  exact Stacking.mem_raiseAll

/-- The scenes differ at most in where these trees are and whether they are enabled. -/
structure AgreeOutside (trees : List TreeId) (s t : Scene) : Prop where
  order : s.order.items.filter (· ∉ trees.map SceneNode.tree) =
    t.order.items.filter (· ∉ trees.map SceneNode.tree)
  enabled : ∀ node, node ∉ trees.map SceneNode.tree → s.enabled node = t.enabled node

namespace AgreeOutside

variable {trees : List TreeId} {s t u : Scene}

/-- Agreement composes. -/
theorem trans (h : AgreeOutside trees s t) (h' : AgreeOutside trees t u) :
    AgreeOutside trees s u :=
  ⟨h.order.trans h'.order, fun node hn ↦ (h.enabled node hn).trans (h'.enabled node hn)⟩

/-- Agreement is symmetric. -/
theorem symm (h : AgreeOutside trees s t) : AgreeOutside trees t s :=
  ⟨h.order.symm, fun node hn ↦ (h.enabled node hn).symm⟩

/-- A new tree among them makes no difference. -/
theorem add {tree : TreeId} (ht : tree ∈ trees) (hn : .tree tree ∉ s.order.items) :
    AgreeOutside trees (s.add (.tree tree)) s where
  order := by
    have hm : SceneNode.tree tree ∈ trees.map SceneNode.tree := List.mem_map_of_mem ht
    change (s.order.push _).items.filter _ = _
    rw [Stacking.push_items_of_not_mem hn, List.filter_append, List.filter_singleton]
    simp [hm]
  enabled node hnode := by
    have hne : node ≠ .tree tree := fun he ↦ hnode (he ▸ List.mem_map_of_mem ht)
    exact if_neg hne

end AgreeOutside

/-- A flag that stands for no role is left alone. -/
theorem enabled_refreshScene_of_not_mem {f : Foreground} {s : Scene} {node : SceneNode}
    (h : node ∉ f.designatedTrees.map SceneNode.tree) :
    (refreshScene f s).enabled node = s.enabled node := by
  have hne : ∀ role, (f.designated role).map SceneNode.tree ≠ some node := by
    intro role he
    obtain ⟨tree, hd, rfl⟩ := Option.map_eq_some_iff.mp he
    exact h (List.mem_map_of_mem (Foreground.mem_designatedTrees.mpr ⟨role, hd⟩))
  have hs : f.shellTree.map SceneNode.tree ≠ some node := hne .shell
  have hg : f.gameTree.map SceneNode.tree ≠ some node := hne .game
  have ho : f.overlayTree.map SceneNode.tree ≠ some node := hne .overlay
  simp only [refreshScene, enabled_setTreeEnabled, hs, hg, ho, ↓reduceIte]

private theorem raised_items {f : Foreground} {s : Scene} {outdated : ClientId → Prop}
    (hw : f.WFExcept outdated) (hm : ∀ tree ∈ f.designatedTrees, .tree tree ∈ s.order.items) :
    (presentScene f s).order.items =
      s.order.items.filter (· ∉ f.designatedTrees.map SceneNode.tree) ++
        f.designatedTrees.map .tree := by
  have hn : (f.designatedTrees.map SceneNode.tree).Nodup :=
    hw.nodup_designatedTrees.map fun _ _ he ↦ SceneNode.tree.inj he
  have hsub : ∀ node ∈ f.designatedTrees.map SceneNode.tree, node ∈ s.order.items := by
    intro node hnode
    obtain ⟨tree, ht, rfl⟩ := List.mem_map.mp hnode
    exact hm tree ht
  rw [presentScene, order_refreshScene]
  exact Stacking.raiseAll_items hsub hn

/-- Presenting a foreground makes no difference outside trees that contain its own. -/
theorem agreeOutside_presentScene {f : Foreground} {s : Scene} {outdated : ClientId → Prop}
    (hw : f.WFExcept outdated) (hm : ∀ tree ∈ f.designatedTrees, .tree tree ∈ s.order.items)
    {trees : List TreeId} (ht : f.designatedTrees ⊆ trees) :
    AgreeOutside trees (presentScene f s) s where
  order := by
    have hsub : f.designatedTrees.map SceneNode.tree ⊆ trees.map .tree := List.map_subset _ ht
    have hnone : (f.designatedTrees.map SceneNode.tree).filter
        (· ∉ trees.map SceneNode.tree) = [] := by
      rw [List.filter_eq_nil_iff]
      exact fun node hn ↦ by simpa using List.mem_map.mp (hsub hn)
    rw [raised_items hw hm, List.filter_append, List.filter_filter, hnone, List.append_nil]
    apply List.filter_congr
    intro node _
    by_cases hn : node ∈ trees.map SceneNode.tree
    · simp [hn]
    · have hn' : node ∉ f.designatedTrees.map SceneNode.tree := fun hd ↦ hn (hsub hd)
      simp only [hn, hn', not_false_eq_true, decide_true, Bool.and_self]
  enabled node hn := by
    have hn' : node ∉ f.designatedTrees.map SceneNode.tree :=
      fun hm ↦ hn (List.map_subset _ ht hm)
    exact enabled_refreshScene_of_not_mem hn'

/-- Scenes that agree outside the designated trees are presented alike. -/
theorem presentScene_eq {f : Foreground} {s t : Scene} {outdated : ClientId → Prop}
    (hw : f.WFExcept outdated) (h : AgreeOutside f.designatedTrees s t)
    (hs : ∀ tree ∈ f.designatedTrees, .tree tree ∈ s.order.items)
    (ht : ∀ tree ∈ f.designatedTrees, .tree tree ∈ t.order.items) :
    presentScene f s = presentScene f t := by
  apply Scene.ext
  · apply Stacking.ext
    rw [raised_items hw hs, raised_items hw ht, h.order]
  · funext node
    by_cases hn : node ∈ f.designatedTrees.map SceneNode.tree
    · obtain ⟨tree, hm, rfl⟩ := List.mem_map.mp hn
      obtain ⟨role, hd⟩ := Foreground.mem_designatedTrees.mp hm
      rw [presentScene, presentScene, shown_refreshScene hw _ role tree hd,
        shown_refreshScene hw _ role tree hd]
    · rw [presentScene, presentScene, enabled_refreshScene_of_not_mem hn,
        enabled_refreshScene_of_not_mem hn]
      exact h.enabled node hn

end PlayosCompositor
