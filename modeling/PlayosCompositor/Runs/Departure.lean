import PlayosCompositor.Outputs.Settings
import PlayosCompositor.Runs.Gating
import PlayosCompositor.Runs.Reports

/-!
# A client that leaves

`wl_client_destroy` destroys a client's objects in an order of its own. Whatever that order is,
the same windows, roles and bindings are left, the same messages and events are sent, and what
is left of the scene looks the same: `lose` says what remains of a foreground, from which the
scene, the messages and the events follow.
-/

namespace PlayosCompositor

namespace Foreground

/-- The foreground without these trees: their windows and the pointers to them are gone. -/
def without (f : Foreground) (trees : List TreeId) : Foreground :=
  { f with
    shellTree := f.shellTree.filter (· ∉ trees)
    gameTree := f.gameTree.filter (· ∉ trees)
    overlayTree := f.overlayTree.filter (· ∉ trees)
    toplevels := f.toplevels.filter fun track ↦ track.tree ∉ trees }

/-- Some window of a game is among these trees. -/
def LosesGame (f : Foreground) (trees : List TreeId) : Prop :=
  ∃ track ∈ f.toplevels, track.tree ∈ trees ∧ track.role = .game

instance (f : Foreground) (trees : List TreeId) : Decidable (f.LosesGame trees) :=
  inferInstanceAs (Decidable (∃ track ∈ f.toplevels, track.tree ∈ trees ∧ track.role = .game))

/-- What is left when these trees are gone: the game is over if a window of it was among them. -/
def lose (f : Foreground) (trees : List TreeId) : Foreground :=
  if f.LosesGame trees then (f.without trees).exited else f.without trees

variable {f : Foreground} {outdated : ClientId → Prop} {tree : TreeId} {trees : List TreeId}

/-- Nothing is lost with no tree. -/
@[simp] theorem lose_nil (f : Foreground) : f.lose [] = f := by
  have hf : ∀ pointer : Option TreeId, pointer.filter (fun _ ↦ true) = pointer := by
    intro pointer
    cases pointer <;> rfl
  simp [lose, LosesGame, without, hf]

private theorem without_exited (f : Foreground) (trees : List TreeId) :
    f.exited.without trees = (f.without trees).exited := by
  unfold exited goto
  by_cases h : f.fgState = .shellForeground <;> simp [without, forget, h]

private theorem exited_exited (f : Foreground) : f.exited.exited = f.exited := by
  unfold exited goto
  by_cases h : f.fgState = .shellForeground <;> simp [forget, h]

private theorem without_without (f : Foreground) (first second : List TreeId) :
    (f.without first).without second = f.without (first ++ second) := by
  simp [without, Option.filter_filter, List.filter_filter, Bool.and_comm, not_or]

private theorem losesGame_append (f : Foreground) (first second : List TreeId) :
    f.LosesGame (first ++ second) ↔ f.LosesGame first ∨ (f.without first).LosesGame second := by
  unfold LosesGame without
  constructor
  · rintro ⟨track, ht, hm, hr⟩
    by_cases hf : track.tree ∈ first
    · exact Or.inl ⟨track, ht, hf, hr⟩
    · exact Or.inr ⟨track, List.mem_filter.mpr ⟨ht, by simpa using hf⟩,
        (List.mem_append.mp hm).resolve_left hf, hr⟩
  · rintro (⟨track, ht, hm, hr⟩ | ⟨track, ht, hm, hr⟩)
    · exact ⟨track, ht, List.mem_append_left _ hm, hr⟩
    · exact ⟨track, List.mem_of_mem_filter ht, List.mem_append_right _ hm, hr⟩

private theorem lose_lose (f : Foreground) (first second : List TreeId) :
    (f.lose first).lose second = f.lose (first ++ second) := by
  unfold lose
  by_cases h₁ : f.LosesGame first
  · rw [if_pos h₁, if_pos ((losesGame_append f first second).mpr (Or.inl h₁)), without_exited,
      exited_exited, without_without, ite_self]
  · rw [if_neg h₁, without_without]
    simp only [losesGame_append, h₁, false_or]

/-- A pointer that can only be cleared is cleared exactly if it names the tree. -/
private theorem clear_eq_filter {pointer : Option TreeId} {clears : Prop} [Decidable clears]
    (h : pointer = some tree → clears) :
    (if clears ∧ pointer = some tree then none else pointer) = pointer.filter (· ∉ [tree]) := by
  cases pointer with
  | none => simp
  | some other =>
    by_cases he : other = tree
    · subst he
      simp [h rfl, Option.filter]
    · simp [he, Option.filter]

private theorem release_eq_without (h : f.WFExcept outdated) {track : ToplevelTrack}
    (ht : track ∈ f.toplevels) : f.release track = f.without [track.tree] := by
  have hrole : ∀ role, f.designated role = some track.tree → track.role = role := by
    intro role hd
    obtain ⟨other, ho, he, hr⟩ := h.designated_mem hd
    rw [← hr, List.inj_on_of_nodup_map h.nodup ho ht he]
  have hs : f.shellTree = some track.tree → track.role = .shell := hrole .shell
  have hg : f.gameTree = some track.tree → track.role = .game := hrole .game
  have ho : f.overlayTree = some track.tree → track.role = .overlay := hrole .overlay
  unfold release without
  rw [clear_eq_filter hs, clear_eq_filter hg, clear_eq_filter ho]
  simp

private theorem lose_of_not_mem (h : f.WFExcept outdated) (ht : tree ∉ f.trees) :
    f.lose [tree] = f := by
  have hgame : ¬ f.LosesGame [tree] := by
    rintro ⟨track, hm, he, -⟩
    exact ht (List.mem_singleton.mp he ▸ List.mem_map_of_mem hm)
  have hpointer : ∀ role, (f.designated role).filter (· ∉ [tree]) = f.designated role := by
    intro role
    cases hd : f.designated role with
    | none => rfl
    | some other =>
      have hne : other ≠ tree := fun he ↦
        ht (he ▸ h.designatedTrees_subset (mem_designatedTrees.mpr ⟨role, hd⟩))
      simp [Option.filter, hne]
  have htop : f.toplevels.filter (fun track ↦ track.tree ∉ [tree]) = f.toplevels := by
    rw [List.filter_eq_self]
    intro track hm
    have hne : track.tree ≠ tree := fun he ↦ ht (he ▸ List.mem_map_of_mem hm)
    simpa using hne
  have hs : f.shellTree.filter (· ∉ [tree]) = f.shellTree := hpointer .shell
  have hg : f.gameTree.filter (· ∉ [tree]) = f.gameTree := hpointer .game
  have ho : f.overlayTree.filter (· ∉ [tree]) = f.overlayTree := hpointer .overlay
  rw [lose, if_neg hgame, without, htop, hs, hg, ho]

private theorem unmap_eq_lose (h : f.WFExcept outdated) (tree : TreeId) :
    f.unmap tree = f.lose [tree] := by
  unfold unmap
  split
  · next hn => exact (lose_of_not_mem h (track?_eq_none.mp hn)).symm
  · next track ht =>
    obtain ⟨hm, rfl⟩ := track?_some ht
    have hgame : f.LosesGame [track.tree] ↔ track.role = .game := by
      constructor
      · rintro ⟨other, ho, he, hr⟩
        rw [← hr, List.inj_on_of_nodup_map h.nodup hm ho (List.mem_singleton.mp he).symm]
      · exact fun hr ↦ ⟨track, hm, List.mem_singleton_self _, hr⟩
    simp only [lose, hgame, release_eq_without h hm]

private theorem foldl_unmap_eq_lose (h : f.WFExcept outdated) (order : List TreeId) :
    order.foldl unmap f = f.lose order := by
  induction order generalizing f with
  | nil => exact (lose_nil f).symm
  | cons tree order ih =>
    rw [List.foldl_cons, ih (wfExcept_unmap h tree), unmap_eq_lose h, lose_lose]
    rfl

private theorem lose_congr (f : Foreground) {order order' : List TreeId}
    (h : ∀ tree, tree ∈ order ↔ tree ∈ order') : f.lose order = f.lose order' := by
  have hgame : f.LosesGame order ↔ f.LosesGame order' := by
    simp only [LosesGame, h]
  have hrest : f.without order = f.without order' := by
    simp only [without, h]
  simp only [lose, hgame, hrest]

end Foreground

open Foreground

variable {c : Compositor} {outdated : ClientId → Prop}

/-! ### The scene -/

private theorem order_restackScene_of_top {f : Foreground} {s : Scene} {low : List SceneNode}
    (h : s.order.items = low ++ f.designatedTrees.map .tree) :
    (restackScene f s).order = s.order := by
  have hn := s.order.nodup
  rw [h, List.nodup_append] at hn
  obtain ⟨-, htop, hapart⟩ := hn
  apply Stacking.ext
  rw [restackScene, Stacking.raiseAll_items _ htop, h, List.filter_append,
    List.filter_eq_self.mpr, List.filter_eq_nil_iff.mpr, List.append_nil]
  · simp
  · exact fun node hm ↦ by simpa using fun ht ↦ hapart node hm node ht rfl
  · intro node hm
    rw [h]
    exact List.mem_append_right _ hm

private theorem designatedTrees_without (f : Foreground) (trees : List TreeId) :
    (f.without trees).designatedTrees = f.designatedTrees.filter (· ∉ trees) := by
  rw [designatedTrees, designatedTrees, List.filter_filterMap]
  congr 1
  funext role
  cases role <;> rfl

private theorem order_handleToplevelDestroy (hf : c.WFExcept outdated)
    (h : Composited c.toForeground c.scene) {track : ToplevelTrack} (ht : track ∈ c.toplevels) :
    (handleToplevelDestroy c track).scene.order = c.scene.order.remove (.tree track.tree) := by
  obtain ⟨u, v, hu, hs, hr, hw, hd⟩ := handleToplevelDestroy_restacks c track
  obtain ⟨rects, low, hi⟩ := h.layered
  have hv : v.designatedTrees = c.designatedTrees.filter (· ∉ [track.tree]) := by
    rw [← designatedTrees_without, ← release_eq_without hf ht, ← hu]
    simp [designatedTrees, List.filterMap_cons, designated, hw.shellTree, hw.gameTree,
      hw.overlayTree]
  have ho : v.scene.order = c.scene.order.remove (.tree track.tree) := by
    rw [hr.order, hs]
    rfl
  have htop : v.scene.order.items =
      (rects.map SceneNode.rect ++ low.map SceneNode.tree).filter (· ≠ .tree track.tree) ++
        v.designatedTrees.map SceneNode.tree := by
    have htrees : (c.designatedTrees.map SceneNode.tree).filter (· ≠ .tree track.tree) =
        v.designatedTrees.map .tree := by
      rw [hv, List.filter_map]
      congr 1
      apply List.filter_congr
      simp
    rw [ho, ← htrees, ← List.filter_append, ← hi]
    rfl
  rw [hd, scene_compositorRestack, order_restackScene_of_top htop, ho]

private theorem items_foldl_destroyObject (hf : c.WFExcept outdated)
    (h : Composited c.toForeground c.scene) (order : List ClientObject) :
    (order.foldl destroyObject c).scene.order.items =
      c.scene.order.items.filter (· ∉ (treesOf order).map SceneNode.tree) := by
  induction order generalizing c with
  | nil => simp [treesOf]
  | cons object order ih =>
    have hobject : (destroyObject c object).scene.order.items =
        c.scene.order.items.filter (· ∉ (treesOf [object]).map SceneNode.tree) := by
      cases object with
      | toplevel tree =>
        simp only [destroyObject]
        split
        · next hn =>
          symm
          rw [List.filter_eq_self]
          intro node hm
          have hne : node ≠ .tree tree := by
            rintro rfl
            exact track?_eq_none.mp hn ((h.tracks tree).mp hm)
          simpa [treesOf] using hne
        · next track ht =>
          obtain ⟨hm, rfl⟩ := track?_some ht
          rw [order_handleToplevelDestroy hf h hm]
          simp [Stacking.remove, treesOf]
      | overlayBinding resource =>
        simp only [destroyObject, playosOverlayResourceDestroy]
        split <;> simp [treesOf]
    have hf' : (destroyObject c object).WFExcept outdated := by
      rw [toForeground_destroyObject]
      cases object with
      | toplevel tree => exact wfExcept_unmap hf tree
      | overlayBinding resource => exact hf
    have happ : treesOf (object :: order) = treesOf [object] ++ treesOf order := by
      rw [← List.singleton_append, treesOf, List.filterMap_append]
      rfl
    rw [List.foldl_cons, ih hf' (composited_destroyObject hf h object), hobject,
      List.filter_filter, happ]
    apply List.filter_congr
    intro node _
    simp [List.map_append, Bool.and_comm, not_or]

private theorem enabled_rect_foldl_destroyObject (c : Compositor) (order : List ClientObject)
    (id : Nat) :
    (order.foldl destroyObject c).scene.enabled (.rect id) = c.scene.enabled (.rect id) := by
  induction order generalizing c with
  | nil => rfl
  | cons object order ih =>
    rw [List.foldl_cons, ih]
    cases object with
    | toplevel tree =>
      simp only [destroyObject]
      split
      · rfl
      · next track ht =>
        obtain ⟨u, v, -, hs, hr, -, hd⟩ := handleToplevelDestroy_restacks c track
        have hv : v.scene.enabled (.rect id) = u.scene.enabled (.rect id) := by
          rcases hr with hr | ⟨hr, -, -⟩ <;> rw [hr]
          exact enabled_refreshScene_of_not_mem (by simp)
        rw [hd, scene_compositorRestack, enabled_restackScene, hv, hs]
        rfl
    | overlayBinding resource =>
      simp only [destroyObject, playosOverlayResourceDestroy]
      split <;> rfl

/-! ### Events for the overlay -/

/-- What the overlay is told when it is hidden. -/
def hideEvents (c c' : Compositor) : List WireEvent :=
  if c.overlayVisible ∧ ¬ c'.overlayVisible then
    c.overlayResource.toList.map (.overlay · .aboutToHide)
  else []

private theorem hideEvents_of_eq {c c' : Compositor} (h : c'.overlayVisible = c.overlayVisible) :
    hideEvents c c' = [] := by
  simp [hideEvents, h]

private theorem hideEvents_append {c d e : Compositor} (hr : d.overlayResource = c.overlayResource)
    (hd : d.overlayVisible = true → c.overlayVisible = true)
    (he : e.overlayVisible = true → d.overlayVisible = true) :
    hideEvents c d ++ hideEvents d e = hideEvents c e := by
  unfold hideEvents
  rw [hr]
  cases hc : c.overlayVisible <;> cases hv : d.overlayVisible <;> cases hw : e.overlayVisible <;>
    simp_all

private theorem hides_playosStateTransition (c : Compositor) (state : ForegroundState) :
    (playosStateTransition c state).wire =
      c.wire ++ hideEvents c (playosStateTransition c state) := by
  rw [hideEvents, toForeground_playosStateTransition]
  unfold playosStateTransition goto
  by_cases h : c.fgState = state
  · simp [h]
  · cases hv : c.overlayVisible <;> cases state <;> cases hr : c.overlayResource <;>
      simp [h, hv, hr, playosOverlaySendAboutToHide, sendOverlayEvent, playosCompositorIpcSend,
        playosStateRefresh]

private theorem hides_playosStateGameExited (c : Compositor) (crashed : Bool) :
    (playosStateGameExited c crashed).wire =
      c.wire ++ hideEvents c (playosStateGameExited c crashed) := by
  unfold playosStateGameExited
  dsimp only
  split
  · exact hides_playosStateTransition c .shellForeground
  · simp [hideEvents, forgetExpected]

private theorem hides_handleToplevelDestroy (c : Compositor) (track : ToplevelTrack) :
    (handleToplevelDestroy c track).wire =
      c.wire ++ hideEvents c (handleToplevelDestroy c track) := by
  by_cases hg : track.role = .game
  · have hu : ∀ d : Compositor, (untrackToplevel d track).wire = d.wire ∧
        (untrackToplevel d track).overlayResource = d.overlayResource ∧
        (untrackToplevel d track).overlayVisible = d.overlayVisible := by
      intro d
      unfold untrackToplevel
      dsimp only
      repeat' split
      all_goals exact ⟨rfl, rfl, rfl⟩
    obtain ⟨hw, hr, hv⟩ := hu { c with scene := c.scene.destroy (.tree track.tree) }
    have he := hides_playosStateGameExited
      (untrackToplevel { c with scene := c.scene.destroy (.tree track.tree) } track) false
    rw [hideEvents, hw, hr, hv] at he
    unfold handleToplevelDestroy
    dsimp only
    rw [if_pos hg]
    exact he
  · have hf := toForeground_handleToplevelDestroy c track
    rw [if_neg hg] at hf
    rw [(silent_handleToplevelDestroy c hg).wire, hideEvents_of_eq, List.append_nil]
    rw [hf]
    rfl

private theorem overlayVisible_destroyObject {c : Compositor} (h : c.overlayVisible = false)
    (object : ClientObject) : (destroyObject c object).overlayVisible = false := by
  rw [toForeground_destroyObject]
  cases object with
  | toplevel tree =>
    unfold unmap exited goto
    repeat' split
    all_goals first | exact h | simp [forget, release, h]
  | overlayBinding resource => exact h

private theorem overlayVisible_foldl_destroyObject {c : Compositor} (h : c.overlayVisible = false)
    (order : List ClientObject) : (order.foldl destroyObject c).overlayVisible = false := by
  induction order generalizing c with
  | nil => exact h
  | cons object order ih => exact ih (overlayVisible_destroyObject h object)

private theorem hides_destroyObject (c : Compositor) (object : ClientObject) :
    (destroyObject c object).wire = c.wire ++ hideEvents c (destroyObject c object) := by
  cases object with
  | toplevel tree =>
    simp only [destroyObject]
    split
    · simp [hideEvents]
    · exact hides_handleToplevelDestroy c _
  | overlayBinding resource =>
    have hf : (destroyObject c (.overlayBinding resource)).overlayVisible = c.overlayVisible := by
      rw [toForeground_destroyObject]
    rw [hideEvents_of_eq hf, List.append_nil]
    exact (silent_playosOverlayResourceDestroy c resource).wire

/-- While the target is not among them, destroyed objects tell the overlay exactly if they hide
it, and once at most. -/
theorem hides_foldl_destroyObject {order : List ClientObject}
    (h : ∀ resource ∈ resourcesOf order, c.overlayResource ≠ some resource) :
    (order.foldl destroyObject c).wire =
      c.wire ++ hideEvents c (order.foldl destroyObject c) := by
  induction order generalizing c with
  | nil => simp [hideEvents]
  | cons object order ih =>
    have hkeep : (destroyObject c object).overlayResource = c.overlayResource := by
      cases object with
      | toplevel tree => rw [toRegistry_destroyObject_toplevel]
      | overlayBinding resource =>
        simp only [destroyObject, playosOverlayResourceDestroy]
        rw [if_neg (h resource List.mem_cons_self)]
    have hrest : ∀ resource ∈ resourcesOf order,
        (destroyObject c object).overlayResource ≠ some resource := by
      intro resource hm
      rw [hkeep]
      cases object with
      | toplevel tree => exact h resource hm
      | overlayBinding r => exact h resource (List.mem_cons_of_mem _ hm)
    have hon : (order.foldl destroyObject (destroyObject c object)).overlayVisible = true →
        (destroyObject c object).overlayVisible = true := by
      intro hv
      by_contra hd
      rw [overlayVisible_foldl_destroyObject (by simpa using hd) order] at hv
      cases hv
    rw [List.foldl_cons, ih hrest, hides_destroyObject, List.append_assoc,
      hideEvents_append hkeep (fun hv ↦ ?_) hon]
    by_contra hc
    rw [overlayVisible_destroyObject (by simpa using hc) object] at hv
    cases hv

/-! ### Everything else -/

/-- Settings, connection and commit counters are as they were. -/
structure SameService (c c' : Compositor) : Prop where
  settings : c'.settings = c.settings
  ipc : c'.ipc = c.ipc
  fpsCommitsShell : c'.fpsCommitsShell = c.fpsCommitsShell
  fpsCommitsGame : c'.fpsCommitsGame = c.fpsCommitsGame

namespace SameService

private theorem refl (c : Compositor) : SameService c c := ⟨rfl, rfl, rfl, rfl⟩

private theorem trans {c d e : Compositor} (h : SameService c d) (h' : SameService d e) :
    SameService c e where
  settings := h'.settings.trans h.settings
  ipc := h'.ipc.trans h.ipc
  fpsCommitsShell := h'.fpsCommitsShell.trans h.fpsCommitsShell
  fpsCommitsGame := h'.fpsCommitsGame.trans h.fpsCommitsGame

/-- A transition concerns none of them. -/
theorem of_playosStateTransition (c : Compositor) (state : ForegroundState) :
    SameService c (playosStateTransition c state) := by
  unfold playosStateTransition playosOverlaySendAboutToHide sendOverlayEvent
  repeat' split
  all_goals exact ⟨rfl, rfl, rfl, rfl⟩

/-- A destroyed toplevel concerns none of them. -/
theorem of_handleToplevelDestroy (c : Compositor) (track : ToplevelTrack) :
    SameService c (handleToplevelDestroy c track) := by
  have hu : ∀ d : Compositor, SameService d (untrackToplevel d track) := by
    intro d
    unfold untrackToplevel
    dsimp only
    repeat' split
    all_goals exact ⟨rfl, rfl, rfl, rfl⟩
  have hx : ∀ d : Compositor, SameService d (playosStateGameExited d false) := by
    intro d
    unfold playosStateGameExited
    dsimp only
    split
    · exact (of_playosStateTransition d _).trans ⟨rfl, rfl, rfl, rfl⟩
    · exact ⟨rfl, rfl, rfl, rfl⟩
  have hs : SameService c { c with scene := c.scene.destroy (.tree track.tree) } :=
    ⟨rfl, rfl, rfl, rfl⟩
  unfold handleToplevelDestroy
  dsimp only
  split
  · exact ((hs.trans (hu _)).trans (hx _)).trans ⟨rfl, rfl, rfl, rfl⟩
  · exact (hs.trans (hu _)).trans ⟨rfl, rfl, rfl, rfl⟩

/-- Destroyed objects concern none of them. -/
theorem of_foldl_destroyObject (c : Compositor) (order : List ClientObject) :
    SameService c (order.foldl destroyObject c) := by
  refine List.foldlRecOn order destroyObject (.refl c) fun d hd object _ ↦ hd.trans ?_
  cases object with
  | toplevel tree =>
    simp only [destroyObject]
    split
    · exact .refl d
    · exact of_handleToplevelDestroy d _
  | overlayBinding resource =>
    simp only [destroyObject, playosOverlayResourceDestroy]
    split <;> exact ⟨rfl, rfl, rfl, rfl⟩

end SameService

/-! ### The outcome -/

section Outcome

variable {client : ClientId} {order : List ClientObject}

/-- What remains of the foreground when a client has left: its roles are free and its windows
lost. -/
theorem toForeground_departure (hw : c.WF) (ho : order.Perm (ownedObjects c client)) :
    (wlClientDestroy c client order).toForeground =
      (c.resign client).lose (treesOf (ownedObjects c client)) := by
  rw [hw.linked.toForeground_wlClientDestroy, leave,
    foldl_unmap_eq_lose (wfExcept_resign hw.foreground client)]
  apply lose_congr
  intro tree
  rw [mem_treesOf, mem_treesOf, ho.mem_iff]

private theorem items_departure (h : c.Composed) (ho : order.Perm (ownedObjects c client)) :
    (wlClientDestroy c client order).scene.order.items =
      c.scene.order.items.filter (· ∉ (treesOf (ownedObjects c client)).map SceneNode.tree) := by
  have hr := h.wf.linked.toForeground_runDestroyListeners client
  have hs : (runDestroyListeners c client).scene = c.scene := by rw [runDestroyListeners_eq]
  have hf : (runDestroyListeners c client).WFExcept (· = client) := by
    rw [hr]
    exact wfExcept_resign h.wf.foreground client
  have hc : Composited (runDestroyListeners c client).toForeground
      (runDestroyListeners c client).scene := by
    rw [hr, hs]
    exact ⟨h.composited.tracks, h.composited.layered, h.composited.shown⟩
  change (order.foldl destroyObject (runDestroyListeners c client)).scene.order.items = _
  have hmem : ∀ node, node ∈ (treesOf order).map SceneNode.tree ↔
      node ∈ (treesOf (ownedObjects c client)).map SceneNode.tree := by
    intro node
    simp only [List.mem_map, mem_treesOf, ho.mem_iff]
  rw [items_foldl_destroyObject hf hc, hs]
  apply List.filter_congr
  intro node _
  exact decide_eq_decide.mpr (not_congr (hmem node))

private theorem not_losesGame_of_trusted (hw : c.WF) (ht : c.Trusted client) :
    ¬ (c.resign client).LosesGame (treesOf (ownedObjects c client)) := by
  rintro ⟨track, hm, htree, hg⟩
  obtain ⟨owned, ho, hco, he⟩ := toplevel_mem_ownedObjects.mp (mem_treesOf.mp htree)
  have heq := List.inj_on_of_nodup_map hw.foreground.nodup ho hm he
  have hs := (hw.foreground.settled track hm).resolve_left id
  exact hs.not_trusted hg (by rw [← heq, hco]; exact ht)

private theorem wire_departure (hw : c.WF) (hb : Bound c)
    (ho : order.Perm (ownedObjects c client)) :
    (wlClientDestroy c client order).wire =
      c.wire ++ hideEvents c (wlClientDestroy c client order) := by
  have hr := hw.linked.toRegistry_runDestroyListeners client
  have hf := hw.linked.toForeground_runDestroyListeners client
  have hlisten : (runDestroyListeners c client).wire = c.wire := by rw [runDestroyListeners_eq]
  by_cases hc : c.overlayClient = some client
  · -- the overlay client's own windows are no game's, so nothing is told
    have hnone := not_losesGame_of_trusted hw (Or.inr hc.symm)
    have hgames : ∀ track ∈ (runDestroyListeners c client).toplevels,
        track.tree ∈ treesOf order → track.role ≠ .game := by
      intro track ht hm hg
      rw [hf] at ht
      exact hnone ⟨track, ht, mem_treesOf.mpr (ho.mem_iff.mp (mem_treesOf.mp hm)), hg⟩
    have hquiet : (wlClientDestroy c client order).overlayVisible = c.overlayVisible := by
      rw [toForeground_departure hw ho, lose, if_neg hnone]
      rfl
    rw [hideEvents_of_eq hquiet, List.append_nil, ← hlisten]
    exact (silent_foldl_destroyObject hgames).wire
  · have htarget : ∀ resource ∈ resourcesOf order,
        (runDestroyListeners c client).overlayResource ≠ some resource := by
      intro resource hm ht
      rw [hr] at ht
      obtain ⟨owned, hbo, hco, he⟩ :=
        overlayBinding_mem_ownedObjects.mp (ho.mem_iff.mp (mem_resourcesOf.mp hm))
      obtain ⟨holder, hh, hbt⟩ := hb.target_mem ht
      exact hc (by rw [hh, ← hco, hb.client_unique hbo hbt he])
    have hd := hides_foldl_destroyObject htarget
    rw [hlisten, hideEvents, hr, hf] at hd
    exact hd

/-- The same compositor, but for the flags of nodes that have left the scene. -/
structure SameDeparture (a b : Compositor) : Prop where
  foreground : b.toForeground = a.toForeground
  registry : b.toRegistry = a.toRegistry
  service : SameService a b
  sent : b.sent = a.sent
  wire : b.wire = a.wire
  order : b.scene.order = a.scene.order
  enabled : ∀ node ∈ a.scene.order.items, b.scene.enabled node = a.scene.enabled node

/-- Whatever the order in which the objects of a leaving client are destroyed, the outcome is the
same. -/
theorem departure_unordered {a b : Compositor} {order' : List ClientObject}
    (hc : compositorSystem.Reachable c) (ha : step c (.disconnect client order) = some a)
    (hb : step c (.disconnect client order') = some b) : SameDeparture a b := by
  have hcomp := compositorSystem_composed.reachable hc
  have hbound := compositorSystem_bound.reachable hc
  have hw := hbound.1
  -- both orders name the client's objects
  have hend : ∀ {o : List ClientObject} {d : Compositor}, step c (.disconnect client o) = some d →
      o.Perm (ownedObjects c client) ∧ d = wlClientDestroy c client o := by
    intro o d hs
    cases handled_of_step hs with
    | disconnect _ _ _ ho => exact ⟨ho, rfl⟩
  have hservice : ∀ o : List ClientObject, SameService c (wlClientDestroy c client o) := by
    intro o
    have hl : SameService c (runDestroyListeners c client) := by
      rw [runDestroyListeners_eq]
      exact ⟨rfl, rfl, rfl, rfl⟩
    exact (hl.trans (.of_foldl_destroyObject _ o)).trans ⟨rfl, rfl, rfl, rfl⟩
  have hsent := sent_step hbound ha
  have hsent' := sent_step hbound hb
  have hca : a.Composed :=
    compositorSystem_composed.step c (.disconnect client order) a hcomp ha
  have hcb : b.Composed :=
    compositorSystem_composed.step c (.disconnect client order') b hcomp hb
  have hflag : ∀ tree ∈ a.trees, tree ∉ a.designatedTrees →
      a.scene.enabled (.tree tree) = c.flag tree := fun _ ↦ enabled_step hw ha
  have hflag' : ∀ tree ∈ b.trees, tree ∉ b.designatedTrees →
      b.scene.enabled (.tree tree) = c.flag tree := fun _ ↦ enabled_step hw hb
  obtain ⟨ho, rfl⟩ := hend ha
  obtain ⟨ho', rfl⟩ := hend hb
  have hf : (wlClientDestroy c client order').toForeground =
      (wlClientDestroy c client order).toForeground := by
    rw [toForeground_departure hw ho, toForeground_departure hw ho']
  have hitems : (wlClientDestroy c client order').scene.order =
      (wlClientDestroy c client order).scene.order :=
    Stacking.ext (by rw [items_departure hcomp ho, items_departure hcomp ho'])
  refine ⟨hf, ?_, ?_, ?_, ?_, hitems, ?_⟩
  · rw [toRegistry_wlClientDestroy hw.linked hbound.2 ho,
      toRegistry_wlClientDestroy hw.linked hbound.2 ho']
  · have h := hservice order
    have h' := hservice order'
    exact ⟨h'.settings.trans h.settings.symm, h'.ipc.trans h.ipc.symm,
      h'.fpsCommitsShell.trans h.fpsCommitsShell.symm,
      h'.fpsCommitsGame.trans h.fpsCommitsGame.symm⟩
  · rw [hsent, hsent', hf]
    rfl
  · rw [wire_departure hw hbound.2 ho, wire_departure hw hbound.2 ho', hideEvents, hideEvents, hf]
  · intro node hm
    cases node with
    | rect id =>
      have hrect : ∀ o, (wlClientDestroy c client o).scene.enabled (.rect id) =
          c.scene.enabled (.rect id) := by
        intro o
        refine (enabled_rect_foldl_destroyObject (runDestroyListeners c client) o id).trans ?_
        rw [runDestroyListeners_eq]
      rw [hrect, hrect]
    | tree tree =>
      have ht := (hca.composited.tracks tree).mp hm
      by_cases hd : tree ∈ (wlClientDestroy c client order).designatedTrees
      · obtain ⟨role, hrole⟩ := mem_designatedTrees.mp hd
        rw [hca.composited.shown role tree hrole, hcb.composited.shown role tree (hf ▸ hrole), hf]
      · rw [hflag tree ht hd, hflag' tree (hf ▸ ht) (hf ▸ hd)]

/-- A game with two windows that has bound the overlay leaves. -/
def departingRun : List Event :=
  [.command (.setExpectedGame .empty .empty), .connect 0, .newToplevel 0 .ok, .newToplevel 0 .ok,
    .bindOverlay 0 true]

/-- The theorem for two orders of its objects. -/
theorem departure_unordered_game :
    ∃ c ∈ compositorSystem.run (playosCompositorStarted headlessStart) departingRun,
      ∃ a ∈ step c (.disconnect 0 [.toplevel 0, .toplevel 1, .overlayBinding 2]),
        ∃ b ∈ step c (.disconnect 0 [.overlayBinding 2, .toplevel 1, .toplevel 0]),
          SameDeparture a b ∧ c.fgState = .gameStarting ∧ a.fgState = .shellForeground := by
  obtain ⟨c, hc, a, ha, b, hb, hf⟩ :
      ∃ c ∈ compositorSystem.run (playosCompositorStarted headlessStart) departingRun,
        ∃ a ∈ step c (.disconnect 0 [.toplevel 0, .toplevel 1, .overlayBinding 2]),
          ∃ b ∈ step c (.disconnect 0 [.overlayBinding 2, .toplevel 1, .toplevel 0]),
            c.fgState = .gameStarting ∧ a.fgState = .shellForeground := by
    decide
  exact ⟨c, hc, a, ha, b, hb, departure_unordered ⟨_, _, ⟨headlessStart, rfl⟩, hc⟩ ha hb, hf⟩

end Outcome

end PlayosCompositor
