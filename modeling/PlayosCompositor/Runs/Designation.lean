import PlayosCompositor.Foreground.NextState
import PlayosCompositor.Runs.Foreground
import PlayosCompositor.Scene.Layers

/-!
# Roles with a window and their designated tree

Only a classification looks for the window that stands for a role. The loss of the designated
one clears the pointer, whatever other windows the role still has.
-/

namespace PlayosCompositor

namespace Foreground

/-- A role with a window has a designated tree. -/
def RolesDesignated (f : Foreground) : Prop :=
  ∀ track ∈ f.toplevels, track.role ≠ .none → f.designated track.role ≠ none

/-- The inputs that keep `RolesDesignated`: a designated window is dropped only together with all
windows of its role. -/
def KeepsDesignated (f : Foreground) (input : Input) : Prop :=
  ∀ role tree, f.designated role = some tree → tree ∈ input.dropped →
    ∀ track ∈ f.toplevels, track.role = role → track.tree ∈ input.dropped

private theorem rolesDesignated_classify (f : Foreground) : f.classify.RolesDesignated := by
  intro track ht hr
  rw [designated_classify f hr, first, ← Option.isSome_iff_ne_none, Option.isSome_map,
    List.find?_isSome]
  exact ⟨track, ht, decide_eq_true rfl⟩

private theorem dropped_of_classified {f h : Foreground} {input : Input}
    (hc : f.classified input = some h) : input.dropped = [] := by
  cases input
  case unmap tree => cases hc
  case leave client order => cases hc
  all_goals rfl

private theorem rolesDesignated_step_iff {f g : Foreground} {input : Input} (h : f.WF)
    (hd : f.RolesDesignated) (hs : f.step input = some g) :
    g.RolesDesignated ↔ f.KeepsDesignated input := by
  cases hc : f.classified input with
  | some k =>
    rw [step_of_classified hs hc]
    refine iff_of_true (rolesDesignated_classify k) fun role tree _ hm ↦ ?_
    rw [dropped_of_classified hc] at hm
    cases hm
  | none =>
    have hmem : ∀ track, track ∈ g.toplevels ↔
        track ∈ f.toplevels ∧ track.tree ∉ input.dropped := by
      intro track
      rw [toplevels_step hs hc, List.mem_filter, decide_eq_true_iff]
    constructor
    · intro hg role tree ht hm track hf hr
      by_contra hn
      have hrole : track.role ≠ .none := hr ▸ ne_none_of_designated ht
      obtain ⟨other, ho⟩ :=
        Option.ne_none_iff_exists'.mp (hg track ((hmem track).mpr ⟨hf, hn⟩) hrole)
      -- what is designated afterwards was not dropped, and so was designated before
      obtain ⟨kept, hk, rfl, -⟩ := (wf_step h hs).designated_mem ho
      have hkept := ((hmem kept).mp hk).2
      have hbefore := (designated_step hs hc hkept).mp ho
      rw [hr, ht] at hbefore
      exact hkept (Option.some.inj hbefore ▸ hm)
    · intro hk track hg hr
      obtain ⟨hf, hn⟩ := (hmem track).mp hg
      obtain ⟨tree, ht⟩ := Option.ne_none_iff_exists'.mp (hd track hf hr)
      have hm : tree ∉ input.dropped := fun hm ↦ hn (hk _ tree ht hm track hf rfl)
      rw [(designated_step hs hc hm).mpr ht]
      exact Option.some_ne_none tree

end Foreground

open Foreground

/-- Every role with a window has a designated tree exactly in the runs where no event takes the
designated window of a role and leaves another window of that role. -/
theorem always_rolesDesignated_iff (config : StartConfig) (es : List Event) :
    compositorSystem.Always (fun c ↦ c.RolesDesignated) (playosCompositorStarted config) es ↔
      compositorSystem.Each (fun c e _ ↦ c.KeepsDesignated (foregroundInput c e))
        (playosCompositorStarted config) es := by
  apply compositor_refines_foreground.always_iff_each foregroundSystem_wf
  · exact fun _ _ _ h hp hs ↦ rolesDesignated_step_iff h hp hs
  · exact ⟨config, rfl⟩
  · exact fun track ht ↦ absurd ht List.not_mem_nil

/-- The shell maps two windows and destroys the older one. -/
def secondShellRun : List Event :=
  [.connect 1, .bindManager 1 true, .registerShell 1, .newToplevel 1 .ok, .newToplevel 1 .ok,
    .destroyToplevel 0]

/-- The shell has a window, and no tree stands for it. -/
theorem rolesDesignated_fails :
    ∃ c ∈ compositorSystem.run (playosCompositorStarted headlessStart) secondShellRun,
      ⟨1, 1, .shell⟩ ∈ c.toplevels ∧ c.shellTree = none := by
  decide

end PlayosCompositor
