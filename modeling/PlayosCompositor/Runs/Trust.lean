import PlayosCompositor.Foreground.Owners
import PlayosCompositor.Runs.Foreground

/-!
# Unprivileged clients and the trusted roles

The identity of a client is the uid of its socket's peer credentials. Neither the bind of
`playos_manager_v1` nor a claim looks at it, so an unprivileged client is kept from a role
only as long as somebody else holds it.
-/

namespace PlayosCompositor

open Foreground

/-- The uid of `playos-game`, under which games run; `src/compositor.c:469`. -/
def unprivilegedUid : Nat := 1001

section Identity

-- the peer credentials of every connection, which no step of the compositor reads
variable (uid : ClientId → Nat)

/-- No unprivileged client holds a trusted role. -/
def RolesPrivileged (c : Compositor) : Prop :=
  ∀ client, c.Trusted client → uid client ≠ unprivilegedUid

/-- An unprivileged client's claim comes while the role is taken. -/
def FindsRoleTaken (c : Compositor) : Event → Prop
  | .registerShell client => uid client = unprivilegedUid → c.shellClient ≠ none
  | .registerOverlay client => uid client = unprivilegedUid → c.overlayClient ≠ none
  | _ => True

/-- No unprivileged client claims a role. -/
def NoUnprivilegedClaim : Event → Prop
  | .registerShell client => uid client ≠ unprivilegedUid
  | .registerOverlay client => uid client ≠ unprivilegedUid
  | _ => True

/-- An unprivileged client's claim is refused for lack of permission and changes nothing. -/
def PermissionRefused (c : Compositor) (e : Event) (c' : Compositor) : Prop :=
  ∀ client, uid client = unprivilegedUid → e = .registerShell client ∨ e = .registerOverlay client →
    ∃ message, c' = { c with wire := c.wire ++ [.error client .permissionDenied message] }

variable {c c' : Compositor} {e : Event}

private theorem rolesPrivileged_step_iff (h : c.WF) (hp : RolesPrivileged uid c)
    (hs : step c e = some c') : RolesPrivileged uid c' ↔ FindsRoleTaken uid c e := by
  have hf := toForeground_step h.linked hs
  constructor
  · intro hp'
    cases handled_of_step hs with
    | registerShell client _ =>
      intro hu hn
      refine hp' client ?_ hu
      rw [toForeground_playosManagerRegisterShell, claimShell_of_free hn]
      exact Or.inl rfl
    | registerOverlay client _ =>
      intro hu hn
      refine hp' client ?_ hu
      rw [toForeground_playosManagerRegisterOverlay, claimOverlay_of_free hn]
      exact Or.inr rfl
    | _ => trivial
  · intro ht client hc hu
    have hfrom := comesFrom_foregroundInput c e
    rcases trusted_step hf hc with hold | ⟨hi, hn⟩ | ⟨hi, hn⟩
    · exact hp client hold hu
    · rw [hi] at hfrom
      obtain rfl : e = .registerShell client := hfrom
      exact ht hu hn
    · rw [hi] at hfrom
      obtain rfl : e = .registerOverlay client := hfrom
      exact ht hu hn

private theorem permissionRefused_step_iff (hs : step c e = some c') :
    PermissionRefused uid c e c' ↔ NoUnprivilegedClaim uid e := by
  constructor
  · intro hp
    cases handled_of_step hs with
    | registerShell client _ =>
      intro hu
      obtain ⟨message, he⟩ := hp client hu (Or.inl rfl)
      cases hc : c.shellClient with
      | none =>
        have hf := congrArg (fun d : Compositor ↦ d.shellClient) he
        simp [claimShell_of_free hc, hc, classify] at hf
      | some holder =>
        rw [playosManagerRegisterShell_of_taken hc] at he
        simpa using congrArg Compositor.wire he
    | registerOverlay client _ =>
      intro hu
      obtain ⟨message, he⟩ := hp client hu (Or.inr rfl)
      cases hc : c.overlayClient with
      | none =>
        have hf := congrArg (fun d : Compositor ↦ d.overlayClient) he
        simp [claimOverlay_of_free hc, hc, classify] at hf
      | some holder =>
        rw [playosManagerRegisterOverlay_of_taken hc] at he
        simpa using congrArg Compositor.wire he
    | _ => trivial
  · rintro hn client hu (rfl | rfl)
    · exact absurd hu hn
    · exact absurd hu hn

private theorem NoUnprivilegedClaim.findsRoleTaken (h : NoUnprivilegedClaim uid e) :
    FindsRoleTaken uid c e := by
  cases e with
  | registerShell client => exact fun hu ↦ absurd hu h
  | registerOverlay client => exact fun hu ↦ absurd hu h
  | _ => trivial

/-- No unprivileged client comes to hold a role exactly in the runs where its claims find the
role taken; all of its claims are refused for lack of permission only where it makes none. -/
theorem always_rolesPrivileged_iff (config : StartConfig) (es : List Event) :
    (compositorSystem.Always (RolesPrivileged uid) (playosCompositorStarted config) es ↔
      compositorSystem.Each (fun c e _ ↦ FindsRoleTaken uid c e) (playosCompositorStarted config)
        es) ∧
    (compositorSystem.Always (RolesPrivileged uid) (playosCompositorStarted config) es ∧
        compositorSystem.Each (PermissionRefused uid) (playosCompositorStarted config) es ↔
      compositorSystem.Each (fun _ e _ ↦ NoUnprivilegedClaim uid e)
        (playosCompositorStarted config) es) := by
  have hstart := compositorSystem_wf.base _ ⟨config, rfl⟩
  have hroles : compositorSystem.Always (RolesPrivileged uid) (playosCompositorStarted config) es ↔
      compositorSystem.Each (fun c e _ ↦ FindsRoleTaken uid c e) (playosCompositorStarted config)
        es := by
    refine compositorSystem.always_iff_each compositorSystem_wf ?_ hstart ?_ es
    · exact fun _ _ _ h hp hs ↦ rolesPrivileged_step_iff uid h hp hs
    · rintro client (hc | hc) <;> cases hc
  have hrefused := compositorSystem.each_congr compositorSystem_wf
    (fun _ _ _ _ hs ↦ permissionRefused_step_iff uid hs) hstart es
  refine ⟨hroles, ?_⟩
  rw [hrefused, hroles]
  constructor
  · exact fun h ↦ h.2
  · exact fun h ↦ ⟨h.mono _ fun _ _ _ hn ↦ hn.findsRoleTaken uid, h⟩

end Identity

/-- Client 2 runs as `playos-game`, everybody else as root. -/
def gameIsSecond (client : ClientId) : Nat := if client = 2 then unprivilegedUid else 0

/-- The shell crashes, and a game claims its role before the next shell does. -/
def shellCrashRun : List Event :=
  [.connect 1, .bindManager 1 true, .registerShell 1, .connect 2, .bindManager 2 true,
    .disconnect 1 [], .registerShell 2]

/-- The game has become the shell and has received no error. -/
theorem rolesPrivileged_fails :
    ∃ c ∈ compositorSystem.run (playosCompositorStarted headlessStart) shellCrashRun,
      c.shellClient = some 2 ∧ gameIsSecond 2 = unprivilegedUid ∧ c.wire = [] := by
  decide

end PlayosCompositor
