import PlayosCompositor.Model.Toplevels

/-!
# Trusted roles and the playos-v1 protocol

`src/trusted_client.c` and `src/playos_manager.c`. A refused claim is `none`. The destroy
listeners of the two role holders are modelled by the client whose list they are linked in.
-/

namespace PlayosCompositor

/-! ### `src/trusted_client.c` -/

/-- `playos_trusted_shell_client_gone`, `src/trusted_client.c:29`. -/
def playosTrustedShellClientGone (c : Compositor) : Compositor :=
  { c with shellClient := none, shellClientDestroy := none }

/-- `playos_trusted_overlay_client_gone`, `src/trusted_client.c:41`. -/
def playosTrustedOverlayClientGone (c : Compositor) : Compositor :=
  { c with overlayClient := none, overlayClientDestroy := none }

/-- `playos_trusted_client_claim`, `src/trusted_client.c:53`. -/
def playosTrustedClientClaim (c : Compositor) (client : ClientId) (role : TrustedRole) :
    Option Compositor :=
  if role = .shell ∧ c.shellClient.isSome then none
  else if role = .overlay ∧ c.overlayClient.isSome then none
  else
    let c :=
      match role with
      | .shell => { c with shellClient := some client, shellClientDestroy := some client }
      | .overlay => { c with overlayClient := some client, overlayClientDestroy := some client }
      | _ => c
    some (playosCompositorReclassifyToplevels c)

/-! ### `playos_manager_v1` -/

/-- `playos_manager_bind`, `src/playos_manager.c:44`; `created` is whether
`wl_resource_create` succeeds. -/
def playosManagerBind (c : Compositor) (client : ClientId) (created : Bool) : Compositor :=
  if !created then { c with wire := c.wire ++ [.noMemory client] }
  else { c with managers := client :: c.managers }

/-- `playos_overlay_resolve_resource`, `src/playos_manager.c:156`. -/
def playosOverlayResolveResource (c : Compositor) (client : ClientId) : Compositor :=
  match c.overlayResources.find? fun bound ↦ bound.client = client with
  | none => c
  | some bound => playosOverlaySendOutputInfo { c with overlayResource := some bound.resource }

/-- `playos_manager_register_shell`, `src/playos_manager.c:63`. -/
def playosManagerRegisterShell (c : Compositor) (client : ClientId) : Compositor :=
  match playosTrustedClientClaim c client .shell with
  | none => { c with
      wire := c.wire ++ [.error client .roleAlreadyTaken "shell role already taken"] }
  | some c => c

/-- `playos_manager_register_overlay`, `src/playos_manager.c:82`. -/
def playosManagerRegisterOverlay (c : Compositor) (client : ClientId) : Compositor :=
  match playosTrustedClientClaim c client .overlay with
  | none => { c with
      wire := c.wire ++ [.error client .roleAlreadyTaken "overlay role already taken"] }
  | some c => playosOverlayResolveResource c client

/-! ### `playos_overlay_v1` -/

/-- `playos_overlay_resource_destroy`, `src/playos_manager.c:191`. -/
def playosOverlayResourceDestroy (c : Compositor) (resource : ResourceId) : Compositor :=
  let c := if c.overlayResource = some resource then { c with overlayResource := none } else c
  { c with overlayResources := c.overlayResources.filter fun bound ↦ bound.resource ≠ resource }

/-- `playos_overlay_bind`, `src/playos_manager.c:205`; `created` is whether both of its
allocations succeed. A new binding goes to the head of the list. -/
def playosOverlayBind (c : Compositor) (client : ClientId) (created : Bool) : Compositor :=
  if !created then { c with wire := c.wire ++ [.noMemory client] }
  else
    let c := { c with
      nextId := c.nextId + 1
      overlayResources := ⟨client, c.nextId⟩ :: c.overlayResources }
    if c.overlayClient = some client then playosOverlayResolveResource c client else c

/-- Requests of `playos_overlay_v1`; `src/playos_manager.c:183`. -/
inductive OverlayRequest
  | setSurface
  | surfaceReady
  | requestDismiss
  deriving DecidableEq, Repr

/-- `playos_overlay_set_surface`, `_surface_ready` and `_request_dismiss`,
`src/playos_manager.c:242–285`: the first two only log. -/
def playosOverlayRequest (c : Compositor) (client : ClientId) (request : OverlayRequest) :
    Compositor :=
  if some client ≠ c.overlayClient then c
  else
    match request with
    | .setSurface => c
    | .surfaceReady => c
    | .requestDismiss => playosOverlayManagerHide c

end PlayosCompositor
