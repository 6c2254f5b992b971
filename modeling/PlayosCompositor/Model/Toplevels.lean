import PlayosCompositor.Model.StateMachine

/-!
# Toplevels: classification, stacking and surface events

`src/compositor.c:51–113,554–854`: the roles of tracked toplevels, the designated
trees, and the handlers of new toplevels, commits, destructions, outputs and frames.
-/

namespace PlayosCompositor

/-- `compositor_restack`, `src/compositor.c:54`. -/
def compositorRestack (c : Compositor) : Compositor :=
  let raise (scene : Scene) (tree : Option TreeId) : Scene :=
    match tree with
    | none => scene
    | some tree => scene.raiseToTop (.tree tree)
  { c with scene := raise (raise (raise c.scene c.shellTree) c.gameTree) c.overlayTree }

/-- `compositor_role_for_client`, `src/compositor.c:70`. -/
def compositorRoleForClient (c : Foreground) (client : ClientId) : TrustedRole :=
  if some client = c.shellClient then .shell
  else if some client = c.overlayClient then .overlay
  else
    match c.fgState with
    | .gameStarting | .gameForeground | .playosUiForegroundWithGameBackground
    | .terminatingGame => .game
    | .shellForeground => .none

/-- The three tree pointers while `playos_compositor_reclassify_toplevels` walks the list. -/
structure Designation where
  shellTree : Option TreeId
  gameTree : Option TreeId
  overlayTree : Option TreeId

/-- The pointer updates of one iteration, `src/compositor.c:103–108`: the first tree of
each role is kept. -/
def Designation.visit (d : Designation) (track : ToplevelTrack) : Designation :=
  if track.role = .shell ∧ d.shellTree.isNone then { d with shellTree := some track.tree }
  else if track.role = .game ∧ d.gameTree.isNone then { d with gameTree := some track.tree }
  else if track.role = .overlay ∧ d.overlayTree.isNone then
    { d with overlayTree := some track.tree }
  else d

/-- The loop of `playos_compositor_reclassify_toplevels`: the tracks with their new roles,
and the designated trees. -/
def reclassifyLoop (c : Foreground) : List ToplevelTrack → Designation →
    List ToplevelTrack × Designation
  | [], d => ([], d)
  | track :: rest, d =>
    let track := { track with role := compositorRoleForClient c track.client }
    let walked := reclassifyLoop c rest (d.visit track)
    (track :: walked.1, walked.2)

/-- `playos_compositor_reclassify_toplevels`, `src/compositor.c:92`. -/
def playosCompositorReclassifyToplevels (c : Compositor) : Compositor :=
  let walked := reclassifyLoop c.toForeground c.toplevels ⟨none, none, none⟩
  let c := { c with
    toplevels := walked.1
    shellTree := walked.2.shellTree
    gameTree := walked.2.gameTree
    overlayTree := walked.2.overlayTree }
  playosStateRefresh (compositorRestack c)

/-- How far the two allocations of `handle_new_xdg_toplevel` get. -/
inductive ToplevelAlloc
  | ok
  | noTree
  | noTrack
  deriving DecidableEq, Repr

/-- `handle_new_xdg_toplevel`, `src/compositor.c:666`. -/
def handleNewXdgToplevel (c : Compositor) (client : ClientId) (alloc : ToplevelAlloc) :
    Compositor :=
  match alloc with
  | .noTree => c
  | .noTrack =>
    let tree := c.nextId
    { c with
      nextId := c.nextId + 1
      scene := (c.scene.add (.tree tree)).destroy (.tree tree) }
  | .ok =>
    let tree := c.nextId
    let track : ToplevelTrack := ⟨tree, client, .none⟩
    let c := { c with
      nextId := c.nextId + 1
      scene := c.scene.add (.tree tree)
      toplevels := c.toplevels ++ [track] }
    playosCompositorReclassifyToplevels c

/-- What `handle_toplevel_commit` reads of a committed surface: that it is an xdg surface
with the toplevel role, `initial_commit`, and that a buffer is attached. -/
structure SurfaceCommit where
  xdgToplevel : Bool
  initialCommit : Bool
  buffer : Bool
  deriving DecidableEq, Repr

/-- The answer to an initial commit, `src/compositor.c:734–738`. -/
def configureInitial (c : Compositor) (track : ToplevelTrack) (surface : SurfaceCommit) :
    Compositor :=
  if surface.initialCommit then
    let w := if c.outputWidth > 0 then c.outputWidth else 0
    let h := if c.outputHeight > 0 then c.outputHeight else 0
    { c with wire := c.wire ++ [.configure track.tree w h] }
  else c

/-- The count of frames per role, `src/compositor.c:742–753`. -/
def countCommit (c : Compositor) (track : ToplevelTrack) (surface : SurfaceCommit) :
    Compositor :=
  if !surface.initialCommit then
    match track.role with
    | .shell => { c with fpsCommitsShell := c.fpsCommitsShell + 1 }
    | .game => { c with fpsCommitsGame := c.fpsCommitsGame + 1 }
    | _ => c
  else c

/-- `handle_toplevel_commit`, `src/compositor.c:719`. -/
def handleToplevelCommit (c : Compositor) (track : ToplevelTrack) (surface : SurfaceCommit) :
    Compositor :=
  if !surface.xdgToplevel then c
  else
    let c := configureInitial c track surface
    let c := countCommit c track surface
    if track.role = .game ∧ surface.buffer then playosStateGameSurfaceReady c else c

/-- The pointer and the list entry that `handle_toplevel_destroy` drops,
`src/compositor.c:773–784`. -/
def untrackToplevel (c : Compositor) (track : ToplevelTrack) : Compositor :=
  let role := track.role
  let c :=
    if role = .shell ∧ c.shellTree = some track.tree then { c with shellTree := none }
    else if role = .game ∧ c.gameTree = some track.tree then { c with gameTree := none }
    else if role = .overlay ∧ c.overlayTree = some track.tree then { c with overlayTree := none }
    else c
  { c with toplevels := c.toplevels.filter fun t ↦ t.tree ≠ track.tree }

/-- `handle_toplevel_destroy`, `src/compositor.c:764`. The scene helper of wlroots listened
first, so the tree is already gone from the scene when the handler runs. -/
def handleToplevelDestroy (c : Compositor) (track : ToplevelTrack) : Compositor :=
  let c := { c with scene := c.scene.destroy (.tree track.tree) }
  let c := untrackToplevel c track
  let c := if track.role = .game then playosStateGameExited c false else playosStateRefresh c
  compositorRestack c

/-- Results of the wlroots calls of `handle_new_output`. -/
structure OutputCalls where
  initRender : Bool
  configure : Bool
  layoutAdd : Bool
  sceneOutput : Bool
  background : Bool
  deriving DecidableEq, Repr

/-- `handle_new_output`, `src/compositor.c:555`: what it does to the scene. Its choice of a
mode (`src/compositor.c:580–622`) touches none of the modelled fields. -/
def handleNewOutput (c : Compositor) (calls : OutputCalls) : Compositor :=
  if !calls.initRender then c
  else if c.backendType = .headless ∧ !calls.configure then c
  else if !calls.layoutAdd then c
  else if !calls.sceneOutput then c
  else if calls.background then
    let bg := SceneNode.rect c.nextId
    { c with
      nextId := c.nextId + 1
      scene := (c.scene.add bg).lowerToBottom bg }
  else c

/-- `handle_frame`, `src/compositor.c:814`: its effect on the commit counters.
`windowElapsed` stands for the clock comparison of `src/compositor.c:842`. -/
def handleFrame (c : Compositor) (sceneOutput windowElapsed : Bool) : Compositor :=
  if !sceneOutput then c
  else if windowElapsed then { c with fpsCommitsShell := 0, fpsCommitsGame := 0 }
  else c

end PlayosCompositor
