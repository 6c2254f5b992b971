import PlayosCompositor.Startup.Start

/-!
# The order of a session

What has to be there before a call is made, as a protocol that replays the log: a display that
lives, a backend that was created, listeners that are gone before the display is destroyed
(`src/compositor.c:535`), a socket that everybody can open before readiness is signalled. The
protocol is followed by every session except for four kinds.
-/

namespace PlayosCompositor

open EarlyReturn

/-! ### The protocol -/

/-- The life of the display. -/
inductive DisplayLife
  | absent
  | alive
  | destroyed
  deriving DecidableEq, Repr

/-- What is there at a moment of a session. -/
structure SessionStage where
  display : DisplayLife
  backend : Bool
  renderer : Bool
  listening : Bool
  socket : Option Directory
  opened : Option Directory
  started : Bool
  ready : Bool
  deriving DecidableEq, Repr

namespace SessionStage

/-- Nothing is there. -/
def fresh : SessionStage := ⟨.absent, false, false, false, none, none, false, false⟩

/-- The display has been created. -/
def displayed : SessionStage := { fresh with display := .alive }

/-- The display is gone, and what belonged to it. -/
def gone (t : SessionStage) : SessionStage := { fresh with display := .destroyed, ready := t.ready }

end SessionStage

/-- The protocol; the strict one also asks that no signal has a listener of the compositor when
the display is destroyed and that the socket is the one that was opened. -/
def sessionProtocol (strict : Bool) : Transition.System SessionStage SessionOp where
  initial t := t = .fresh
  step t
    | .displayCreate => if t = .fresh then some .displayed else none
    | .backendAutocreate _ created =>
      if t.display = .alive ∧ t.listening = false then some { t with backend := created } else none
    | .rendererAutocreate _ created =>
      if t.backend then some { t with renderer := created } else none
    | .rendererInitDisplay => if t.display = .alive ∧ t.renderer then some t else none
    | .allocatorAutocreate _ => if t.backend then some t else none
    | .create _ _ => if t.display = .alive then some t else none
    | .listen =>
      if t.backend ∧ t.listening = false then some { t with listening := true } else none
    | .addSocket dir => if t.display = .alive then some { t with socket := some dir } else none
    | .chmodSocket dir => if t.socket.isSome then some { t with opened := some dir } else none
    | .backendStart => if t.backend ∧ t.listening then some { t with started := true } else none
    | .readiness _ =>
      if t.started ∧ t.opened.isSome ∧ (strict → t.opened = t.socket) then
        some { t with ready := true } else none
    | .ipcStart | .displayRun => if t.display = .alive ∧ t.started then some t else none
    | .unlisten emptied => if t.listening then some { t with listening := !emptied } else none
    | .ipcStop => if t.display = .alive then some t else none
    | .displayDestroy =>
      if t.display = .alive ∧ (strict → t.listening = false) then some t.gone else none

/-! ### Following it -/

/-- The creation calls before the listeners are added have succeeded. -/
def StartCalls.reachesListeners (backendType : Backend) (calls : StartCalls) : Bool :=
  (playosCompositorStartGraphics .zeroed backendType calls.graphics).2 &&
    Session.displayObjects.all fun object ↦ !object.required || calls.creates object

/-- The start returns 0. -/
def StartCalls.succeeds (backendType : Backend) (calls : StartCalls) : Bool :=
  calls.reachesListeners backendType && calls.addSocket && calls.chmod && calls.backendStart

namespace Session

/-- The log leads the protocol to a stage, and `XDG_RUNTIME_DIR` is as it was. -/
structure At (strict : Bool) (dir : Option Directory) (t : SessionStage) (s : Session) :
    Prop where
  run : (sessionProtocol strict).run .fresh s.log = some t
  dir : s.env.xdgRuntimeDir = dir

section Rules

variable {strict : Bool} {dir : Option Directory} {t u : SessionStage} {s s' : Session}
  {op : SessionOp} {leaves : Session → Prop}

private theorem At.step (h : s.At strict dir t) (hl : s'.log = s.log ++ [op])
    (hd : s'.env.xdgRuntimeDir = s.env.xdgRuntimeDir)
    (hs : (sessionProtocol strict).step t op = some u) : s'.At strict dir u := by
  refine ⟨?_, hd.trans h.dir⟩
  rw [hl, Transition.System.run_append, h.run, Option.bind_some,
    Transition.System.run_singleton, hs]

private theorem At.congr (h : s.At strict dir t) (hl : s'.log = s.log)
    (hd : s'.env.xdgRuntimeDir = s.env.xdgRuntimeDir) : s'.At strict dir t :=
  ⟨by rw [hl, h.run], hd.trans h.dir⟩

private theorem ensures_note (hs : (sessionProtocol strict).step t op = some u) :
    Ensures (At strict dir t) (note op) (fun _ ↦ At strict dir u) leaves :=
  .change fun _ h ↦ h.step rfl rfl hs

private theorem ensures_giveUp (hd : t.display = .alive) (hl : t.listening = false)
    {goesOn : Unit → Session → Prop} :
    Ensures (At strict dir t) giveUp goesOn (At strict dir t.gone) := by
  refine (ensures_note (u := t.gone) ?_).bind fun _ ↦ .leave fun _ h ↦ h
  exact if_pos ⟨hd, fun _ ↦ hl⟩

end Rules

/-! ### The graphics stack -/

/-- What is there while the graphics stack is being built. -/
def graphicsStage (g : Graphics) : SessionStage :=
  { SessionStage.displayed with backend := g.backend, renderer := g.renderer }

/-- The stack of the session is `g`, and its log led there. -/
structure Has (strict : Bool) (dir : Option Directory) (g : Graphics) (s : Session) : Prop where
  graphics : s.graphics = g
  at_stage : s.At strict dir (graphicsStage g)

section Graphics

variable {strict : Bool} {dir : Option Directory} {g : Graphics} {leaves : Session → Prop}

private theorem ensures_setBackends (backends : String) :
    Ensures (Has strict dir g) (setBackends backends) (fun _ ↦ Has strict dir g) leaves :=
  .change fun _ h ↦ ⟨h.graphics, h.at_stage.congr rfl rfl⟩

private theorem ensures_setRenderer (renderer : String) :
    Ensures (Has strict dir g) (setRenderer renderer) (fun _ ↦ Has strict dir g) leaves :=
  .change fun _ h ↦ ⟨h.graphics, h.at_stage.congr rfl rfl⟩

private theorem ensures_wlrBackendAutocreate (created : Bool) :
    Ensures (Has strict dir g) (wlrBackendAutocreate created)
      (fun b s ↦ b = created ∧ s.Has strict dir { g with backend := created }) leaves := by
  exact .change_pure fun s h ↦ ⟨rfl, by rw [h.graphics], h.at_stage.step rfl rfl rfl⟩

private theorem ensures_wlrRendererAutocreate (hb : g.backend = true) (created : Bool) :
    Ensures (Has strict dir g) (wlrRendererAutocreate created)
      (fun b s ↦ b = created ∧ s.Has strict dir { g with renderer := created }) leaves := by
  refine .change_pure fun s h ↦ ⟨rfl, by rw [h.graphics], h.at_stage.step rfl rfl ?_⟩
  exact if_pos hb

private theorem ensures_wlrRendererInitWlDisplay (hr : g.renderer = true) :
    Ensures (Has strict dir g) wlrRendererInitWlDisplay
      (fun _ ↦ Has strict dir { g with displayInits := g.displayInits + 1 }) leaves := by
  refine .change fun s h ↦ ⟨by rw [h.graphics], h.at_stage.step rfl rfl ?_⟩
  exact if_pos ⟨rfl, hr⟩

private theorem ensures_wlrAllocatorAutocreate (hb : g.backend = true) (created : Bool) :
    Ensures (Has strict dir g) (wlrAllocatorAutocreate created)
      (fun b s ↦ b = created ∧ s.Has strict dir { g with allocator := created }) leaves := by
  refine .change_pure fun s h ↦ ⟨rfl, by rw [h.graphics], h.at_stage.step rfl rfl ?_⟩
  exact if_pos hb

private theorem ensures_playosDrmBackendStart (calls : DrmCalls) :
    Ensures (Has strict dir g) (playosDrmBackendStart calls)
      (fun ok s ↦ ok = (PlayosCompositor.playosDrmBackendStart g calls).2 ∧
        s.Has strict dir (PlayosCompositor.playosDrmBackendStart g calls).1) leaves := by
  rcases calls with ⟨backend, renderer, software, allocator⟩
  unfold playosDrmBackendStart PlayosCompositor.playosDrmBackendStart
  refine (ensures_setBackends "drm").bind fun _ ↦ ?_
  refine (ensures_wlrBackendAutocreate backend).bind fun b ↦ .of_fact fun hb ↦ ?_
  subst hb
  cases b with
  | false => exact .pure fun _ h ↦ ⟨rfl, h⟩
  | true =>
    refine (ensures_wlrRendererAutocreate rfl renderer).bind fun b ↦ .of_fact fun hb ↦ ?_
    subst hb
    -- the renderer that is exposed is the first one or the one in software
    have hretry : Ensures (Has strict dir { g with backend := true, renderer := b })
        (if b then return true else do
          setRenderer "pixman"
          wlrRendererAutocreate software)
        (fun r s ↦ r = (b || software) ∧
          s.Has strict dir { g with backend := true, renderer := b || software }) leaves := by
      cases b with
      | true => exact .pure fun _ h ↦ ⟨rfl, h⟩
      | false => exact (ensures_setRenderer "pixman").bind fun _ ↦
          ensures_wlrRendererAutocreate rfl software
    refine hretry.bind fun r ↦ .of_fact fun hr ↦ ?_
    cases r with
    | false =>
      obtain ⟨rfl, rfl⟩ := Bool.or_eq_false_iff.mp hr.symm
      exact .pure fun _ h ↦ ⟨rfl, h⟩
    | true =>
      rw [← hr]
      refine (ensures_wlrRendererInitWlDisplay rfl).bind fun _ ↦
        (ensures_wlrAllocatorAutocreate rfl allocator).mono (fun _ h ↦ h) ?_ fun _ h ↦ h
      rintro ok s ⟨rfl, h⟩
      cases b <;> cases software <;> cases ok <;> first | exact ⟨rfl, h⟩ | cases hr

/-- The code builds a stack and goes on, or destroys the display. -/
def Builds (strict : Bool) (dir : Option Directory) (g : Graphics) (code : Code Session Unit)
    (r : Graphics × Bool) : Prop :=
  Ensures (Has strict dir g) code
    (fun _ s ↦ (r.2 = true ∧ r.1.backend = true) ∧ s.Has strict dir r.1)
    fun s ↦ r.2 = false ∧ s.At strict dir SessionStage.displayed.gone

variable {r : Graphics × Bool} {code : Code Session Unit}

private theorem builds_giveUp (hr : r.2 = false) : Builds strict dir g giveUp r := by
  have hgive : Ensures (At strict dir (graphicsStage g)) giveUp
      (fun _ _ ↦ False) (At strict dir (graphicsStage g).gone) := ensures_giveUp rfl rfl
  exact hgive.mono (fun _ h ↦ h.at_stage) (fun _ _ h ↦ h.elim) fun _ h ↦ ⟨hr, h⟩

private theorem builds_pure (hb : g.backend = true) (hr : r = (g, true)) :
    Builds strict dir g (return ()) r := by
  subst hr
  exact .pure fun _ h ↦ ⟨⟨rfl, hb⟩, h⟩

private theorem builds_headlessFallback (calls : CreateCalls) :
    Builds strict dir g (headlessFallback calls) (PlayosCompositor.headlessFallback g calls) := by
  rcases calls with ⟨backend, renderer, allocator⟩
  unfold headlessFallback
  refine (ensures_setBackends "headless").bind fun _ ↦ ?_
  refine (ensures_wlrBackendAutocreate backend).bind fun b ↦ .of_fact fun hb ↦ ?_
  subst hb
  cases b with
  | false => exact builds_giveUp rfl
  | true =>
    refine (ensures_setRenderer "pixman").bind fun _ ↦ ?_
    refine (ensures_wlrRendererAutocreate rfl renderer).bind fun b ↦ .of_fact fun hb ↦ ?_
    subst hb
    cases b with
    | false =>
      refine (ensures_wlrAllocatorAutocreate rfl allocator).bind fun b ↦ .of_fact fun hb ↦ ?_
      exact builds_giveUp rfl
    | true =>
      refine (ensures_wlrRendererInitWlDisplay rfl).bind fun _ ↦ ?_
      refine (ensures_wlrAllocatorAutocreate rfl allocator).bind fun b ↦ .of_fact fun hb ↦ ?_
      subst hb
      cases b with
      | false => exact builds_giveUp rfl
      | true => exact builds_pure rfl rfl

private theorem builds_headlessAfterDrm (calls : CreateCalls) :
    Builds strict dir g (headlessAfterDrm calls) (PlayosCompositor.headlessAfterDrm g calls) := by
  rcases calls with ⟨backend, renderer, allocator⟩
  unfold headlessAfterDrm
  refine (ensures_setBackends "headless").bind fun _ ↦ ?_
  refine (ensures_wlrBackendAutocreate backend).bind fun b ↦ .of_fact fun hb ↦ ?_
  subst hb
  cases b with
  | false => exact builds_giveUp rfl
  | true =>
    refine (ensures_wlrRendererAutocreate rfl renderer).bind fun b ↦ .of_fact fun hb ↦ ?_
    subst hb
    cases b with
    | false =>
      refine (ensures_wlrAllocatorAutocreate rfl allocator).bind fun b ↦ .of_fact fun hb ↦ ?_
      subst hb
      exact builds_pure rfl rfl
    | true =>
      refine (ensures_wlrRendererInitWlDisplay rfl).bind fun _ ↦ ?_
      refine (ensures_wlrAllocatorAutocreate rfl allocator).bind fun b ↦ .of_fact fun hb ↦ ?_
      subst hb
      exact builds_pure rfl rfl

private theorem builds_autocreate (backendType : Backend) (calls : CreateCalls) :
    Builds strict dir g (autocreate backendType calls) (PlayosCompositor.autocreate g calls) := by
  rcases calls with ⟨backend, renderer, allocator⟩
  unfold autocreate
  refine (ensures_setBackends _).bind fun _ ↦ ?_
  refine (ensures_wlrBackendAutocreate backend).bind fun b ↦ .of_fact fun hb ↦ ?_
  subst hb
  cases b with
  | false => exact builds_giveUp rfl
  | true =>
    refine (ensures_wlrRendererAutocreate rfl renderer).bind fun b ↦ .of_fact fun hb ↦ ?_
    subst hb
    cases b with
    | false => exact builds_giveUp rfl
    | true =>
      refine (ensures_wlrRendererInitWlDisplay rfl).bind fun _ ↦ ?_
      refine (ensures_wlrAllocatorAutocreate rfl allocator).bind fun b ↦ .of_fact fun hb ↦ ?_
      subst hb
      cases b with
      | false => exact builds_giveUp rfl
      | true => exact builds_pure rfl rfl

private theorem ensures_record {f : Session → Session} {g' : Graphics}
    (hf : ∀ s, s.graphics = g → (f s).graphics = g' ∧ (f s).log = s.log ∧ (f s).env = s.env)
    (hg : graphicsStage g' = graphicsStage g) :
    Ensures (Has strict dir g) (change f) (fun _ ↦ Has strict dir g') leaves := by
  refine .change fun s h ↦ ?_
  obtain ⟨hgraphics, hlog, henv⟩ := hf s h.graphics
  refine ⟨hgraphics, ?_⟩
  rw [hg]
  exact h.at_stage.congr hlog (by rw [henv])

private theorem backend_playosDrmBackendStart {calls : DrmCalls}
    (h : (PlayosCompositor.playosDrmBackendStart g calls).2 = true) :
    (PlayosCompositor.playosDrmBackendStart g calls).1.backend = true := by
  obtain ⟨hb, -⟩ := (playosDrmBackendStart_snd g calls).mp h
  unfold PlayosCompositor.playosDrmBackendStart
  rw [hb]
  dsimp only
  repeat' split
  all_goals rfl

private theorem builds_drm (calls : DrmCalls) : Builds strict dir g
    (do
      let started ← playosDrmBackendStart calls
      if !started then giveUp)
    (PlayosCompositor.playosDrmBackendStart g calls) := by
  refine (ensures_playosDrmBackendStart calls).bind fun ok ↦ .of_fact fun hok ↦ ?_
  cases ok with
  | false => exact builds_giveUp hok.symm
  | true => exact builds_pure (backend_playosDrmBackendStart hok.symm) (Prod.ext rfl hok.symm)

private theorem builds_drm_or (calls : DrmCalls) (others : CreateCalls) : Builds strict dir g
    (do
      let started ← playosDrmBackendStart calls
      if !started then headlessAfterDrm others)
    (if (PlayosCompositor.playosDrmBackendStart g calls).2 then
        PlayosCompositor.playosDrmBackendStart g calls
      else PlayosCompositor.headlessAfterDrm (PlayosCompositor.playosDrmBackendStart g calls).1
        others) := by
  refine (ensures_playosDrmBackendStart calls).bind fun ok ↦ .of_fact fun hok ↦ ?_
  rw [← hok]
  cases ok with
  | false => exact builds_headlessAfterDrm others
  | true => exact builds_pure (backend_playosDrmBackendStart hok.symm) (Prod.ext rfl hok.symm)

private theorem builds_selectBackend (backendType : Backend) {calls : GraphicsCalls}
    (hd : calls.display = true) : Builds strict dir .zeroed (selectBackend backendType calls)
      (playosCompositorStartGraphics .zeroed backendType calls) := by
  unfold selectBackend playosCompositorStartGraphics
  by_cases hb : backendType = .drm
  · simp only [hd, hb, Bool.not_true, Bool.false_eq_true, ↓reduceIte]
    cases discoverGpu calls.discovery 10 false with
    | false =>
      simp only [Bool.not_false, ↓reduceIte]
      cases compositorProbeDrmCard calls.probe with
      | none => exact builds_headlessFallback calls.others
      | some size =>
        generalize size.getD (0, 0) = p
        obtain ⟨pw, ph⟩ := p
        refine (ensures_record (fun s hs ↦ ?_) ?_).bind fun _ ↦ builds_drm calls.drm
        · split
          · exact ⟨by rw [← hs], rfl, rfl⟩
          · exact ⟨hs, rfl, rfl⟩
        · split <;> rfl
    | true =>
      simp only [Bool.not_true, Bool.false_eq_true, ↓reduceIte]
      refine (ensures_record (fun s hs ↦ ?_) ?_).bind fun _ ↦ builds_drm_or calls.drm calls.others
      · cases calls.gpuOutput with
        | none => exact ⟨hs, rfl, rfl⟩
        | some output => exact ⟨by rw [← hs], rfl, rfl⟩
      · cases calls.gpuOutput <;> rfl
  · simp only [hd, hb, Bool.not_true, Bool.false_eq_true, ↓reduceIte]
    exact builds_autocreate backendType calls.others

end Graphics

/-! ### The rest of the start -/

section Rest

variable {strict : Bool} {dir : Option Directory} {t : SessionStage}

private theorem ensures_createObjects (hd : t.display = .alive) (hl : t.listening = false)
    (creates : DisplayObject → Bool) (objects : List DisplayObject) :
    Ensures (At strict dir t) (createObjects creates objects)
      (fun _ s ↦ (objects.all fun object ↦ !object.required || creates object) = true ∧
        s.At strict dir t)
      fun s ↦ (objects.all fun object ↦ !object.required || creates object) = false ∧
        s.At strict dir t.gone := by
  induction objects with
  | nil => exact .pure fun _ h ↦ ⟨rfl, h⟩
  | cons object objects ih =>
    have hstep : (sessionProtocol strict).step t (.create object (creates object)) = some t :=
      if_pos hd
    refine (ensures_note hstep).bind fun _ ↦ .ite (fun hfail ↦ ?_) fun hok ↦ ?_
    · have hgive : Ensures (At strict dir t) giveUp (fun _ _ ↦ False) (At strict dir t.gone) :=
        ensures_giveUp hd hl
      refine hgive.mono (fun _ h ↦ h) (fun _ _ h ↦ h.elim) fun _ h ↦ ⟨?_, h⟩
      obtain ⟨hr, hc⟩ := Bool.and_eq_true_iff.mp hfail
      rw [List.all_cons, hr, Bool.not_eq_eq_eq_not.mp hc]
      rfl
    · have hhead : (!object.required || creates object) = true := by
        cases hr : object.required <;> cases hc : creates object <;> simp_all
      rw [List.all_cons, hhead, Bool.true_and]
      exact ih

/-- The display was destroyed while the listeners of the compositor were linked to its
objects. -/
def LeftListening (strict : Bool) (s : Session) : Prop :=
  ∃ before u, s.log = before ++ [.displayDestroy] ∧
    (sessionProtocol strict).run .fresh before = some u ∧
    u.display = .alive ∧ u.listening = true ∧ u.ready = false

private theorem ensures_giveUp_listening (hd : t.display = .alive) (hl : t.listening = true)
    (hr : t.ready = false) {goesOn : Unit → Session → Prop} :
    Ensures (At strict dir t) giveUp goesOn (LeftListening strict) := by
  intro s h
  exact ⟨s.log, t, rfl, h.run, hd, hl, hr⟩

private theorem ensures_addSocket (hd : t.display = .alive) (hl : t.listening = true)
    (hr : t.ready = false) (added opened : Bool) :
    Ensures (At strict dir t) (addSocket added opened)
      (fun _ s ↦ (added && opened) = true ∧ s.At strict (some (dir.getD .runPlayos))
        { t with socket := some (dir.getD .runPlayos), opened := some .runPlayos })
      fun s ↦ (added && opened) = false ∧ LeftListening strict s := by
  have henv : Ensures (At strict dir t)
      (change fun s ↦ { s with env := { s.env with
        xdgRuntimeDir := some (s.env.xdgRuntimeDir.getD .runPlayos) } })
      (fun _ ↦ At strict (some (dir.getD .runPlayos)) t)
      fun s ↦ (added && opened) = false ∧ LeftListening strict s :=
    .change fun s h ↦ ⟨h.run, by rw [← h.dir]⟩
  have hgive : ∀ {d : Option Directory} {u : SessionStage}, u.display = .alive →
      u.listening = true → u.ready = false → (added && opened) = false →
      Ensures (At strict d u) (giveUp : Code Session Unit) (fun _ _ ↦ False)
        fun s ↦ (added && opened) = false ∧ LeftListening strict s :=
    fun hd hl hr hf ↦ (ensures_giveUp_listening hd hl hr).mono (fun _ h ↦ h) (fun _ _ h ↦ h)
      fun _ h ↦ ⟨hf, h⟩
  refine henv.bind fun _ ↦ ?_
  cases added with
  | false => exact (hgive hd hl hr rfl).mono (fun _ h ↦ h) (fun _ _ h ↦ h.elim) fun _ h ↦ h
  | true =>
    have hadd : Ensures (At strict (some (dir.getD .runPlayos)) t)
        (change fun s ↦ { s with
          log := s.log ++ [.addSocket (s.env.xdgRuntimeDir.getD .runPlayos)] })
        (fun _ ↦ At strict (some (dir.getD .runPlayos))
          { t with socket := some (dir.getD .runPlayos) })
        fun s ↦ (true && opened) = false ∧ LeftListening strict s := by
      refine .change fun s h ↦ h.step rfl rfl ?_
      rw [h.dir, Option.getD_some]
      exact if_pos hd
    refine hadd.bind fun _ ↦ ?_
    cases opened with
    | false =>
      refine Ensures.mono (hgive ?_ ?_ ?_ rfl) (fun _ h ↦ h) (fun _ _ h ↦ h.elim) fun _ h ↦ h
      · exact hd
      · exact hl
      · exact hr
    | true =>
      have hnote : Ensures (At strict (some (dir.getD .runPlayos))
          { t with socket := some (dir.getD .runPlayos) }) (note (.chmodSocket .runPlayos))
          (fun _ ↦ At strict (some (dir.getD .runPlayos)) { t with
            socket := some (dir.getD .runPlayos), opened := some .runPlayos })
          fun s ↦ (true && true) = false ∧ LeftListening strict s := ensures_note rfl
      exact hnote.mono (fun _ h ↦ h) (fun _ _ h ↦ ⟨rfl, h⟩) fun _ h ↦ h

/-- What is there when the backend has been started. -/
def upStage (g : Graphics) (socket : Directory) : SessionStage :=
  { graphicsStage g with
    listening := true, socket := some socket, opened := some .runPlayos, started := true }

/-- What is left of a start that fails: nothing, or a display that was destroyed too early. -/
def Failed (strict : Bool) (reached : Bool) (s : Session) : Prop :=
  if reached then LeftListening strict s
  else ∃ d u, s.At strict d u ∧ u.display ≠ .alive ∧ u.ready = false

/-- Up to the start of the backend, the log leads to a session that is up, or the start has
failed where the outcomes of the calls say. -/
theorem ensures_bringUp (backendType : Backend) (calls : StartCalls) :
    Ensures (fun s ↦ s.graphics = .zeroed ∧ s.At strict dir .fresh) (bringUp backendType calls)
      (fun _ s ↦ calls.succeeds backendType = true ∧ ∃ g,
        s.At strict (some (dir.getD .runPlayos)) (upStage g (dir.getD .runPlayos)))
      fun s ↦ calls.succeeds backendType = false ∧
        Failed strict (calls.reachesListeners backendType) s := by
  unfold bringUp
  cases hd : calls.graphics.display with
  | false =>
    have hreach : calls.reachesListeners backendType = false := by
      unfold StartCalls.reachesListeners playosCompositorStartGraphics
      rw [hd]
      rfl
    refine .leave fun s h ↦ ⟨?_, ?_⟩
    · rw [StartCalls.succeeds, hreach]
      rfl
    · rw [hreach]
      exact ⟨dir, .fresh, h.2, by decide, rfl⟩
  | true =>
    have hselect := @builds_selectBackend strict dir backendType calls.graphics hd
    generalize hr : playosCompositorStartGraphics .zeroed backendType calls.graphics = r at hselect
    have hcreate : Ensures (fun s ↦ s.graphics = .zeroed ∧ s.At strict dir .fresh)
        (note .displayCreate) (fun _ ↦ Has strict dir .zeroed) fun s ↦
          calls.succeeds backendType = false ∧
            Failed strict (calls.reachesListeners backendType) s :=
      .change fun s h ↦ ⟨h.1, h.2.step rfl rfl rfl⟩
    have hprefer : Ensures (Has strict dir .zeroed) compositorApplyRendererPreference
        (fun _ ↦ Has strict dir .zeroed) fun s ↦
          calls.succeeds backendType = false ∧
            Failed strict (calls.reachesListeners backendType) s := by
      refine .change fun s h ↦ ?_
      split
      · exact h
      · split
        · exact h
        · exact ⟨h.graphics, h.at_stage.congr rfl rfl⟩
    -- before the listeners are added, nothing is left behind
    have hgone : ∀ {s : Session} {t : SessionStage}, calls.reachesListeners backendType = false →
        s.At strict dir t.gone → t.ready = false → calls.succeeds backendType = false ∧
          Failed strict (calls.reachesListeners backendType) s := by
      intro s t hreach h hready
      rw [StartCalls.succeeds, hreach]
      exact ⟨rfl, dir, t.gone, h, (by decide : DisplayLife.destroyed ≠ .alive), hready⟩
    refine hcreate.bind fun _ ↦ hprefer.bind fun _ ↦ ?_
    refine (hselect.mono (fun _ h ↦ h) (fun _ _ h ↦ h) fun s h ↦ ?_).bind fun _ ↦
      .of_fact fun hgo ↦ ?_
    · refine hgone ?_ h.2 rfl
      rw [StartCalls.reachesListeners, hr, h.1]
      rfl
    have hobjects := @ensures_createObjects strict dir (graphicsStage r.1) rfl rfl calls.creates
      displayObjects
    refine (hobjects.mono (fun _ h ↦ h.at_stage) (fun _ _ h ↦ h) fun s h ↦ ?_).bind fun _ ↦
      .of_fact fun hall ↦ ?_
    · refine hgone ?_ h.2 rfl
      rw [StartCalls.reachesListeners, h.1, Bool.and_false]
    have hreach : calls.reachesListeners backendType = true := by
      rw [StartCalls.reachesListeners, hr, hgo.1, hall]
      rfl
    have hlisten : (sessionProtocol strict).step (graphicsStage r.1) .listen =
        some { graphicsStage r.1 with listening := true } := if_pos ⟨hgo.2, rfl⟩
    rw [StartCalls.succeeds, hreach, Bool.true_and]
    refine (ensures_note hlisten).bind fun _ ↦ ?_
    have hsocket := @ensures_addSocket strict dir { graphicsStage r.1 with listening := true }
      rfl rfl rfl calls.addSocket calls.chmod
    refine (hsocket.mono (fun _ h ↦ h) (fun _ _ h ↦ h) fun s h ↦ ?_).bind fun _ ↦
      .of_fact fun hboth ↦ ?_
    · rw [h.1]
      exact ⟨rfl, h.2⟩
    rw [hboth, Bool.true_and]
    cases calls.backendStart with
    | false =>
      have hgive : Ensures (At strict (some (dir.getD .runPlayos)) { graphicsStage r.1 with
          listening := true, socket := some (dir.getD .runPlayos), opened := some .runPlayos })
          (giveUp : Code Session Unit) (fun _ _ ↦ False) (LeftListening strict) :=
        ensures_giveUp_listening rfl rfl rfl
      exact hgive.mono (fun _ h ↦ h) (fun _ _ h ↦ h.elim) fun _ h ↦ ⟨rfl, h⟩
    | true =>
      have hstart : (sessionProtocol strict).step { graphicsStage r.1 with
          listening := true, socket := some (dir.getD .runPlayos), opened := some .runPlayos }
          .backendStart = some (upStage r.1 (dir.getD .runPlayos)) := if_pos ⟨hgo.2, rfl⟩
      exact (ensures_note hstart).mono (fun _ h ↦ h) (fun _ _ h ↦ ⟨rfl, r.1, h⟩) fun _ h ↦ h

end Rest

/-! ### Whole sessions -/

/-- What `playos_compositor_destroy` does when so many outputs have been set up to the end. -/
def tearDown (outputs : Nat) : List SessionOp :=
  if outputs = 0 then [] else [.unlisten (decide (outputs = 1)), .ipcStop, .displayDestroy]

/-- What is done once the backend has been started. -/
def closing (backendType : Backend) (calls : StartCalls) : List SessionOp :=
  (if calls.readinessFile then [.readiness (readinessText calls.pid backendType)] else []) ++
    .ipcStart :: .displayRun :: tearDown (outputsSetUp backendType calls.outputs)

/-- A session's end crashes without an output, and otherwise tears down. -/
private theorem playosCompositorDestroy_eq (backendType : Backend) (outputs : List OutputCalls)
    (s : Session) : ∃ s', playosCompositorDestroy backendType outputs s =
      (if outputsSetUp backendType outputs = 0 then none else some (), s') ∧
      s'.log = s.log ++ tearDown (outputsSetUp backendType outputs) := by
  unfold playosCompositorDestroy tearDown
  rw [unlisten_linksAtDestroy]
  by_cases ho : outputsSetUp backendType outputs = 0
  · simp only [if_pos ho]
    exact ⟨_, rfl, (List.append_nil s.log).symm⟩
  · simp only [if_neg ho]
    refine ⟨_, rfl, ?_⟩
    change ((s.log ++ [_]) ++ [_]) ++ [_] = _
    simp

private theorem main_cases (env : Environment) (calls : StartCalls) :
    (bringUp (requestedBackend env) calls (initial env) = (none, (main env calls).1) ∧
      (main env calls).2 = .failure) ∨
    ∃ s, bringUp (requestedBackend env) calls (initial env) = (some (), s) ∧
      (main env calls).2 =
        (if outputsSetUp (requestedBackend env) calls.outputs = 0 then .crash else .success) ∧
      (main env calls).1.log = s.log ++ closing (requestedBackend env) calls := by
  unfold main playosCompositorStart
  rw [bind_apply]
  rcases hb : bringUp (requestedBackend env) calls (initial env) with ⟨_ | u, s⟩
  · exact Or.inl ⟨rfl, rfl⟩
  · refine Or.inr ⟨s, rfl, ?_⟩
    -- the session when `playos_compositor_destroy` is called
    obtain ⟨s₁, hs₁, hlog₁⟩ : ∃ s₁, (do
          playosReadinessSignal (requestedBackend env) calls
          change fun s ↦ { s with
            state := .ready, running := true, log := s.log ++ [.ipcStart] } : Code Session Unit) s =
          (some (), s₁) ∧ (playosCompositorRun s₁).log = s.log ++
            ((if calls.readinessFile then
              [.readiness (readinessText calls.pid (requestedBackend env))] else []) ++
              [.ipcStart, .displayRun]) := by
      unfold playosReadinessSignal playosCompositorRun
      cases calls.readinessFile with
      | false => exact ⟨_, rfl, List.append_assoc _ _ _⟩
      | true =>
        refine ⟨_, rfl, ?_⟩
        change ((s.log ++ [.readiness _]) ++ [.ipcStart]) ++ [.displayRun] = _
        simp
    obtain ⟨s₂, hs₂, hlog₂⟩ := playosCompositorDestroy_eq (requestedBackend env) calls.outputs
      (playosCompositorRun s₁)
    have hlog : s₂.log = s.log ++ closing (requestedBackend env) calls := by
      rw [hlog₂, hlog₁, closing]
      simp
    simp only [Option.elim_some, hs₁, hs₂]
    by_cases ho : outputsSetUp (requestedBackend env) calls.outputs = 0
    · simp only [if_pos ho]
      exact ⟨trivial, hlog⟩
    · simp only [if_neg ho]
      exact ⟨trivial, hlog⟩

/-- A session that is up runs and is torn down. -/
private theorem run_tearDown (strict : Bool) (outputs : Nat) {t : SessionStage}
    (hd : t.display = .alive) (hs : t.started = true) (hl : t.listening = true) :
    (sessionProtocol strict).run t (.ipcStart :: .displayRun :: tearDown outputs) =
      if outputs = 0 then some t
      else if strict = true ∧ outputs ≠ 1 then none else some t.gone := by
  unfold tearDown
  split
  · simp [Transition.System.run, sessionProtocol, hd, hs]
  · by_cases ho : outputs = 1 <;> cases strict <;>
      simp [Transition.System.run, sessionProtocol, SessionStage.gone, hd, hs, hl, ho]

/-- A session that came up is closed by the protocol as far as it goes, unless readiness was
signalled for a socket that was not opened or several outputs were set up. -/
theorem run_closing (strict : Bool) (g : Graphics) (socket : Directory) (backendType : Backend)
    (calls : StartCalls) : (sessionProtocol strict).run (upStage g socket)
      (closing backendType calls) =
        if strict = true ∧ calls.readinessFile = true ∧ socket ≠ .runPlayos then none
        else if outputsSetUp backendType calls.outputs = 0 then
          some { upStage g socket with ready := calls.readinessFile }
        else if strict = true ∧ outputsSetUp backendType calls.outputs ≠ 1 then none
        else some { SessionStage.displayed.gone with ready := calls.readinessFile } := by
  unfold closing
  cases calls.readinessFile with
  | false =>
    rw [if_neg (by simp), if_neg (by simp), List.nil_append, run_tearDown strict _ rfl rfl rfl]
    rfl
  | true =>
    have hstep : (sessionProtocol strict).step (upStage g socket)
        (.readiness (readinessText calls.pid backendType)) =
          if strict = true → some Directory.runPlayos = some socket then
            some { upStage g socket with ready := true } else none := by
      simp [sessionProtocol, upStage]
    rw [if_pos rfl, List.singleton_append, Transition.System.run_cons, hstep]
    by_cases hc : strict = true ∧ socket ≠ .runPlayos
    · rw [if_neg fun h ↦ hc.2 (Option.some.inj (h hc.1)).symm, if_pos ⟨hc.1, rfl, hc.2⟩]
      rfl
    · have heq : strict = true → some Directory.runPlayos = some socket := fun h ↦
        congrArg some (not_not.mp fun hn ↦ hc ⟨h, fun he ↦ hn he.symm⟩)
      have hopened : ¬ (strict = true ∧ true = true ∧ socket ≠ .runPlayos) :=
        fun h ↦ hc ⟨h.1, h.2.2⟩
      rw [if_pos heq, Option.bind_some, run_tearDown strict _ rfl rfl rfl, if_neg hopened]
      rfl

private theorem at_initial (strict : Bool) (env : Environment) :
    (initial env).graphics = .zeroed ∧ (initial env).At strict env.xdgRuntimeDir .fresh :=
  ⟨rfl, rfl, rfl⟩

end Session

section Main

open Session

variable (env : Environment) (calls : StartCalls)

end Main

end PlayosCompositor
