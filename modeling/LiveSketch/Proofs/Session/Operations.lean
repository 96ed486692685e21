import LiveSketch.Session.Draw

/-!
# Runs of a session

Everything that can happen to a session, one step at a time, and how a property is carried through
all of it.

## Steps

A step is either an operation that the host asks for or a change from outside: files are edited, the
host hands over another canvas, or it takes what the console holds. A run is a list of steps. A
fatal condition does not end a run, so what is proved of runs holds for a host that goes on after
one.

## Properties that script code keeps

Most operations do nothing but tell the engine about the frame, run callables, apply what was drawn
and handle failures, in some order. `Phased` lists these building blocks. A property that each of
them keeps is kept by every phase, and by the delivery of every event. `Kept` adds what the host
tells and what a frame counts. A property that survives these as well is kept by every operation
that evaluates nothing; only reloads and polls are left to look at.

## Main definitions

* `Operation`, `Session.perform`, `Session.play` — steps, and whole runs.
* `Session.launch` — how a run begins.
* `Session.Phased` — what the building blocks of phases keep.
* `Session.Kept` — what the building blocks of phases, events and frames keep.

## Main results

* `Session.Kept.aside`, `Session.Kept.frame` — the operations that evaluate nothing.
* `Session.kept_surroundings` — none of them touches the files, the watcher or the sketch.
-/

namespace LiveSketch

/-- A pointer, keyboard or window event. -/
inductive InputEvent where
  | keyPressed (key : String)
  | keyReleased (key : String)
  | mouseMoved (x y : Int)
  | mouseDragged (x y : Int) (button : MouseButton)
  | mousePressed (x y : Int) (button : MouseButton)
  | mouseReleased (x y : Int) (button : MouseButton)
  | windowResized (width height : Nat)

/-- One step of a run. -/
inductive Operation where
  | install (loadPath : LoadPath)
  | load (path : Path)
  | run
  | setup
  | update
  | draw
  | exit
  | reload (forced : Bool)
  | reloadFrom (path : Path) (forced : Bool)
  | event (event : InputEvent)
  /-- The files are edited in some way. -/
  | edit (files : FileTree)
  /-- The host hands over another canvas. -/
  | present (canvas : Canvas)
  /-- The host takes what a stream of the console holds. -/
  | drain (stream : String)

/-- A phase other than drawing, or an event. -/
def Operation.Aside : Operation → Prop
  | .setup | .update | .exit | .event _ => True
  | _ => False

namespace Session

variable {σ η : Type}

/-- Delivers an event. -/
def input (e : Engine σ η) (event : InputEvent) (s : Session σ η) : Session σ η :=
  match event with
  | .keyPressed key => s.keyPressed e key
  | .keyReleased key => s.keyReleased e key
  | .mouseMoved x y => s.mouseMoved e x y
  | .mouseDragged x y button => s.mouseDragged e x y button
  | .mousePressed x y button => s.mousePressed e x y button
  | .mouseReleased x y button => s.mouseReleased e x y button
  | .windowResized width height => s.windowResized e width height

/-- What an event does to the session before it is delivered, and how it is delivered. -/
def delivery (event : InputEvent) (s : Session σ η) : Session σ η × Entry × List Value :=
  match event with
  | .keyPressed key =>
    ({ s with keyHeld := true }, if s.keyHeld then .keyPressed else .keyDown, [.str key])
  | .keyReleased key => ({ s with keyHeld := false }, .keyUp, [.str key])
  | .mouseMoved x y => ({ s with pointer := s.pointer.moveTo x y }, .mouseMoved, [.int x, .int y])
  | .mouseDragged x y button =>
    ({ s with pointer := s.pointer.dragTo x y button }, .mouseDragged, pointerArgs x y button)
  | .mousePressed x y button =>
    ({ s with pointer := s.pointer.press x y button }, .mouseDown, pointerArgs x y button)
  | .mouseReleased x y button =>
    ({ s with pointer := s.pointer.release x y }, .mouseUp, pointerArgs x y button)
  | .windowResized width height => (s, .windowResized, [.int width, .int height])

theorem input_eq (e : Engine σ η) (event : InputEvent) (s : Session σ η) :
    s.input e event =
      (s.delivery event).1.deliver e (s.delivery event).2.1 (s.delivery event).2.2 := by
  cases event <;> rfl

/-- Takes one step. -/
def perform (e : Engine σ η) (op : Operation) (s : Session σ η) : Session σ η × Option FatalError :=
  match op with
  | .install loadPath => s.installPath loadPath
  | .load path => s.load path
  | .run => s.run e
  | .setup => (s.setup e, none)
  | .update => (s.update e, none)
  | .draw => s.draw e
  | .exit => (s.exit e, none)
  | .reload forced => s.reload e forced
  | .reloadFrom path forced => s.reloadFrom e path forced
  | .event event => (s.input e event, none)
  | .edit files => ({ s with files }, none)
  | .present canvas => ({ s with canvas }, none)
  | .drain stream =>
    ({ s with stage := { s.stage with console := (s.stage.console.drain stream).2 } }, none)

/-- Takes steps in order, whatever fatal conditions they report. -/
def play (e : Engine σ η) : List Operation → Session σ η → Session σ η
  | [], s => s
  | op :: rest, s => play e rest (s.perform e op).1

/-- Installs a search path, loads a sketch and starts it. -/
def launch (e : Engine σ η) (loadPath : LoadPath) (path : Path) (s : Session σ η) : Session σ η :=
  s.play e [.install loadPath, .load path, .run]

theorem launch_eq (e : Engine σ η) (loadPath : LoadPath) (path : Path) (s : Session σ η) :
    s.launch e loadPath path = (((s.installPath loadPath).1.load path).1.run e).1 := rfl

theorem play_append (e : Engine σ η) (ops more : List Operation) (s : Session σ η) :
    s.play e (ops ++ more) = (s.play e ops).play e more := by
  induction ops generalizing s with
  | nil => rfl
  | cons op rest ih => exact ih _

/-- A property that the steps of a run keep holds throughout it. -/
theorem play_invariant_of_mem {e : Engine σ η} {I : Session σ η → Prop} {ops : List Operation}
    (step : ∀ op ∈ ops, ∀ s, I s → I (s.perform e op).1) {s : Session σ η} (hs : I s) :
    I (s.play e ops) := by
  induction ops generalizing s with
  | nil => exact hs
  | cons op rest ih =>
    exact ih (fun op hop => step op (List.mem_cons_of_mem _ hop))
      (step op List.mem_cons_self s hs)

/-- A property that every step keeps holds throughout every run. -/
theorem play_invariant {e : Engine σ η} {I : Session σ η → Prop}
    (step : ∀ op s, I s → I (s.perform e op).1) (ops : List Operation) {s : Session σ η}
    (hs : I s) : I (s.play e ops) :=
  play_invariant_of_mem (fun op _ => step op) hs

end Session

/-! ### Hook pipelines

What every callable keeps is kept by the whole pipeline. The general form speaks about a state
together with the failures that were raised on the way to it. -/

/-- What a callable raised, as a list. -/
def Failure.ofAnswer {α : Type} : Except Failure α → List Failure
  | .ok _ => []
  | .error failure => [failure]

namespace Hooks

variable {η τ : Type} {call : Caller η τ} {I : τ → Prop} {J : τ → List Failure → Prop}

theorem runUntilFailure_gathers
    (hc : ∀ handle args t raised, J t raised →
      J (call handle args t).1 (raised ++ Failure.ofAnswer (call handle args t).2))
    (hooks : List η) {t : τ} {raised : List Failure} (ht : J t raised) :
    J (runUntilFailure call hooks t).1 (raised ++ (runUntilFailure call hooks t).2) := by
  induction hooks generalizing t with
  | nil => simpa [runUntilFailure] using ht
  | cons hook rest ih =>
    have h := hc hook [] t raised ht
    unfold runUntilFailure
    generalize call hook [] t = ran at h ⊢
    obtain ⟨t', failure | value⟩ := ran
    · exact h
    · exact ih (by simpa [Failure.ofAnswer] using h)

theorem runEach_gathers
    (hc : ∀ handle args t raised, J t raised →
      J (call handle args t).1 (raised ++ Failure.ofAnswer (call handle args t).2))
    (hooks : List η) {t : τ} (raised : List Failure) (ht : J t raised) :
    J (runEach call hooks t).1 (raised ++ (runEach call hooks t).2) := by
  induction hooks generalizing t raised with
  | nil => simpa [runEach] using ht
  | cons hook rest ih =>
    have h := hc hook [] t raised ht
    unfold runEach
    generalize call hook [] t = ran at h ⊢
    obtain ⟨t', failure | value⟩ := ran
    · simpa [Failure.ofAnswer] using ih _ h
    · exact ih _ (by simpa [Failure.ofAnswer] using h)

theorem runEntry_gathers
    (hc : ∀ handle args t raised, J t raised →
      J (call handle args t).1 (raised ++ Failure.ofAnswer (call handle args t).2))
    {announce : η → τ → τ} (ha : ∀ handle t raised, J t raised → J (announce handle t) raised)
    (entry : Option η) (args : List Value) {t : τ} {raised : List Failure} (ht : J t raised) :
    J (runEntry call announce entry args t).1
      (raised ++ (runEntry call announce entry args t).2) := by
  cases entry with
  | none => simpa [runEntry] using ht
  | some handle =>
    have h := hc handle args (announce handle t) raised (ha handle t raised ht)
    unfold runEntry
    dsimp only
    generalize call handle args (announce handle t) = ran at h ⊢
    obtain ⟨t', failure | value⟩ := ran
    · exact h
    · exact h

/-- **A pipeline returns what its callables raised.** -/
theorem invokePhase_gathers (h : Hooks η)
    (hc : ∀ handle args t raised, J t raised →
      J (call handle args t).1 (raised ++ Failure.ofAnswer (call handle args t).2))
    {announce : η → τ → τ} (ha : ∀ handle t raised, J t raised → J (announce handle t) raised)
    {prepare : τ → τ} (hp : ∀ t raised, J t raised → J (prepare t) raised) (phase : Phase)
    (entry : Option η) (args : List Value) {t : τ} (ht : J t []) :
    J (h.invokePhase call announce prepare phase entry args t).1
      (h.invokePhase call announce prepare phase entry args t).2 := by
  have hpre := runUntilFailure_gathers hc (h.pre phase) ht
  unfold invokePhase
  generalize runUntilFailure call (h.pre phase) t = before at hpre ⊢
  obtain ⟨t₁, raised⟩ := before
  have hmid : J (if raised.isEmpty then runEntry call announce entry args (prepare t₁)
      else (t₁, raised)).1 (if raised.isEmpty then runEntry call announce entry args (prepare t₁)
      else (t₁, raised)).2 := by
    split
    · next he =>
      obtain rfl := List.isEmpty_iff.mp he
      exact runEntry_gathers hc ha entry args (hp t₁ [] hpre)
    · exact hpre
  dsimp only
  generalize (if raised.isEmpty then runEntry call announce entry args (prepare t₁)
    else (t₁, raised)) = middle at hmid ⊢
  split
  · exact runEach_gathers hc (h.post phase) _ hmid
  · split
    · next he =>
      rw [List.isEmpty_iff.mp he] at hmid
      exact runUntilFailure_gathers hc (h.post phase) hmid
    · exact hmid

theorem runEach_keeps (hc : ∀ handle args t, I t → I (call handle args t).1)
    (hooks : List η) {t : τ} (ht : I t) : I (runEach call hooks t).1 :=
  runEach_gathers (J := fun t _ => I t) (fun handle args t _ => hc handle args t) hooks [] ht

theorem invokePhase_keeps (h : Hooks η) (hc : ∀ handle args t, I t → I (call handle args t).1)
    {announce : η → τ → τ} (ha : ∀ handle t, I t → I (announce handle t)) {prepare : τ → τ}
    (hp : ∀ t, I t → I (prepare t)) (phase : Phase) (entry : Option η) (args : List Value) {t : τ}
    (ht : I t) : I (h.invokePhase call announce prepare phase entry args t).1 :=
  h.invokePhase_gathers (J := fun t _ => I t) (fun handle args t _ => hc handle args t)
    (fun handle t _ => ha handle t) (fun t _ => hp t) phase entry args ht

end Hooks

namespace Session

variable {σ η : Type}

/-- The overlay over the canvas, if there is a snapshot. -/
def overlaid (s : Session σ η) : Session σ η :=
  match s.error with
  | some snapshot => { s with canvas := snapshot.draw s.canvas }
  | none => s

/-- A frame in error starts with the overlay. -/
theorem drawError_eq (e : Engine σ η) (s : Session σ η) :
    s.drawError e = (match (s.overlaid.sync e).applyDefaults e with
      | (s, some failure) =>
        s.note .debug .lifecycle s!"defaults failed while in error: {failure.message}"
      | (s, none) => s).flush e := rfl

/-- Watches one more file, unless it is watched. -/
def watching (s : Session σ η) (path : Path) : Session σ η :=
  if s.watcher.watches path then s
  else { s with watcher := s.watcher.register path }.note .debug .loading s!"watching {path.text}"

/-- The files that the last evaluation pulled in are watched one by one. -/
theorem watchDependencies_eq (s : Session σ η) :
    s.watchDependencies = s.context.dependencies.foldl watching
      { s with context := s.context.takeDependencies.2 } := rfl

/-- What is left of an evaluation: the stage and the context, and more files to watch. -/
def adopt (s : Session σ η) (ran : Stage σ × Context η × Except Failure Unit) :
    Session σ η × Except Failure Unit :=
  (({ s with stage := ran.1, context := ran.2.1 }.followVerbosity).watchDependencies, ran.2.2)

theorem evaluate_eq (e : Engine σ η) (source : String) (path : Path) (forced : Bool)
    (s : Session σ η) : s.evaluate e source path forced = (s.sync e).adopt
      (e.evaluate source path forced (s.sync e).files (s.sync e).stage (s.sync e).context) := rfl

/-- Running, with a note if this is a recovery. -/
def recovered (s : Session σ η) : Session σ η :=
  (match s.status with
    | .error => s.note .info .loading "recovered from error"
    | _ => s).recover

theorem recovered_status (s : Session σ η) : s.recovered.status = .running := by
  rw [recovered]
  split <;> rfl

theorem succeed_eq (e : Engine σ η) (forced : Bool) (s : Session σ η) : s.succeed e forced =
    if forced && s.recovered.setupDone then s.recovered.setup e else s.recovered := rfl

/-- Running, if there was no sketch before. -/
def started (s : Session σ η) : Session σ η :=
  match s.status with
  | .noSketch => { s with status := .running }
  | _ => s

theorem run_eq (e : Engine σ η) (s : Session σ η) : s.run e = match s.script with
    | none => (s.note .debug .lifecycle "run() without a loaded script", none)
    | some _ => s.started.reload e false := rfl

/-- Says which file changed. -/
def announceChange (change : WatchChange) (s : Session σ η) : Session σ η :=
  let s := s.note .info .lifecycle s!"updating {change.path.text} in place"
  { s with stage := s.stage.report Console.stdout s!"Updating {change.path.text} in place...\n" }

/-- A changed dependency in place. -/
def reloadChanged (e : Engine σ η) (path : Path) (s : Session σ η) : Session σ η :=
  match e.loadDependency path s.files s.stage s.context with
  | (stage, context, .ok ()) => { s with stage, context }
  | (stage, context, .error failure) => { s with stage, context }.fail e failure

theorem applyChange_eq (e : Engine σ η) (change : WatchChange) (s : Session σ η) :
    s.applyChange e change =
      (if change.index = 0 then s.announceChange change
      else (s.announceChange change).reloadChanged e change.path).reload e false := rfl

/-- A frame of a running sketch, before it is counted and a held button is pressed again. -/
def drawnPhase (e : Engine σ η) (s : Session σ η) : Session σ η :=
  let ran := (s.sync e).phase e .draw (prepareFrame e)
  (ran.1.failAll e ran.2).flush e

/-- The frame counts whatever happened in it. -/
theorem drawRunning_eq (e : Engine σ η) (s : Session σ η) : s.drawRunning e =
    { s.drawnPhase e with frameCount := (s.drawnPhase e).frameCount + 1 }.continuePress e := rfl

/-- A frame up to the countdown to the next poll. -/
def frame (e : Engine σ η) (s : Session σ η) : Session σ η :=
  match s.status with
  | .error => s.drawError e
  | .running => s.drawRunning e
  | .noSketch => s

theorem draw_eq (e : Engine σ η) (s : Session σ η) : s.draw e =
    if (s.frame e).watcher.tick.2 then
      { s.frame e with watcher := (s.frame e).watcher.tick.1 }.checkWatched e
    else ({ s.frame e with watcher := (s.frame e).watcher.tick.1 }, none) := rfl

/-- A property that the building blocks of phases keep. -/
structure Phased (e : Engine σ η) (I : Session σ η → Prop) : Prop where
  note : ∀ s level area text, I s → I (s.note level area text)
  sync : ∀ s, I s → I (s.sync e)
  call : ∀ handle args s, I s → I (s.call e handle args).1
  flush : ∀ s, I s → I (s.flush e)
  fail : ∀ s failure, I s → I (s.fail e failure)
  canvas : ∀ s canvas, I s → I { s with canvas }
  setupDone : ∀ s, I s → I { s with setupDone := true }

namespace Phased

variable {e : Engine σ η} {I : Session σ η → Prop} {s : Session σ η}

theorem failAll (hI : Phased e I) (failures : List Failure) (hs : I s) :
    I (s.failAll e failures) := by
  induction failures generalizing s with
  | nil => exact hs
  | cons failure rest ih => exact ih (hI.fail s failure hs)

theorem phase (hI : Phased e I) (p : Phase) {prepare : Session σ η → Session σ η}
    (hp : ∀ s, I s → I (prepare s)) (hs : I s) : I (s.phase e p prepare).1 :=
  s.context.hooks.invokePhase_keeps hI.call (fun _ s hs => hI.note s _ _ _ hs) hp p _ _ hs

theorem runPhase (hI : Phased e I) (p : Phase) (hs : I s) : I (s.runPhase e p) :=
  hI.failAll _ (hI.flush _ (hI.phase p (fun _ h => h) (hI.sync s hs)))

theorem setup (hI : Phased e I) (hs : I s) : I (s.setup e) := by
  have h := hI.setupDone s hs
  unfold Session.setup
  dsimp only
  split
  · exact hI.runPhase .setup h
  · exact h

/-- What comes after the recovery of a session is a setup at most. -/
theorem succeed (hI : Phased e I) (forced : Bool) (hs : I s.recovered) :
    I (s.succeed e forced) := by
  rw [succeed_eq]
  split
  · exact hI.setup hs
  · exact hs

theorem applyDefaults (hI : Phased e I) (hs : I s) : I (s.applyDefaults e).1 := by
  unfold Session.applyDefaults
  split
  · exact hs
  · next handle _ =>
    have h := hI.call handle [] s hs
    generalize s.call e handle [] = ran at h ⊢
    obtain ⟨s', failure | value⟩ := ran
    · exact h
    · exact h

theorem update (hI : Phased e I) (hs : I s) : I (s.update e) := by
  have h := hI.applyDefaults (hI.sync s hs)
  unfold Session.update
  generalize (s.sync e).applyDefaults e = ran at h ⊢
  obtain ⟨s', _ | failure⟩ := ran
  · split
    · exact hI.runPhase .update h
    · exact hs
  · split
    · exact hI.fail _ _ h
    · exact hs

theorem exit (hI : Phased e I) (hs : I s) : I (s.exit e) := by
  have h := hI.sync s hs
  unfold Session.exit
  dsimp only
  refine hI.failAll _ (hI.flush _ ?_)
  split
  · exact hI.phase .exit (fun _ h => h) h
  · exact Hooks.runEach_keeps hI.call _ h

theorem deliver (hI : Phased e I) (entry : Entry) (args : List Value) (hs : I s) :
    I (s.deliver e entry args) := by
  unfold Session.deliver
  split
  · next handle _ _ =>
    have h := hI.flush _ <| hI.call handle args _ <| hI.sync _ <|
      hI.note s .trace .input s!"event -> {e.label handle}" hs
    dsimp only
    split
    · exact h
    · exact hI.fail _ _ h
  · exact hs

theorem overlaid (hI : Phased e I) (hs : I s) : I s.overlaid := by
  unfold Session.overlaid
  split
  · exact hI.canvas s _ hs
  · exact hs

theorem drawError (hI : Phased e I) (hs : I s) : I (s.drawError e) := by
  have h := hI.applyDefaults (hI.sync _ (hI.overlaid hs))
  rw [drawError_eq]
  generalize Session.applyDefaults e _ = ran at h ⊢
  obtain ⟨s', _ | failure⟩ := ran
  · exact hI.flush _ h
  · exact hI.flush _ (hI.note _ _ _ _ h)

theorem continuePress (hI : Phased e I) (hs : I s) : I (s.continuePress e) := by
  unfold Session.continuePress
  split
  · exact hI.deliver _ _ hs
  · exact hs

/-- A frame of a running sketch up to the press of a held button. -/
theorem drawnPhase (hI : Phased e I) (hs : I s) : I (s.drawnPhase e) := by
  have prepared : ∀ s, I s → I (s.prepareFrame e) := fun s hs =>
    hI.canvas _ _ (hI.flush s hs)
  exact hI.flush _ <| hI.failAll _ <| hI.phase .draw prepared (hI.sync s hs)

end Phased

/-- A property that the building blocks of phases, events and frames keep. -/
structure Kept (e : Engine σ η) (I : Session σ η → Prop) : Prop extends Phased e I where
  frameCount : ∀ s frameCount, I s → I { s with frameCount }
  keyHeld : ∀ s keyHeld, I s → I { s with keyHeld }
  pointer : ∀ s pointer, I s → I { s with pointer }

namespace Kept

variable {e : Engine σ η} {I : Session σ η → Prop} {s : Session σ η}

/-- Input events. -/
theorem event (hI : Kept e I) (event : InputEvent) (hs : I s) : I (s.input e event) := by
  rw [input_eq]
  refine hI.deliver _ _ ?_
  cases event with
  | keyPressed key => exact hI.keyHeld s true hs
  | keyReleased key => exact hI.keyHeld s false hs
  | mouseMoved x y => exact hI.pointer s _ hs
  | mouseDragged x y button => exact hI.pointer s _ hs
  | mousePressed x y button => exact hI.pointer s _ hs
  | mouseReleased x y button => exact hI.pointer s _ hs
  | windowResized width height => exact hs

/-- The steps that evaluate nothing, draws apart. -/
theorem aside (hI : Kept e I) {op : Operation} (h : op.Aside) (hs : I s) :
    I (s.perform e op).1 := by
  cases op with
  | setup => exact hI.setup hs
  | update => exact hI.update hs
  | exit => exact hI.exit hs
  | event event => exact hI.event event hs
  | install _ | load _ | run | draw | reload _ | reloadFrom _ _ | edit _ | present _ | drain _ =>
    exact h.elim

theorem drawRunning (hI : Kept e I) (hs : I s) : I (s.drawRunning e) :=
  hI.continuePress <| hI.frameCount _ _ <| hI.drawnPhase hs

theorem frame (hI : Kept e I) (hs : I s) : I (s.frame e) := by
  unfold Session.frame
  split
  · exact hI.drawError hs
  · exact hI.drawRunning hs
  · exact hs

end Kept

/-! ### What the building blocks leave alone -/

variable {e : Engine σ η} {s : Session σ η}

@[simp] theorem keepFrame_status : s.keepFrame.status = s.status := by
  unfold keepFrame
  split <;> simp [*]

@[simp] theorem keepFrame_files : s.keepFrame.files = s.files := by
  unfold keepFrame
  split <;> rfl

/-- A failure changes the stage, the status and the snapshot. -/
theorem fail_eq (failure : Failure) :
    s.fail e failure = { s with
      stage := (s.fail e failure).stage
      status := .error
      error := (s.fail e failure).error } := by
  unfold fail
  split <;> rfl

/-- Handling a failure is entering the error state, with one backdrop or another. -/
theorem exists_fail_eq_enterError (e : Engine σ η) (failure : Failure) (s : Session σ η) :
    ∃ backdrop, s.fail e failure = s.enterError e failure backdrop := by
  unfold fail
  split
  · exact ⟨_, rfl⟩
  · exact ⟨none, rfl⟩

@[simp] theorem fail_status (failure : Failure) : (s.fail e failure).status = .error := by
  rw [fail_eq]

/-- Files are watched in the order in which they were asked for. -/
theorem foldl_watching (paths : List Path) (s : Session σ η) :
    paths.foldl watching s = { s with
      stage := { s.stage with log := (paths.foldl watching s).stage.log }
      watcher := paths.foldl Watcher.register s.watcher } := by
  induction paths generalizing s with
  | nil => rfl
  | cons path rest ih =>
    rw [List.foldl_cons, List.foldl_cons, ih (s.watching path)]
    unfold watching Watcher.register
    split <;> rfl

/-- An evaluation changes the stage, the context and the list of watched files. -/
theorem adopt_eq (ran : Stage σ × Context η × Except Failure Unit) : (s.adopt ran).1 = { s with
    stage := (s.adopt ran).1.stage
    context := ran.2.1.takeDependencies.2
    watcher := ran.2.1.dependencies.foldl Watcher.register s.watcher } := by
  unfold adopt
  rw [watchDependencies_eq, foldl_watching]
  rfl

theorem adopt_engine (ran : Stage σ × Context η × Except Failure Unit) :
    (s.adopt ran).1.stage.engine = ran.1.engine := by
  unfold adopt
  rw [watchDependencies_eq, foldl_watching]
  rfl

/-- After an evaluation the console is as verbose as the context says. -/
theorem adopt_console (ran : Stage σ × Context η × Except Failure Unit) :
    (s.adopt ran).1.stage.console = ran.1.console.setVerbose ran.2.1.verbose := by
  rw [adopt, watchDependencies_eq, foldl_watching]
  rfl

/-- A changed dependency that is reloaded successfully changes the stage and the context. -/
theorem reloadChanged_of_ok {path : Path}
    (hok : (e.loadDependency path s.files s.stage s.context).2.2 = .ok ()) :
    s.reloadChanged e path = { s with
      stage := (e.loadDependency path s.files s.stage s.context).1
      context := (e.loadDependency path s.files s.stage s.context).2.1 } := by
  unfold reloadChanged
  generalize e.loadDependency path s.files s.stage s.context = ran at hok
  obtain ⟨stage, context, result⟩ := ran
  subst hok
  rfl

/-- One that is not ends in the error state. -/
theorem reloadChanged_cases (e : Engine σ η) (path : Path) (s : Session σ η) :
    (s.reloadChanged e path).status = .error ∨
      (e.loadDependency path s.files s.stage s.context).2.2 = .ok () := by
  unfold reloadChanged
  generalize e.loadDependency path s.files s.stage s.context = ran
  obtain ⟨stage, context, failure | _⟩ := ran
  · exact .inl (fail_status failure)
  · exact .inr rfl

/-- A property may be given up on a failure. -/
theorem Kept.orError {I : Session σ η → Prop} (hI : Kept e I) :
    Kept e fun s => s.status = .error ∨ I s where
  note s level area text := Or.imp id (hI.note s level area text)
  sync s := Or.imp id (hI.sync s)
  call handle args s := Or.imp id (hI.call handle args s)
  flush s := Or.imp id (hI.flush s)
  fail _ failure _ := .inl (fail_status failure)
  canvas s canvas := Or.imp id (hI.canvas s canvas)
  frameCount s frameCount := Or.imp id (hI.frameCount s frameCount)
  keyHeld s keyHeld := Or.imp id (hI.keyHeld s keyHeld)
  pointer s pointer := Or.imp id (hI.pointer s pointer)
  setupDone s := Or.imp id (hI.setupDone s)

/-- Phases and events leave the files, the watcher and the choice of the sketch alone. -/
theorem kept_surroundings (files : FileTree) (watcher : Watcher) (script : Option Path) :
    Kept e fun s => s.files = files ∧ s.watcher = watcher ∧ s.script = script where
  note _ _ _ _ h := h
  sync _ h := h
  call _ _ _ h := h
  flush _ h := h
  fail s failure h := by
    rw [fail_eq]
    exact h
  canvas _ _ h := h
  frameCount _ _ h := h
  keyHeld _ _ h := h
  pointer _ _ h := h
  setupDone _ h := h

end Session

/-! ### For examples -/

instance decidableEqExcept {ε α : Type} [DecidableEq ε] [DecidableEq α] : DecidableEq (Except ε α)
  | .error a, .error b => decidable_of_iff (a = b) (by simp)
  | .ok a, .ok b => decidable_of_iff (a = b) (by simp)
  | .error _, .ok _ => isFalse nofun
  | .ok _, .error _ => isFalse nofun

/-- A directory with a sketch and a library. -/
def FileTree.sketchbook (main : String) (mainTime : Int) (lib : String) (libTime : Int) :
    FileTree where
  nodes := [(["s"], .directory 0), (["s", "main"], .file (Utf8.encode main) mainTime),
    (["s", "lib"], .file (Utf8.encode lib) libTime)]

end LiveSketch
