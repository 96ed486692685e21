import LiveSketch.Proofs.Session.Operations

/-!
# Observed engines

What happened to an engine in the course of a run is not part of its state. To speak about it, an
engine is run together with an observer, which sees every request to evaluate source text, to load a
dependency or to take note of a frame, and keeps a record of its own beside the engine's state.

## Why an observed run is the run itself

The lifecycle never looks into the state of an engine. So a map between the states of two engines
that commutes with their operations commutes with every operation of a session, and the map that
forgets the observer's record is of this kind: erasing the record from an observed run gives the run
of the plain engine.

## Main definitions

* `Engine.Hom` — a map between the states of two engines that commutes with their operations.
* `Observer`, `Engine.observed` — an observer, and an engine that is run with it.

## Main results

* `Engine.Hom.play` — whole runs commute with such maps.
* `Engine.observed_play` — an observed run without the record is the run of the plain engine.
-/

namespace LiveSketch

variable {σ τ η κ : Type}

/-- Changes the engine's state. -/
def Stage.map (f : σ → τ) (stage : Stage σ) : Stage τ where
  engine := f stage.engine
  console := stage.console
  log := stage.log

/-- Changes the state of the engine in a session. -/
def Session.map (f : σ → τ) (s : Session σ η) : Session τ η where
  status := s.status
  stage := s.stage.map f
  context := s.context
  canvas := s.canvas
  files := s.files
  watcher := s.watcher
  script := s.script
  frameCount := s.frameCount
  initialSize := s.initialSize
  keyHeld := s.keyHeld
  pointer := s.pointer
  setupDone := s.setupDone
  lastGoodFrame := s.lastGoodFrame
  error := s.error

section

variable (f : σ → τ) (s : Session σ η)

@[simp] theorem Session.map_status : (s.map f).status = s.status := rfl

@[simp] theorem Session.map_stage : (s.map f).stage = s.stage.map f := rfl

@[simp] theorem Session.map_context : (s.map f).context = s.context := rfl

@[simp] theorem Session.map_files : (s.map f).files = s.files := rfl

@[simp] theorem Session.map_watcher : (s.map f).watcher = s.watcher := rfl

@[simp] theorem Session.map_script : (s.map f).script = s.script := rfl

@[simp] theorem Session.map_pointer : (s.map f).pointer = s.pointer := rfl

@[simp] theorem Session.map_setupDone : (s.map f).setupDone = s.setupDone := rfl

end

/-- A map between the states of two engines that commutes with their operations. -/
structure Engine.Hom (e : Engine σ η) (e' : Engine τ η) (f : σ → τ) : Prop where
  evaluate : ∀ source origin reset files stage ctx,
    e'.evaluate source origin reset files (stage.map f) ctx =
      Prod.map (Stage.map f) id (e.evaluate source origin reset files stage ctx)
  loadDependency : ∀ path files stage ctx,
    e'.loadDependency path files (stage.map f) ctx =
      Prod.map (Stage.map f) id (e.loadDependency path files stage ctx)
  processError : ∀ failure stage,
    e'.processError failure (stage.map f) =
      Prod.map (Stage.map f) id (e.processError failure stage)
  sync : ∀ env files stage ctx,
    e'.sync env files (stage.map f) ctx = Prod.map (Stage.map f) id (e.sync env files stage ctx)
  flush : ∀ stage canvas,
    e'.flush (stage.map f) canvas = Prod.map (Stage.map f) id (e.flush stage canvas)
  invoke : ∀ handle args stage,
    e'.invoke handle args (stage.map f) =
      Prod.map (Stage.map f) id (e.invoke handle args stage)
  label : e'.label = e.label

/-! ### Hook pipelines -/

namespace Hooks

variable {α β : Type} {call : Caller η α} {call' : Caller η β} {φ : α → β}

theorem runUntilFailure_map
    (hc : ∀ handle args t, call' handle args (φ t) = Prod.map φ id (call handle args t))
    (hooks : List η) (t : α) :
    runUntilFailure call' hooks (φ t) = Prod.map φ id (runUntilFailure call hooks t) := by
  induction hooks generalizing t with
  | nil => rfl
  | cons hook rest ih =>
    simp only [runUntilFailure, hc]
    generalize call hook [] t = ran
    obtain ⟨t', failure | value⟩ := ran
    · rfl
    · exact ih t'

theorem runEach_map
    (hc : ∀ handle args t, call' handle args (φ t) = Prod.map φ id (call handle args t))
    (hooks : List η) (t : α) :
    runEach call' hooks (φ t) = Prod.map φ id (runEach call hooks t) := by
  induction hooks generalizing t with
  | nil => rfl
  | cons hook rest ih =>
    simp only [runEach, hc]
    generalize call hook [] t = ran
    obtain ⟨t', failure | value⟩ := ran
    · simp [Prod.map, ih]
    · exact ih t'

theorem runEntry_map
    (hc : ∀ handle args t, call' handle args (φ t) = Prod.map φ id (call handle args t))
    {announce : η → α → α} {announce' : η → β → β}
    (ha : ∀ handle t, announce' handle (φ t) = φ (announce handle t)) (entry : Option η)
    (args : List Value) (t : α) :
    runEntry call' announce' entry args (φ t) =
      Prod.map φ id (runEntry call announce entry args t) := by
  cases entry with
  | none => rfl
  | some handle =>
    simp only [runEntry, ha, hc]
    generalize call handle args (announce handle t) = ran
    obtain ⟨t', failure | value⟩ := ran
    · rfl
    · rfl

theorem invokePhase_map (h : Hooks η)
    (hc : ∀ handle args t, call' handle args (φ t) = Prod.map φ id (call handle args t))
    {announce : η → α → α} {announce' : η → β → β}
    (ha : ∀ handle t, announce' handle (φ t) = φ (announce handle t)) {prepare : α → α}
    {prepare' : β → β} (hp : ∀ t, prepare' (φ t) = φ (prepare t)) (phase : Phase)
    (entry : Option η) (args : List Value) (t : α) :
    h.invokePhase call' announce' prepare' phase entry args (φ t) =
      Prod.map φ id (h.invokePhase call announce prepare phase entry args t) := by
  unfold invokePhase
  rw [runUntilFailure_map hc]
  obtain ⟨t₁, raised⟩ := runUntilFailure call (h.pre phase) t
  have middle : (if raised.isEmpty then runEntry call' announce' entry args (prepare' (φ t₁))
      else (φ t₁, raised)) = Prod.map φ id
        (if raised.isEmpty then runEntry call announce entry args (prepare t₁)
        else (t₁, raised)) := by
    split
    · rw [hp, runEntry_map hc ha]
    · rfl
  simp only [Prod.map, id] at middle ⊢
  rw [middle]
  obtain ⟨t₂, raised⟩ := if raised.isEmpty then runEntry call announce entry args (prepare t₁)
    else (t₁, raised)
  dsimp only
  rw [runEach_map hc, runUntilFailure_map hc]
  split
  · rfl
  · split <;> rfl

end Hooks

/-! ### Operations of a session -/

namespace Engine.Hom

variable {e : Engine σ η} {e' : Engine τ η} {f : σ → τ} (hom : e.Hom e' f)
include hom

theorem sync_map (s : Session σ η) : (s.map f).sync e' = (s.sync e).map f := by
  exact congrArg (fun told => Session.followVerbosity
    { s.map f with stage := told.1, context := told.2 })
    (hom.sync s.frameEnv s.files s.stage s.context)

theorem flush_map (s : Session σ η) : (s.map f).flush e' = (s.flush e).map f := by
  exact congrArg (fun drawn => { s.map f with stage := drawn.1, canvas := drawn.2 })
    (hom.flush s.stage s.canvas)

theorem call_map (handle : η) (args : List Value) (s : Session σ η) :
    (s.map f).call e' handle args = Prod.map (Session.map f) id (s.call e handle args) := by
  exact congrArg (fun ran => ({ s.map f with stage := ran.1 }, ran.2))
    (hom.invoke handle args s.stage)

theorem describeFailure_map (failure : Failure) (stage : Stage σ) :
    describeFailure e' failure (stage.map f) =
      Prod.map (Stage.map f) id (describeFailure e failure stage) := by
  simp only [describeFailure, hom.processError]
  generalize e.processError failure stage = told
  obtain ⟨stage', again | message⟩ := told
  · rfl
  · rfl

theorem enterError_map (failure : Failure) (backdrop : Option Image) (s : Session σ η) :
    (s.map f).enterError e' failure backdrop = (s.enterError e failure backdrop).map f := by
  have h := hom.describeFailure_map failure s.stage
  unfold Session.enterError
  rw [Session.map_stage, h]
  rfl

theorem fail_map (failure : Failure) (s : Session σ η) :
    (s.map f).fail e' failure = (s.fail e failure).map f := by
  unfold Session.fail
  rw [Session.map_status]
  split
  · exact hom.enterError_map failure _ s
  · exact hom.enterError_map failure none s

theorem failAll_map (failures : List Failure) (s : Session σ η) :
    (s.map f).failAll e' failures = (s.failAll e failures).map f := by
  induction failures generalizing s with
  | nil => rfl
  | cons failure rest ih => exact (congrArg _ (hom.fail_map failure s)).trans (ih _)

theorem phase_map (p : Phase) {prepare : Session σ η → Session σ η}
    {prepare' : Session τ η → Session τ η} (hp : ∀ s, prepare' (s.map f) = (prepare s).map f)
    (s : Session σ η) :
    (s.map f).phase e' p prepare' = Prod.map (Session.map f) id (s.phase e p prepare) := by
  refine Hooks.invokePhase_map _ hom.call_map (fun handle s => ?_) hp _ _ _ s
  simp only [Session.announce, hom.label]
  rfl

theorem runPhase_map (p : Phase) (s : Session σ η) :
    (s.map f).runPhase e' p = (s.runPhase e p).map f := by
  have hid : ∀ s : Session σ η, id (s.map f) = (id s).map f := fun _ => rfl
  unfold Session.runPhase
  rw [hom.sync_map, hom.phase_map p hid]
  generalize (s.sync e).phase e p id = ran
  obtain ⟨s', failures⟩ := ran
  exact (congrArg _ (hom.flush_map s')).trans (hom.failAll_map failures _)

theorem setup_map (s : Session σ η) : (s.map f).setup e' = (s.setup e).map f := by
  have h := hom.runPhase_map .setup { s with setupDone := true }
  cases hs : s.status <;> simp_all [Session.setup, Session.map]

theorem applyDefaults_map (s : Session σ η) :
    (s.map f).applyDefaults e' = Prod.map (Session.map f) id (s.applyDefaults e) := by
  unfold Session.applyDefaults
  rw [Session.map_context]
  cases s.context.entries.get .defaults with
  | none => rfl
  | some handle =>
    simp only [hom.call_map]
    generalize s.call e handle [] = ran
    obtain ⟨s', failure | value⟩ := ran
    · rfl
    · rfl

theorem update_map (s : Session σ η) : (s.map f).update e' = (s.update e).map f := by
  unfold Session.update
  rw [Session.map_status, hom.sync_map, hom.applyDefaults_map]
  generalize (s.sync e).applyDefaults e = ran
  obtain ⟨s', _ | failure⟩ := ran
  · dsimp only [Prod.map, id]
    rw [hom.runPhase_map]
    split <;> rfl
  · dsimp only [Prod.map, id]
    rw [hom.fail_map]
    split <;> rfl

theorem exit_map (s : Session σ η) : (s.map f).exit e' = (s.exit e).map f := by
  have hid : ∀ s : Session σ η, id (s.map f) = (id s).map f := fun _ => rfl
  unfold Session.exit
  rw [hom.sync_map]
  dsimp only
  rw [Session.map_status, Session.map_context, hom.phase_map .exit hid]
  unfold Hooks.invokePosthooks
  rw [Hooks.runEach_map hom.call_map]
  split
  · generalize (s.sync e).phase e .exit id = ran
    obtain ⟨s', failures⟩ := ran
    exact (congrArg _ (hom.flush_map s')).trans (hom.failAll_map failures _)
  · generalize Hooks.runEach (Session.call e) ((s.sync e).context.hooks.post .exit) _ = ran
    obtain ⟨s', failures⟩ := ran
    exact (congrArg _ (hom.flush_map s')).trans (hom.failAll_map failures _)

theorem deliver_map (entry : Entry) (args : List Value) (s : Session σ η) :
    (s.map f).deliver e' entry args = (s.deliver e entry args).map f := by
  have hn : ∀ text, (s.map f).note .trace .input text = (s.note .trace .input text).map f :=
    fun _ => rfl
  unfold Session.deliver
  rw [Session.map_status, Session.map_context]
  split
  · next handle _ _ =>
    dsimp only
    rw [hom.label, hn, hom.sync_map, hom.call_map]
    generalize ((s.note .trace .input s!"event -> {e.label handle}").sync e).call e handle args =
      ran
    obtain ⟨s', failure | value⟩ := ran
    · dsimp only [Prod.map, id]
      rw [hom.flush_map, hom.fail_map]
    · exact hom.flush_map s'
  · rfl

theorem input_map (event : InputEvent) (s : Session σ η) :
    (s.map f).input e' event = (s.input e event).map f := by
  cases event with
  | keyPressed key => exact hom.deliver_map _ _ { s with keyHeld := true }
  | keyReleased key => exact hom.deliver_map _ _ { s with keyHeld := false }
  | mouseMoved x y => exact hom.deliver_map _ _ { s with pointer := s.pointer.moveTo x y }
  | mouseDragged x y button =>
    exact hom.deliver_map _ _ { s with pointer := s.pointer.dragTo x y button }
  | mousePressed x y button =>
    exact hom.deliver_map _ _ { s with pointer := s.pointer.press x y button }
  | mouseReleased x y button =>
    exact hom.deliver_map _ _ { s with pointer := s.pointer.release x y }
  | windowResized width height => exact hom.deliver_map _ _ s

theorem drawError_map (s : Session σ η) : (s.map f).drawError e' = (s.drawError e).map f := by
  have ho : (s.map f).overlaid = s.overlaid.map f := by
    cases hs : s.error <;> simp [Session.overlaid, Session.map, hs]
  rw [Session.drawError_eq, Session.drawError_eq, ho, hom.sync_map, hom.applyDefaults_map]
  generalize (s.overlaid.sync e).applyDefaults e = ran
  obtain ⟨s', _ | failure⟩ := ran
  · exact hom.flush_map s'
  · exact hom.flush_map (s'.note .debug .lifecycle _)

theorem continuePress_map (s : Session σ η) :
    (s.map f).continuePress e' = (s.continuePress e).map f := by
  unfold Session.continuePress
  rw [Session.map_status, Session.map_pointer]
  split
  · exact hom.deliver_map _ _ s
  · rfl

theorem drawRunning_map (s : Session σ η) :
    (s.map f).drawRunning e' = (s.drawRunning e).map f := by
  have prepared : ∀ s : Session σ η,
      (s.map f).prepareFrame e' = (s.prepareFrame e).map f := fun s => by
    simp only [Session.prepareFrame, hom.flush_map]
    rfl
  unfold Session.drawRunning
  rw [hom.sync_map, hom.phase_map .draw prepared]
  generalize (s.sync e).phase e .draw (Session.prepareFrame e) = ran
  obtain ⟨s', failures⟩ := ran
  dsimp only [Prod.map, id]
  rw [hom.failAll_map, hom.flush_map]
  exact hom.continuePress_map
    { (s'.failAll e failures).flush e with frameCount := _ }

/-! ### Loading and reloading -/

omit hom in
theorem installPath_map (loadPath : LoadPath) (s : Session σ η) :
    (s.map f).installPath loadPath = Prod.map (Session.map f) id (s.installPath loadPath) := by
  unfold Session.installPath
  split
  · rfl
  · rfl

omit hom in
theorem load_map (path : Path) (s : Session σ η) :
    (s.map f).load path = Prod.map (Session.map f) id (s.load path) := by
  unfold Session.load
  rw [Session.map_files]
  split
  · rfl
  · rfl
  · rfl

omit hom in
theorem watchDependencies_map (s : Session σ η) :
    (s.map f).watchDependencies = s.watchDependencies.map f := by
  have one : ∀ (s : Session σ η) path, (s.map f).watching path = (s.watching path).map f := by
    intro s path
    unfold Session.watching
    rw [Session.map_watcher]
    split
    · rfl
    · rfl
  have many : ∀ (paths : List Path) (s : Session σ η),
      paths.foldl Session.watching (s.map f) = (paths.foldl Session.watching s).map f :=
    fun paths s => List.foldl_hom (Session.map f) one
  exact many _ { s with context := s.context.takeDependencies.2 }

omit hom in
theorem adopt_map (ran : Stage σ × Context η × Except Failure Unit) (s : Session σ η) :
    (s.map f).adopt (Prod.map (Stage.map f) id ran) = Prod.map (Session.map f) id (s.adopt ran) :=
  congrArg (·, ran.2.2) (watchDependencies_map
    (Session.followVerbosity { s with stage := ran.1, context := ran.2.1 }))

theorem evaluate_map (source : String) (path : Path) (forced : Bool) (s : Session σ η) :
    (s.map f).evaluate e' source path forced =
      Prod.map (Session.map f) id (s.evaluate e source path forced) := by
  rw [Session.evaluate_eq, Session.evaluate_eq, hom.sync_map, ← adopt_map, ← hom.evaluate]
  rfl

theorem evaluateBytes_map (path : Path) (bytes : List UInt8) (forced : Bool) (s : Session σ η) :
    (s.map f).evaluateBytes e' path bytes forced =
      Prod.map (Session.map f) id (s.evaluateBytes e path bytes forced) := by
  unfold Session.evaluateBytes
  dsimp only
  split
  · exact hom.evaluate_map _ path forced (s.announceReading path bytes.length forced)
  · rfl

theorem succeed_map (forced : Bool) (s : Session σ η) :
    (s.map f).succeed e' forced = (s.succeed e forced).map f := by
  have hr : (s.map f).recovered = s.recovered.map f := by
    cases hs : s.status <;> simp [Session.recovered, Session.map, hs] <;> rfl
  rw [Session.succeed_eq, Session.succeed_eq, hr, Session.map_setupDone]
  split
  · exact hom.setup_map _
  · rfl

theorem reloadFrom_map (path : Path) (forced : Bool) (s : Session σ η) :
    (s.map f).reloadFrom e' path forced =
      Prod.map (Session.map f) id (s.reloadFrom e path forced) := by
  have hk : (s.map f).keepFrame = s.keepFrame.map f := by
    cases hs : s.status <;> simp [Session.keepFrame, Session.map, hs]
  have hb : ∀ s : Session σ η, (s.map f).evaluationBackdrop = s.evaluationBackdrop := fun _ => rfl
  unfold Session.reloadFrom
  rw [Session.map_status, hk]
  dsimp only
  rw [Session.map_files]
  split
  · rfl
  · split
    · rfl
    · next bytes _ =>
      rw [hom.evaluateBytes_map]
      generalize s.keepFrame.evaluateBytes e path bytes _ = ran
      obtain ⟨s', failure | value⟩ := ran
      · dsimp only [Prod.map, id]
        rw [hb, hom.enterError_map]
      · dsimp only [Prod.map, id]
        rw [hom.succeed_map]

theorem reload_map (forced : Bool) (s : Session σ η) :
    (s.map f).reload e' forced = Prod.map (Session.map f) id (s.reload e forced) := by
  unfold Session.reload
  rw [Session.map_script]
  split
  · rfl
  · exact hom.reloadFrom_map _ forced s

theorem run_map (s : Session σ η) :
    (s.map f).run e' = Prod.map (Session.map f) id (s.run e) := by
  unfold Session.run
  rw [Session.map_script, Session.map_status]
  split
  · rfl
  · split
    · exact hom.reload_map false { s with status := .running }
    · exact hom.reload_map false s

theorem applyChange_map (change : WatchChange) (s : Session σ η) :
    (s.map f).applyChange e' change = Prod.map (Session.map f) id (s.applyChange e change) := by
  have ha : (s.map f).announceChange change = (s.announceChange change).map f := rfl
  have hl : ∀ s : Session σ η, (s.map f).reloadChanged e' change.path =
      (s.reloadChanged e change.path).map f := by
    intro s
    have h := hom.loadDependency change.path s.files s.stage s.context
    unfold Session.reloadChanged
    rw [Session.map_files, Session.map_stage, Session.map_context, h]
    generalize e.loadDependency change.path s.files s.stage s.context = ran
    obtain ⟨stage, context, failure | value⟩ := ran
    · exact hom.fail_map failure { s with stage, context }
    · rfl
  rw [Session.applyChange_eq, Session.applyChange_eq, ha, hl]
  split
  · exact hom.reload_map false _
  · exact hom.reload_map false _

theorem applyChanges_map (changes : List WatchChange) (s : Session σ η) :
    (s.map f).applyChanges e' changes =
      Prod.map (Session.map f) id (s.applyChanges e changes) := by
  induction changes generalizing s with
  | nil => rfl
  | cons change rest ih =>
    unfold Session.applyChanges
    rw [hom.applyChange_map]
    generalize s.applyChange e change = ran
    obtain ⟨s', _ | fatal⟩ := ran
    · exact ih s'
    · rfl

theorem checkWatched_map (s : Session σ η) :
    (s.map f).checkWatched e' = Prod.map (Session.map f) id (s.checkWatched e) := by
  unfold Session.checkWatched
  rw [Session.map_watcher, Session.map_files]
  split
  · rfl
  · next watcher changes _ => exact hom.applyChanges_map changes { s with watcher }

theorem draw_map (s : Session σ η) :
    (s.map f).draw e' = Prod.map (Session.map f) id (s.draw e) := by
  have hw : (s.map f).frame e' = (s.frame e).map f := by
    unfold Session.frame
    rw [Session.map_status]
    split
    · exact hom.drawError_map s
    · exact hom.drawRunning_map s
    · rfl
  rw [Session.draw_eq, Session.draw_eq, hw, Session.map_watcher]
  split
  · exact hom.checkWatched_map { s.frame e with watcher := (s.frame e).watcher.tick.1 }
  · rfl

/-! ### Runs -/

theorem perform_map (op : Operation) (s : Session σ η) :
    (s.map f).perform e' op = Prod.map (Session.map f) id (s.perform e op) := by
  cases op with
  | install loadPath => exact installPath_map loadPath s
  | load path => exact load_map path s
  | run => exact hom.run_map s
  | setup => exact congrArg (·, none) (hom.setup_map s)
  | update => exact congrArg (·, none) (hom.update_map s)
  | draw => exact hom.draw_map s
  | exit => exact congrArg (·, none) (hom.exit_map s)
  | reload forced => exact hom.reload_map forced s
  | reloadFrom path forced => exact hom.reloadFrom_map path forced s
  | event event => exact congrArg (·, none) (hom.input_map event s)
  | edit files => rfl
  | present canvas => rfl
  | drain stream => rfl

/-- **Whole runs commute with maps between engines.** -/
theorem play (ops : List Operation) (s : Session σ η) :
    (s.map f).play e' ops = (s.play e ops).map f := by
  induction ops generalizing s with
  | nil => rfl
  | cons op rest ih =>
    unfold Session.play
    rw [hom.perform_map]
    exact ih _

end Engine.Hom

/-! ### Observers -/

/-- What an observer makes of the requests to an engine, given its record so far. -/
structure Observer (σ η κ : Type) where
  evaluate (source : String) (origin : Path) (reset : Bool) (files : FileTree) :
    Stage σ → Context η → κ → κ := fun _ _ record => record
  loadDependency (path : Path) (files : FileTree) : Stage σ → Context η → κ → κ :=
    fun _ _ record => record
  sync (env : FrameEnv) (files : FileTree) : Stage σ → Context η → κ → κ :=
    fun _ _ record => record

/-- The engine's own stage, without the record of an observer. -/
def Stage.plain (stage : Stage (σ × κ)) : Stage σ := stage.map Prod.fst

/-- A session without the record of an observer. -/
def Session.plain (s : Session (σ × κ) η) : Session σ η := s.map Prod.fst

/-- The record of an observer. -/
def Session.record (s : Session (σ × κ) η) : κ := s.stage.engine.2

namespace Engine

/-- An engine that is run with an observer. -/
def observed (e : Engine σ η) (o : Observer σ η κ) : Engine (σ × κ) η where
  evaluate source origin reset files stage ctx :=
    let record := o.evaluate source origin reset files stage.plain ctx stage.engine.2
    Prod.map (Stage.map (·, record)) id (e.evaluate source origin reset files stage.plain ctx)
  loadDependency path files stage ctx :=
    let record := o.loadDependency path files stage.plain ctx stage.engine.2
    Prod.map (Stage.map (·, record)) id (e.loadDependency path files stage.plain ctx)
  processError failure stage :=
    Prod.map (Stage.map (·, stage.engine.2)) id (e.processError failure stage.plain)
  sync env files stage ctx :=
    let record := o.sync env files stage.plain ctx stage.engine.2
    Prod.map (Stage.map (·, record)) id (e.sync env files stage.plain ctx)
  flush stage canvas :=
    Prod.map (Stage.map (·, stage.engine.2)) id (e.flush stage.plain canvas)
  invoke handle args stage :=
    Prod.map (Stage.map (·, stage.engine.2)) id (e.invoke handle args stage.plain)
  label := e.label

/-- Forgetting the record commutes with everything an observed engine does. -/
theorem observed_hom (e : Engine σ η) (o : Observer σ η κ) : (e.observed o).Hom e Prod.fst where
  evaluate _ _ _ _ _ _ := rfl
  loadDependency _ _ _ _ := rfl
  processError _ _ := rfl
  sync _ _ _ _ := rfl
  flush _ _ := rfl
  invoke _ _ _ := rfl
  label := rfl

/-- **An observed run without the record is the run of the plain engine.** -/
theorem observed_play (e : Engine σ η) (o : Observer σ η κ) (ops : List Operation)
    (s : Session (σ × κ) η) : (s.play (e.observed o) ops).plain = s.plain.play e ops :=
  ((observed_hom e o).play ops s).symm

/-- An observer sees nothing of how a failure is worded. -/
theorem enterError_record (e : Engine σ η) (o : Observer σ η κ) (failure : Failure)
    (backdrop : Option Image) (s : Session (σ × κ) η) :
    (s.enterError (e.observed o) failure backdrop).record = s.record := by
  have hp : (e.observed o).processError failure s.stage =
    Prod.map (Stage.map (·, s.record)) id (e.processError failure s.stage.plain) := rfl
  unfold Session.enterError describeFailure
  rw [hp]
  generalize e.processError failure s.stage.plain = told
  obtain ⟨stage, again | message⟩ := told
  · rfl
  · rfl

theorem fail_record (e : Engine σ η) (o : Observer σ η κ) (failure : Failure)
    (s : Session (σ × κ) η) : (s.fail (e.observed o) failure).record = s.record := by
  obtain ⟨backdrop, hf⟩ := Session.exists_fail_eq_enterError (e.observed o) failure s
  rw [hf]
  exact enterError_record e o failure backdrop s

theorem failAll_record (e : Engine σ η) (o : Observer σ η κ) (failures : List Failure)
    (s : Session (σ × κ) η) : (s.failAll (e.observed o) failures).record = s.record := by
  induction failures generalizing s with
  | nil => rfl
  | cons failure rest ih => exact (ih _).trans (fail_record e o failure s)

/-- Of a phase, an observer sees how it begins. -/
theorem runPhase_record (e : Engine σ η) (o : Observer σ η κ) (p : Phase)
    (s : Session (σ × κ) η) :
    (s.runPhase (e.observed o) p).record = (s.sync (e.observed o)).record := by
  unfold Session.runPhase
  generalize s.sync (e.observed o) = t
  have hcall : ∀ handle args (u : Session (σ × κ) η), u.record = t.record →
      (u.call (e.observed o) handle args).1.record = t.record := fun _ _ _ h => h
  have hannounce : ∀ handle (u : Session (σ × κ) η), u.record = t.record →
      (u.announce (e.observed o) p handle).record = t.record := fun _ _ h => h
  have hphase : (t.phase (e.observed o) p id).1.record = t.record :=
    t.context.hooks.invokePhase_keeps hcall hannounce (fun _ h => h) p _ [] rfl
  generalize t.phase (e.observed o) p id = ran at hphase ⊢
  obtain ⟨u, failures⟩ := ran
  exact (failAll_record e o failures _).trans hphase

/-- An observer that takes no interest in frames sees nothing of phases and events. -/
theorem kept_record (e : Engine σ η) {o : Observer σ η κ}
    (ho : ∀ env files stage ctx record, o.sync env files stage ctx record = record) (r : κ) :
    Session.Kept (e.observed o) fun s => s.record = r where
  note _ _ _ _ h := h
  sync s h := (ho s.frameEnv s.files s.stage.plain s.context s.record).trans h
  call _ _ _ h := h
  flush _ h := h
  fail s failure h := (fail_record e o failure s).trans h
  canvas _ _ h := h
  frameCount _ _ h := h
  keyHeld _ _ h := h
  pointer _ _ h := h
  setupDone _ h := h

end Engine

end LiveSketch
