import LiveSketch.Proofs.Script.BoardSteps
import LiveSketch.Proofs.Script.Progress

/-!
# Sessions with a history

A session whose script engine is run with the observer that keeps its history. The lemmas here say
what each way into the engine adds to the history, and what it does to the requests that are left.

## Main definitions

* `Language.Discreet` — a law of languages: a call asks for no file.
* `chronicler` — a script engine with its history.
* `Session.bench` — what the engine acts on in a session.

## Main results

* `sketchLanguage_discreet` — the sketch language obeys the law.
* `Session.evaluate_applied`, `Session.reloadChanged_applied` — what a successful evaluation adds.
* `Session.kept_bench` — nothing that phases and events do adds anything.
-/

namespace LiveSketch

/-- A call asks for no file. -/
def Language.Discreet (L : Language) : Prop :=
  ∀ name args table source scene globals object ground, scene.loading = false →
    (L.call name args table source scene globals object ground).2.2.1.board.requests.includes =
      ground.board.requests.includes

theorem sketchLanguage_discreet : sketchLanguage.Discreet :=
  fun name args table source _ scope object ground hs =>
    SketchLanguage.call_includes hs name args table source scope object ground

variable {L : Language}

/-- A script engine that keeps its history. -/
def chronicler (L : Language) : Engine (ScriptState L × History) ScriptHandle :=
  (scriptEngine L).observed (historian L)

/-- A session of a script engine that keeps its history. -/
abbrev Chronicle (L : Language) := Session (ScriptState L × History) ScriptHandle

/-- What the engine acts on in a session. -/
def Session.bench (s : Chronicle L) : ScriptEngine.Bench L := (s.stage.plain, s.context)

open ScriptEngine

/-- A session without a sketch, and no history. -/
def Chronicle.start (settings : Settings) (canvas : Canvas) (files : FileTree) : Chronicle L :=
  Session.fresh (ScriptState.empty {}, []) settings canvas files

/-! ### Evaluation -/

/-- A successful evaluation adds the source text and the files it included, after a reset if it is
forced. The files asked to be watched are watched afterwards. -/
theorem Session.evaluate_applied (watched : List Path) {s : Chronicle L} {source : String}
    {path : Path} {forced : Bool} (hr : s.files.readText path = .ok source)
    (hok : (s.evaluate (chronicler L) source path forced).2 = .ok ()) :
    ∃ log b', Applied s.files watched path source
        (evaluationStart path forced (s.sync (chronicler L)).bench) log b' ∧
      (s.evaluate (chronicler L) source path forced).1.record = History.extend log
        (if forced then .reset :: (s.sync (chronicler L)).record
        else (s.sync (chronicler L)).record) ∧
      (s.evaluate (chronicler L) source path forced).1.bench.1.engine = b'.1.engine ∧
      (s.evaluate (chronicler L) source path forced).1.context = b'.2.takeDependencies.2 ∧
      (s.evaluate (chronicler L) source path forced).1.watcher =
        b'.2.dependencies.foldl Watcher.register s.watcher := by
  have happ := apply_sound s.files watched source path
    (evaluationStart path forced (s.sync (chronicler L)).bench) hr
  rw [evaluate_eq] at hok ⊢
  refine ⟨_, _, happ hok, ?_⟩
  unfold record bench Stage.plain Stage.map
  rw [adopt_engine, adopt_eq]
  exact ⟨rfl, rfl, rfl, rfl⟩

/-- Reloading a changed dependency successfully adds it and the files it included. -/
theorem Session.reloadChanged_applied (watched : List Path) {s : Chronicle L} {path : Path}
    (hok : ((chronicler L).loadDependency path s.files s.stage s.context).2.2 = .ok ()) :
    ∃ text log, Applied s.files watched path text (mark path s.bench) log
        (s.reloadChanged (chronicler L) path).bench ∧
      (s.reloadChanged (chronicler L) path).record = History.extend log s.record ∧
      s.reloadChanged (chronicler L) path = { s with
        stage := (s.reloadChanged (chronicler L) path).stage
        context := (s.reloadChanged (chronicler L) path).context } := by
  obtain ⟨text, happ⟩ := loadFile_applied (apply_sound s.files watched) path (mark path s.bench) hok
  refine ⟨text, recordFile s.files (ScriptEngine.record s.files) path (mark path s.bench), ?_⟩
  rw [reloadChanged_of_ok hok]
  exact ⟨happ, rfl, rfl⟩

/-- In an empty session no request is left. -/
theorem pending_evaluationStart {path : Path} {forced : Bool} {b : Bench L}
    (h : forced = false → pending b = []) : pending (evaluationStart path forced b) = [] := by
  have hm := mark_pending path (if forced then reset b else b)
  cases forced with
  | false => exact hm.trans (h rfl)
  | true => exact hm

/-! ### Everything else -/

namespace ScriptEngine

variable {files : FileTree} {watched : List Path}

/-- Without requests for files, taking note of the frame applies nothing. -/
theorem sync_progress {b : Bench L} (hp : pending b = []) (env : FrameEnv) (tree : FileTree) :
    Progress files watched b [] (ScriptEngine.sync env tree b) := by
  have hp' : pending (withState (fun s => { s with env }) b) = [] := hp
  have h : Progress files watched b []
      (settle tree (apply tree) (withState (fun s => { s with env }) b)).1 :=
    (settle_none tree (apply tree) hp').from_same (fun _ => hp) rfl rfl
  unfold ScriptEngine.sync
  generalize settle tree (apply tree) (withState (fun s => { s with env }) b) = ran at h ⊢
  obtain ⟨b', failure | _⟩ := ran
  · exact h.to_same id rfl rfl
  · exact h

/-- Nor does it add to the history. -/
theorem sync_history {b : Bench L} (hp : pending b = []) (env : FrameEnv) (tree : FileTree)
    (h : History) : (historian L).sync env tree b.1 b.2 h = h := by
  have hp' : pending (withState (fun s => { s with env }) b) = [] := hp
  exact congrArg (History.extend · h) (recordSettle_none tree (apply tree) (record tree) hp')

/-- A call applies nothing and asks for no file. -/
theorem invoke_progress (hL : L.Discreet) (handle : ScriptHandle) (args : List Value)
    (stage : Stage (ScriptState L)) (ctx : Context ScriptHandle) :
    Progress files watched (stage, ctx) [] ((invoke handle args stage).1, ctx) := by
  have called : ∀ name args (stage : Stage (ScriptState L)),
      Progress files watched (stage, ctx) [] ((callFunction name args stage).1, ctx) :=
    fun name args stage => .of_same
      (fun hp => (hL name args _ _ (stage.engine.scene false) _ _ _ rfl).trans hp) rfl rfl
  cases handle with
  | function name => exact called name args stage
  | defaults scripted =>
    unfold invoke
    dsimp only
    split
    · exact (called Entry.defaults.name args _).from_same id rfl rfl
    · exact .of_same id rfl rfl

/-- Neither does wording a failure. -/
theorem processError_progress (hL : L.Discreet) (failure : Failure)
    (stage : Stage (ScriptState L)) (ctx : Context ScriptHandle) :
    Progress files watched (stage, ctx) [] ((processError failure stage).1, ctx) := by
  unfold processError
  split
  · exact invoke_progress hL (.function formatterName) [.str failure.message] stage ctx
  · exact .refl _

end ScriptEngine

namespace Session

variable {files : FileTree} {watched : List Path}

theorem enterError_bench (files : FileTree) (watched : List Path) (hL : L.Discreet)
    (failure : Failure) (backdrop : Option Image) (s : Chronicle L) :
    (s.enterError (chronicler L) failure backdrop).record = s.record ∧
      Progress files watched s.bench [] (s.enterError (chronicler L) failure backdrop).bench := by
  have hp : Progress files watched s.bench [] ((processError failure s.stage.plain).1, s.context) :=
    processError_progress hL failure s.stage.plain s.context
  have ho : (chronicler L).processError failure s.stage =
    Prod.map (Stage.map (·, s.record)) id (processError failure s.stage.plain) := rfl
  unfold enterError describeFailure
  rw [ho]
  generalize processError failure s.stage.plain = told at hp ⊢
  obtain ⟨stage, again | message⟩ := told
  · exact ⟨rfl, hp.to_same id rfl rfl⟩
  · exact ⟨rfl, hp.to_same id rfl rfl⟩

/-- **Phases and events add nothing to the history**, and leave no request for a file. -/
theorem kept_bench (files : FileTree) (watched : List Path) (hL : L.Discreet) {b : Bench L}
    (hp : pending b = []) (h : History) :
    Kept (chronicler L) fun s => s.record = h ∧ Progress files watched b [] s.bench where
  note _ _ _ _ hs := ⟨hs.1, hs.2.to_same id rfl rfl⟩
  sync s hs := by
    have hps := hs.2.settled hp
    refine ⟨(sync_history hps s.frameEnv s.files s.record).trans hs.1, ?_⟩
    exact (hs.2.trans (sync_progress hps s.frameEnv s.files)).to_same id rfl rfl
  call handle args s hs := ⟨hs.1, hs.2.trans (invoke_progress hL handle args s.stage.plain _)⟩
  flush _ hs := ⟨hs.1, hs.2.to_same id rfl rfl⟩
  fail s failure hs := by
    obtain ⟨backdrop, hf⟩ := exists_fail_eq_enterError (chronicler L) failure s
    obtain ⟨hr, hb⟩ := enterError_bench files watched hL failure backdrop s
    rw [hf]
    exact ⟨hr.trans hs.1, hs.2.trans hb⟩
  canvas _ _ hs := hs
  frameCount _ _ hs := hs
  keyHeld _ _ hs := hs
  pointer _ _ hs := hs
  setupDone _ hs := hs

end Session

end LiveSketch
