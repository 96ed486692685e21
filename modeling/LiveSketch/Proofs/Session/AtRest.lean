import LiveSketch.Proofs.Script.Leftovers
import LiveSketch.Proofs.Session.Chronicle
import LiveSketch.Proofs.Session.EngineState
import LiveSketch.Proofs.Session.Surroundings

/-!
# What a session in error does with its scripts

A session in error waits for a reload. Until then no entry point is called, but frames and exits
still tell the engine about the frame, and the engine takes this as an occasion to act on requests.
If the source text that failed had asked for files before, they are run now.

`Untouched` says that nothing of this kind happens: no source text is applied, and the functions,
the files that were run and the files to be watched stay as they are. Calls, failures and drawing
leave a session untouched, so all depends on the one moment at which requests are acted on.

## Main definitions

* `Session.Untouched` — the scripts of a session are left alone.
* `Operation.Settles`, `Session.Reloads` — steps that act on requests in error, and that reload.

## Main results

* `Session.accounted_keeps` — requests are left over by failed statements only.
* `Session.sync_untouched_iff` — acting on requests, and what it does to the scripts.
* `Session.error_untouched_iff` — steps in error that leave the scripts alone.
-/

namespace LiveSketch

open ScriptEngine

variable {L : Language}

/-- The steps that tell the engine about the frame in the error state. -/
def Operation.Settles : Operation → Prop
  | .draw | .exit => True
  | _ => False

namespace Session

/-- The steps that reload: those that do so on request, and draws whose poll reports a change. -/
def Reloads {σ η : Type} (s : Session σ η) : Operation → Prop
  | .run | .reload _ | .reloadFrom _ _ => True
  | .draw => ∃ change changes, s.polled = some (.ok (change :: changes))
  | _ => False

/-! ### Where requests come from -/

/-- If a request for a file is left over, a statement failed since the last reset. -/
def Accounted (engine : ScriptState L × History) : Prop :=
  engine.1.board.requests.includes ≠ [] → ∃ a ∈ engine.2.sinceReset, a.ending = .stopped

/-- A step of the engine keeps the accounts if its own applications account for what it leaves. -/
theorem Accounted.blamed {b b' : Bench L} {log : List Application} {h : History}
    (ha : Accounted (b.1.engine, h)) (hb : Blamed b log b') :
    Accounted (b'.1.engine, History.extend log h) := by
  intro hp
  rw [History.sinceReset_extend]
  obtain hold | ⟨a, hmem, hs⟩ := hb hp
  · obtain ⟨a, hmem, hs⟩ := ha hold
    exact ⟨a, List.mem_append_right _ hmem, hs⟩
  · exact ⟨a, List.mem_append_left _ hmem, hs⟩

/-- **Only failed statements leave requests behind**, whatever the engine is asked to do. -/
theorem accounted_keeps (hL : L.Discreet) : (chronicler L).Keeps (Accounted (L := L)) where
  evaluate source origin reset files stage ctx h := by
    have hb := applySource_blamed files (includeDepth files) source origin
      (evaluationStart origin reset (stage.plain, ctx))
    have hstart : Accounted ((evaluationStart origin reset (stage.plain, ctx)).1.engine,
        if reset then .reset :: stage.engine.2 else stage.engine.2) := by
      intro hp
      have hm := mark_pending origin
        (if reset then ScriptEngine.reset (stage.plain, ctx) else (stage.plain, ctx))
      cases reset with
      | false => exact h fun hn => hp (hm.trans hn)
      | true => exact absurd hm hp
    exact hstart.blamed hb
  loadDependency path files stage ctx h := by
    have hb := loadFile_blamed files (applySource_blamed files (includeDepth files)) path
      (mark path (stage.plain, ctx))
    have hstart : Accounted ((mark path (stage.plain, ctx)).1.engine, stage.engine.2) :=
      fun hp => h fun hn => hp ((mark_pending path (stage.plain, ctx)).trans hn)
    exact hstart.blamed hb
  processError failure stage h hp :=
    h fun hn => hp ((@processError_progress L {} [] hL failure stage.plain {}).settled hn)
  sync env files stage ctx h := by
    have hb := settle_blamed files (applySource_blamed files (includeDepth files))
      (withState (fun s => { s with env }) (stage.plain, ctx))
    have hstart : Accounted ((takeRequests
        (withState (fun s => { s with env }) (stage.plain, ctx))).1.engine, stage.engine.2) :=
      fun hp => absurd (takeRequests_pending _) hp
    have hs := hstart.blamed hb
    show Accounted ((ScriptEngine.sync env files (stage.plain, ctx)).1.engine, _)
    unfold ScriptEngine.sync
    unfold ScriptEngine.apply
    generalize settle files (applySource files (includeDepth files))
      (withState (fun s => { s with env }) (stage.plain, ctx)) = ran at hs ⊢
    obtain ⟨c, failure | _⟩ := ran
    · exact hs
    · exact hs
  flush _ _ h := h
  invoke handle args stage h hp :=
    h fun hn => hp ((@invoke_progress L {} [] hL handle args stage.plain {}).settled hn)

/-! ### Scripts that are left alone -/

/-- No source text is applied, and the functions, the files that were run and the files to be
watched stay as they are. -/
structure Untouched (s t : Chronicle L) : Prop where
  record : t.record = s.record
  scripts : SameScripts s.bench t.bench

variable {s t u : Chronicle L}

namespace Untouched

/-- Whatever changes the board, the variables, the console or the log. -/
theorem of_same (hr : t.record = s.record)
    (hf : t.stage.engine.1.functions = s.stage.engine.1.functions)
    (hi : t.stage.engine.1.included = s.stage.engine.1.included)
    (hd : t.context.dependencies = s.context.dependencies) : Untouched s t := ⟨hr, ⟨hf, hi, hd⟩⟩

theorem refl (s : Chronicle L) : Untouched s s := of_same rfl rfl rfl rfl

theorem symm (h : Untouched s t) : Untouched t s := ⟨h.record.symm, h.scripts.symm⟩

theorem trans (h : Untouched s t) (h' : Untouched t u) : Untouched s u :=
  ⟨h'.record.trans h.record, h.scripts.trans h'.scripts⟩

/-- Running a callable changes variables, the sketch object and the board. -/
theorem call (h : Untouched s t) (handle : ScriptHandle) (args : List Value) :
    Untouched s (t.call (chronicler L) handle args).1 := by
  have hcall : ∀ name args (stage : Stage (ScriptState L)),
      (callFunction name args stage).1.engine.functions = stage.engine.functions ∧
        (callFunction name args stage).1.engine.included = stage.engine.included :=
    fun _ _ _ => ⟨rfl, rfl⟩
  have hinv : (invoke handle args t.stage.plain).1.engine.functions = t.stage.engine.1.functions ∧
      (invoke handle args t.stage.plain).1.engine.included = t.stage.engine.1.included := by
    cases handle with
    | function name => exact hcall name args t.stage.plain
    | defaults scripted =>
      unfold invoke
      dsimp only
      split
      · exact hcall Entry.defaults.name args _
      · exact ⟨rfl, rfl⟩
  exact h.trans (of_same rfl hinv.1 hinv.2 rfl)

theorem flush (h : Untouched s t) : Untouched s (t.flush (chronicler L)) :=
  h.trans (of_same rfl rfl rfl rfl)

theorem fail (h : Untouched s t) (failure : Failure) :
    Untouched s (t.fail (chronicler L) failure) := by
  obtain ⟨backdrop, hf⟩ := exists_fail_eq_enterError (chronicler L) failure t
  have ho : (chronicler L).processError failure t.stage =
    Prod.map (Stage.map (·, t.record)) id (processError failure t.stage.plain) := rfl
  have hp : (processError failure t.stage.plain).1.engine.functions =
        t.stage.engine.1.functions ∧
      (processError failure t.stage.plain).1.engine.included = t.stage.engine.1.included := by
    unfold processError
    split <;> exact ⟨rfl, rfl⟩
  refine h.trans ?_
  rw [hf]
  unfold enterError describeFailure
  rw [ho]
  generalize processError failure t.stage.plain = told at hp ⊢
  obtain ⟨stage, again | message⟩ := told
  · exact of_same rfl hp.1 hp.2 rfl
  · exact of_same rfl hp.1 hp.2 rfl

theorem failAll (h : Untouched s t) (failures : List Failure) :
    Untouched s (t.failAll (chronicler L) failures) := by
  induction failures generalizing t with
  | nil => exact h
  | cons failure rest ih => exact ih (h.fail failure)

theorem applyDefaults (h : Untouched s t) :
    Untouched s (t.applyDefaults (chronicler L)).1 := by
  unfold Session.applyDefaults
  split
  · exact h
  · next handle _ =>
    have hc := h.call handle []
    generalize t.call (chronicler L) handle [] = ran at hc ⊢
    obtain ⟨v, failure | value⟩ := ran
    · exact hc
    · exact hc

end Untouched

/-! ### Acting on requests -/

/-- **What acting on requests does to the scripts.** It leaves them alone exactly if the requests
run no file and ask for none to be watched. -/
theorem sync_untouched_iff (s : Chronicle L) :
    Untouched s (s.sync (chronicler L)) ↔ idle s.files s.bench (pending s.bench) := by
  obtain ⟨hiff, hrecord⟩ := sync_scripts_iff s.frameEnv s.files s.bench
  constructor
  · intro h
    exact hiff.mp ⟨h.scripts.functions, h.scripts.included, h.scripts.dependencies⟩
  · intro h
    have hsame := hiff.mpr h
    exact .of_same (congrArg (History.extend · s.record) (hrecord h)) hsame.functions
      hsame.included hsame.dependencies

/-! ### Steps in error -/

/-- Of the steps in error, frames and exits act on requests once. Nothing else they do touches the
scripts. -/
theorem exit_untouched (hs : s.status = .error) :
    Untouched (s.sync (chronicler L)) (s.exit (chronicler L)) := by
  have hst : (s.sync (chronicler L)).status = .error := hs
  unfold exit
  generalize s.sync (chronicler L) = t at hst ⊢
  have hpost : Untouched t
      (t.context.hooks.invokePosthooks (Session.call (chronicler L)) .exit t).1 :=
    Hooks.runEach_keeps (fun handle args u hu => hu.call handle args) _ (.refl t)
  dsimp only
  rw [hst]
  exact hpost.flush.failAll _

theorem drawError_untouched (s : Chronicle L) :
    Untouched (s.overlaid.sync (chronicler L)) (s.drawError (chronicler L)) := by
  have hd := (Untouched.refl (s.overlaid.sync (chronicler L))).applyDefaults
  rw [drawError_eq]
  generalize (s.overlaid.sync (chronicler L)).applyDefaults (chronicler L) = ran at hd ⊢
  obtain ⟨t, _ | failure⟩ := ran
  · exact hd.flush
  · exact hd.trans (.of_same rfl rfl rfl rfl)

/-- A draw that reloads nothing is its frame, as far as scripts are concerned. -/
theorem draw_untouched (hs : s.status = .error) (hr : ¬ s.Reloads .draw) :
    Untouched (s.drawError (chronicler L)) (s.draw (chronicler L)).1 := by
  have hframe : s.frame (chronicler L) = s.drawError (chronicler L) := by
    unfold frame
    rw [hs]
  obtain ⟨hfiles, hwatcher, -⟩ := frame_surroundings (chronicler L) s
  rw [draw_eq]
  rw [hframe] at hfiles hwatcher ⊢
  generalize s.drawError (chronicler L) = t at hfiles hwatcher ⊢
  split
  · next hdue =>
    have hpolled : s.polled = some (t.watcher.tick.1.poll t.files).2 := by
      unfold polled
      rw [hfiles, ← hwatcher, if_pos hdue]
    unfold checkWatched
    dsimp only
    generalize t.watcher.tick.1.poll t.files = result at hpolled ⊢
    obtain ⟨watcher, fatal | _ | ⟨change, changes⟩⟩ := result
    · exact .of_same rfl rfl rfl rfl
    · exact .of_same rfl rfl rfl rfl
    · exact absurd ⟨change, changes, hpolled⟩ hr
  · exact .of_same rfl rfl rfl rfl

/-- **Steps in error leave the scripts alone exactly if they do not act on requests, or the requests
are idle.** -/
theorem perform_untouched_iff (hs : s.status = .error) (op : Operation) (hr : ¬ s.Reloads op) :
    Untouched s (s.perform (chronicler L) op).1 ↔
      (op.Settles → idle s.files s.bench (pending s.bench)) := by
  have hnone : ∀ t, Untouched s t → ¬ op.Settles →
      (Untouched s t ↔ (op.Settles → idle s.files s.bench (pending s.bench))) :=
    fun t ht hop => ⟨fun _ hsettles => absurd hsettles hop, fun _ => ht⟩
  cases op with
  | install loadPath =>
    refine hnone _ ?_ id
    show Untouched s (s.installPath loadPath).1
    unfold installPath
    split
    · exact .refl s
    · exact .of_same rfl rfl rfl rfl
  | load path =>
    refine hnone _ ?_ id
    show Untouched s (s.load path).1
    unfold load
    split
    · exact .refl s
    · exact .refl s
    · exact .of_same rfl rfl rfl rfl
  | run | reload _ | reloadFrom _ _ => exact absurd trivial hr
  | setup =>
    refine hnone _ ?_ id
    show Untouched s (s.setup (chronicler L))
    unfold setup
    dsimp only
    rw [hs]
    exact .of_same rfl rfl rfl rfl
  | update =>
    refine hnone _ ?_ id
    show Untouched s (s.update (chronicler L))
    unfold update
    rw [hs]
    exact .refl s
  | draw =>
    have ho : Untouched s s.overlaid ∧ s.overlaid.files = s.files ∧ s.overlaid.bench = s.bench := by
      unfold overlaid
      split <;> exact ⟨.of_same rfl rfl rfl rfl, rfl, rfl⟩
    have ht := (drawError_untouched s).trans (draw_untouched hs hr)
    have hiff := sync_untouched_iff s.overlaid
    rw [ho.2.1, ho.2.2] at hiff
    constructor
    · intro h _
      exact hiff.mp ((ho.1.symm.trans h).trans ht.symm)
    · intro h
      exact (ho.1.trans (hiff.mpr (h trivial))).trans ht
  | exit =>
    have ht := exit_untouched hs
    constructor
    · intro h _
      exact (sync_untouched_iff s).mp (h.trans ht.symm)
    · intro h
      exact ((sync_untouched_iff s).mpr (h trivial)).trans ht
  | event event =>
    refine hnone _ ?_ id
    show Untouched s (s.input (chronicler L) event)
    have hd : Untouched s (s.delivery event).1 ∧ (s.delivery event).1.status = .error := by
      cases event <;> exact ⟨.of_same rfl rfl rfl rfl, hs⟩
    rw [input_eq]
    unfold deliver
    rw [hd.2]
    exact hd.1
  | edit files => exact hnone _ (.of_same rfl rfl rfl rfl) id
  | present canvas => exact hnone _ (.of_same rfl rfl rfl rfl) id
  | drain stream => exact hnone _ (.of_same rfl rfl rfl rfl) id

/-- **Scripts while a session is in error.** Requests for files are left over only if a statement of
a source text failed since the last reset. In error, a step that reloads nothing applies no source
text and leaves the functions, the files that were run and the files to be watched as they are,
exactly if it does not act on requests or the requests are idle. Frames and exits act on them. So a
request that a failed source text had made before it failed is acted on after all, without a reload.
The history is kept beside the engine and changes nothing about the run. -/
theorem error_untouched_iff (settings : Settings) (canvas : Canvas) (files : FileTree)
    (ops : List Operation) :
    let start : Chronicle sketchLanguage := .start settings canvas files
    let s := start.play (chronicler sketchLanguage) ops
    s.plain =
        (Session.fresh (.empty {}) settings canvas files).play (scriptEngine sketchLanguage) ops ∧
      (pending s.bench ≠ [] → ∃ a ∈ s.record.sinceReset, a.ending = .stopped) ∧
      (s.status = .error → ∀ op, ¬ s.Reloads op →
        (Untouched s (s.perform (chronicler sketchLanguage) op).1 ↔
          (op.Settles → idle s.files s.bench (pending s.bench)))) := by
  intro start s
  refine ⟨Engine.observed_play _ _ ops _, ?_, fun hs op hr => perform_untouched_iff hs op hr⟩
  exact play_invariant (e := chronicler sketchLanguage) (I := fun s => Accounted s.stage.engine)
    (fun op _ h => (accounted_keeps sketchLanguage_discreet).perform op h) ops
    (s := start) fun hp => absurd rfl hp

/-- A sketch asks for its library and then fails. The exit runs the library. -/
theorem error_untouched_iff_leftover :
    let s := (Chronicle.start {} (.blank 1 1)
      (.sketchbook "include(\"lib\"); throw 1;" 1000 "print(2);" 1000)).play
        (chronicler sketchLanguage) [.install ⟨[⟨"/s"⟩]⟩, .load ⟨"/s/main"⟩, .run]
    s.status = .error ∧ ¬ Untouched s (s.perform (chronicler sketchLanguage) .exit).1 := by
  intro s
  have hs : s.status = .error ∧ idle s.files s.bench (pending s.bench) = false := by
    decide +kernel
  obtain ⟨-, -, hiff⟩ := error_untouched_iff {} (.blank 1 1) _ [.install ⟨[⟨"/s"⟩]⟩,
    .load ⟨"/s/main"⟩, .run]
  refine ⟨hs.1, fun h => ?_⟩
  have hidle := (hiff hs.1 .exit id).mp h trivial
  rw [hs.2] at hidle
  cases hidle

end Session

end LiveSketch
