import LiveSketch.Proofs.Script.Includes
import LiveSketch.Proofs.Script.Leftovers
import LiveSketch.Proofs.Script.Registrations
import LiveSketch.Proofs.Session.Rounds
import LiveSketch.Script.SketchLanguage

/-!
# What is included is watched

A broken library can only be mended by saving it again, so the lifecycle has to watch it although it
never ran to its end. Here the files that includes find are followed from the engine, which collects
them in the context, to the watch list, which the lifecycle fills from the context after every
evaluation.

## How a file gets there

An include asks for its file to be watched before it looks at the content. What was asked for stays
asked for, on the way into nested includes and on the way out of a failure, and a reset drops it
neither. The lifecycle takes over what was asked for after a failed evaluation just as after a
successful one. A reload that succeeds may set the sketch up once more, which looks at requests
again. By then there are none left.

## Main definitions

* `Watcher.Distinct` — no file is watched twice.
* `ScriptEngine.Asks` — what is found is asked to be watched.
* `scout`, `Scouted` — the observer that keeps the files that includes find, and its sessions.

## Main results

* `Session.play_distinct` — no session watches a file twice.
* `Session.reloadFrom_found` — what a reload finds is watched afterwards.
* `Session.includes_end_and_are_watched` — includes end, no path is applied twice, and what is found
  is watched once.
-/

namespace LiveSketch

/-! ### Once on the watch list -/

/-- Among paths that differ from each other, a path that is listed is listed once. -/
theorem Path.countP_same {paths : List Path} {p : Path}
    (hd : paths.Pairwise fun p q => ¬ p.same q) (hl : Path.listed paths p) :
    paths.countP (fun q => q.same p) = 1 := by
  induction paths with
  | nil => cases hl
  | cons first rest ih =>
    obtain ⟨hfirst, hrest⟩ := List.pairwise_cons.mp hd
    by_cases hp : first.same p
    · have hnone : rest.countP (fun q => q.same p) = 0 := List.countP_eq_zero.mpr fun q hq hqp =>
        hfirst q hq (Path.same_trans hp (Path.same_symm hqp))
      simp [hp, hnone]
    · have hl' : Path.listed rest p := by simpa [Path.listed, hp] using hl
      simp [hp, ih hrest hl']

namespace Watcher

variable {w : Watcher}

/-- No file is watched twice. -/
def Distinct (w : Watcher) : Prop := w.files.Pairwise fun p q => ¬ p.same q

theorem distinct_register (h : w.Distinct) (path : Path) : (w.register path).Distinct := by
  unfold register
  split
  · exact h
  · next hnew => exact Path.pairwise_concat h hnew

theorem distinct_foldl_register (paths : List Path) (h : w.Distinct) :
    (paths.foldl register w).Distinct := by
  induction paths generalizing w with
  | nil => exact h
  | cons path rest ih => exact ih (distinct_register h path)

theorem distinct_registerPrimary (h : w.Distinct) (path : Path) :
    (w.registerPrimary path).Distinct := Path.pairwise_front h path

end Watcher

namespace Session

section

variable {σ η : Type} {e : Engine σ η} {s : Session σ η}

/-- Reloads watch no file twice. -/
theorem lasting_distinct : Lasting e fun s => s.watcher.Distinct where
  note _ _ _ _ h := h
  sync _ h := h
  call _ _ _ h := h
  flush _ h := h
  fail _ failure h := by
    rw [fail_eq]
    exact h
  canvas _ _ h := h
  frameCount _ _ h := h
  keyHeld _ _ h := h
  pointer _ _ h := h
  setupDone _ h := h
  report _ _ _ h := h
  evaluate s source path forced h := by
    rw [evaluate_eq, adopt_eq]
    exact Watcher.distinct_foldl_register _ h
  loadDependency _ _ h := h
  enterError _ _ _ h := h
  status _ _ _ h := h
  lastGoodFrame _ _ h := h

theorem perform_distinct (op : Operation) (h : s.watcher.Distinct) :
    (s.perform e op).1.watcher.Distinct := by
  cases op with
  | install loadPath =>
    unfold perform installPath
    dsimp only
    split <;> exact h
  | load path =>
    unfold perform load
    dsimp only
    split
    · exact h
    · exact h
    · exact Watcher.distinct_registerPrimary h _
  | run => exact lasting_distinct.reloaded.run h
  | setup => exact lasting_distinct.setup h
  | update => exact lasting_distinct.update h
  | draw =>
    refine lasting_distinct.draw (fun s watcher hf hs => ?_) h
    unfold Watcher.Distinct at hs ⊢
    rwa [hf]
  | exit => exact lasting_distinct.exit h
  | reload forced => exact lasting_distinct.reloaded.reload forced h
  | reloadFrom path forced => exact lasting_distinct.reloaded.reloadFrom path forced h
  | event event => exact lasting_distinct.event event h
  | edit files => exact h
  | present canvas => exact h
  | drain stream => exact h

/-- **No session watches a file twice**, whatever happened to it. -/
theorem play_distinct (e : Engine σ η) (engine : σ) (settings : Settings) (canvas : Canvas)
    (files : FileTree) (ops : List Operation) :
    ((fresh engine settings canvas files).play e ops).watcher.Distinct :=
  play_invariant (I := fun s => s.watcher.Distinct) (fun op _ h => perform_distinct op h) ops
    List.Pairwise.nil

end

end Session

/-! ### What the engine asks for -/

namespace ScriptEngine

variable {L : Language} {files : FileTree} {b c : Bench L}

/-- What is found in a step is asked to be watched after it. -/
structure Asks (b : Bench L) (deeds : List Deed) (b' : Bench L) : Prop where
  more : MoreFiles b b'
  found : ∀ p ∈ Deed.files deeds, Path.listed b'.2.dependencies p

theorem Asks.of_more {deeds : List Deed} (h : MoreFiles b c) (hd : Deed.files deeds = []) :
    Asks b deeds c := by
  refine ⟨h, fun p hp => ?_⟩
  rw [hd] at hp
  cases hp

/-- **Source texts ask for every file that their includes find**, whether it is new or not, and
whatever becomes of it. -/
theorem traced_asks : Traced (Asks (L := L)) where
  refl b := .of_more (steady_files.refl b) rfl
  trans h h' := by
    refine ⟨steady_files.trans h.more h'.more, fun p hp => ?_⟩
    rw [Deed.files_append] at hp
    obtain hp | hp := List.mem_append.mp hp
    · exact h'.more.asked (h.found p hp)
    · exact h'.found p hp
  env env b := .of_more (steady_files.env env b) rfl
  note level text b := .of_more (steady_files.note level text b) rfl
  found path b := ⟨steady_files.request path b, fun p hp => by
    rw [List.mem_singleton.mp hp]
    exact Context.listed_requestDependency⟩
  mark path b := .of_more (steady_files.mark path b) rfl
  hooked hook b _ := .of_more (steady_files.registerHook hook b) rfl
  takeRequests b := .of_more (steady_files.takeRequests b) rfl
  merged origin b _ := .of_more (steady_files.merged _ origin b) rfl
  refused _ b _ := .of_more (steady_files.refl b) rfl
  runProgram program b := .of_more (steady_files.runProgram program b) rfl
  discoverEntries b := .of_more (steady_files.discoverEntries b) rfl

/-- A reset keeps what was asked for. -/
theorem evaluationStart_dependencies (origin : Path) (resetting : Bool) (b : Bench L) :
    (evaluationStart origin resetting b).2.dependencies = b.2.dependencies := by
  cases resetting <;> rfl

/-- Without requests for files none is found. -/
theorem settleDeeds_files_of_pending {apply : Apply L}
    {deeds : String → Path → Bench L → List Deed} (hp : pending b = []) :
    Deed.files (settleDeeds files apply deeds b) = [] := by
  have hook : ∀ (hooks : List HookRequest) (b : Bench L),
      Deed.files (eachDeeds registerHook hookDeeds hooks b) = [] := by
    intro hooks
    induction hooks with
    | nil => exact fun _ => rfl
    | cons hook rest ih =>
      intro b
      unfold eachDeeds hookDeeds
      generalize registerHook hook b = ran
      obtain ⟨c, failure | _⟩ := ran
      · rfl
      · exact ih c
  unfold settleDeeds
  rw [hp]
  exact hook _ _

end ScriptEngine

/-! ### What a session finds -/

open ScriptEngine

/-- The observer that keeps the files that includes find, in order. -/
def scout (L : Language) : Observer (ScriptState L) ScriptHandle (List Path) where
  evaluate source origin resetting files stage ctx found :=
    found ++ Deed.files ((EngineCall.evaluate source origin resetting files).deeds (stage, ctx))
  loadDependency path files stage ctx found :=
    found ++ Deed.files ((EngineCall.loadDependency path files).deeds (stage, ctx))
  sync env files stage ctx found :=
    found ++ Deed.files ((EngineCall.sync env files).deeds (stage, ctx))

/-- A script engine that keeps the files that includes find. -/
def scouting (L : Language) : Engine (ScriptState L × List Path) ScriptHandle :=
  (scriptEngine L).observed (scout L)

theorem scouting_evaluate {L : Language} (source : String) (origin : Path) (resetting : Bool)
    (files : FileTree) (stage : Stage (ScriptState L × List Path)) (ctx : Context ScriptHandle) :
    (scouting L).evaluate source origin resetting files stage ctx =
      let start := evaluationStart origin resetting (stage.plain, ctx)
      let ran := apply files source origin start
      (ran.1.1.map (·, stage.engine.2 ++
        Deed.files (sourceDeeds files (includeDepth files) source origin start)), ran.1.2, ran.2) :=
  rfl

/-- A session of such an engine. -/
abbrev Scouted (L : Language) := Session (ScriptState L × List Path) ScriptHandle

variable {L : Language}

/-- A session without a sketch, in which nothing was found. -/
def Scouted.start (settings : Settings) (canvas : Canvas) (files : FileTree) : Scouted L :=
  Session.fresh (ScriptState.empty {}, []) settings canvas files

namespace Session

variable {s t : Scouted L}

/-- What the engine acts on. -/
def seat (s : Scouted L) : Bench L := (s.stage.plain, s.context)

/-- A later session, in which the files are watched that were found meanwhile. -/
def WatchesFound (s t : Scouted L) : Prop :=
  ∃ found, t.record = s.record ++ found ∧ ∀ p ∈ found, Path.listed t.watcher.files p

theorem WatchesFound.of_eq (h : t.record = s.record) : WatchesFound s t :=
  ⟨[], by rw [h, List.append_nil], nofun⟩

/-- What taking note of a frame finds is added to the record. -/
theorem sync_record (s : Scouted L) : (s.sync (scouting L)).record = s.record ++
    Deed.files (settleDeeds s.files (apply s.files) (sourceDeeds s.files (includeDepth s.files))
      (withState (fun engine => { engine with env := s.frameEnv }) s.seat)) := rfl

/-- What an evaluation finds is watched, whether it fails or not. One that succeeds leaves no
request for a file. -/
theorem evaluate_found (source : String) (path : Path) (forced : Bool) (s : Scouted L) :
    WatchesFound s (s.evaluate (scouting L) source path forced).1 ∧
      ((s.evaluate (scouting L) source path forced).2 = .ok () →
        pending (s.evaluate (scouting L) source path forced).1.seat = []) := by
  have hrec := sync_record s
  have hasked := (traced_asks.sync s.frameEnv s.files s.seat).found
  rw [evaluate_eq]
  -- What taking note of the frame found is asked for by now, and the evaluation keeps it asked for.
  change ∀ p ∈ _, Path.listed (s.sync (scouting L)).context.dependencies p at hasked
  generalize Deed.files _ = found at hrec hasked
  generalize s.sync (scouting L) = t at hrec hasked ⊢
  have happly := traced_asks.applySource t.files (includeDepth t.files) source path
    (evaluationStart path forced t.seat)
  have hnone : (apply t.files source path (evaluationStart path forced t.seat)).2 = .ok () →
      pending (apply t.files source path (evaluationStart path forced t.seat)).1 = [] :=
    fun hok => pending_of_applySource (Prod.ext rfl hok)
  rw [scouting_evaluate]
  unfold WatchesFound record pending seat Stage.plain Stage.map
  rw [adopt_engine, adopt_eq]
  refine ⟨⟨found ++ Deed.files (sourceDeeds t.files (includeDepth t.files) source path
    (evaluationStart path forced t.seat)), ?_, fun p hp => Watcher.listed_foldl_register (.inr ?_)⟩,
    hnone⟩
  · rw [← List.append_assoc]
    exact congrArg (· ++ _) hrec
  · obtain hp | hp := List.mem_append.mp hp
    · refine happly.more.asked ?_
      rw [evaluationStart_dependencies]
      exact hasked p hp
    · exact happly.found p hp

theorem evaluateBytes_found (path : Path) (bytes : List UInt8) (forced : Bool) (s : Scouted L) :
    WatchesFound s (s.evaluateBytes (scouting L) path bytes forced).1 ∧
      ((s.evaluateBytes (scouting L) path bytes forced).2 = .ok () →
        pending (s.evaluateBytes (scouting L) path bytes forced).1.seat = []) := by
  unfold evaluateBytes
  dsimp only
  split
  · exact evaluate_found _ path forced (s.announceReading path bytes.length forced)
  · exact ⟨.of_eq rfl, nofun⟩

/-- A phase finds nothing, if there is no request for a file. -/
theorem runPhase_found (p : Phase) (hp : pending s.seat = []) :
    (s.runPhase (scouting L) p).record = s.record := by
  have hp' : pending (withState (fun engine => { engine with env := s.frameEnv }) s.seat) = [] :=
    hp
  have hrun := (scriptEngine L).runPhase_record (scout L) p s
  rw [← scouting, sync_record, settleDeeds_files_of_pending hp', List.append_nil] at hrun
  exact hrun

/-- A reload that succeeds finds nothing after its evaluation, also if it sets the sketch up. -/
theorem succeed_record (forced : Bool) (hp : pending s.seat = []) :
    (s.succeed (scouting L) forced).record = s.record ∧
      (s.succeed (scouting L) forced).watcher = s.watcher := by
  have hr : s.recovered.record = s.record ∧ s.recovered.watcher = s.watcher ∧
      pending s.recovered.seat = pending s.seat := by
    unfold recovered
    split <;> exact ⟨rfl, rfl, rfl⟩
  have hw := (kept_surroundings (e := scouting L) s.recovered.files s.recovered.watcher
    s.recovered.script).setup ⟨rfl, rfl, rfl⟩
  -- Setting up looks at requests first, and the evaluation left none.
  have hset : (s.recovered.setup (scouting L)).record = s.recovered.record := by
    unfold setup
    dsimp only
    split
    · exact runPhase_found .setup (hr.2.2.trans hp)
    · rfl
  rw [succeed_eq]
  split
  · exact ⟨hset.trans hr.1, hw.2.1.trans hr.2.1⟩
  · exact ⟨hr.1, hr.2.1⟩

/-- **What a reload finds is watched afterwards**, whether the evaluation succeeded or failed. -/
theorem reloadFrom_found (path : Path) (forced : Bool) (s : Scouted L) :
    WatchesFound s (s.reloadFrom (scouting L) path forced).1 := by
  have hk : s.keepFrame.record = s.record := by
    unfold keepFrame
    split <;> rfl
  unfold reloadFrom
  split
  · exact .of_eq rfl
  · dsimp only
    split
    · exact .of_eq hk
    · next bytes _ =>
      obtain ⟨⟨found, hrec, hwatched⟩, hpending⟩ := evaluateBytes_found path bytes
        (forced || decide (s.status = .error)) s.keepFrame
      rw [hk] at hrec
      generalize s.keepFrame.evaluateBytes (scouting L) path bytes _ = ran
        at hrec hwatched hpending ⊢
      obtain ⟨t, failure | _⟩ := ran
      · exact ⟨found, ((scriptEngine L).enterError_record (scout L) failure _ t).trans hrec,
          hwatched⟩
      · obtain ⟨hr, hw⟩ := succeed_record (forced || decide (s.status = .error)) (hpending rfl)
        refine ⟨found, hr.trans hrec, ?_⟩
        rw [hw]
        exact hwatched

/-- **Includes end, no path is applied twice, and what is found is watched once.** Whatever would be
done about files that are included deeper than the engine goes, an evaluation comes out the same.
The source texts that it takes up have different origins, and besides its own origin these are
canonical paths. After a reload in any session, each file that an include found meanwhile is on the
watch list once, also if the evaluation failed, and also if that very file made it fail. The files
that are found are kept beside the engine and change nothing about the run. -/
theorem includes_end_and_are_watched (L : Language) :
    (∀ (files : FileTree) (below : Apply L) (source : String) (origin : Path) (resetting : Bool)
        (b : Bench L),
      let start := evaluationStart origin resetting b
      let origins := Deed.origins (sourceDeeds files (includeDepth files) source origin start)
      ScriptEngine.evaluate source origin resetting files b =
          applyDown files below (includeDepth files) source origin start ∧
        (origins.Pairwise fun p q => ¬ p.same q) ∧
        ∀ p ∈ origins, p = origin ∨ ∃ found, files.canonical found = .ok p) ∧
    ∀ (settings : Settings) (canvas : Canvas) (files : FileTree) (ops : List Operation)
        (path : Path) (forced : Bool),
      let s := (Scouted.start settings canvas files).play (scouting L) ops
      let t := (s.reloadFrom (scouting L) path forced).1
      t.plain = (((fresh (.empty {}) settings canvas files).play (scriptEngine L) ops).reloadFrom
          (scriptEngine L) path forced).1 ∧
        ∃ found, t.record = s.record ++ found ∧
          ∀ p ∈ found, t.watcher.files.countP (fun q => q.same p) = 1 := by
  constructor
  · intro files below source origin resetting b start origins
    exact ⟨(apply_unbounded files below source origin start).symm,
      evaluationOrigins_distinct files source origin resetting b⟩
  · intro settings canvas files ops path forced s t
    have hplain : s.plain = (fresh (.empty {}) settings canvas files).play (scriptEngine L) ops :=
      Engine.observed_play _ _ ops _
    have hreload : s.plain.reloadFrom (scriptEngine L) path forced =
        Prod.map Session.plain id (s.reloadFrom (scouting L) path forced) :=
      ((scriptEngine L).observed_hom (scout L)).reloadFrom_map path forced s
    have hdistinct : t.watcher.Distinct :=
      lasting_distinct.reloaded.reloadFrom path forced (play_distinct _ _ settings canvas files ops)
    obtain ⟨found, hrecord, hwatched⟩ := reloadFrom_found path forced s
    refine ⟨?_, found, hrecord, fun p hp => Path.countP_same hdistinct (hwatched p hp)⟩
    rw [← hplain, hreload]
    rfl

/-- A library includes the sketch, itself and a file that is missing. The sketch fails, and the
library is watched. -/
theorem includes_of_broken_library :
    let files := FileTree.sketchbook "include(\"lib\");" 0
      "include(\"main\"); include(\"lib\"); include(\"gone\");" 0
    let s := (Scouted.start {} (.blank 1 1) files).play (scouting sketchLanguage)
      [.install ⟨[⟨"/s"⟩]⟩, .load ⟨"/s/main"⟩, .run]
    let t := (s.reloadFrom (scouting sketchLanguage) ⟨"/s/main"⟩ false).1
    t.status = .error ∧ t.record = s.record ++ [⟨"/s/lib"⟩, ⟨"/s/main"⟩, ⟨"/s/lib"⟩] ∧
      t.watcher.files.countP (fun q => q.same ⟨"/s/lib"⟩) = 1 := by
  intro files s t
  have h : t.status = .error ∧ t.record = s.record ++ [⟨"/s/lib"⟩, ⟨"/s/main"⟩, ⟨"/s/lib"⟩] := by
    decide +kernel
  obtain ⟨-, found, hrecord, hwatched⟩ := (includes_end_and_are_watched sketchLanguage).2 {}
    (.blank 1 1) files [.install ⟨[⟨"/s"⟩]⟩, .load ⟨"/s/main"⟩, .run] ⟨"/s/main"⟩ false
  subst t s
  have hfound : [⟨"/s/lib"⟩, ⟨"/s/main"⟩, ⟨"/s/lib"⟩] = found :=
    List.append_cancel_left (h.2.symm.trans hrecord)
  exact ⟨h.1, h.2, hwatched _ (hfound ▸ List.mem_cons_self)⟩

end Session

end LiveSketch
