import LiveSketch.Proofs.Script.Verbosity
import LiveSketch.Proofs.Session.BeforeRun
import LiveSketch.Proofs.Session.Observed
import LiveSketch.Proofs.Session.Rounds

/-!
# How the console follows the verbosity of the session

A script that asks for another verbosity leaves it with the context of the session. The console has
a verbosity of its own, and this one decides which diagnostics are kept. A session makes its console
follow when it tells the engine about a frame, and after the evaluation of the sketch. After loading
a changed dependency it does not: it goes on to evaluate the sketch, and leaves the rest to that.

## The two verbosities

An observer notes what the context says each time that the engine had a hand in it. The console is
as verbose as the last note says after which it was made to follow, and the context as the last note
of all. So the two differ exactly if a dependency was loaded since that left another verbosity.

## Where they part

Nothing but a draw loads dependencies. Everything else works as with an engine that has none to
load, and keeps the two together. A draw that loads a dependency parts them only if the evaluation
that should follow does not take place, because the sketch was not started or its file holds no
text.

## Main definitions

* `Session.InStep` — the console is as verbose as the context says.
* `Verbosity`, `verbosityNotes` — what the context said, as noted by an observer.
* `Engine.withoutLoading` — the engine without dependencies to load.
* `Session.Evaluable` — the sketch was started, and its file holds a text.

## Main results

* `Session.play_noted` — both verbosities after any run.
* `Session.InStep.perform` — which steps keep them together.
* `Session.verbosity_followed_iff` — both together, for sketches.
-/

namespace LiveSketch

variable {σ η : Type}

/-! ### Engines that leave the console alone -/

theorem reportFailure_verbose (c : Console) (failure : Failure) :
    (reportFailure c failure).verbose = c.verbose := by
  have hframes : ∀ (frames : List String) (c : Console), (frames.foldl
      (fun c frame => c.log Console.stderr s!"\tfrom {frame}\n") c).verbose = c.verbose := by
    intro frames
    induction frames with
    | nil => exact fun _ => rfl
    | cons frame rest ih => exact fun c => (ih _).trans (c.log_verbose _ _)
  rw [reportFailure, hframes, Console.log_verbose, Console.log_verbose, Console.log_verbose]

/-- The engine, with nothing to load for a changed dependency. -/
def Engine.withoutLoading (e : Engine σ η) : Engine σ η :=
  { e with loadDependency := fun _ _ stage ctx => (stage, ctx, .ok ()) }

namespace Engine.KeepsVerbosity

variable {e : Engine σ η} (he : e.KeepsVerbosity)
include he

theorem withoutLoading : e.withoutLoading.KeepsVerbosity :=
  { he with loadDependency := fun _ _ _ _ => rfl }

theorem observed {κ : Type} (o : Observer σ η κ) : (e.observed o).KeepsVerbosity where
  evaluate source origin reset files stage ctx :=
    he.evaluate source origin reset files stage.plain ctx
  loadDependency path files stage ctx := he.loadDependency path files stage.plain ctx
  processError failure stage := he.processError failure stage.plain
  sync env files stage ctx := he.sync env files stage.plain ctx
  flush stage canvas := he.flush stage.plain canvas
  invoke handle args stage := he.invoke handle args stage.plain

/-- A failure is reported without a change of the verbosity. -/
theorem enterError (failure : Failure) (backdrop : Option Image) (s : Session σ η) :
    (s.enterError e failure backdrop).stage.console.verbose = s.stage.console.verbose := by
  have hworded := he.processError failure s.stage
  rw [Session.enterError, describeFailure]
  generalize e.processError failure s.stage = told at hworded ⊢
  obtain ⟨stage, again | message⟩ := told
  · exact (reportFailure_verbose _ failure).trans hworded
  · exact (reportFailure_verbose _ failure).trans hworded

theorem fail (failure : Failure) (s : Session σ η) :
    (s.fail e failure).stage.console.verbose = s.stage.console.verbose := by
  obtain ⟨backdrop, hf⟩ := Session.exists_fail_eq_enterError e failure s
  rw [hf]
  exact he.enterError failure backdrop s

end Engine.KeepsVerbosity

/-! ### What the context said -/

/-- What the context of a session said about the verbosity. -/
structure Verbosity where
  /-- What it said when the console was made to follow it. -/
  followed : Bool
  /-- The dependencies that were loaded since then, newest first, with what it said after each. -/
  loaded : List (Path × Bool) := []
deriving DecidableEq

/-- What the context said last. -/
def Verbosity.latest (v : Verbosity) : Bool :=
  match v.loaded with
  | [] => v.followed
  | (_, verbose) :: _ => verbose

/-- Takes notes of what the context says after the engine had a hand in it. -/
def verbosityNotes (e : Engine σ η) : Observer σ η Verbosity where
  evaluate source origin reset files stage ctx _ :=
    { followed := (e.evaluate source origin reset files stage ctx).2.1.verbose }
  loadDependency path files stage ctx v :=
    { v with loaded := (path, (e.loadDependency path files stage ctx).2.1.verbose) :: v.loaded }
  sync env files stage ctx _ := { followed := (e.sync env files stage ctx).2.verbose }

namespace Session

/-- The notes tell both verbosities. -/
structure Noted (s : Session (σ × Verbosity) η) : Prop where
  console : s.stage.console.verbose = s.record.followed
  context : s.context.verbose = s.record.latest

variable {e : Engine σ η}

/-- **The notes tell both verbosities** throughout every operation. -/
theorem lasting_noted (he : e.KeepsVerbosity) :
    Lasting (e.observed (verbosityNotes e)) (Noted (σ := σ) (η := η)) where
  note _ _ _ _ h := ⟨h.console, h.context⟩
  sync _ _ := ⟨rfl, rfl⟩
  call handle args s h := ⟨(he.invoke handle args s.stage.plain).trans h.console, h.context⟩
  flush s h := ⟨(he.flush s.stage.plain s.canvas).trans h.console, h.context⟩
  fail s failure h := by
    have hconsole := (he.observed (verbosityNotes e)).fail failure s
    have hrecord := Engine.fail_record e (verbosityNotes e) failure s
    refine ⟨(hconsole.trans h.console).trans (congrArg Verbosity.followed hrecord.symm), ?_⟩
    rw [hrecord, fail_eq]
    exact h.context
  canvas _ _ h := ⟨h.console, h.context⟩
  setupDone _ h := ⟨h.console, h.context⟩
  frameCount _ _ h := ⟨h.console, h.context⟩
  keyHeld _ _ h := ⟨h.console, h.context⟩
  pointer _ _ h := ⟨h.console, h.context⟩
  report s stream text h :=
    ⟨(s.stage.console.log_verbose stream text).trans h.console, h.context⟩
  evaluate s source path forced _ := by
    rw [evaluate_eq]
    constructor
    · rw [adopt_console, record, adopt_engine]
      rfl
    · rw [record, adopt_engine, adopt_eq]
      rfl
  loadDependency s path h :=
    ⟨(he.loadDependency path s.files s.stage.plain s.context).trans h.console, rfl⟩
  enterError s failure backdrop h := by
    have hconsole := (he.observed (verbosityNotes e)).enterError failure backdrop s
    have hrecord := Engine.enterError_record e (verbosityNotes e) failure backdrop s
    refine ⟨(hconsole.trans h.console).trans (congrArg Verbosity.followed hrecord.symm), ?_⟩
    rw [hrecord]
    exact h.context
  status _ _ _ h := ⟨h.console, h.context⟩
  lastGoodFrame _ _ h := ⟨h.console, h.context⟩

/-- **The notes tell both verbosities after any run.** -/
theorem play_noted (he : e.KeepsVerbosity) (engine : σ) (settings : Settings) (canvas : Canvas)
    (files : FileTree) (ops : List Operation) :
    Noted ((Session.fresh (engine, { followed := settings.verbose }) settings canvas files).play
      (e.observed (verbosityNotes e)) ops : Session (σ × Verbosity) η) := by
  refine play_invariant (fun op _ => (lasting_noted he).perform (fun s t h hs => ?_) op) ops
    ⟨rfl, rfl⟩
  have hrecord : t.record = s.record := congrArg Prod.snd h.engine
  exact ⟨by rw [h.console, hs.console, hrecord], by rw [h.context, hs.context, hrecord]⟩

/-! ### Steps that load nothing -/

/-- The console is as verbose as the context says. -/
def InStep (s : Session σ η) : Prop := s.console.verbose = s.context.verbose

variable {s t : Session σ η}

theorem adopt_inStep (ran : Stage σ × Context η × Except Failure Unit) :
    (s.adopt ran).1.InStep := by
  rw [InStep, console, adopt_console, adopt_eq]
  rfl

theorem evaluate_inStep (e : Engine σ η) (source : String) (path : Path) (forced : Bool)
    (s : Session σ η) : (s.evaluate e source path forced).1.InStep :=
  adopt_inStep _

/-- With nothing to load, the two verbosities stay together. -/
theorem lasting_inStep (he : e.KeepsVerbosity) :
    Lasting e.withoutLoading (InStep (σ := σ) (η := η)) where
  note _ _ _ _ h := h
  sync _ _ := rfl
  call handle args s h := (he.invoke handle args s.stage).trans h
  flush s h := (he.flush s.stage s.canvas).trans h
  fail s failure h := by
    have hconsole := he.withoutLoading.fail failure s
    rw [fail_eq] at hconsole ⊢
    exact hconsole.trans h
  canvas _ _ h := h
  setupDone _ h := h
  frameCount _ _ h := h
  keyHeld _ _ h := h
  pointer _ _ h := h
  report s stream text h := (s.stage.console.log_verbose stream text).trans h
  evaluate s source path forced _ := evaluate_inStep _ source path forced s
  loadDependency _ _ h := h
  enterError s failure backdrop h :=
    (he.withoutLoading.enterError failure backdrop s).trans h
  status _ _ _ h := h
  lastGoodFrame _ _ h := h

/-- Nothing but a draw loads dependencies. -/
theorem perform_withoutLoading {op : Operation} (hop : op ≠ .draw) (s : Session σ η) :
    s.perform e op = s.perform e.withoutLoading op := by
  cases op with
  | draw => exact absurd rfl hop
  | install _ | load _ | run | setup | update | exit | reload _ | reloadFrom _ _ | event _ | edit _
  | present _ | drain _ => rfl

/-- Neither does a draw that finds nothing but the sketch changed. -/
theorem applyChanges_withoutLoading {changes : List WatchChange}
    (hc : ∀ change ∈ changes, change.index = 0) (s : Session σ η) :
    s.applyChanges e changes = s.applyChanges e.withoutLoading changes := by
  induction changes generalizing s with
  | nil => rfl
  | cons change rest ih =>
    have hone : s.applyChange e change = s.applyChange e.withoutLoading change := by
      rw [applyChange_eq, applyChange_eq, if_pos (hc change List.mem_cons_self),
        if_pos (hc change List.mem_cons_self)]
      rfl
    rw [applyChanges, applyChanges, hone]
    generalize s.applyChange e.withoutLoading change = ran
    obtain ⟨t, _ | fatal⟩ := ran
    · exact ih (fun c hm => hc c (List.mem_cons_of_mem change hm)) t
    · rfl

/-! ### Steps that load a dependency -/

/-- The sketch was started, and its file holds a text. -/
def Evaluable (s : Session σ η) : Prop :=
  s.status ≠ .noSketch ∧ ∃ path text, s.script = some path ∧ s.files.readText path = .ok text

namespace Evaluable

theorem of_around (h : s.Evaluable) (ha : Around s t) (ht : t.status ≠ .noSketch) :
    t.Evaluable := by
  obtain ⟨-, path, text, hp, hr⟩ := h
  exact ⟨ht, path, text, ha.script.trans hp, ha.files ▸ hr⟩

theorem frame (h : s.Evaluable) (e : Engine σ η) (watcher : Watcher) :
    Evaluable { s.frame e with watcher } := by
  obtain ⟨hs, path, text, hp, hr⟩ := h
  obtain ⟨hfiles, -, hscript⟩ := frame_surroundings e s
  exact ⟨kept_started.frame hs, path, text, hscript.trans hp, hfiles ▸ hr⟩

variable (he : e.KeepsVerbosity) (h : s.Evaluable)
include he h

/-- A reload evaluates the sketch, and the console follows. -/
theorem reload (forced : Bool) :
    (s.reload e forced).1.InStep ∧ (s.reload e forced).1.Evaluable := by
  have haround := (lasting_around (e := e) s).reloaded.reload forced (.refl s)
  obtain ⟨hs, path, text, hp, hr⟩ := id h
  obtain ⟨size, hok, hfailed⟩ := reloadFrom_of_text (e := e) hs hr forced
  have hreload : s.reload e forced = s.reloadFrom e path forced := by rw [Session.reload, hp]
  rw [hreload] at haround ⊢
  have hran := evaluate_inStep e text path (forced || s.status = .error)
    (s.keepFrame.announceReading path size (forced || s.status = .error))
  generalize Session.evaluate e text path _ _ = ran at hran hok hfailed
  rcases hresult : ran.2 with failure | _
  · rw [hfailed failure hresult] at haround ⊢
    refine ⟨(he.enterError failure _ ran.1).trans hran, h.of_around haround ?_⟩
    show Status.error ≠ .noSketch
    decide
  · rw [hok hresult] at haround ⊢
    have hrecovered : ran.1.recovered.InStep := by
      rw [recovered]
      split <;> exact hran
    have hstarted : ran.1.recovered.status ≠ .noSketch := by
      rw [recovered_status]
      decide
    exact ⟨(lasting_inStep he).succeed _ hrecovered,
      h.of_around haround (kept_started.succeed _ hstarted)⟩

/-- So the console follows whatever a changed file is, since the sketch is evaluated after it. -/
theorem applyChange (change : WatchChange) :
    (s.applyChange e change).1.InStep ∧ (s.applyChange e change).1.Evaluable := by
  have hannounced : (s.announceChange change).Evaluable := h
  rw [applyChange_eq]
  split
  · exact hannounced.reload he false
  · refine (hannounced.of_around ?_ ?_).reload he false
    · exact (lasting_around (e := e) _).reloaded.reloadChanged change.path (.refl _)
    · rcases reloadChanged_cases e change.path (s.announceChange change) with hfailed | hok
      · rw [hfailed]
        decide
      · rw [reloadChanged_of_ok hok]
        exact hannounced.1

theorem applyChanges (hs : s.InStep) (changes : List WatchChange) :
    (s.applyChanges e changes).1.InStep := by
  induction changes generalizing s with
  | nil => exact hs
  | cons change rest ih =>
    obtain ⟨hnext, hagain⟩ := h.applyChange he change
    rw [Session.applyChanges]
    generalize s.applyChange e change = ran at hnext hagain ⊢
    obtain ⟨t, _ | fatal⟩ := ran
    · exact ih hagain hnext
    · exact hnext

end Evaluable

/-- **Which steps keep the two verbosities together**: all but draws that find a changed dependency
while the sketch cannot be evaluated. -/
theorem InStep.perform (he : e.KeepsVerbosity) (h : s.InStep) {op : Operation}
    (hop : op = .draw → s.FindsOnlySketch ∨ s.Evaluable) : (s.perform e op).1.InStep := by
  have hlasting := lasting_inStep he
  by_cases hdraw : op = .draw
  · subst hdraw
    have hframe : (s.frame e).InStep := hlasting.frame h
    show (s.draw e).1.InStep
    rcases hp : s.polled with _ | fatal | changes
    · rw [draw_of_not_polled hp]
      exact hframe
    · rw [draw_of_fatal hp]
      exact hframe
    · rw [draw_of_polled hp]
      rcases hop rfl with hsketch | hsketch
      · rw [applyChanges_withoutLoading (hsketch changes hp)]
        exact hlasting.reloaded.applyChanges changes hframe
      · exact (hsketch.frame e (s.watcher.tick.1.poll s.files).1).applyChanges he hframe changes
  · rw [perform_withoutLoading hdraw]
    exact hlasting.perform (fun s t hst hs => hst.console.trans (hs.trans hst.context.symm)) op h

/-- **How the console follows the verbosity of a session of sketches.** Take any operations, and any
edits of the files between them. The console is as verbose as the context said when the engine was
last told about a frame or evaluated a source text, and the context says what the last dependency
left that was loaded since, if one was. So the two are in step exactly if it left what the console
follows. They stay in step through every operation, whether it ends well or not, unless it is a draw
that finds a changed dependency while the sketch is not started or its file holds no text. The notes
change nothing about the run. -/
theorem verbosity_followed_iff (settings : Settings) (canvas : Canvas) (files : FileTree)
    (ops : List Operation) :
    let e := scriptEngine sketchLanguage
    let start : Session (ScriptState sketchLanguage × Verbosity) ScriptHandle :=
      .fresh (.empty {}, { followed := settings.verbose }) settings canvas files
    let noted := start.play (e.observed (verbosityNotes e)) ops
    let s := (Session.fresh (.empty {}) settings canvas files).play e ops
    noted.plain = s ∧
      s.console.verbose = noted.record.followed ∧ s.context.verbose = noted.record.latest ∧
      (s.InStep ↔ ∀ path verbose, noted.record.loaded.head? = some (path, verbose) →
        verbose = noted.record.followed) ∧
      ∀ op, s.InStep → (op = .draw → s.FindsOnlySketch ∨ s.Evaluable) →
        (s.perform e op).1.InStep := by
  intro e start noted s
  have he : e.KeepsVerbosity := scriptEngine_keepsVerbosity sketchLanguage_keepsVerbosity
  have hplain : noted.plain = s := Engine.observed_play e _ ops start
  have hnoted : noted.Noted := play_noted he _ settings canvas files ops
  have hconsole : s.console.verbose = noted.record.followed := hplain ▸ hnoted.console
  have hcontext : s.context.verbose = noted.record.latest := hplain ▸ hnoted.context
  refine ⟨hplain, hconsole, hcontext, ?_, fun op h hop => h.perform he hop⟩
  rw [InStep, hconsole, hcontext, Verbosity.latest]
  rcases noted.record.loaded with _ | ⟨⟨path, verbose⟩, rest⟩
  · simp
  · simp [eq_comm]

/-- A library is saved that switches the verbosity on, together with a sketch that is no text any
more. The next draw loads the library and leaves the console behind. -/
theorem verbosity_followed_iff_unreadable_sketch :
    let e := scriptEngine sketchLanguage
    let files : FileTree := .sketchbook "include(\"lib\");" 1000 "print(1);" 1000
    let later : FileTree := { nodes := [(["s"], .directory 0), (["s", "main"], .file [255] 1000),
      (["s", "lib"], .file (Utf8.encode "verbose(true);") 2000)] }
    let ops : List Operation :=
      [.install ⟨[⟨"/s"⟩]⟩, .load ⟨"/s/main"⟩, .run, .edit later, .draw]
    let start : Session (ScriptState sketchLanguage × Verbosity) ScriptHandle :=
      .fresh (.empty {}, { followed := false }) { watchInterval := 1 } (.blank 1 1) files
    let noted := start.play (e.observed (verbosityNotes e)) ops
    let s := (Session.fresh (.empty {}) { watchInterval := 1 } (.blank 1 1) files).play e ops
    noted.record = { followed := false, loaded := [(⟨"/s/lib"⟩, true)] } ∧ ¬ s.InStep := by
  intro e files later ops start noted s
  have hrecord : noted.record = { followed := false, loaded := [(⟨"/s/lib"⟩, true)] } := by
    decide +kernel
  obtain ⟨-, -, -, hiff, -⟩ := verbosity_followed_iff { watchInterval := 1 } (.blank 1 1) files ops
  refine ⟨hrecord, fun hstep => ?_⟩
  have hsame := hiff.mp hstep ⟨"/s/lib"⟩ true (congrArg (·.loaded.head?) hrecord)
  exact absurd (hsame.trans (congrArg Verbosity.followed hrecord)) (by decide)

end Session
end LiveSketch
