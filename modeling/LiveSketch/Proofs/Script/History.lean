import LiveSketch.Script.Engine
import LiveSketch.Proofs.Session.Observed

/-!
# What a script engine has applied

Which source texts an engine applied, in which order, and how each of them ended: parsed or not, run
to its end or not, its requests carried out or not. The engine's own state does not say so, because
a source text that fails half way leaves its functions and part of its requests behind.

## How the record is made

For each operation of the engine there is a function that lists the applications it makes, newest
first. It follows the operation and lets the operation itself compute every state on the way. The
observer `historian` puts these lists together, with a mark for every reset.

## Main definitions

* `Ending`, `Application`, `History` — how an application ended, applications, and all of them.
* `ScriptEngine.recordSource`, `ScriptEngine.recordSettle`, `ScriptEngine.recordFile` — the
  applications that a step makes.
* `historian` — the observer that keeps the history.

## Main results

* `ScriptEngine.recordSource_own` — a complete application is a successful one.
* `History.UpToDate.extend`, `History.upToDate_of_mem` — what keeps the history of a file up to date.
-/

namespace LiveSketch

/-- How the application of a source text ended. -/
inductive Ending where
  /-- It was not parsed. -/
  | unparsed
  /-- A statement failed. -/
  | stopped
  /-- A request for a file or a hook could not be carried out. -/
  | unsettled
  /-- It was parsed, ran to its end, and all its requests were carried out. -/
  | complete
deriving DecidableEq

/-- One application of a source text. -/
structure Application where
  origin : Path
  text : String
  ending : Ending
deriving DecidableEq

/-- Something that happened to an engine's session. -/
inductive HistoryEvent where
  | reset
  | applied (application : Application)
deriving DecidableEq

/-- What happened to an engine, newest first. -/
abbrev History := List HistoryEvent

namespace History

/-- The applications since the last reset, newest first. -/
def sinceReset : History → List Application
  | [] => []
  | .reset :: _ => []
  | .applied a :: rest => a :: sinceReset rest

/-- The text that was applied last under a path. -/
def latest (path : Path) : History → Option String
  | [] => none
  | .reset :: rest => latest path rest
  | .applied a :: rest => if a.origin = path then some a.text else latest path rest

/-- Adds applications, newest first. -/
def extend (log : List Application) (h : History) : History := log.map .applied ++ h

@[simp] theorem extend_cons (a : Application) (log : List Application) (h : History) :
    extend (a :: log) h = .applied a :: extend log h := rfl

@[simp] theorem sinceReset_extend (log : List Application) (h : History) :
    sinceReset (extend log h) = log ++ sinceReset h := by
  induction log with
  | nil => rfl
  | cons a log ih => simp [sinceReset, ih]

/-- All applications, newest first. -/
def applications : History → List Application
  | [] => []
  | .reset :: rest => applications rest
  | .applied a :: rest => a :: applications rest

@[simp] theorem applications_extend (log : List Application) (h : History) :
    applications (extend log h) = log ++ applications h := by
  induction log with
  | nil => rfl
  | cons a log ih => simp [applications, ih]

/-- The text that was applied last under a path is the text that the file holds. -/
def UpToDate (files : FileTree) (h : History) (path : Path) : Prop :=
  ∃ text, files.readText path = .ok text ∧ h.latest path = some text

instance (files : FileTree) (h : History) (path : Path) : Decidable (UpToDate files h path) :=
  match hr : files.readText path with
  | .ok text => decidable_of_iff (h.latest path = some text) (by simp [UpToDate, hr])
  | .error _ => isFalse (by simp [UpToDate, hr])

/-- A file that is up to date stays so while everything applied is what the files hold. -/
theorem UpToDate.extend {files : FileTree} {log : List Application} {h : History} {path : Path}
    (hlog : ∀ a ∈ log, files.readText a.origin = .ok a.text) (hu : UpToDate files h path) :
    UpToDate files (extend log h) path := by
  induction log with
  | nil => exact hu
  | cons a log ih =>
    obtain ⟨text, hr, hl⟩ := ih fun b hb => hlog b (List.mem_cons_of_mem a hb)
    refine ⟨text, hr, ?_⟩
    rw [extend_cons]
    unfold latest
    split
    · next ho =>
      have ha := hlog a List.mem_cons_self
      rw [ho, hr] at ha
      rw [Except.ok.inj ha]
    · exact hl

/-- A file becomes up to date by being applied as it is. -/
theorem upToDate_of_mem {files : FileTree} {log : List Application} {a : Application}
    (hlog : ∀ a ∈ log, files.readText a.origin = .ok a.text) (ha : a ∈ log) (h : History) :
    UpToDate files (extend log h) a.origin := by
  induction log with
  | nil => cases ha
  | cons b log ih =>
    have hlog' : ∀ a ∈ log, files.readText a.origin = .ok a.text :=
      fun a ha => hlog a (List.mem_cons_of_mem b ha)
    by_cases ho : b.origin = a.origin
    · refine ⟨b.text, ho ▸ hlog b List.mem_cons_self, ?_⟩
      rw [extend_cons]
      unfold latest
      rw [if_pos ho]
    · obtain rfl | ha := List.mem_cons.mp ha
      · exact absurd rfl ho
      · obtain ⟨text, hr, hl⟩ := ih hlog' ha
        refine ⟨text, hr, ?_⟩
        rw [extend_cons]
        unfold latest
        rw [if_neg ho]
        exact hl

end History

namespace ScriptEngine

variable {L : Language}

/-- The applications that a step makes, newest first. -/
abbrev Recorder (L : Language) := Bench L → List Application

/-- The applications of several steps that are done in order, up to the first failure. -/
def recordEach {α : Type} (step : α → Action L) (record : α → Recorder L) : List α → Recorder L
  | [], _ => []
  | a :: rest, bench =>
    match step a bench with
    | (bench', .ok ()) => recordEach step record rest bench' ++ record a bench
    | (_, .error _) => record a bench

/-- The applications made by reading a file and applying it. -/
def recordFile (files : FileTree) (record : String → Path → Recorder L) (path : Path) :
    Recorder L := fun bench =>
  match files.readText path with
  | .error _ => []
  | .ok source =>
    record source path
      (note .debug s!"evaluating {path.text} ({source.utf8ByteSize} bytes)" bench)

/-- The file that is included under a name that was resolved. -/
def includedPath (files : FileTree) (found : Path) : Path :=
  match files.canonical found with
  | .ok path => path
  | .error _ => found

/-- The applications made by including a file. -/
def recordInclude (files : FileTree) (record : String → Path → Recorder L) (name : String) :
    Recorder L := fun bench =>
  match bench.2.loadPath.resolve files ⟨name⟩ with
  | none => []
  | some found =>
    let path := includedPath files found
    let bench := withContext (fun ctx => ctx.requestDependency path) bench
    if Path.listed bench.1.engine.included path then []
    else recordFile files record path (withState (fun s => s.markIncluded path) bench)

/-- Takes the requests off the board, and follows the one for a verbosity. -/
def takeRequests (bench : Bench L) : Bench L :=
  let requests := bench.1.engine.board.requests
  let bench := withState (fun s => { s with board := s.board.takeRequests.2 }) bench
  match requests.verbose with
  | some verbose => withContext (fun ctx => { ctx with verbose }) bench
  | none => bench

/-- The applications made by acting on requests. -/
def recordSettle (files : FileTree) (apply : Apply L) (record : String → Path → Recorder L) :
    Recorder L := fun bench =>
  recordEach (includeFile files apply) (recordInclude files record)
    bench.1.engine.board.requests.includes (takeRequests bench)

/-- The bench that the statements of a program start from. -/
def merged (program : L.Program) (origin : Path) (bench : Bench L) : Bench L :=
  shareDataPath (withState (fun s => s.merge program origin) bench)

/-- The applications made by applying a source text: those it includes, and before them itself. -/
def recordSource (files : FileTree) : Nat → String → Path → Recorder L
  | 0, source, origin, _ => [⟨origin, source, .unparsed⟩]
  | depth + 1, source, origin, bench =>
    match L.compile source with
    | .error _ => [⟨origin, source, .unparsed⟩]
    | .ok program =>
      match runProgram program (merged program origin bench) with
      | (_, .error _) => [⟨origin, source, .stopped⟩]
      | (bench, .ok ()) =>
        let ending : Ending := match settle files (applySource files depth) bench with
          | (_, .error _) => .unsettled
          | (_, .ok ()) => .complete
        recordSettle files (applySource files depth) (recordSource files depth) bench ++
          [⟨origin, source, ending⟩]

theorem applySource_succ {files : FileTree} (depth : Nat) (source : String) (origin : Path)
    (bench : Bench L) :
    applySource files (depth + 1) source origin bench = match L.compile source with
      | .error fault => (bench, .error (parseFailure fault origin))
      | .ok program => match runProgram program (merged program origin bench) with
        | (b, .error failure) => (b, .error failure)
        | (b, .ok ()) => match settle files (applySource files depth) b with
          | (b, .error failure) => (b, .error failure)
          | (b, .ok ()) => (discoverEntries b, .ok ()) := rfl

/-- The oldest of the applications of a source text is its own, and it is complete exactly when the
text is applied successfully. -/
theorem recordSource_own (files : FileTree) (depth : Nat) (source : String) (origin : Path)
    (bench : Bench L) : ∃ ending, ⟨origin, source, ending⟩ ∈
        recordSource files depth source origin bench ∧
      (ending = .complete ↔ (applySource files depth source origin bench).2 = .ok ()) := by
  cases depth with
  | zero => exact ⟨.unparsed, by simp [recordSource], by simp [applySource]⟩
  | succ depth =>
    rw [applySource_succ]
    unfold recordSource
    cases L.compile source with
    | error fault => exact ⟨.unparsed, by simp, by simp⟩
    | ok program =>
      dsimp only
      generalize runProgram program (merged program origin bench) = ran
      obtain ⟨bench', failure | _⟩ := ran
      · exact ⟨.stopped, by simp, by simp⟩
      · dsimp only
        generalize settle files (applySource files depth) bench' = settled
        obtain ⟨bench'', failure | _⟩ := settled
        · exact ⟨.unsettled, by simp, by simp⟩
        · exact ⟨.complete, by simp, by simp⟩

/-- The applications of a source text, with includes as deep as the files allow. -/
def record (files : FileTree) : String → Path → Recorder L :=
  recordSource files (includeDepth files)

/-- The same of a file that is read and applied. -/
theorem recordFile_own {files : FileTree} {path : Path} {text : String}
    (hr : files.readText path = .ok text) (bench : Bench L) :
    ∃ ending, ⟨path, text, ending⟩ ∈ recordFile files (record files) path bench ∧
      (ending = .complete ↔ (loadFile files (apply files) path bench).2 = .ok ()) := by
  unfold recordFile loadFile
  rw [hr]
  exact recordSource_own files (includeDepth files) text path _

/-- What evaluation starts from. -/
def evaluationStart (origin : Path) (resetting : Bool) (bench : Bench L) : Bench L :=
  withState (fun s => s.markIncluded origin) (if resetting then reset bench else bench)

end ScriptEngine

/-- The observer that keeps the history of a script engine. -/
def historian (L : Language) : Observer (ScriptState L) ScriptHandle History where
  evaluate source origin resetting files stage ctx h :=
    History.extend
      (ScriptEngine.record files source origin
        (ScriptEngine.evaluationStart origin resetting (stage, ctx)))
      (if resetting then .reset :: h else h)
  loadDependency path files stage ctx h :=
    History.extend
      (ScriptEngine.recordFile files (ScriptEngine.record files) path
        (ScriptEngine.withState (fun s => s.markIncluded path) (stage, ctx))) h
  sync env files stage ctx h :=
    History.extend
      (ScriptEngine.recordSettle files (ScriptEngine.apply files) (ScriptEngine.record files)
        (ScriptEngine.withState (fun s => { s with env }) (stage, ctx))) h

end LiveSketch
