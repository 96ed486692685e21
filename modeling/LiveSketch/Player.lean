import LiveSketch.CommandLine
import LiveSketch.Log.Filter
import LiveSketch.Script.Engine
import LiveSketch.Script.SketchLanguage
import LiveSketch.Session.Reload
import LiveSketch.Settings.File

/-!
# The player

From a command line to a session that is ready to run in a window.

## Main definitions

* `Invocation.settings` — the settings a command line leads to.
* `Settings.shown` — settings as the log shows them.
* `Player.start` — everything up to opening the window.

## Implementation notes

Options override the settings file, except that directories are added to those of the file and that
`--verbose` can only switch on. The log goes to standard error, before the last words of a program
that ends.
-/

namespace LiveSketch

/-- The settings a command line leads to, or what to say about its settings file. -/
def Invocation.settings (i : Invocation) (tree : FileTree) : Except String Settings :=
  let base := match i.config with
    | some path => Settings.load tree path
    | none => .ok {}
  base.map fun s => { s with
    width := i.width.getD s.width
    height := i.height.getD s.height
    fps := i.fps.getD s.fps
    watchInterval := i.watchInterval.getD s.watchInterval
    verbose := s.verbose || i.verbose
    loadPaths := s.loadPaths ++ i.searchDirectories
    defaultLoadPath := s.defaultLoadPath && !i.noDefaultPath }

/-- Settings as the log shows them. -/
def Settings.shown (s : Settings) : String :=
  let title := match s.title with
    | some title => s!"Some({Quoted.text title})"
    | none => "None"
  let fields := [("width", toString s.width), ("height", toString s.height),
    ("fps", NumberStyle.diagnostic.render .single s.fps),
    ("watch_interval", toString s.watchInterval), ("verbose", toString s.verbose),
    ("load_paths", quotedPaths s.loadPaths),
    ("default_load_path", toString s.defaultLoadPath), ("title", title)]
  "RuntimeConfig \x7b " ++ ", ".intercalate (fields.map fun (name, value) => s!"{name}: {value}") ++
    " \x7d"

namespace Player

/-- A session with the script engine. -/
abbrev SketchSession := Session (ScriptState sketchLanguage) ScriptHandle

/-- What comes after the start. -/
inductive Next where
  /-- The program ends with an exit code. -/
  | exit (code : Nat)
  /-- The session runs in a window. -/
  | run (settings : Settings) (session : SketchSession)

/-- What the start wrote, and what comes after it. -/
structure Start where
  stdout : String := ""
  stderr : String := ""
  next : Next

/-- A session that has its search path and its sketch, or the reason why there is none. -/
def prepare (i : Invocation) (settings : Settings) (tree : FileTree) (env : Environment) :
    SketchSession × Option FatalError :=
  let (loadPath, warnings) := settings.searchPath tree env
  let s : SketchSession := .fresh (.empty {}) settings (.blank settings.width settings.height) tree
  let s := { s with stage := { s.stage with log := warnings.toArray } }
  match s.installPath loadPath with
  | (s, some fatal) => (s, some fatal)
  | (s, none) => s.load i.script

/-- Starts with a command line that has been understood. -/
def begin (i : Invocation) (view : LogView) (tree : FileTree) (env : Environment) : Start :=
  match i.settings tree with
  | .error message => { stderr := message ++ "\n", next := .exit 1 }
  | .ok settings =>
    let (s, fatal) := prepare i settings tree env
    let records := ⟨.info, .player, settings.shown⟩ :: s.stage.log.toList
    match fatal with
    | none =>
      { stderr := view.showAll records
        next := .run settings { s with stage := { s.stage with log := #[] } } }
    | some fatal =>
      { stderr := view.showAll (records ++ [⟨.error, .fatal, fatal.message⟩]) ++ fatal.farewell
        next := .exit fatal.exitCode }

/-- Everything up to opening the window. -/
def start (arguments : List String) (tree : FileTree) (env : Environment) : Start :=
  let (view, warnings) := LogView.ofEnvironment env
  let started : Start := match CommandLine.read arguments with
    | .error .help => { stdout := CommandLine.helpText, next := .exit 0 }
    | .error .version => { stdout := CommandLine.versionText, next := .exit 0 }
    | .error (.misuse cause) => { stderr := cause.message, next := .exit 2 }
    | .ok i => begin i view tree env
  { started with stderr := warnings ++ started.stderr }

/-- The line about a window that could not be opened. -/
def windowFailure (cause : String) : String := s!"vivo runtime failed: {cause}\n"

end Player

end LiveSketch
