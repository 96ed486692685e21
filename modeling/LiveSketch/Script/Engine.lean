import LiveSketch.Engine
import LiveSketch.Script.Language

/-!
# The script engine

Evaluates source texts of a script language into a session.

## Main definitions

* `ScriptState` — the functions, variables and registrations that source texts left behind.
* `ScriptEngine.applySource` — merging and running one source text, with the files it includes.
* `scriptEngine` — the engine of a language.

## Implementation notes

**Reloading merges.** Functions of a new source text replace those of the same name and number of
parameters; variables and the sketch object stay. A reset starts from an empty session and keeps
only the facts about the current frame.

**Requests are acted on afterwards.** Statements only ask for files and hooks. When they have run
without a fault, `settle` includes the files and registers the hooks, in the order of the requests,
up to the first failure.

**Includes end.** A file is run at most once per session, so files that include each other are no
problem. `applySource` carries fuel for the depth of includes, as many levels as there are files.
-/

namespace LiveSketch

/-- What source texts left behind. -/
structure ScriptState (L : Language) where
  functions : FunctionTable L.Body
  /-- The name of the source text that was merged last. -/
  source : String
  globals : L.Variables
  /-- The object that scripts see as `this`. -/
  object : L.Object
  board : Board
  env : FrameEnv
  dataPath : String
  /-- The hooks that are registered, in order of registration. -/
  registered : List HookRequest
  /-- The files that were run, oldest first. -/
  included : List Path

/-- What the runtime can call: a function of the script, or the built-in `defaults`, which restores
the style and then calls the script's function of that name, if there was one. -/
inductive ScriptHandle where
  | function (name : String)
  | defaults (scripted : Bool)
deriving DecidableEq, Inhabited

namespace ScriptHandle

/-- The name a callable goes by. -/
def label : ScriptHandle → String
  | function name => name
  | defaults _ => Entry.defaults.name

end ScriptHandle

namespace ScriptState

variable {L : Language}

/-- An empty session. -/
def empty (env : FrameEnv) : ScriptState L where
  functions := []
  source := ""
  globals := L.noVariables
  object := L.newObject
  board := {}
  env := env
  dataPath := ""
  registered := []
  included := []

/-- Whether there is a function of a name and a number of parameters. -/
def hasFunction (s : ScriptState L) (name : String) (arity : Nat) : Bool :=
  s.functions.has name arity

/-- What scripts can ask about. -/
def scene (s : ScriptState L) (loading : Bool) : Scene := ⟨s.env, s.dataPath, loading⟩

/-- Notes that a file is run. -/
def markIncluded (s : ScriptState L) (path : Path) : ScriptState L :=
  if Path.listed s.included path then s else { s with included := s.included ++ [path] }

/-- Adds the functions of a source text. A source text without a name keeps the old name. -/
def merge (s : ScriptState L) (program : L.Program) (origin : Path) : ScriptState L :=
  { s with
    functions := s.functions.merge (L.functions program)
    source := if origin.text = "" then s.source else origin.text }

/-- The entry points that functions of the script are, and the built-in `defaults`. -/
def entryPoints (s : ScriptState L) : EntryPoints ScriptHandle where
  get entry :=
    let scripted := s.hasFunction entry.name entry.arity
    match entry with
    | .defaults => some (.defaults scripted)
    | entry => if scripted then some (.function entry.name) else none

end ScriptState

namespace ScriptEngine

variable {L : Language}

/-- What the engine acts on. -/
abbrev Bench (L : Language) := Stage (ScriptState L) × Context ScriptHandle

/-- A step of the engine, which can fail. -/
abbrev Action (L : Language) := Bench L → Bench L × Except Failure Unit

/-- Changes the engine's own state. -/
def withState (f : ScriptState L → ScriptState L) (bench : Bench L) : Bench L :=
  ({ bench.1 with engine := f bench.1.engine }, bench.2)

/-- Changes what is shared with the lifecycle. -/
def withContext (f : Context ScriptHandle → Context ScriptHandle) (bench : Bench L) : Bench L :=
  (bench.1, f bench.2)

/-- Adds a log record. -/
def note (level : LogLevel) (text : String) (bench : Bench L) : Bench L :=
  (bench.1.note level .script text, bench.2)

/-- Does steps in order, up to the first failure. -/
def inOrder {α : Type} (step : α → Action L) : List α → Action L
  | [], bench => (bench, .ok ())
  | a :: rest, bench =>
    match step a bench with
    | (bench, .ok ()) => inOrder step rest bench
    | (bench, .error failure) => (bench, .error failure)

/-- The failure of a source text that is not a program. -/
def parseFailure (fault : ParseFault) (origin : Path) : Failure where
  className := "ParseError"
  message := s!"{fault.message} in {origin.text}"
  backtrace := [Fault.placeText origin.text fault.place]

/-- A failure to find or to read a file. -/
def loadFailure (text : String) : Failure := ⟨"LoadError", text, []⟩

/-! ### Hooks -/

/-- The failure of a hook that names no function. -/
def hookFailure (hook : HookRequest) : Failure where
  className := "HookError"
  message := s!"cannot hook {hook.name} onto {hook.phase.name}: no function {hook.name}()"

/-- Adds a hook to a pipeline. -/
def addHook (hook : HookRequest) (hooks : Hooks ScriptHandle) : Hooks ScriptHandle :=
  match hook.kind with
  | .pre => hooks.addPre hook.phase (.function hook.name)
  | .post => hooks.addPost hook.phase (.function hook.name)

/-- Registers a hook. A hook is registered once. -/
def registerHook (hook : HookRequest) : Action L := fun bench =>
  let s := bench.1.engine
  if !s.hasFunction hook.name 0 then (bench, .error (hookFailure hook))
  else if s.registered.contains hook then (bench, .ok ())
  else
    let bench := withContext (fun ctx => { ctx with hooks := addHook hook ctx.hooks }) bench
    let bench := note .debug
      s!"registered {hook.kind.name} hook {hook.name} for {hook.phase.name}" bench
    (withState (fun s => { s with registered := s.registered ++ [hook] }) bench, .ok ())

/-! ### Source texts -/

/-- Applies a source text of a given origin. -/
abbrev Apply (L : Language) := String → Path → Action L

/-- Reads a file and applies it. -/
def loadFile (files : FileTree) (apply : Apply L) (path : Path) : Action L := fun bench =>
  match files.readText path with
  | .error cause => (bench, .error (loadFailure s!"cannot read {path.text}: {cause.message}"))
  | .ok source =>
    apply source path
      (note .debug s!"evaluating {path.text} ({source.utf8ByteSize} bytes)" bench)

/-- Includes a file by name, unless it was run before. It is watched in any case. -/
def includeFile (files : FileTree) (apply : Apply L) (name : String) : Action L := fun bench =>
  match bench.2.loadPath.resolve files ⟨name⟩ with
  | none => (bench, .error (loadFailure s!"cannot include {name}: not found in load path"))
  | some found =>
    let path := match files.canonical found with
      | .ok path => path
      | .error _ => found
    let bench := withContext (fun ctx => ctx.requestDependency path) bench
    if Path.listed bench.1.engine.included path then (bench, .ok ())
    else loadFile files apply path (withState (fun s => s.markIncluded path) bench)

/-- Acts on the requests that scripts made since the last time. -/
def settle (files : FileTree) (apply : Apply L) : Action L := fun bench =>
  let (requests, board) := bench.1.engine.board.takeRequests
  let bench := withState (fun s => { s with board }) bench
  let bench := match requests.verbose with
    | some verbose => withContext (fun ctx => { ctx with verbose }) bench
    | none => bench
  match inOrder (includeFile files apply) requests.includes bench with
  | (bench, .error failure) => (bench, .error failure)
  | (bench, .ok ()) => inOrder registerHook requests.hooks bench

/-- Runs the statements of a program whose functions are merged already. -/
def runProgram (program : L.Program) : Action L := fun bench =>
  let stage := bench.1
  let s := stage.engine
  let (globals, ground, result) :=
    L.run program s.functions s.source (s.scene true) s.globals ⟨s.board, stage.console⟩
  (({ stage with
      engine := { s with globals, board := ground.board }
      console := ground.console }, bench.2), result.mapError Fault.toFailure)

/-- Makes the entry points of the script known. -/
def discoverEntries (bench : Bench L) : Bench L :=
  withContext (fun ctx => { ctx with entries := bench.1.engine.entryPoints }) bench

/-- Tells scripts where the data of the sketch is. -/
def shareDataPath (bench : Bench L) : Bench L :=
  match bench.2.dataPath with
  | some path => withState (fun s => { s with dataPath := path.text }) bench
  | none => bench

/-- Applies a source text: merges its functions, runs its statements, acts on its requests, and
looks for entry points. The first argument bounds the depth of includes. -/
def applySource (files : FileTree) : Nat → Apply L
  | 0 => fun _ origin bench => (bench, .error (loadFailure s!"cannot read {origin.text}: too deep"))
  | depth + 1 => fun source origin bench =>
    match L.compile source with
    | .error fault => (bench, .error (parseFailure fault origin))
    | .ok program =>
      let bench := shareDataPath (withState (fun s => s.merge program origin) bench)
      match runProgram program bench with
      | (bench, .error failure) => (bench, .error failure)
      | (bench, .ok ()) =>
        match settle files (applySource files depth) bench with
        | (bench, .error failure) => (bench, .error failure)
        | (bench, .ok ()) => (discoverEntries bench, .ok ())

/-- More than the deepest nesting of includes. -/
def includeDepth (files : FileTree) : Nat := files.nodes.length + 2

/-- Applies a source text, with includes as deep as the files allow. -/
def apply (files : FileTree) : Apply L := applySource files (includeDepth files)

/-! ### Operations -/

/-- Forgets everything that scripts left behind. -/
def reset (bench : Bench L) : Bench L :=
  withContext Context.reset
    (withState (fun s => .empty s.env) (note .debug "resetting script session" bench))

/-- Evaluates source text, in an empty session if asked to. -/
def evaluate (source : String) (origin : Path) (resetting : Bool) (files : FileTree) : Action L :=
  fun bench =>
    let bench := if resetting then reset bench else bench
    apply files source origin (withState (fun s => s.markIncluded origin) bench)

/-- Runs a changed file again. -/
def loadDependency (path : Path) (files : FileTree) : Action L := fun bench =>
  loadFile files (apply files) path (withState (fun s => s.markIncluded path) bench)

/-- Calls a function of the script. -/
def callFunction (name : String) (args : List Value) (stage : Stage (ScriptState L)) :
    Stage (ScriptState L) × Except Failure Value :=
  let s := stage.engine
  let (globals, object, ground, result) :=
    L.call name args s.functions s.source (s.scene false) s.globals s.object
      ⟨s.board, stage.console⟩
  ({ stage with
    engine := { s with globals, object, board := ground.board }
    console := ground.console }, result.mapError Fault.toFailure)

/-- Runs a callable. -/
def invoke (handle : ScriptHandle) (args : List Value) (stage : Stage (ScriptState L)) :
    Stage (ScriptState L) × Except Failure Value :=
  match handle with
  | .function name => callFunction name args stage
  | .defaults scripted =>
    let stage := { stage with
      engine := { stage.engine with board := stage.engine.board.restyle } }
    if scripted then callFunction Entry.defaults.name args stage else (stage, .ok .unit)

/-- The name of the function that words failures for the overlay. -/
def formatterName : String := "process_error"

/-- A value in an overlay. -/
def overlayText (failure : Failure) : Value → String
  | .unit => failure.message
  | .bool b => if b then "true" else "false"
  | .int n => toString n
  | .float x => Datum.numberText .hostText x
  | .str s => s

/-- Words a failure for the overlay. -/
def processError (failure : Failure) (stage : Stage (ScriptState L)) :
    Stage (ScriptState L) × Except Failure String :=
  if stage.engine.hasFunction formatterName 1 then
    match callFunction formatterName [.str failure.message] stage with
    | (stage, result) => (stage, result.map (overlayText failure))
  else (stage, .ok failure.message)

/-- Takes note of the current frame, and acts on requests. A request that fails is dropped with all
that come after it. -/
def sync (env : FrameEnv) (files : FileTree) (bench : Bench L) : Bench L :=
  match settle files (apply files) (withState (fun s => { s with env }) bench) with
  | (bench, .ok ()) => bench
  | (bench, .error failure) => note .warn s!"ignoring registration: {failure.message}" bench

/-- Draws what scripts queued. -/
def flush (stage : Stage (ScriptState L)) (canvas : Canvas) : Stage (ScriptState L) × Canvas :=
  let (board, canvas) := stage.engine.board.flush canvas
  ({ stage with engine := { stage.engine with board } }, canvas)

end ScriptEngine

/-- The engine for sketches in a language. -/
def scriptEngine (L : Language) : Engine (ScriptState L) ScriptHandle where
  evaluate source origin resetting files stage ctx :=
    let ((stage, ctx), result) := ScriptEngine.evaluate source origin resetting files (stage, ctx)
    (stage, ctx, result)
  loadDependency path files stage ctx :=
    let ((stage, ctx), result) := ScriptEngine.loadDependency path files (stage, ctx)
    (stage, ctx, result)
  processError := ScriptEngine.processError
  sync env files stage ctx := ScriptEngine.sync env files (stage, ctx)
  flush := ScriptEngine.flush
  invoke := ScriptEngine.invoke
  label := ScriptHandle.label

end LiveSketch
