import LiveSketch.Canvas
import LiveSketch.Console
import LiveSketch.Entry
import LiveSketch.Hooks
import LiveSketch.LoadPath
import LiveSketch.Log

/-!
# Script engines

The seam between the lifecycle of a sketch and the language it is written in. The lifecycle only
sees callables to invoke, failures when one of them raises, and an engine that evaluates source text
into a shared context.

## Main definitions

* `Context` — what the lifecycle and the engine share across evaluations.
* `Stage` — what running script code may change besides.
* `FrameEnv` — the facts about the current frame that scripts can ask for.
* `Engine` — the operations of a script engine.

## Implementation notes

An engine is a record of functions over its own state `σ` and its own callables `η`, so statements
about the lifecycle can be made for every engine at once. The types say what each operation can
reach: only evaluation, dependency loading and `sync` see files and the context, only `flush` sees
the canvas.
-/

namespace LiveSketch

/-- State that the lifecycle and the engine share across evaluations. -/
structure Context (η : Type) where
  hooks : Hooks η := .empty
  entries : EntryPoints η := .none
  verbose : Bool := false
  dataPath : Option Path := none
  loadPath : LoadPath := {}
  /-- Files that scripts pulled in since the list was last taken, oldest first. -/
  dependencies : List Path := []

namespace Context

variable {η : Type}

instance : Inhabited (Context η) := ⟨{}⟩

/-- Drops everything the script defined. Paths stay. -/
def reset (ctx : Context η) : Context η := { ctx with hooks := .empty, entries := .none }

/-- Records a file the script pulled in, so that it will be watched. -/
def requestDependency (ctx : Context η) (path : Path) : Context η :=
  if Path.listed ctx.dependencies path then ctx
  else { ctx with dependencies := ctx.dependencies ++ [path] }

/-- The recorded files, and the context without them. -/
def takeDependencies (ctx : Context η) : List Path × Context η :=
  (ctx.dependencies, { ctx with dependencies := [] })

end Context

/-- Facts about the current frame that scripts can ask for. -/
structure FrameEnv where
  frameCount : UInt64 := 0
  width : Nat := 0
  height : Nat := 0
  mouseX : Int := 0
  mouseY : Int := 0
  mouseHeld : Bool := false
  keyHeld : Bool := false
deriving DecidableEq, Inhabited

/-- What running script code changes: the engine's own state, the console and the log. -/
structure Stage (σ : Type) where
  engine : σ
  console : Console := {}
  log : Log := #[]

namespace Stage

variable {σ : Type}

/-- Adds a log record. -/
def note (stage : Stage σ) (level : LogLevel) (area : LogArea) (text : String) : Stage σ :=
  { stage with log := stage.log.add level area text }

/-- Adds diagnostic text to a console stream. -/
def report (stage : Stage σ) (stream text : String) : Stage σ :=
  { stage with console := stage.console.log stream text }

end Stage

/-- A script engine with state `σ` and callables `η`. -/
structure Engine (σ η : Type) where
  /-- Evaluates source text of a given origin into the session. With `reset` set, everything
  defined before is discarded first. -/
  evaluate (source : String) (origin : Path) (reset : Bool) (files : FileTree) :
    Stage σ → Context η → Stage σ × Context η × Except Failure Unit
  /-- Evaluates a changed dependency again, in place. -/
  loadDependency (path : Path) (files : FileTree) :
    Stage σ → Context η → Stage σ × Context η × Except Failure Unit
  /-- Turns a failure into the text of the error overlay. -/
  processError (failure : Failure) : Stage σ → Stage σ × Except Failure String :=
    fun stage => (stage, .ok failure.message)
  /-- Called before any script code runs for a phase or an event. -/
  sync (env : FrameEnv) (files : FileTree) : Stage σ → Context η → Stage σ × Context η :=
    fun stage ctx => (stage, ctx)
  /-- Applies what the script queued for the canvas. -/
  flush : Stage σ → Canvas → Stage σ × Canvas := fun stage canvas => (stage, canvas)
  /-- Runs a callable. -/
  invoke (handle : η) (args : List Value) : Stage σ → Stage σ × Except Failure Value
  /-- The name a callable goes by. -/
  label : η → String := fun _ => "<anonymous>"

end LiveSketch
