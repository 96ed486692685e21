import LiveSketch.Session.Phases
import LiveSketch.Text.Quoted

/-!
# Loading and reloading

From a path to a running sketch, and from a saved file to new behaviour.

## Main definitions

* `Session.installPath`, `Session.load` — the search path, and the sketch to run.
* `Session.run`, `Session.reload`, `Session.reloadFrom` — evaluating it.

## Implementation notes

A reload out of the error state is always forced, so a broken script never leaves half its
definitions behind. Undecodable text is a failure of the script; only a file that cannot be read is
fatal.
-/

namespace LiveSketch

/-- The text of a script file. Bytes that are not text are a failure of the script. -/
def decodeSource (path : Path) (bytes : List UInt8) : Except Failure String :=
  match Utf8.decode bytes with
  | .ok text => .ok text
  | .error offset => .error
    { className := "EncodingError"
      message := s!"{path.text} is not valid UTF-8 (invalid byte at offset {offset})"
      backtrace := [path.text] }

/-- Paths as the log lists them. -/
def quotedPaths (paths : List Path) : String :=
  "[" ++ ", ".intercalate (paths.map fun path => Quoted.text path.text) ++ "]"

namespace Session

variable {σ η : Type}

/-- Installs the search path. Nothing can be resolved without one, so an empty path is fatal. -/
def installPath (loadPath : LoadPath) (s : Session σ η) : Session σ η × Option FatalError :=
  if loadPath.isEmpty then (s, some .noLoadPath)
  else
    let s := s.note .debug .loading s!"load path: {quotedPaths loadPath.entries}"
    ({ s with context := { s.context with loadPath } }, none)

/-- Resolves the sketch, makes its directory the data path and the first place to search, and starts
watching it. Nothing is evaluated yet. -/
def load (path : Path) (s : Session σ η) : Session σ η × Option FatalError :=
  match s.files.modified path, s.files.canonical path with
  | .error cause, _ => (s, some (.scriptInaccessible path cause))
  | .ok _, .error cause => (s, some (.scriptInaccessible path cause))
  | .ok modified, .ok resolved =>
    let dataPath := resolved.parent.getD ⟨"."⟩
    let s := s.note .info .loading s!"loading {resolved.text}"
    ({ s with
      context := { s.context with
        dataPath := some dataPath
        loadPath := s.context.loadPath.unshift dataPath }
      watcher := (s.watcher.registerPrimary resolved).seed modified
      script := some resolved }, none)

/-- Watches the files that the last evaluation pulled in. -/
def watchDependencies (s : Session σ η) : Session σ η :=
  let (dependencies, context) := s.context.takeDependencies
  dependencies.foldl (fun s path =>
    if s.watcher.watches path then s
    else { s with watcher := s.watcher.register path }.note .debug .loading
      s!"watching {path.text}") { s with context }

/-- Evaluates decoded source text. -/
def evaluate (e : Engine σ η) (source : String) (path : Path) (forced : Bool) (s : Session σ η) :
    Session σ η × Except Failure Unit :=
  let s := s.sync e
  let (stage, context, result) := e.evaluate source path forced s.files s.stage s.context
  (({ s with stage, context }.followVerbosity).watchDependencies, result)

/-- Notes that a file was read and is about to be evaluated. -/
def announceReading (path : Path) (size : Nat) (forced : Bool) (s : Session σ η) : Session σ η :=
  let s := { s with stage := s.stage.report Console.stdout s!"Reading {path.text} ({size}b)\n" }
  s.note .debug .loading s!"evaluating {path.text} ({size} bytes, forced: {forced})"

/-- Decodes and evaluates the bytes of a script file. -/
def evaluateBytes (e : Engine σ η) (path : Path) (bytes : List UInt8) (forced : Bool)
    (s : Session σ η) : Session σ η × Except Failure Unit :=
  let s := s.announceReading path bytes.length forced
  match decodeSource path bytes with
  | .ok source => s.evaluate e source path forced
  | .error failure => (s, .error failure)

/-- After a successful evaluation: running again, and set up again if the session was reset. -/
def succeed (e : Engine σ η) (forced : Bool) (s : Session σ η) : Session σ η :=
  let s := match s.status with
    | .error => s.note .info .loading "recovered from error"
    | _ => s
  let s := s.recover
  if forced && s.setupDone then s.setup e else s

/-- Keeps a copy of the frame on screen, while the sketch is running. -/
def keepFrame (s : Session σ η) : Session σ η :=
  match s.status with
  | .running => { s with lastGoodFrame := some s.canvas.captureFrame }
  | _ => s

/-- The backdrop for a failed evaluation: the frame kept before it, if the sketch was running. -/
def evaluationBackdrop (s : Session σ η) : Option Image :=
  match s.status with
  | .running => s.lastGoodFrame
  | _ => none

/-- Evaluates a script file into the session. -/
def reloadFrom (e : Engine σ η) (path : Path) (forced : Bool) (s : Session σ η) :
    Session σ η × Option FatalError :=
  if s.status = .noSketch then
    (s.note .debug .loading s!"reload of {path.text} before run()", none)
  else
    let forced := forced || s.status = .error
    let s := s.keepFrame
    match s.files.read path with
    | .error cause => (s, some (.scriptInaccessible path cause))
    | .ok bytes =>
      match s.evaluateBytes e path bytes forced with
      | (s, .ok ()) => (s.succeed e forced, none)
      | (s, .error failure) => (s.enterError e failure s.evaluationBackdrop, none)

/-- Evaluates the sketch again. -/
def reload (e : Engine σ η) (forced : Bool) (s : Session σ η) : Session σ η × Option FatalError :=
  match s.script with
  | none => (s.note .debug .loading "reload() without a loaded script", none)
  | some path => s.reloadFrom e path forced

/-- Starts a loaded sketch: it is running from now on, and evaluated. The host asks for setup
afterwards. -/
def run (e : Engine σ η) (s : Session σ η) : Session σ η × Option FatalError :=
  match s.script with
  | none => (s.note .debug .lifecycle "run() without a loaded script", none)
  | some _ =>
    let s := match s.status with
      | .noSketch => { s with status := .running }
      | _ => s
    s.reload e false

end Session

end LiveSketch
