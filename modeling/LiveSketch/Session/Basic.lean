import LiveSketch.Engine
import LiveSketch.Input
import LiveSketch.Overlay
import LiveSketch.Settings

/-!
# Sessions

The state of one live sketch: what was loaded, how far it got, and what is shown.

## Main definitions

* `Status` — no sketch yet, running, or in error.
* `Session` — everything the lifecycle keeps, with the canvas it draws on and the files it sees.
* `Session.sync`, `Session.flush`, `Session.call` — the ways into the engine.

## Implementation notes

Operations are functions from sessions to sessions. The files are a field so that an edit between
two operations is an update of the session like any other.
-/

namespace LiveSketch

/-- How far the sketch got. -/
inductive Status where
  | noSketch
  | running
  | error
deriving DecidableEq, Inhabited

/-- The state of a live sketch. -/
structure Session (σ η : Type) where
  status : Status
  stage : Stage σ
  context : Context η
  canvas : Canvas
  files : FileTree
  watcher : Watcher
  /-- The sketch itself, links followed. -/
  script : Option Path
  frameCount : UInt64
  initialSize : Nat × Nat
  keyHeld : Bool
  pointer : Pointer
  /-- Whether the host has asked for setup. -/
  setupDone : Bool
  /-- The frame on screen when the sketch was last reloaded while running. -/
  lastGoodFrame : Option Image
  /-- What the overlay shows. -/
  error : Option Snapshot

namespace Session

variable {σ η : Type}

/-- A session without a sketch. -/
def fresh (engine : σ) (settings : Settings) (canvas : Canvas) (files : FileTree) :
    Session σ η where
  status := .noSketch
  stage := { engine, console := ({} : Console).setVerbose settings.verbose }
  context := { verbose := settings.verbose }
  canvas := canvas
  files := files
  watcher := .every settings.watchInterval
  script := none
  frameCount := 0
  initialSize := (settings.width, settings.height)
  keyHeld := false
  pointer := {}
  setupDone := false
  lastGoodFrame := none
  error := none

/-- The console scripts and diagnostics write to. -/
def console (s : Session σ η) : Console := s.stage.console

/-- The facts about the current frame. -/
def frameEnv (s : Session σ η) : FrameEnv where
  frameCount := s.frameCount
  width := s.canvas.width
  height := s.canvas.height
  mouseX := s.pointer.x
  mouseY := s.pointer.y
  mouseHeld := s.pointer.held
  keyHeld := s.keyHeld

/-- Adds a log record. -/
def note (s : Session σ η) (level : LogLevel) (area : LogArea) (text : String) : Session σ η :=
  { s with stage := s.stage.note level area text }

/-- Makes the console as verbose as the context says. -/
def followVerbosity (s : Session σ η) : Session σ η :=
  { s with stage := { s.stage with console := s.stage.console.setVerbose s.context.verbose } }

/-- Tells the engine about the current frame. It may act on requests the script made. -/
def sync (e : Engine σ η) (s : Session σ η) : Session σ η :=
  let (stage, context) := e.sync s.frameEnv s.files s.stage s.context
  followVerbosity { s with stage, context }

/-- Applies what the script queued for the canvas. -/
def flush (e : Engine σ η) (s : Session σ η) : Session σ η :=
  let (stage, canvas) := e.flush s.stage s.canvas
  { s with stage, canvas }

/-- Runs one callable. -/
def call (e : Engine σ η) (handle : η) (args : List Value) (s : Session σ η) :
    Session σ η × Except Failure Value :=
  let (stage, result) := e.invoke handle args s.stage
  ({ s with stage }, result)

end Session

end LiveSketch
