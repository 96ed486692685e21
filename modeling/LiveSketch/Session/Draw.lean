import LiveSketch.Session.Events
import LiveSketch.Session.Reload

/-!
# Drawing frames

One frame: the draw phase or the error overlay, then the countdown to the next look at the watched
files.

## Main definitions

* `Session.drawRunning`, `Session.drawError` — a frame of a running sketch, and of one in error.
* `Session.checkWatched` — reload what changed.
* `Session.draw` — the whole step.
-/

namespace LiveSketch
namespace Session

variable {σ η : Type}

/-- A frame in error: the overlay, then whatever the drawing defaults draw. -/
def drawError (e : Engine σ η) (s : Session σ η) : Session σ η :=
  let s := match s.error with
    | some snapshot => { s with canvas := snapshot.draw s.canvas }
    | none => s
  let s := match (s.sync e).applyDefaults e with
    | (s, some failure) =>
      s.note .debug .lifecycle s!"defaults failed while in error: {failure.message}"
    | (s, none) => s
  s.flush e

/-- Between prehooks and entry point of the draw phase: what the prehooks drew lands before the
frame is reset. -/
def prepareFrame (e : Engine σ η) (s : Session σ η) : Session σ η :=
  let s := s.flush e
  { s with canvas := s.canvas.resetFrame }

/-- Delivers the press of a held button once more. -/
def continuePress (e : Engine σ η) (s : Session σ η) : Session σ η :=
  match s.status, s.pointer.continuedPress with
  | .running, some (x, y, button) => s.deliver e .mousePressed (pointerArgs x y button)
  | _, _ => s

/-- A frame of a running sketch. The canvas is frozen before the commands of a failing draw phase
are applied. -/
def drawRunning (e : Engine σ η) (s : Session σ η) : Session σ η :=
  let (s, failures) := (s.sync e).phase e .draw (prepareFrame e)
  let s := (s.failAll e failures).flush e
  { s with frameCount := s.frameCount + 1 }.continuePress e

/-- Reloads for one changed file: a dependency is evaluated in place first. -/
def applyChange (e : Engine σ η) (change : WatchChange) (s : Session σ η) :
    Session σ η × Option FatalError :=
  let s := s.note .info .lifecycle s!"updating {change.path.text} in place"
  let s := { s with
    stage := s.stage.report Console.stdout s!"Updating {change.path.text} in place...\n" }
  let s :=
    if change.index = 0 then s
    else
      match e.loadDependency change.path s.files s.stage s.context with
      | (stage, context, .ok ()) => { s with stage, context }
      | (stage, context, .error failure) => { s with stage, context }.fail e failure
  s.reload e false

/-- Reloads for changed files in order, up to the first fatal condition. -/
def applyChanges (e : Engine σ η) : List WatchChange → Session σ η → Session σ η × Option FatalError
  | [], s => (s, none)
  | change :: rest, s =>
    match s.applyChange e change with
    | (s, none) => applyChanges e rest s
    | (s, some fatal) => (s, some fatal)

/-- Looks at the watched files and reloads what changed. -/
def checkWatched (e : Engine σ η) (s : Session σ η) : Session σ η × Option FatalError :=
  match s.watcher.poll s.files with
  | (watcher, .error fatal) => ({ s with watcher }, some fatal)
  | (watcher, .ok changes) => applyChanges e changes { s with watcher }

/-- Draws one frame, then counts down towards the next look at the watched files. Only a file that
became unreadable ends it. -/
def draw (e : Engine σ η) (s : Session σ η) : Session σ η × Option FatalError :=
  let s := match s.status with
    | .error => s.drawError e
    | .running => s.drawRunning e
    | .noSketch => s
  let (watcher, due) := s.watcher.tick
  let s := { s with watcher }
  if due then s.checkWatched e else (s, none)

end Session

end LiveSketch
