import LiveSketch.Session.Basic

/-!
# Failing and recovering

What a failure does to a session, and what undoes it.

## Main definitions

* `describeFailure`, `reportFailure` — the text of a failure, and its report on the console.
* `Session.fail`, `Session.enterError` — into the error state.
* `Session.recover` — out of it.

## Implementation notes

A running sketch that fails freezes the frame on screen. One that is in error already keeps the
frame it froze first, however many failures follow.
-/

namespace LiveSketch

/-- Asks the engine, and through it the script, for the text of a failure. A formatter that fails
itself leaves the failure's own text. -/
def describeFailure {σ η : Type} (e : Engine σ η) (failure : Failure) (stage : Stage σ) :
    Stage σ × String :=
  match e.processError failure stage with
  | (stage, .ok message) => (stage, message)
  | (stage, .error again) =>
    (stage.note .debug .recovery s!"error formatter failed: {again.message}", failure.message)

/-- Reports class, message and backtrace of a failure on the console. -/
def reportFailure (console : Console) (failure : Failure) : Console :=
  let console := console.log Console.stderr s!"class   = {failure.className}\n"
  let console := console.log Console.stderr s!"message = {failure.message}\n"
  let console := console.log Console.stderr "backtrace =\n"
  failure.backtrace.foldl (fun c frame => c.log Console.stderr s!"\tfrom {frame}\n") console

namespace Session

variable {σ η : Type}

/-- The image that stays behind the overlay when a failure brings no new one: the one already there,
or else the last good frame. -/
def keptBackdrop (s : Session σ η) : Option Image :=
  (s.error.bind (·.backdrop)).or s.lastGoodFrame

/-- Into the error state, with a fresh snapshot. Without a new backdrop the previous one is kept. -/
def enterError (e : Engine σ η) (failure : Failure) (backdrop : Option Image) (s : Session σ η) :
    Session σ η :=
  let (stage, message) := describeFailure e failure s.stage
  let stage := { stage with console := reportFailure stage.console failure }
  let stage := stage.note .warn .recovery s!"{failure.className}: {message}"
  { s with
    stage
    status := .error
    error := some ⟨backdrop.or s.keptBackdrop, message, failure⟩ }

/-- Handles a failure of phase or event code. -/
def fail (e : Engine σ η) (failure : Failure) (s : Session σ η) : Session σ η :=
  match s.status with
  | .running => s.enterError e failure (some s.canvas.captureFrame)
  | _ => s.enterError e failure none

/-- Handles several failures, in order. -/
def failAll (e : Engine σ η) (failures : List Failure) (s : Session σ η) : Session σ η :=
  failures.foldl (fun s failure => s.fail e failure) s

/-- Back to running. -/
def recover (s : Session σ η) : Session σ η := { s with status := .running, error := none }

end Session

end LiveSketch
