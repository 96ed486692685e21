import LiveSketch.Number.Decimal
import LiveSketch.Session.Draw

/-!
# The host

What surrounds a session: pacing, window events, and the process streams that the console is
forwarded to.

## Main definitions

* `Host` — the session with its clock and the host's own view of the pointer.
* `Host.start`, `Host.frame` — starting the sketch, and one frame.
* `Host.cursorMoved`, `Host.mouseInput`, `Host.resize` — window events.
* `Host.reportRate` — the occasional note about the frame rate.

## Implementation notes

The host remembers the held button by its number, and the session's numbers are the same, so the
only way to stop the program is a number outside them (`Host.Abort`). Window requests are applied
by whoever owns a window; here they are only taken from the canvas.
-/

namespace LiveSketch

/-- The session's surroundings. -/
structure Host (σ η : Type) where
  session : Session σ η
  clock : FrameClock
  cursor : Int × Int
  heldButton : Option Int
  renderRequested : Bool
  /-- When the frame rate was last reported, in nanoseconds. -/
  lastRateReport : Nat
  exited : Bool
  /-- What was written to the standard output of the process. -/
  stdout : String
  /-- What was written to the standard error of the process. -/
  stderr : String

namespace Host

variable {σ η : Type}

/-- Why the host can stop the program. -/
inductive Abort where
  | unsupportedButton (index : Int)
  | clock (cause : FrameClock.Abort)
deriving DecidableEq, Inhabited

/-- The text the program stops with. -/
def Abort.message : Abort → String
  | unsupportedButton index => MouseButton.unsupported index
  | clock cause => cause.message

/-- A host around a session. Its canvas has the session's initial size, at least one pixel. -/
def around (session : Session σ η) (clock : FrameClock) : Host σ η where
  session := { session with
    canvas := .blank (max 1 session.initialSize.1) (max 1 session.initialSize.2) }
  clock := clock
  cursor := (0, 0)
  heldButton := none
  renderRequested := false
  lastRateReport := 0
  exited := false
  stdout := ""
  stderr := ""

/-- Forwards the console's streams to those of the process. -/
def drainConsole (h : Host σ η) : Host σ η :=
  let (out, console) := h.session.console.drain Console.stdout
  let (err, console) := console.drain Console.stderr
  { h with
    session := { h.session with stage := { h.session.stage with console } }
    stdout := h.stdout ++ out
    stderr := h.stderr ++ err }

/-- Takes the window requests and forwards console output. -/
def afterScript (h : Host σ η) : Host σ η :=
  let (_, canvas) := h.session.canvas.takeRequests
  { h with session := { h.session with canvas } }.drainConsole

/-- Replaces the session. -/
def withSession (h : Host σ η) (f : Session σ η → Session σ η) : Host σ η :=
  { h with session := f h.session }

/-- Starts the loaded sketch and sets it up. -/
def start (e : Engine σ η) (h : Host σ η) : Host σ η × Option FatalError :=
  match h.session.run e with
  | (session, some fatal) => ({ h with session }, some fatal)
  | (session, none) => ({ h with session := session.setup e }.afterScript, none)

/-- One frame: update and draw. -/
def frame (e : Engine σ η) (h : Host σ η) : Host σ η × Option FatalError :=
  match (h.session.update e).draw e with
  | (session, some fatal) => ({ h with session }, some fatal)
  | (session, none) => ({ h with session }.afterScript, none)

/-- The window has a new size. A window without an area changes nothing. -/
def resize (e : Engine σ η) (width height : Nat) (h : Host σ η) : Host σ η :=
  if width = 0 ∨ height = 0 then h
  else
    (h.withSession fun s =>
      { s with canvas := s.canvas.setSize width height }.windowResized e width height).afterScript

/-- The button of a host number, or the end of the program. -/
def button (index : Int) : Except Abort MouseButton :=
  match MouseButton.ofIndex index with
  | some button => .ok button
  | none => .error (.unsupportedButton index)

/-- The pointer moves: a drag while a button is held. -/
def cursorMoved (e : Engine σ η) (x y : Int) (h : Host σ η) : Except Abort (Host σ η) :=
  let h := { h with cursor := (x, y) }
  match h.heldButton with
  | none => .ok (h.withSession fun s => s.mouseMoved e x y).afterScript
  | some index =>
    match button index with
    | .error abort => .error abort
    | .ok button => .ok (h.withSession fun s => s.mouseDragged e x y button).afterScript

/-- A mouse button goes down or comes up. Buttons that sketches do not understand are ignored. -/
def mouseInput (e : Engine σ η) (pressed : Bool) (which : WindowButton) (h : Host σ η) :
    Except Abort (Host σ η) :=
  match which.index with
  | none => .ok h
  | some index =>
    let (x, y) := h.cursor
    let h := { h with heldButton := if pressed then some index else none }
    match button index with
    | .error abort => .error abort
    | .ok button =>
      .ok (h.withSession fun s =>
        if pressed then s.mousePressed e x y button else s.mouseReleased e x y button).afterScript

/-- Tells the clock the time. -/
def tick (now : Nat) (h : Host σ η) : Except Abort (Host σ η × Bool) :=
  match h.clock.tick now with
  | .error cause => .error (.clock cause)
  | .ok (clock, due) => .ok ({ h with clock }, due)

/-- Nanoseconds between two reports of the frame rate. -/
def reportInterval : Nat := 5 * FrameClock.nanosPerSecond

/-- A rate with one digit after the point. -/
def rateText : Binary → String
  | .nan => "NaN"
  | .infinite negative => if negative then "-inf" else "inf"
  | .finite negative m q =>
    let (n, d) := BinaryFormat.magnitude m q
    (if negative then "-" else "") ++ Decimal.fixed n d 1

/-- Notes the frame rate in the log, at most every five seconds. -/
def reportRate (now : Nat) (h : Host σ η) : Host σ η :=
  if now - h.lastRateReport < reportInterval then h
  else
    { h with lastRateReport := now }.withSession fun s =>
      s.note .debug .host
        s!"frame {s.frameCount} at {rateText h.clock.averageRate} fps"

end Host

end LiveSketch
