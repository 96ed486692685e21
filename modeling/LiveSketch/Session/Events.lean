import LiveSketch.Session.Recovery

/-!
# Input events

Pointer and keyboard. What is held and where the pointer is, is always tracked; script entry points
are called only while the sketch is running.

## Main definitions

* `Session.deliver` — call an entry point for an event.
* `Session.keyPressed`, `Session.mouseMoved`, … — the events.
-/

namespace LiveSketch
namespace Session

variable {σ η : Type}

/-- Calls an entry point for an event, while running. A failure puts the session into its error
state. -/
def deliver (e : Engine σ η) (entry : Entry) (args : List Value) (s : Session σ η) :
    Session σ η :=
  match s.status, s.context.entries.get entry with
  | .running, some handle =>
    let s := s.note .trace .input s!"event -> {e.label handle}"
    let (s, result) := (s.sync e).call e handle args
    let s := s.flush e
    match result with
    | .ok _ => s
    | .error failure => s.fail e failure
  | _, _ => s

/-- The arguments of a pointer event with a button. -/
def pointerArgs (x y : Int) (button : MouseButton) : List Value :=
  [.int x, .int y, .str button.name]

/-- A key goes down. While one is held already, this is a repeat. -/
def keyPressed (e : Engine σ η) (key : String) (s : Session σ η) : Session σ η :=
  let entry := if s.keyHeld then Entry.keyPressed else Entry.keyDown
  { s with keyHeld := true }.deliver e entry [.str key]

/-- A key comes up. -/
def keyReleased (e : Engine σ η) (key : String) (s : Session σ η) : Session σ η :=
  { s with keyHeld := false }.deliver e .keyUp [.str key]

/-- The pointer moves with no button down. -/
def mouseMoved (e : Engine σ η) (x y : Int) (s : Session σ η) : Session σ η :=
  { s with pointer := s.pointer.moveTo x y }.deliver e .mouseMoved [.int x, .int y]

/-- The pointer moves with a button down. -/
def mouseDragged (e : Engine σ η) (x y : Int) (button : MouseButton) (s : Session σ η) :
    Session σ η :=
  { s with pointer := s.pointer.dragTo x y button }.deliver e .mouseDragged
    (pointerArgs x y button)

/-- A button goes down. -/
def mousePressed (e : Engine σ η) (x y : Int) (button : MouseButton) (s : Session σ η) :
    Session σ η :=
  { s with pointer := s.pointer.press x y button }.deliver e .mouseDown (pointerArgs x y button)

/-- A button comes up. -/
def mouseReleased (e : Engine σ η) (x y : Int) (button : MouseButton) (s : Session σ η) :
    Session σ η :=
  { s with pointer := s.pointer.release x y }.deliver e .mouseUp (pointerArgs x y button)

/-- The window has a new size. -/
def windowResized (e : Engine σ η) (width height : Nat) (s : Session σ η) : Session σ η :=
  s.deliver e .windowResized [.int width, .int height]

end Session

end LiveSketch
