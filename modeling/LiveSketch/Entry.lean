import LiveSketch.Phase

/-!
# Entry points

The functions a sketch may define for the runtime to call: one for each phase, one that sets up
drawing defaults, and one for each kind of event.

## Main definitions

* `Entry`, `Entry.name`, `Entry.arity` — the entry points.
* `EntryPoints` — which of them are present, and what to call.
-/

namespace LiveSketch

/-- A function that the runtime calls. -/
inductive Entry where
  | setup
  | update
  | draw
  | exit
  | defaults
  | keyDown
  | keyPressed
  | keyUp
  | mouseMoved
  | mouseDragged
  | mouseDown
  | mousePressed
  | mouseUp
  | windowResized
deriving DecidableEq, Inhabited

namespace Entry

/-- All entry points, in the order in which they are listed. -/
def all : List Entry :=
  [setup, update, draw, exit, defaults, keyDown, keyPressed, keyUp, mouseMoved, mouseDragged,
    mouseDown, mousePressed, mouseUp, windowResized]

/-- The name a sketch defines the entry point under. -/
def name : Entry → String
  | setup => "setup"
  | update => "update"
  | draw => "draw"
  | exit => "exit"
  | defaults => "defaults"
  | keyDown => "key_down"
  | keyPressed => "key_pressed"
  | keyUp => "key_up"
  | mouseMoved => "mouse_moved"
  | mouseDragged => "mouse_dragged"
  | mouseDown => "mouse_down"
  | mousePressed => "mouse_pressed"
  | mouseUp => "mouse_up"
  | windowResized => "window_resized"

/-- How many arguments it is called with. -/
def arity : Entry → Nat
  | setup => 0
  | update => 0
  | draw => 0
  | exit => 0
  | defaults => 0
  | keyDown => 1
  | keyPressed => 1
  | keyUp => 1
  | mouseMoved => 2
  | mouseDragged => 3
  | mouseDown => 3
  | mousePressed => 3
  | mouseUp => 3
  | windowResized => 2

/-- The entry point of a phase. -/
def ofPhase : Phase → Entry
  | .setup => setup
  | .update => update
  | .draw => draw
  | .exit => exit

/-- The entry point of a given name. -/
def ofName? (text : String) : Option Entry := all.find? fun entry => entry.name = text

end Entry

/-- What to call for each entry point that is present. -/
structure EntryPoints (η : Type) where
  get : Entry → Option η := fun _ => none

namespace EntryPoints

variable {η : Type}

instance : Inhabited (EntryPoints η) := ⟨{}⟩

/-- No entry points. -/
def none : EntryPoints η := {}

/-- Sets one entry point. -/
def set (points : EntryPoints η) (entry : Entry) (handle : Option η) : EntryPoints η :=
  ⟨fun e => if e = entry then handle else points.get e⟩

/-- The callables that are present, in listing order. -/
def present (points : EntryPoints η) : List η := Entry.all.filterMap points.get

end EntryPoints

end LiveSketch
