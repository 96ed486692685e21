/-!
# Pointer and keyboard

The mouse buttons a sketch knows, the state of the pointer, and the names keys go by.

## Main definitions

* `MouseButton`, `MouseButton.ofIndex` — buttons and the host's numbers for them.
* `Pointer`, `Pointer.press`, `Pointer.continuedPress` — where the pointer is and what is held.
* `Key.name` — what a sketch is told about a key.
-/

namespace LiveSketch

/-- A mouse button. -/
inductive MouseButton where
  | left
  | middle
  | right
deriving DecidableEq, Inhabited

namespace MouseButton

/-- The button of a host number. Hosts only ever report 0, 1 or 2. -/
def ofIndex : Int → Option MouseButton
  | 0 => some left
  | 1 => some middle
  | 2 => some right
  | _ => none

/-- The text the program stops with when a host reports another number. -/
def unsupported (index : Int) : String := s!"unsupported mouse button {index}"

/-- The name scripts see. -/
def name : MouseButton → String
  | left => "left"
  | middle => "middle"
  | right => "right"

end MouseButton

/-- Where the pointer was last seen, the last button it was used with, and whether a button is
down. -/
structure Pointer where
  x : Int := 0
  y : Int := 0
  button : Option MouseButton := none
  held : Bool := false
deriving DecidableEq, Inhabited

namespace Pointer

/-- Moves the pointer. -/
def moveTo (p : Pointer) (x y : Int) : Pointer := { p with x := x, y := y }

/-- Moves the pointer with a button in use. -/
def dragTo (p : Pointer) (x y : Int) (button : MouseButton) : Pointer :=
  { p with x := x, y := y, button := some button }

/-- A button goes down. -/
def press (_p : Pointer) (x y : Int) (button : MouseButton) : Pointer :=
  { x, y, button := some button, held := true }

/-- A button comes up. The last button stays on record. -/
def release (p : Pointer) (x y : Int) : Pointer := { p with x := x, y := y, held := false }

/-- The press that is delivered again on every frame on which the button stays down. -/
def continuedPress (p : Pointer) : Option (Int × Int × MouseButton) :=
  match p.held, p.button with
  | true, some button => some (p.x, p.y, button)
  | _, _ => none

end Pointer

/-- A key as the window system reports it. -/
inductive Key where
  /-- A key that types text. -/
  | character (text : String)
  /-- A key known by the name of its function. -/
  | named (name : String)
  /-- A key that modifies the next one. -/
  | dead
  | unidentified
deriving DecidableEq, Inhabited

/-- The name a sketch gets for a key: what it types, or its function in lower case. The space bar
types a space. Other keys are not passed on. -/
def Key.name : Key → Option String
  | character text => some text
  | named name => if name = "Space" then some " " else some name.toLower
  | dead => none
  | unidentified => none

/-- A mouse button as the window system reports it. -/
inductive WindowButton where
  | left
  | middle
  | right
  | back
  | forward
  | other (number : Nat)
deriving DecidableEq, Inhabited

/-- The host's number for a button that sketches understand. -/
def WindowButton.index : WindowButton → Option Int
  | left => some 0
  | middle => some 1
  | right => some 2
  | back => none
  | forward => none
  | other _ => none

end LiveSketch
