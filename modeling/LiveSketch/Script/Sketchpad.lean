import LiveSketch.Engine
import LiveSketch.Script.Board
import LiveSketch.Script.Operator

/-!
# Functions of the sketchpad

The functions through which a script draws, asks about the frame, and makes requests.

## Main definitions

* `Scene` — what scripts can ask about.
* `Datum.coordinate?`, `Datum.extent?`, `Datum.channel?` — numbers as positions, sizes and colours.
* `Board.perform?` — the functions, by name.

## Implementation notes

**Every number is accepted.** A number is rounded to the nearest integer, a half away from zero, and
then moved into the range of what it stands for; what is not a number becomes zero. So no drawing
command holds a position outside of 32 bits.

`none` says that there is no such function for these arguments.
-/

namespace LiveSketch

/-- What scripts can ask about. -/
structure Scene where
  env : FrameEnv := {}
  dataPath : String := ""
  /-- Whether the statements of a source text are running. Files can be included only then. -/
  loading : Bool := false
deriving DecidableEq, Inhabited

/-- The integer nearest to a number, a half going away from zero, moved into a range. -/
def saturate (lo hi : Int) : Binary → Int
  | .nan => 0
  | .infinite negative => if negative then lo else hi
  | .finite negative m q =>
    let (n, d) := BinaryFormat.magnitude m q
    let nearest : Int := ((2 * n + d) / (2 * d) : Nat)
    max lo (min hi (if negative then -nearest else nearest))

namespace Datum

/-- A fault with a text of the host's own. -/
def refuse {α : Type} (text : String) : Except Cause α := .error (.thrown (.text text))

/-- The number that a value is. -/
def number? : Datum → Except Cause Binary
  | float x => .ok (Binary.ofFloat x)
  | int n => .ok (BinaryFormat.double.ofInt n)
  | d => refuse s!"expected a number, got {d.typeName}"

/-- A number as a coordinate of 32 bits. -/
def coordinate? (d : Datum) : Except Cause Int := d.number?.map (saturate (-(2 ^ 31)) (2 ^ 31 - 1))

/-- A number as a size of 32 bits. -/
def extent? (d : Datum) : Except Cause Nat := d.number?.map fun x => (saturate 0 (2 ^ 32 - 1) x).toNat

/-- A number as a side of the window, which has a limit. -/
def windowExtent? (d : Datum) : Except Cause Nat := do
  let extent ← d.extent?
  if maxExtent < extent then
    refuse s!"size() dimension {extent} exceeds the maximum of {maxExtent}"
  else pure extent

/-- A number as a part of a colour. -/
def channel? (d : Datum) : Except Cause UInt8 :=
  d.number?.map fun x => (saturate 0 255 x).toNat.toUInt8

/-- Three numbers as a colour. -/
def color? (r g b : Datum) (alpha : UInt8) : Except Cause Rgba := do
  let red ← r.channel?
  let green ← g.channel?
  let blue ← b.channel?
  pure ⟨red, green, blue, alpha⟩

/-- Two numbers as a position. -/
def point? (x y : Datum) : Except Cause Point := do
  let px ← x.coordinate?
  let py ← y.coordinate?
  pure ⟨px, py⟩

/-- The name of a function that is given as a text or by a pointer. -/
def functionName? : Datum → Except Cause String
  | text name => .ok name
  | pointer name _ => .ok name
  | _ => refuse "hooks take a function name or Fn pointer"

end Datum

namespace Board

/-- Changes the board unless the arguments are refused. -/
def change (b : Board) (made : Except Cause Board) : Board × Outcome :=
  match made with
  | .ok b => (b, .ok .unit)
  | .error cause => (b, .error cause)

/-- The request for a hook on a phase. -/
def hookRequest? (kind : HookKind) (phase : String) (target : Datum) :
    Except Cause HookRequest := do
  let phase ← match Phase.parse phase with
    | .ok phase => pure phase
    | .error text => Datum.refuse text
  let name ← target.functionName?
  pure ⟨phase, kind, name⟩

/-- The functions that draw or set the style. -/
def draw? (b : Board) (name : String) (args : List Datum) : Option (Board × Outcome) :=
  match name, args with
  | "background", [r, g, bl] => some <| b.change do
      let color ← Datum.color? r g bl 255
      pure (b.queue (.background color))
  | "fill", [r, g, bl] => some <| b.change do
      let fill ← Datum.color? r g bl 255
      pure { b with style := { b.style with fill } }
  | "fill", [r, g, bl, a] => some <| b.change do
      let alpha ← a.channel?
      let fill ← Datum.color? r g bl alpha
      pure { b with style := { b.style with fill } }
  | "stroke", [r, g, bl] => some <| b.change do
      let stroke ← Datum.color? r g bl 255
      pure { b with style := { b.style with stroke } }
  | "rect", [x, y, w, h] => some <| b.change do
      let corner ← Datum.point? x y
      let width ← w.extent?
      let height ← h.extent?
      pure (b.queue (.rect ⟨corner.x, corner.y, width, height⟩ b.style.fill))
  | "circle", [x, y, r] => some <| b.change do
      let center ← Datum.point? x y
      let radius ← r.extent?
      pure (b.queue (.circle center radius b.style.fill))
  | "line", [x₁, y₁, x₂, y₂] => some <| b.change do
      let start ← Datum.point? x₁ y₁
      let stop ← Datum.point? x₂ y₂
      pure (b.queue (.line start stop b.style.stroke))
  | "text", [content, x, y] => some <| b.change do
      let topLeft ← Datum.point? x y
      pure (b.queue (.text content.hostText topLeft b.style.fill))
  | "translate", [dx, dy] => some <| b.change do
      let offset ← Datum.point? dx dy
      pure (b.queue (.translate offset))
  | _, _ => none

/-- The functions that ask for something. -/
def ask? (scene : Scene) (b : Board) (name : String) (args : List Datum) :
    Option (Board × Outcome) :=
  match name, args with
  | "size", [w, h] => some <| b.change do
      let width ← w.windowExtent?
      let height ← h.windowExtent?
      pure (b.queue (.resize width height))
  | "title", [.text title] => some <| b.change (.ok (b.queue (.title title)))
  | "cursor", [.bool visible] => some <| b.change (.ok (b.queue (.cursor visible)))
  | "prehook", [.text phase, target] => some <| b.change do
      let hook ← hookRequest? .pre phase target
      pure (b.requestHook hook)
  | "posthook", [.text phase, target] => some <| b.change do
      let hook ← hookRequest? .post phase target
      pure (b.requestHook hook)
  | "include", [.text path] => some <| b.change <|
      if scene.loading then .ok (b.requestInclude path)
      else Datum.refuse "include() is only allowed at the top level"
  | "verbose", [.bool enabled] => some <| b.change (.ok (b.requestVerbosity enabled))
  | _, _ => none

/-- The functions that answer questions about the scene. -/
def answer? (scene : Scene) (name : String) (args : List Datum) : Option Datum :=
  match name, args with
  | "width", [] => some (.int scene.env.width)
  | "height", [] => some (.int scene.env.height)
  | "frame", [] => some (.int (Datum.wrap scene.env.frameCount.toNat))
  | "mouse_x", [] => some (.int scene.env.mouseX)
  | "mouse_y", [] => some (.int scene.env.mouseY)
  | "is_mouse_down", [] => some (.bool scene.env.mouseHeld)
  | "is_key_down", [] => some (.bool scene.env.keyHeld)
  | "data_path", [] => some (.text scene.dataPath)
  | _, _ => none

/-- The functions of the sketchpad. -/
def perform? (scene : Scene) (b : Board) (name : String) (args : List Datum) :
    Option (Board × Outcome) :=
  (b.draw? name args).or <| (b.ask? scene name args).or <|
    (answer? scene name args).map fun d => (b, .ok d)

end Board

end LiveSketch
