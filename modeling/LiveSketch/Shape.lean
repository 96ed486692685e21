import LiveSketch.Image
import LiveSketch.Font

/-!
# Shapes

What the drawing primitives cover. A shape is a decidable set of pixels, so that drawing it can be
described pixel by pixel: a pixel in the set is blended once, every other one is left alone.

## Main definitions

* `Shape` — filled rectangle, filled circle, one pixel wide line, block of text.
* `Shape.covers` — membership.
* `Shape.meets` — whether a shape covers a position of a rectangle.

## Implementation notes

**A line is a function of its major axis.** The usual error-accumulating walk takes one step along
the axis of the larger delta for each pixel and a step along the other whenever the accumulated
error passes the larger delta. After `k` pixels it has taken `(2 * minor * k + major - 1) / (2 *
major)` minor steps, so membership is decided without walking.

**A circle of radius `r` is centred between pixels.** Its diameter is `2 * r`, so it covers the box
from `cx - r + 1` to `cx + r`, and distances are measured in half pixels from `cx + 1/2`. A diameter
is a 32-bit size, and for a radius from `2 ^ 31` on it is the largest of them. That one is odd, and
such a circle is centred on a pixel.

**A shape and a rectangle are compared without listing either.** Both may have more pixels than can
be gone through. A rectangle and a circle are asked at one position, the nearest to their corner or
their centre. A line steps aside by one pixel at a time, so that the ends of a part of its walk say
what lies between them.
-/

namespace LiveSketch

/-- What a drawing primitive draws. -/
inductive Shape where
  | rect (region : Region)
  | circle (center : Point) (radius : Nat)
  | line (start stop : Point)
  | text (content : String) (topLeft : Point)

namespace Shape

/-- The bound that the squared half-pixel distance of a covered pixel stays below. Small circles are
drawn slightly smaller, which looks rounder. -/
def circleThreshold (diameter : Nat) : Nat :=
  if diameter ≤ 4 then diameter * diameter - diameter / 2 else diameter * diameter

/-- The diameter of a circle: twice the radius, if that is a 32-bit size, and else the largest. -/
def diameter (radius : Nat) : Nat := min (2 * radius) 4294967295

/-- The box around a circle. Its sides are even for all but the largest circles, and the centre is
then the last position of the first half. -/
def circleBox (center : Point) (radius : Nat) : Region :=
  let before : Nat := (diameter radius - 1) / 2
  ⟨center.x - before, center.y - before, diameter radius, diameter radius⟩

/-- Whether a circle covers a pixel. -/
def circleCovers (center : Point) (radius : Nat) (p : Point) : Bool :=
  let box := circleBox center radius
  let dx := 2 * (p.x - box.x) - (diameter radius - 1)
  let dy := 2 * (p.y - box.y) - (diameter radius - 1)
  box.contains p && decide (dx * dx + dy * dy < circleThreshold (diameter radius))

/-- The direction of a step along one axis. A zero delta counts as forward. -/
def stepSign (delta : Int) : Int := if 0 ≤ delta then 1 else -1

/-- How many steps along the minor axis a line has taken by its `k`-th pixel. -/
def minorSteps (major minor k : Nat) : Nat :=
  if major = 0 then 0 else (2 * minor * k + major - 1) / (2 * major)

/-- Whether a line whose deltas are `major` (along the axis it walks) and `minor` covers the pixel
at offsets `dMajor` and `dMinor` from its start. -/
def lineCoversOffset (major minor dMajor dMinor : Int) : Bool :=
  let along := stepSign major * dMajor
  decide (0 ≤ along ∧ along ≤ major.natAbs)
    && decide (dMinor = stepSign minor * minorSteps major.natAbs minor.natAbs along.toNat)

/-- Whether a line covers a pixel. The walk follows `y` unless the line is wider than high. -/
def lineCovers (start stop p : Point) : Bool :=
  let d := stop - start
  let q := p - start
  if d.x.natAbs ≤ d.y.natAbs then lineCoversOffset d.y d.x q.y q.x
  else lineCoversOffset d.x d.y q.x q.y

/-- The lines of a text: split at every line feed, without one trailing carriage return each. -/
def textLines (content : String) : List (List Char) :=
  (split content.toList).map fun chars =>
    if chars.getLast? = some '\r' then chars.dropLast else chars
where
  /-- Splits at line feeds; a text without one is a single line. -/
  split : List Char → List (List Char)
    | [] => [[]]
    | c :: rest =>
      match split rest with
      | [] => [[c]]
      | first :: more => if c = '\n' then [] :: first :: more else (c :: first) :: more

/-- Whether lines of text with their top left corner at the origin cover an offset. -/
def textCovers (lines : Array (Array Char)) (offset : Point) : Bool :=
  if 0 ≤ offset.x ∧ 0 ≤ offset.y then
    let col := offset.x.toNat
    let row := offset.y.toNat
    match lines[row / Font.cellHeight]? with
    | none => false
    | some chars =>
      match chars[col / Font.cellWidth]? with
      | none => false
      | some c => Font.inked c (col % Font.cellWidth) (row % Font.cellHeight)
  else false

/-- The lines of a text as arrays, for looking characters up. -/
def textGrid (content : String) : Array (Array Char) :=
  ((textLines content).map List.toArray).toArray

/-- Whether the shape covers a pixel. -/
def covers : Shape → Point → Bool
  | rect region => region.contains
  | circle center radius => circleCovers center radius
  | line start stop => lineCovers start stop
  | text content topLeft =>
    let grid := textGrid content
    fun p => textCovers grid (p - topLeft)

/-- The pixels of one character cell whose top left corner is `corner`. -/
def glyphPixels (c : Char) (corner : Point) : List Point :=
  (List.range Font.cellHeight).flatMap fun row =>
    (List.range Font.cellWidth).filterMap fun col =>
      if Font.inked c col row then some ⟨corner.x + col, corner.y + row⟩ else none

/-- All the pixels of a text. -/
def textPixels (content : String) (topLeft : Point) : List Point :=
  (textLines content).zipIdx.flatMap fun (chars, row) =>
    chars.zipIdx.flatMap fun (c, col) =>
      glyphPixels c ⟨topLeft.x + Font.cellWidth * col, topLeft.y + Font.cellHeight * row⟩

/-- How many steps in the direction of `delta` lead from `start` to the nearer and to the farther
end of the `length` coordinates from `low` on. -/
def stepsTo (delta start low : Int) (length : Nat) : Int × Int :=
  if 0 ≤ delta then (low - start, low + length - 1 - start)
  else (start - (low + length - 1), start - low)

/-- Whether a line of these deltas has a pixel whose numbers of steps along its major and its minor
axis are both within bounds. -/
def lineReaches (major minor : Nat) (along across : Int × Int) : Bool :=
  let first := max 0 along.1
  let last := min (major : Int) along.2
  decide (first ≤ last ∧ across.1 ≤ across.2)
    && decide (minorSteps major minor first.toNat ≤ across.2)
    && decide (across.1 ≤ minorSteps major minor last.toNat)

/-- Whether a line covers a position of a rectangle. -/
def lineMeets (start stop : Point) (r : Region) : Bool :=
  let d := stop - start
  let right := stepsTo d.x start.x r.x r.width
  let down := stepsTo d.y start.y r.y r.height
  if d.x.natAbs ≤ d.y.natAbs then lineReaches d.y.natAbs d.x.natAbs down right
  else lineReaches d.x.natAbs d.y.natAbs right down

/-- Whether the shape covers a position of a rectangle. -/
def meets (shape : Shape) (r : Region) : Bool :=
  match shape with
  | rect region =>
    let p := r.nearest ⟨region.x, region.y⟩
    r.contains p && region.contains p
  | circle center radius =>
    let p := r.nearest center
    r.contains p && circleCovers center radius p
  | line start stop => lineMeets start stop r
  | text content topLeft => (textPixels content topLeft).any r.contains

end Shape

end LiveSketch
