import LiveSketch.Surface

/-!
# Regions and images

Rectangles of pixels and captured blocks of pixels. Sides of a buffer are clamped to `maxExtent`,
so a mistyped size cannot ask for an unbounded amount of memory.

## Main definitions

* `Point`, `Region` — positions and axis-aligned rectangles, in pixels.
* `Point.strays` — the positions that a move takes out of the machine range.
* `bufferLen` — the number of pixels of a buffer, both sides clamped.
* `Image` — a row-major block of pixels.

## Implementation notes

Coordinates are `Int`. The machine range that a position has to stay in is a predicate
(`Point.Fits`) rather than a wrapping type, so that sums can be reasoned about before it is asked
whether they fit.
-/

namespace LiveSketch

/-- A pixel position. -/
structure Point where
  x : Int
  y : Int
deriving DecidableEq, Inhabited

namespace Point

/-- The origin. -/
def zero : Point := ⟨0, 0⟩

/-- Componentwise sum. -/
def add (p q : Point) : Point := ⟨p.x + q.x, p.y + q.y⟩

/-- Componentwise difference. -/
def sub (p q : Point) : Point := ⟨p.x - q.x, p.y - q.y⟩

instance : Add Point := ⟨add⟩
instance : Sub Point := ⟨sub⟩

/-- Whether an integer is in the range of a 32-bit coordinate. -/
def inRange (n : Int) : Bool := decide (-2147483648 ≤ n ∧ n ≤ 2147483647)

/-- Whether both coordinates are in the 32-bit range. -/
def fits (p : Point) : Bool := inRange p.x && inRange p.y

end Point

/-- A rectangle of pixels: its top left corner and its size. -/
structure Region where
  x : Int
  y : Int
  width : Nat
  height : Nat
deriving DecidableEq, Inhabited

namespace Region

/-- The whole of a `width` by `height` frame. -/
def full (width height : Nat) : Region := ⟨0, 0, width, height⟩

/-- Whether `p` lies in the rectangle. -/
def contains (r : Region) (p : Point) : Bool :=
  decide (r.x ≤ p.x ∧ p.x < r.x + r.width ∧ r.y ≤ p.y ∧ p.y < r.y + r.height)

/-- The position of the rectangle that is nearest to `p` along both axes. -/
def nearest (r : Region) (p : Point) : Point :=
  ⟨max r.x (min p.x (r.x + r.width - 1)), max r.y (min p.y (r.y + r.height - 1))⟩

end Region

/-- The 32-bit positions that adding `d` takes out of the range: those at the end of the range that
`d` points to, along one axis and along the other. -/
def Point.strays (d : Point) : List Region :=
  [⟨first d.x, -2147483648, count d.x, 4294967296⟩,
    ⟨-2147483648, first d.y, 4294967296, count d.y⟩]
where
  /-- How many coordinates leave the range. -/
  count (n : Int) : Nat := min n.natAbs 4294967296
  /-- The smallest of them. -/
  first (n : Int) : Int := if 0 ≤ n then 2147483648 - count n else -2147483648

/-- Largest width or height a frame buffer may have. -/
def maxExtent : Nat := 16384

/-- One side of a buffer, clamped to `maxExtent`. -/
def clampExtent (n : Nat) : Nat := min n maxExtent

/-- Pixel count of a `width` by `height` buffer, both sides clamped to `maxExtent`. -/
def bufferLen (width height : Nat) : Nat := clampExtent width * clampExtent height

/-- A block of pixels, row major. The pixel list may be shorter than the size says; what is missing
is not drawn. -/
structure Image where
  width : Nat
  height : Nat
  pixels : Array Rgba
deriving DecidableEq, Inhabited

namespace Image

/-- An image of one colour, both sides clamped. -/
def filled (width height : Nat) (fill : Rgba) : Image where
  width := clampExtent width
  height := clampExtent height
  pixels := Array.replicate (bufferLen width height) fill

/-- How many pixels there are to draw: those in the list that the size has room for. -/
def drawnCount (image : Image) : Nat := min image.pixels.size (image.width * image.height)

/-- How many columns the pixels to draw take up. -/
def drawnWidth (image : Image) : Nat := min image.drawnCount image.width

/-- How many rows the pixels to draw take up. The last one may be incomplete. -/
def drawnHeight (image : Image) : Nat := (image.drawnCount + image.width - 1) / image.width

/-- The pixel at column `x` and row `y`, if there is one. -/
def pixel (image : Image) (x y : Nat) : Option Rgba :=
  if x < image.width ∧ y < image.height then image.pixels[y * image.width + x]? else none

/-- The pixel at a position relative to the image's top left corner. -/
def pixelAt? (image : Image) (p : Point) : Option Rgba :=
  if 0 ≤ p.x ∧ 0 ≤ p.y then image.pixel p.x.toNat p.y.toNat else none

end Image

end LiveSketch
