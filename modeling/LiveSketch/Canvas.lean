import LiveSketch.Shape

/-!
# The canvas

A software frame buffer. Every pixel is opaque; drawing colours are blended on top with their alpha.
The canvas also collects the window changes a sketch asks for, until the host takes them.

## Main definitions

* `Canvas` — the frame buffer with its current offset and pending window requests.
* `Canvas.draw` — blend a shape moved by the current offset.
* `Canvas.capture`, `Canvas.drawImage` — copy pixels out and back in.
* `Canvas.reading` — the canvas after a capture.

## Implementation notes

**Drawing is pixelwise.** `draw` and `drawImage` compute each new pixel from the old one and the
set that is drawn, so a covered pixel inside the frame is blended exactly once, and clipping needs
no code of its own. The set is the exact figure, however far it reaches.

**Overflow is recorded, not wrapped.** Positions are 32-bit on the machine, and the program stops
when adding the offset to a position leaves that range. `overflowed` is set by the first
operation whose additions do; after that the pixels mean nothing. The offset is only ever added to a
position that has 32 bits itself, so on a canvas that was not moved no shape overflows.
-/

namespace LiveSketch

/-- Window changes a sketch asked for, applied by the host after a frame. -/
structure WindowRequests where
  title : Option String := none
  size : Option (Nat × Nat) := none
  cursorVisible : Option Bool := none
deriving DecidableEq, Inhabited

/-- Whether nothing is asked for. -/
def WindowRequests.isEmpty (r : WindowRequests) : Bool :=
  r.title.isNone && r.size.isNone && r.cursorVisible.isNone

/-- The frame buffer, the offset added to everything drawn, and the pending requests. -/
structure Canvas where
  width : Nat
  height : Nat
  pixels : Array Rgba
  offset : Point := .zero
  requests : WindowRequests := {}
  /-- Whether some sum of positions left the 32-bit range. -/
  overflowed : Bool := false
deriving Inhabited

namespace Canvas

/-- A black canvas. Each side is clamped to `maxExtent`. -/
def blank (width height : Nat) : Canvas where
  width := clampExtent width
  height := clampExtent height
  pixels := Array.replicate (bufferLen width height) .black

/-- The whole frame as a region. -/
def frame (c : Canvas) : Region := .full c.width c.height

/-- The position of the pixel stored at index `i`. -/
def position (c : Canvas) (i : Nat) : Point := ⟨(i % c.width : Nat), (i / c.width : Nat)⟩

/-- The pixel at column `x` and row `y`, if it is in the frame. -/
def pixel (c : Canvas) (x y : Nat) : Option Rgba :=
  if x < c.width ∧ y < c.height then c.pixels[y * c.width + x]? else none

/-- The pixel at a position, if it is in the frame. -/
def pixelAt? (c : Canvas) (p : Point) : Option Rgba :=
  if 0 ≤ p.x ∧ 0 ≤ p.y then c.pixel p.x.toNat p.y.toNat else none

/-- Gives the buffer a new size, each side clamped. The contents are not kept, except that the
current size leaves everything as it is. No window request is made. -/
def setSize (c : Canvas) (width height : Nat) : Canvas :=
  if clampExtent width = c.width ∧ clampExtent height = c.height then c
  else
    { c with
      width := clampExtent width
      height := clampExtent height
      pixels := Array.replicate (bufferLen width height) .black }

/-- A size a sketch may ask for: at least one pixel and at most `maxExtent`. -/
def requestExtent (n : Nat) : Nat := max 1 (clampExtent n)

/-- Resizes the buffer and asks for a window of that size. -/
def resize (c : Canvas) (width height : Nat) : Canvas :=
  let sized := c.setSize (requestExtent width) (requestExtent height)
  { sized with
    requests := { sized.requests with size := some (requestExtent width, requestExtent height) } }

/-- Asks for a window title. -/
def setTitle (c : Canvas) (title : String) : Canvas :=
  { c with requests := { c.requests with title := some title } }

/-- Asks for a visible or a hidden cursor. -/
def setCursor (c : Canvas) (visible : Bool) : Canvas :=
  { c with requests := { c.requests with cursorVisible := some visible } }

/-- The pending requests, and the canvas without them. -/
def takeRequests (c : Canvas) : WindowRequests × Canvas :=
  (c.requests, { c with requests := {} })

/-- Restores the drawing state a frame starts from: no offset. -/
def resetFrame (c : Canvas) : Canvas := { c with offset := .zero }

/-- Moves everything drawn from now on. -/
def translate (c : Canvas) (d : Point) : Canvas :=
  { c with offset := c.offset + d, overflowed := c.overflowed || !(c.offset + d).fits }

/-- Fills the frame with a colour, its alpha ignored. -/
def clear (c : Canvas) (color : Rgba) : Canvas :=
  { c with pixels := Array.replicate c.pixels.size (color.withAlpha 255) }

/-- Replaces every pixel by a function of its position and its old colour. -/
def mapPixels (c : Canvas) (f : Point → Rgba → Rgba) : Canvas :=
  { c with pixels := c.pixels.mapIdx fun i old => f (c.position i) old }

/-- Blends `color` once over every pixel that the shape, moved by the offset, covers. Drawing
overflows if the shape has a 32-bit position that the offset takes out of the range. -/
def draw (c : Canvas) (shape : Shape) (color : Rgba) : Canvas :=
  let covered := shape.covers
  let painted := c.mapPixels fun p old => if covered (p - c.offset) then color.blendOver old else old
  { painted with overflowed := c.overflowed || c.offset.strays.any shape.meets }

/-- Copies a rectangle out of the frame. What lies outside the frame is black. -/
def capture (c : Canvas) (region : Region) : Image :=
  let width := clampExtent region.width
  let height := clampExtent region.height
  { width, height
    pixels := Array.ofFn fun i : Fin (width * height) =>
      let p : Point := ⟨region.x + (i.val % width : Nat), region.y + (i.val / width : Nat)⟩
      (c.pixelAt? p).getD .black }

/-- A copy of the whole frame. -/
def captureFrame (c : Canvas) : Image := c.capture c.frame

/-- The corner positions of a block of pixels whose top left corner is at `topLeft`. -/
def imageReach (width height : Nat) (topLeft : Point) : List Point :=
  if 0 < width ∧ 0 < height then [topLeft, ⟨topLeft.x + width - 1, topLeft.y + height - 1⟩] else []

/-- The canvas after a rectangle was captured. A capture changes no pixel, but the positions that it
looks up are sums, of the corner and a column and a row. -/
def reading (c : Canvas) (region : Region) : Canvas :=
  let corner : Point := ⟨region.x, region.y⟩
  let reach := imageReach (clampExtent region.width) (clampExtent region.height) corner
  { c with overflowed := c.overflowed || reach.any fun p => !p.fits }

/-- Blends an image over the frame with its top left corner at `topLeft`. The offset does not
move images. Pixels missing at the end of the image's list are not drawn. -/
def drawImage (c : Canvas) (image : Image) (topLeft : Point) : Canvas :=
  let painted := c.mapPixels fun p old =>
    match image.pixelAt? (p - topLeft) with
    | some color => color.blendOver old
    | none => old
  { painted with
    overflowed := c.overflowed ||
      (imageReach image.drawnWidth image.drawnHeight topLeft).any fun p => !p.fits }

end Canvas

end LiveSketch
