/-!
# Surfaces

What a drawn surface is made of: eight-bit colours with an alpha channel, the blend every drawing
primitive uses, and the pixel format in which a display shows the colours.

## Main definitions

* `Rgba` — a colour.
* `Rgba.blendOver` — source-over blending onto an opaque destination.
* `Surface.choose` — which of the formats that a display offers is taken.

## Implementation notes

Blending is done in natural numbers and narrowed at the end. With `a ≤ 255` the weighted sum of two
channels plus the rounding term is at most `255 * 255 + 127`, so the quotient always fits in a byte
and nothing is lost by the narrowing.
-/

namespace LiveSketch

/-- A colour: red, green, blue and alpha, each from `0` to `255`. -/
structure Rgba where
  r : UInt8
  g : UInt8
  b : UInt8
  a : UInt8
deriving DecidableEq, Inhabited

namespace Rgba

/-- A colour with full alpha. -/
def solid (r g b : UInt8) : Rgba := ⟨r, g, b, 255⟩

/-- Opaque white. -/
def white : Rgba := solid 255 255 255

/-- Opaque black, the colour of a fresh canvas. -/
def black : Rgba := solid 0 0 0

/-- The same colour with another alpha. -/
def withAlpha (c : Rgba) (a : UInt8) : Rgba := { c with a := a }

/-- One blended channel: `alpha` parts of `src` and `255 - alpha` parts of `dst`, rounded to the
nearest integer. -/
def mix (alpha src dst : UInt8) : UInt8 :=
  ((src.toNat * alpha.toNat + dst.toNat * (255 - alpha.toNat) + 127) / 255).toUInt8

/-- Source-over blending of `src` onto a destination that is taken to be opaque. The result is
opaque whatever the destination's alpha was. -/
def blendOver (src dst : Rgba) : Rgba :=
  ⟨mix src.a src.r dst.r, mix src.a src.g dst.g, mix src.a src.b dst.b, 255⟩

end Rgba

namespace Surface

/-- The format taken whenever it is offered. -/
def preferred : String := "Bgra8UnormSrgb"

/-- Whether a format stores colours non-linearly, as the canvas does. Its name says so. -/
def isSrgb (format : String) : Bool := format.endsWith "Srgb"

/-- The preferred format if it is offered, else the first non-linear one, else the first. -/
def choose (formats : List String) : Option String :=
  if formats.contains preferred then some preferred
  else (formats.find? isSrgb).or formats.head?

end Surface

end LiveSketch
