import LiveSketch.Canvas
import LiveSketch.Hooks

/-!
# The error overlay

What a sketch in error shows: the last good frame, dimmed, with the failure's message on a white
bar across the middle.

## Main definitions

* `Snapshot` — what the overlay shows until the next successful reload.
* `Snapshot.draw` — the overlay itself.

## Implementation notes

The backdrop is an image and ignores the offset of the canvas; the veil, the bar and the text are
shapes and follow it.
-/

namespace LiveSketch

/-- What the error overlay shows. The backdrop is the last good frame, if there ever was one. -/
structure Snapshot where
  backdrop : Option Image
  message : String
  failure : Failure
deriving DecidableEq, Inhabited

namespace Snapshot

/-- How much of the backdrop the veil hides. -/
def veil : Rgba := Rgba.white.withAlpha 128

/-- The row the bar is centred on. -/
def middle (height : Nat) : Int := (height / 2 : Nat)

/-- The white bar behind the message: 35 rows from 25 above the middle. -/
def bar (width height : Nat) : Region := ⟨0, middle height - 25, width, 35⟩

/-- Where the message starts. -/
def messageCorner (height : Nat) : Point := ⟨10, middle height - 10⟩

/-- Draws the overlay: backdrop, veil, bar, message. -/
def draw (snapshot : Snapshot) (c : Canvas) : Canvas :=
  let backed := match snapshot.backdrop with
    | some image => c.drawImage image .zero
    | none => c
  let veiled := backed.draw (.rect (.full c.width c.height)) veil
  let barred := veiled.draw (.rect (bar c.width c.height)) .white
  barred.draw (.text snapshot.message (messageCorner c.height)) .black

end Snapshot

end LiveSketch
