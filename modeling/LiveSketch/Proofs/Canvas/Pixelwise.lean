import LiveSketch.Proofs.Canvas.Invariant

/-!
# Canvases pixel by pixel

What an operation does to a canvas is said best by what it leaves at each position. Here the
operations that draw are put this way: a shape blends its colour over what it covers, an image
blends its pixels, and neither reads any other position. Two canvases of one size that agree at
every position are equal, so equations between drawings follow position by position.

## Main results

* `Canvas.pixelAt?_draw`, `Canvas.pixelAt?_drawImage` — what drawing leaves at a position.
* `Canvas.Sound.pixels_ext` — a buffer is determined by what is at its positions.
* `Rgba.blendOver_of_opaque` — an opaque colour replaces what it is blended over.
-/

namespace LiveSketch

/-! ### Opaque colours -/

namespace Rgba

theorem mix_full (src dst : UInt8) : mix 255 src dst = src := by
  have hround : (src.toNat * 255 + dst.toNat * (255 - 255) + 127) / 255 = src.toNat := by omega
  show (_ / 255 : Nat).toUInt8 = src
  rw [show (255 : UInt8).toNat = 255 from rfl, hround]
  exact UInt8.ofNat_toNat

/-- An opaque colour replaces what it is blended over. -/
theorem blendOver_of_opaque {src : Rgba} (h : src.a = 255) (dst : Rgba) :
    src.blendOver dst = src := by
  obtain ⟨r, g, b, a⟩ := src
  obtain rfl : a = 255 := h
  rw [blendOver, mix_full, mix_full, mix_full]

end Rgba

namespace Canvas

variable {c d : Canvas}

/-! ### Reading after drawing -/

theorem pixel_of_lt {x y : Nat} (hx : x < c.width) (hy : y < c.height) :
    c.pixel x y = c.pixels[c.index x y]? :=
  if_pos ⟨hx, hy⟩

/-- The frame has no pixel outside of its sides. -/
theorem pixel_eq_none {x y : Nat} (h : ¬(x < c.width ∧ y < c.height)) : c.pixel x y = none :=
  if_neg h

theorem pixelAt?_natCast (c : Canvas) (x y : Nat) : c.pixelAt? ⟨x, y⟩ = c.pixel x y :=
  if_pos ⟨Int.natCast_nonneg x, Int.natCast_nonneg y⟩

theorem pixelAt?_of_inside {p : Point} (h : p.Inside c.width c.height) :
    c.pixelAt? p = c.pixels[c.index p.x.toNat p.y.toNat]? := by
  obtain ⟨hx, hy⟩ := h
  rw [pixelAt?, if_pos ⟨hx.1, hy.1⟩]
  exact pixel_of_lt (by omega) (by omega)

theorem pixelAt?_eq_none {p : Point} (h : ¬p.Inside c.width c.height) : c.pixelAt? p = none := by
  rw [pixelAt?]
  split
  · refine pixel_eq_none fun hin => h ?_
    rw [Point.Inside]
    omega
  · rfl

/-- There is a pixel at a position exactly when the position is in the frame. -/
theorem Sound.pixelAt?_isSome_iff (h : c.Sound) {p : Point} :
    (c.pixelAt? p).isSome ↔ p.Inside c.width c.height := by
  by_cases hin : p.Inside c.width c.height
  · have hi : c.index p.x.toNat p.y.toNat < c.pixels.size := h.size_eq ▸ hin.index_lt
    rw [pixelAt?_of_inside hin, Array.getElem?_eq_getElem hi]
    exact iff_of_true rfl hin
  · rw [pixelAt?_eq_none hin]
    exact iff_of_false Bool.false_ne_true hin

/-- What is at a position is opaque. -/
theorem Sound.alpha_pixelAt? (h : c.Sound) {p : Point} {color : Rgba}
    (hp : c.pixelAt? p = some color) : color.a = 255 := by
  by_cases hin : p.Inside c.width c.height
  · rw [pixelAt?_of_inside hin] at hp
    exact h.alpha_eq color (Array.mem_of_getElem? hp)
  · rw [pixelAt?_eq_none hin] at hp
    cases hp

theorem pixelAt?_mapPixels (c : Canvas) (f : Point → Rgba → Rgba) (p : Point) :
    (c.mapPixels f).pixelAt? p = (c.pixelAt? p).map (f p) := by
  by_cases hin : p.Inside c.width c.height
  · have hpos : c.position (c.index p.x.toNat p.y.toNat) = p :=
      (Point.ofIndex_eq_iff hin.index_lt).mpr ⟨hin, rfl⟩
    rw [pixelAt?_of_inside hin, pixelAt?_of_inside (c := c.mapPixels f) hin]
    show (c.pixels.mapIdx _)[c.index p.x.toNat p.y.toNat]? = _
    rw [Array.getElem?_mapIdx, hpos]
  · rw [pixelAt?_eq_none hin, pixelAt?_eq_none (c := c.mapPixels f) hin]
    rfl

/-- A shape is blended once over each pixel that it covers, moved by the offset, and no other pixel
changes. -/
theorem pixelAt?_draw (c : Canvas) (shape : Shape) (color : Rgba) (p : Point) :
    (c.draw shape color).pixelAt? p = (c.pixelAt? p).map fun old =>
      if shape.covers (p - c.offset) then color.blendOver old else old :=
  pixelAt?_mapPixels c
    (fun p old => if shape.covers (p - c.offset) then color.blendOver old else old) p

/-- An image is blended once over each pixel that it has a colour for, and no other pixel
changes. -/
theorem pixelAt?_drawImage (c : Canvas) (image : Image) (topLeft p : Point) :
    (c.drawImage image topLeft).pixelAt? p = (c.pixelAt? p).map fun old =>
      match image.picture topLeft p with
      | some color => color.blendOver old
      | none => old :=
  pixelAt?_mapPixels c
    (fun p old => match image.pixelAt? (p - topLeft) with
      | some color => color.blendOver old
      | none => old) p

/-! ### Equal canvases -/

/-- Canvases of one size that agree at every position have one buffer. -/
theorem Sound.pixels_ext (hc : c.Sound) (hd : d.Sound) (hw : d.width = c.width)
    (hh : d.height = c.height) (h : ∀ p, d.pixelAt? p = c.pixelAt? p) : d.pixels = c.pixels := by
  have hsize : d.pixels.size = c.pixels.size := by rw [hc.size_eq, hd.size_eq, hw, hh]
  refine Array.ext hsize fun i hi hi' => ?_
  obtain ⟨hin, hindex⟩ := (hc.position_eq_iff hi').mp rfl
  have hin' : (c.position i).Inside d.width d.height := by
    rw [hw, hh]
    exact hin
  have hindex' : i = d.index (c.position i).x.toNat (c.position i).y.toNat := by
    rw [index, hw]
    exact hindex
  have hp := h (c.position i)
  rw [pixelAt?_of_inside hin, pixelAt?_of_inside hin', ← hindex, ← hindex',
    Array.getElem?_eq_getElem hi, Array.getElem?_eq_getElem hi'] at hp
  exact Option.some.inj hp

end Canvas
end LiveSketch
