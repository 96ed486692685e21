import LiveSketch.Overlay
import LiveSketch.Proofs.Canvas.Capture
import LiveSketch.Proofs.Canvas.Straying

/-!
# What the overlay looks like

While a sketch is in error every frame paints the overlay anew, over whatever is on the canvas. Four
drawings lie on top of each other: the backdrop, the veil, the bar and the message. An opaque
backdrop that is no smaller than the frame replaces all that was there, so what comes out depends on
the snapshot alone, and painting it once more changes nothing.

This is so in every frame, however low it is, and for every message, however long. The bar and the
text may start above the frame, and the text may run past the bar and out of the frame.

## Main definitions

* `Image.Fills` — an image that replaces all of a frame.
* `Snapshot.shown` — what the overlay leaves of a colour of the backdrop.

## Main results

* `Snapshot.pixelAt?_draw` — the overlay position by position.
* `Snapshot.draw_draw` — the overlay painted twice.
* `Snapshot.overlay_pixels` — what the overlay looks like, what it depends on, and what becomes of
  it when it is painted again and again.
-/

namespace LiveSketch

/-- An image that replaces all of a frame: it is opaque, has all its pixels and is no smaller. -/
structure Image.Fills (image : Image) (c : Canvas) : Prop where
  isOpaque : image.Opaque
  complete : image.Complete
  width_le : c.width ≤ image.width
  height_le : c.height ≤ image.height

namespace Image.Fills

variable {image : Image} {c d : Canvas}

theorem of_size (h : image.Fills c) (hw : d.width = c.width) (hh : d.height = c.height) :
    image.Fills d :=
  ⟨h.isOpaque, h.complete, hw ▸ h.width_le, hh ▸ h.height_le⟩

theorem contains (h : image.Fills c) {p : Point} (hp : p.Inside c.width c.height) :
    (image.placed .zero).contains p = true := by
  have hw := h.width_le
  have hh := h.height_le
  rw [Point.Inside] at hp
  rw [Region.contains_iff]
  show 0 ≤ p.x ∧ p.x < 0 + image.width ∧ 0 ≤ p.y ∧ p.y < 0 + image.height
  omega

end Image.Fills

namespace Canvas

variable {c : Canvas}

theorem Sound.draw (h : c.Sound) (shape : Shape) (color : Rgba) : (c.draw shape color).Sound :=
  h.run (.draw shape color)

/-- On a canvas that was not moved, an opaque colour replaces what the shape covers. -/
theorem pixelAt?_draw_of_opaque (hz : c.offset = .zero) {color : Rgba} (hcolor : color.a = 255)
    (shape : Shape) (p : Point) :
    (c.draw shape color).pixelAt? p =
      (c.pixelAt? p).map fun old => if shape.covers p then color else old := by
  simp only [pixelAt?_draw, hz, Point.sub_zero, Rgba.blendOver_of_opaque hcolor]

end Canvas

namespace Snapshot

variable {snapshot : Snapshot} {backdrop : Image} {c d : Canvas}

/-! ### One overlay -/

/-- What the overlay leaves, in a frame of the given height, of a colour of the backdrop: the
message lies on the bar, and the bar on the veil. -/
def shown (snapshot : Snapshot) (height : Nat) (p : Point) (color : Rgba) : Rgba :=
  if p ∈ Shape.textPixels snapshot.message (messageCorner height) then .black
  else if middle height - 25 ≤ p.y ∧ p.y < middle height + 10 then .white
  else (Rgba.white.withAlpha 128).blendOver color

theorem draw_eq (hb : snapshot.backdrop = some backdrop) (c : Canvas) :
    snapshot.draw c =
      (((c.drawImage backdrop .zero).draw (.rect (.full c.width c.height)) veil).draw
        (.rect (bar c.width c.height)) .white).draw
          (.text snapshot.message (messageCorner c.height)) .black := by
  rw [draw, hb]

theorem contains_bar {p : Point} (hp : p.Inside c.width c.height) :
    (bar c.width c.height).contains p = true ↔
      middle c.height - 25 ≤ p.y ∧ p.y < middle c.height + 10 := by
  rw [Point.Inside] at hp
  rw [Region.contains_iff]
  show 0 ≤ p.x ∧ p.x < 0 + c.width ∧ middle c.height - 25 ≤ p.y ∧
    p.y < middle c.height - 25 + (35 : Nat) ↔ _
  omega

/-- **The overlay position by position**, in a frame that the backdrop fills. -/
theorem pixelAt?_draw (h : c.Sound) (hz : c.offset = .zero) (hb : snapshot.backdrop = some backdrop)
    (hf : backdrop.Fills c) {p : Point} (hp : p.Inside c.width c.height) :
    (snapshot.draw c).pixelAt? p = (backdrop.pixelAt? p).map (snapshot.shown c.height p) := by
  obtain ⟨color, -, hcolor⟩ := Image.exists_picture hf.complete (hf.contains hp)
  let backed := c.drawImage backdrop .zero
  let veiled := backed.draw (.rect (.full c.width c.height)) veil
  let barred := veiled.draw (.rect (bar c.width c.height)) .white
  have hbacked : backed.pixelAt? p = some color := by
    rw [h.pixelAt?_drawImage_of_opaque hf.isOpaque hf.complete hp (hf.contains hp), hcolor]
  have hveiled : veiled.pixelAt? p = some (veil.blendOver color) := by
    have hzero : backed.offset = .zero := hz
    rw [Canvas.pixelAt?_draw, hbacked, hzero, Point.sub_zero]
    exact congrArg some (if_pos (Canvas.contains_frame.mpr hp))
  have hbarred : barred.pixelAt? p =
      some (if (bar c.width c.height).contains p then .white else veil.blendOver color) := by
    rw [Canvas.pixelAt?_draw_of_opaque (c := veiled) hz rfl, hveiled]
    rfl
  rw [draw_eq hb, Canvas.pixelAt?_draw_of_opaque (c := barred) hz rfl, hbarred]
  rw [Image.picture, Point.sub_zero] at hcolor
  rw [hcolor]
  simp only [Option.map_some, shown, Shape.mem_textPixels, ← contains_bar hp]
  rfl

/-! ### Painting it again -/

/-- The overlay changes the buffer, and may overflow. All else stays. -/
theorem draw_eq_pixels (snapshot : Snapshot) (c : Canvas) :
    snapshot.draw c = { c with
      pixels := (snapshot.draw c).pixels
      overflowed := (snapshot.draw c).overflowed } := by
  rw [draw]
  cases snapshot.backdrop with
  | none => rfl
  | some image => rfl

theorem draw_size (snapshot : Snapshot) (c : Canvas) :
    (snapshot.draw c).width = c.width ∧ (snapshot.draw c).height = c.height := by
  rw [draw_eq_pixels]
  exact ⟨rfl, rfl⟩

theorem sound_draw (h : c.Sound) (snapshot : Snapshot) : (snapshot.draw c).Sound := by
  rw [draw]
  cases snapshot.backdrop with
  | none => exact ((h.draw _ _).draw _ _).draw _ _
  | some image => exact (((h.drawImage image .zero).draw _ _).draw _ _).draw _ _

/-- In frames of one size that were not moved the overlay looks the same, whatever was there. -/
theorem draw_pixels_eq (hc : c.Sound) (hd : d.Sound) (hw : d.width = c.width)
    (hh : d.height = c.height) (hcz : c.offset = .zero) (hdz : d.offset = .zero)
    (hb : snapshot.backdrop = some backdrop) (hf : backdrop.Fills c) :
    (snapshot.draw d).pixels = (snapshot.draw c).pixels := by
  obtain ⟨hcw, hch⟩ := snapshot.draw_size c
  obtain ⟨hdw, hdh⟩ := snapshot.draw_size d
  refine (sound_draw hc snapshot).pixels_ext (sound_draw hd snapshot) (by rw [hdw, hw, hcw])
    (by rw [hdh, hh, hch]) fun p => ?_
  by_cases hp : p.Inside c.width c.height
  · have hp' : p.Inside d.width d.height := by rwa [hw, hh]
    rw [pixelAt?_draw hc hcz hb hf hp, pixelAt?_draw hd hdz hb (hf.of_size hw hh) hp', hh]
  · have hout : ¬p.Inside (snapshot.draw c).width (snapshot.draw c).height := by rwa [hcw, hch]
    have hout' : ¬p.Inside (snapshot.draw d).width (snapshot.draw d).height := by
      rwa [hdw, hdh, hw, hh]
    rw [Canvas.pixelAt?_eq_none hout, Canvas.pixelAt?_eq_none hout']

/-- Whether the overlay overflows does not depend on what was there. -/
theorem draw_overflowed (hb : snapshot.backdrop = some backdrop) (c : Canvas) :
    (snapshot.draw c).overflowed =
      (c.overflowed ||
        (snapshot.draw { c with pixels := #[], overflowed := false }).overflowed) := by
  rw [draw_eq hb, draw_eq hb]
  simp only [Canvas.draw, Canvas.drawImage, Canvas.mapPixels, Bool.or_assoc, Bool.false_or]

/-- **The overlay painted twice** is the overlay. -/
theorem draw_draw (h : c.Sound) (hz : c.offset = .zero) (hb : snapshot.backdrop = some backdrop)
    (hf : backdrop.Fills c) : snapshot.draw (snapshot.draw c) = snapshot.draw c := by
  have hpixels : (snapshot.draw (snapshot.draw c)).pixels = (snapshot.draw c).pixels := by
    obtain ⟨hw, hh⟩ := snapshot.draw_size c
    refine draw_pixels_eq h (sound_draw h snapshot) hw hh hz ?_ hb hf
    rw [draw_eq_pixels]
    exact hz
  have hoverflowed :
      (snapshot.draw (snapshot.draw c)).overflowed = (snapshot.draw c).overflowed := by
    have hcleared : { snapshot.draw c with pixels := #[], overflowed := false } =
        { c with pixels := #[], overflowed := false } := by rw [draw_eq_pixels]
    rw [draw_overflowed hb (snapshot.draw c), hcleared, draw_overflowed hb c, Bool.or_assoc,
      Bool.or_self]
  rw [draw_eq_pixels snapshot (snapshot.draw c), hpixels, hoverflowed]

/-- Painted any number of times, but at least once, it is the overlay painted once. -/
theorem repeat_draw (h : c.Sound) (hz : c.offset = .zero) (hb : snapshot.backdrop = some backdrop)
    (hf : backdrop.Fills c) (n : Nat) : Nat.repeat snapshot.draw (n + 1) c = snapshot.draw c := by
  induction n with
  | zero => rfl
  | succ n ih => exact (congrArg snapshot.draw ih).trans (draw_draw h hz hb hf)

/-- A backdrop of the size of a canvas does not overflow, and the rest of the overlay never does. -/
theorem draw_overflowed_of_le (hz : c.offset = .zero) (hb : snapshot.backdrop = some backdrop)
    (hw : backdrop.width ≤ maxExtent) (hh : backdrop.height ≤ maxExtent) :
    (snapshot.draw c).overflowed = c.overflowed := by
  have hmax : maxExtent = 16384 := rfl
  have himage : ∀ p, (backdrop.placed .zero).contains p = true → p.fits = true := by
    intro p hp
    rw [Region.contains_iff] at hp
    rw [Point.fits_iff]
    dsimp only [Image.placed, Point.zero] at hp
    omega
  let backed := c.drawImage backdrop .zero
  let veiled := backed.draw (.rect (.full c.width c.height)) veil
  let barred := veiled.draw (.rect (bar c.width c.height)) .white
  rw [draw_eq hb]
  calc (barred.draw (.text snapshot.message (messageCorner c.height)) .black).overflowed
      = barred.overflowed := Canvas.draw_overflowed_of_unmoved (c := barred) hz _ _
    _ = veiled.overflowed := Canvas.draw_overflowed_of_unmoved (c := veiled) hz _ _
    _ = backed.overflowed := Canvas.draw_overflowed_of_unmoved (c := backed) hz _ _
    _ = c.overflowed := Canvas.drawImage_overflowed_of_fits himage

/-! ### The overlay -/

/-- **What the overlay looks like**, on every sound canvas that was not moved and under a backdrop
that fills it. A pixel that a glyph of the message covers is black. Each other one is white in the
rows of the bar, from 25 above the middle to 9 below it, and is elsewhere the pixel of the backdrop
under half transparent white. Nothing depends on what was on the canvas. Painted again, any number
of times, the overlay stays as it is. Nothing overflows if the backdrop is of the size that a canvas
can have, whatever the message is. -/
theorem overlay_pixels (h : c.Sound) (hz : c.offset = .zero)
    (hb : snapshot.backdrop = some backdrop) (hf : backdrop.Fills c) :
    (∀ x < c.width, ∀ y < c.height, ∃ color, backdrop.pixel x y = some color ∧
      (snapshot.draw c).pixel x y = some
        (if ⟨x, y⟩ ∈ Shape.textPixels snapshot.message ⟨10, (c.height / 2 : Nat) - 10⟩ then .black
          else if c.height / 2 ≤ y + 25 ∧ y < c.height / 2 + 10 then .white
          else (Rgba.white.withAlpha 128).blendOver color)) ∧
      (∀ d : Canvas, d.Sound → d.width = c.width → d.height = c.height → d.offset = .zero →
        (snapshot.draw d).pixels = (snapshot.draw c).pixels) ∧
      (∀ n, Nat.repeat snapshot.draw (n + 1) c = snapshot.draw c) ∧
      (backdrop.width ≤ maxExtent → backdrop.height ≤ maxExtent →
        (snapshot.draw c).overflowed = c.overflowed) := by
  refine ⟨fun x hx y hy => ?_, fun d hd hw hh hdz => draw_pixels_eq h hd hw hh hz hdz hb hf,
    repeat_draw h hz hb hf, draw_overflowed_of_le hz hb⟩
  have hp : (⟨x, y⟩ : Point).Inside c.width c.height := by
    rw [Point.Inside]
    dsimp only
    omega
  obtain ⟨color, -, hcolor⟩ := Image.exists_picture hf.complete (hf.contains hp)
  have hat : backdrop.pixelAt? ⟨x, y⟩ = backdrop.pixel x y :=
    if_pos ⟨Int.natCast_nonneg x, Int.natCast_nonneg y⟩
  rw [Image.picture, Point.sub_zero, hat] at hcolor
  have hrows : middle c.height - 25 ≤ (y : Int) ∧ (y : Int) < middle c.height + 10 ↔
      c.height / 2 ≤ y + 25 ∧ y < c.height / 2 + 10 := by
    rw [middle]
    omega
  refine ⟨color, hcolor, ?_⟩
  rw [← Canvas.pixelAt?_natCast, pixelAt?_draw h hz hb hf hp, hat, hcolor, Option.map_some, shown]
  simp only [hrows]
  rfl

/-- A letter on a frame of 14 by 24 pixels, most of which the bar takes up. The backdrop is one
column wider. -/
theorem overlay_pixels_of_low_frame :
    let c := (Canvas.blank 14 24).clear ⟨1, 2, 3, 4⟩
    let backdrop := Image.filled 15 24 (.solid 100 0 0)
    let snapshot : Snapshot := ⟨some backdrop, "l", ⟨"", "", []⟩⟩
    let drawn := snapshot.draw c
    backdrop.Fills c ∧ drawn.pixel 11 3 = some .black ∧ drawn.pixel 0 0 = some .white ∧
      drawn.pixel 13 23 = some (.solid 178 128 128) ∧
      (snapshot.draw (.blank 14 24)).pixels = drawn.pixels ∧
      Nat.repeat snapshot.draw 1000 c = drawn ∧ drawn.overflowed = false := by
  intro c backdrop snapshot drawn
  have hc : c.Sound := (Canvas.Sound.blank 14 24).clear _
  have hf : backdrop.Fills c := by
    refine ⟨fun color hcolor => ?_, Array.size_replicate, by decide, by decide⟩
    obtain ⟨-, rfl⟩ := Array.mem_replicate.mp hcolor
    rfl
  have hb : snapshot.backdrop = some backdrop := rfl
  obtain ⟨hpixels, hsame, hagain, hfits⟩ := overlay_pixels hc rfl hb hf
  refine ⟨hf, ?_, ?_, ?_, hsame _ (.blank 14 24) rfl rfl rfl, hagain 999,
    hfits (by decide) (by decide)⟩
  · obtain ⟨color, -, hcolor⟩ := hpixels 11 (by decide) 3 (by decide)
    rwa [if_pos (by decide +kernel)] at hcolor
  · obtain ⟨color, -, hcolor⟩ := hpixels 0 (by decide) 0 (by decide)
    rwa [if_neg (by decide +kernel), if_pos (by decide)] at hcolor
  · obtain ⟨color, hback, hcolor⟩ := hpixels 13 (by decide) 23 (by decide)
    obtain rfl : color = .solid 100 0 0 := Option.some.inj (hback.symm.trans (by decide +kernel))
    rwa [if_neg (by decide +kernel), if_neg (by decide)] at hcolor

end Snapshot
end LiveSketch
