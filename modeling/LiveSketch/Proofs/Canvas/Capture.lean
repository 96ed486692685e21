import LiveSketch.Proofs.Canvas.Pixelwise

/-!
# Capturing and drawing back

The frame that an error leaves on the screen is a captured image that is drawn again. For this to
show what was there, capturing and drawing have to be inverse to each other, in both directions and
for regions that the frame holds only a part of.

## The idea

Both directions rest on one lookup. At a position of the region an image captured there has the
colour of the frame, and black where the frame has no pixel; at any other position it has nothing.
Black outside of the frame does no harm, because drawing drops it there. Inside, what is drawn is
opaque, so it replaces what it is blended over.

The offset plays no part. It moves shapes only, and neither a capture nor an image is moved by it.

## Main definitions

* `Region.captured` — what an image captured from a region has room for.
* `Image.Opaque`, `Image.Complete` — an image that hides all of its rectangle.

## Main results

* `Canvas.reading_overflowed` — when a capture overflows.
* `Canvas.picture_capture` — an image that was captured, position by position.
* `Canvas.Sound.drawImage_capture`, `Canvas.Sound.capture_drawImage` — the two directions.
* `Canvas.capture_drawImage_inverse` — both, with what stays unchanged.
-/

namespace LiveSketch

/-! ### Regions and images -/

namespace Region

/-- The top left corner. -/
def corner (r : Region) : Point := ⟨r.x, r.y⟩

/-- The part of a region that an image captured from it has room for. -/
def captured (r : Region) : Region :=
  { r with width := clampExtent r.width, height := clampExtent r.height }

theorem contains_iff_inside {r : Region} {p : Point} :
    r.contains p = true ↔ (p - r.corner).Inside r.width r.height := by
  rw [contains_iff]
  show _ ↔ (0 ≤ p.x - r.x ∧ p.x - r.x < r.width) ∧ 0 ≤ p.y - r.y ∧ p.y - r.y < r.height
  omega

end Region

namespace Image

/-- Every pixel in the list is opaque. -/
def Opaque (image : Image) : Prop := ∀ color ∈ image.pixels, color.a = 255

/-- The list has as many pixels as the size says. -/
def Complete (image : Image) : Prop := image.pixels.size = image.width * image.height

/-- Where an image is drawn. -/
def placed (image : Image) (topLeft : Point) : Region :=
  ⟨topLeft.x, topLeft.y, image.width, image.height⟩

/-- An image draws nothing outside of its rectangle. -/
theorem picture_eq_none {image : Image} {topLeft p : Point}
    (h : (image.placed topLeft).contains p = false) : image.picture topLeft p = none := by
  refine Option.eq_none_iff_forall_ne_some.mpr fun color hcolor => ?_
  obtain ⟨hin, -⟩ := pixelAt?_eq_some_iff.mp hcolor
  exact Bool.false_ne_true (h.symm.trans (Region.contains_iff_inside.mpr hin))

/-- A complete image has a colour everywhere in its rectangle, which is one of its list. -/
theorem exists_picture {image : Image} (hc : image.Complete) {topLeft p : Point}
    (h : (image.placed topLeft).contains p = true) :
    ∃ color ∈ image.pixels, image.picture topLeft p = some color := by
  have hin := Region.contains_iff_inside.mp h
  have hlt := hin.index_lt
  rw [placed, ← hc] at hlt
  exact ⟨_, Array.getElem_mem hlt,
    pixelAt?_eq_some_iff.mpr ⟨hin, Array.getElem?_eq_getElem hlt⟩⟩

/-- Each pixel of a complete image is drawn at the position of its index. -/
theorem Complete.picture_ofIndex {image : Image} (hc : image.Complete) {i : Nat}
    (hi : i < image.pixels.size) (topLeft : Point) :
    image.picture topLeft (Point.ofIndex image.width i + topLeft) = some image.pixels[i] := by
  obtain ⟨hin, hindex⟩ := (Point.ofIndex_eq_iff (hc ▸ hi)).mp (Point.add_eq_iff.mp rfl)
  exact pixelAt?_eq_some_iff.mpr ⟨hin, hindex ▸ Array.getElem?_eq_getElem hi⟩

/-- Complete images of one size that draw the same are equal. -/
theorem Complete.ext {image other : Image} (hc : image.Complete) (topLeft : Point)
    (ho : other.Complete) (hw : image.width = other.width) (hh : image.height = other.height)
    (h : ∀ p, image.picture topLeft p = other.picture topLeft p) : image = other := by
  have hsize : image.pixels.size = other.pixels.size := by rw [hc, ho, hw, hh]
  have hpixels : image.pixels = other.pixels := by
    refine Array.ext hsize fun i hi hi' => ?_
    have hp := h (Point.ofIndex image.width i + topLeft)
    rw [hc.picture_ofIndex hi, hw, ho.picture_ofIndex hi'] at hp
    exact Option.some.inj hp
  obtain ⟨width, height, pixels⟩ := image
  obtain ⟨width', height', pixels'⟩ := other
  subst hw hh hpixels
  rfl

end Image

namespace Canvas

variable {c d : Canvas}

/-- An image whose rectangle keeps within 32 bits is drawn without overflow. -/
theorem drawImage_overflowed_of_fits {image : Image} {topLeft : Point}
    (h : ∀ p, (image.placed topLeft).contains p = true → p.fits = true) :
    (c.drawImage image topLeft).overflowed = c.overflowed := by
  refine overflowed_eq_of_fits (c.drawImage_overflowed image topLeft) ?_
  rintro ⟨p, color⟩ hmark
  have hp : image.picture topLeft p = some color :=
    ((image.depicts_marks topLeft).mem_iff p color).mp hmark
  exact h p (Region.contains_iff_inside.mpr (Image.pixelAt?_eq_some_iff.mp hp).1)

/-- Drawing an image changes the buffer, and may overflow. All else stays. -/
theorem drawImage_eq_of_fits {image : Image} {topLeft : Point}
    (h : ∀ p, (image.placed topLeft).contains p = true → p.fits = true) :
    c.drawImage image topLeft = { c with pixels := (c.drawImage image topLeft).pixels } := by
  have ho := drawImage_overflowed_of_fits (c := c) h
  show { c with
      pixels := (c.drawImage image topLeft).pixels
      overflowed := (c.drawImage image topLeft).overflowed } = _
  rw [ho]

theorem Sound.drawImage (h : c.Sound) (image : Image) (topLeft : Point) :
    (c.drawImage image topLeft).Sound :=
  h.run (.drawImage image topLeft)

/-! ### Capturing -/

/-- A capture overflows exactly when a position that it looks up is out of the range. -/
theorem reading_overflowed (c : Canvas) (region : Region) :
    (c.reading region).overflowed = true ↔
      c.overflowed = true ∨ ∃ p, region.captured.contains p = true ∧ p.fits = false := by
  show (c.overflowed || (imageReach _ _ region.corner).any fun p => !p.fits) = true ↔ _
  rw [Bool.or_eq_true, List.any_eq_true]
  refine or_congr_right ?_
  simp only [Bool.not_eq_true', ← Bool.not_eq_true, Region.contains_iff, Point.fits_iff]
  constructor
  · rintro ⟨p, hp, hfits⟩
    refine ⟨p, ?_, hfits⟩
    rw [imageReach] at hp
    split at hp
    · simp only [List.mem_cons, List.not_mem_nil, or_false] at hp
      rcases hp with rfl | rfl <;> dsimp only [Region.corner, Region.captured] <;> omega
    · cases hp
  · rintro ⟨p, hp, hfits⟩
    dsimp only [Region.captured] at hp
    rw [imageReach, if_pos (by omega)]
    simp only [List.mem_cons, List.not_mem_nil, or_false, exists_eq_or_imp, exists_eq_left,
      Region.corner]
    omega

/-- A capture that does not overflow leaves the canvas as it is. -/
theorem reading_eq_of_fits {region : Region}
    (h : ∀ p, region.captured.contains p = true → p.fits = true) : c.reading region = c := by
  have hoverflowed := overflowed_eq_of_fits (c.reading_overflowed region) h
  show { c with overflowed := (c.reading region).overflowed } = c
  rw [hoverflowed]

/-! ### Drawing what was captured -/

theorem placed_capture (c : Canvas) (region : Region) :
    (c.capture region).placed region.corner = region.captured :=
  rfl

/-- A captured image has, at the positions of its region, the colours of the frame, and black
outside of the frame. -/
theorem picture_capture (c : Canvas) (region : Region) (p : Point) :
    (c.capture region).picture region.corner p =
      if region.captured.contains p then some ((c.pixelAt? p).getD .black) else none := by
  split
  · next hcontains =>
    have hin := Region.contains_iff_inside.mp hcontains
    have hlt := hin.index_lt
    have hp : Point.ofIndex _ _ + region.corner = p :=
      Point.add_eq_iff.mpr ((Point.ofIndex_eq_iff hlt).mpr ⟨hin, rfl⟩)
    rw [Point.add_comm] at hp
    refine Image.pixelAt?_eq_some_iff.mpr ⟨hin, Array.getElem?_eq_some_iff.mpr ⟨?_, ?_⟩⟩
    · exact Array.size_ofFn.symm ▸ hlt
    · refine (Array.getElem_ofFn _).trans ?_
      exact congrArg (fun q => (c.pixelAt? q).getD .black) hp
  · next hout => exact Image.picture_eq_none (Bool.eq_false_iff.mpr hout)

/-- **A captured image drawn back at its place.** On a canvas of that size it brings back the
colours of the region, and no other pixel changes. -/
theorem Sound.pixelAt?_drawImage_capture (hc : c.Sound) (hd : d.Sound) (hw : d.width = c.width)
    (hh : d.height = c.height) (region : Region) (p : Point) :
    (d.drawImage (c.capture region) region.corner).pixelAt? p =
      if region.captured.contains p then c.pixelAt? p else d.pixelAt? p := by
  rw [pixelAt?_drawImage, picture_capture]
  by_cases hin : p.Inside c.width c.height
  · have hin' : p.Inside d.width d.height := by rwa [hw, hh]
    obtain ⟨color, hcolor⟩ := Option.isSome_iff_exists.mp (hc.pixelAt?_isSome_iff.mpr hin)
    obtain ⟨old, hold⟩ := Option.isSome_iff_exists.mp (hd.pixelAt?_isSome_iff.mpr hin')
    rw [hcolor, hold]
    by_cases hr : region.captured.contains p = true
    · rw [if_pos hr, if_pos hr]
      exact congrArg some (Rgba.blendOver_of_opaque (hc.alpha_pixelAt? hcolor) old)
    · rw [if_neg hr, if_neg hr]
      rfl
  · have hout' : ¬p.Inside d.width d.height := by rwa [hw, hh]
    rw [pixelAt?_eq_none hin, pixelAt?_eq_none hout', ite_self]
    rfl

/-- Drawn back where it was captured, an image leaves the canvas as it is. -/
theorem Sound.drawImage_capture (h : c.Sound) {region : Region}
    (hfits : ∀ p, region.captured.contains p = true → p.fits = true) :
    c.drawImage (c.capture region) region.corner = c := by
  have hpixels : (c.drawImage (c.capture region) region.corner).pixels = c.pixels := by
    refine h.pixels_ext (h.drawImage _ _) rfl rfl fun p => ?_
    rw [h.pixelAt?_drawImage_capture h rfl rfl]
    exact ite_self _
  rw [← placed_capture c region] at hfits
  rw [drawImage_eq_of_fits hfits, hpixels]

/-- A region that lies wholly in the frame. -/
def Encloses (c : Canvas) (r : Region) : Prop :=
  (0 ≤ r.x ∧ r.x + r.width ≤ c.width) ∧ 0 ≤ r.y ∧ r.y + r.height ≤ c.height

theorem contains_frame {p : Point} : c.frame.contains p = true ↔ p.Inside c.width c.height := by
  rw [Region.contains_iff, Point.Inside]
  show 0 ≤ p.x ∧ p.x < 0 + c.width ∧ 0 ≤ p.y ∧ p.y < 0 + c.height ↔ _
  omega

theorem Encloses.inside {r : Region} (h : c.Encloses r) {p : Point} (hp : r.contains p = true) :
    p.Inside c.width c.height := by
  rw [Region.contains_iff] at hp
  rw [Encloses] at h
  rw [Point.Inside]
  omega

/-- A captured image has room for a region that lies in the frame. -/
theorem Sound.captured_eq (h : c.Sound) {r : Region} (hr : c.Encloses r) : r.captured = r := by
  have hwidth := h.width_le
  have hheight := h.height_le
  rw [Encloses] at hr
  rw [Region.captured, clampExtent, clampExtent, Nat.min_eq_left (by omega),
    Nat.min_eq_left (by omega)]

theorem encloses_frame (c : Canvas) : c.Encloses c.frame := by
  show (0 ≤ (0 : Int) ∧ 0 + (c.width : Int) ≤ c.width) ∧
    0 ≤ (0 : Int) ∧ 0 + (c.height : Int) ≤ c.height
  omega

theorem Sound.fits_of_inside (h : c.Sound) {p : Point} (hp : p.Inside c.width c.height) :
    p.fits = true := by
  have hmax : maxExtent = 16384 := rfl
  have hwidth := h.width_le
  have hheight := h.height_le
  rw [Point.Inside] at hp
  rw [Point.fits_iff]
  omega

theorem Sound.captured_frame (h : c.Sound) : c.frame.captured = c.frame :=
  h.captured_eq c.encloses_frame

/-- The whole frame is always captured without overflow. -/
theorem Sound.reading_frame (h : c.Sound) : c.reading c.frame = c := by
  refine reading_eq_of_fits fun p hp => h.fits_of_inside ?_
  rwa [h.captured_frame, contains_frame] at hp

/-- The whole frame, captured on one canvas and drawn on another one of that size. -/
theorem Sound.drawImage_captureFrame (hc : c.Sound) (hd : d.Sound) (hw : d.width = c.width)
    (hh : d.height = c.height) :
    d.drawImage c.captureFrame .zero = { d with pixels := c.pixels } := by
  have hpixels : (d.drawImage c.captureFrame .zero).pixels = c.pixels := by
    refine hc.pixels_ext (hd.drawImage _ _) hw hh fun p => ?_
    refine (hc.pixelAt?_drawImage_capture hd hw hh c.frame p).trans ?_
    rw [hc.captured_frame]
    split
    · rfl
    · next hout =>
      have hp : ¬p.Inside c.width c.height := fun hin => hout (contains_frame.mpr hin)
      rw [pixelAt?_eq_none hp, pixelAt?_eq_none (by rwa [hw, hh])]
  have hplaced : c.captureFrame.placed .zero = c.frame := hc.captured_frame
  have hfits : ∀ p, (c.captureFrame.placed .zero).contains p = true → p.fits = true := by
    intro p hp
    rw [hplaced] at hp
    exact hc.fits_of_inside (contains_frame.mp hp)
  rw [drawImage_eq_of_fits hfits, hpixels]

/-! ### Capturing what was drawn -/

theorem pixelAt?_drawImage_of_outside {image : Image} {topLeft p : Point}
    (h : (image.placed topLeft).contains p = false) :
    (c.drawImage image topLeft).pixelAt? p = c.pixelAt? p := by
  rw [pixelAt?_drawImage, Image.picture_eq_none h]
  exact Option.map_id'

/-- An opaque image that has all its pixels replaces what is in its rectangle. -/
theorem Sound.pixelAt?_drawImage_of_opaque (h : c.Sound) {image : Image} (ho : image.Opaque)
    (hc : image.Complete) {topLeft p : Point} (hp : p.Inside c.width c.height)
    (hin : (image.placed topLeft).contains p = true) :
    (c.drawImage image topLeft).pixelAt? p = image.picture topLeft p := by
  obtain ⟨old, hold⟩ := Option.isSome_iff_exists.mp (h.pixelAt?_isSome_iff.mpr hp)
  obtain ⟨color, hmem, hcolor⟩ := Image.exists_picture hc hin
  rw [pixelAt?_drawImage, hold, hcolor]
  exact congrArg some (Rgba.blendOver_of_opaque (ho color hmem) old)

/-- An opaque image that has all its pixels and lies in the frame, captured where it was drawn. -/
theorem Sound.capture_drawImage (h : c.Sound) {image : Image} (ho : image.Opaque)
    (hc : image.Complete) {topLeft : Point} (hin : c.Encloses (image.placed topLeft)) :
    (c.drawImage image topLeft).capture (image.placed topLeft) = image := by
  have hcaptured : (image.placed topLeft).captured = image.placed topLeft := h.captured_eq hin
  obtain ⟨hwidth, hheight⟩ : clampExtent image.width = image.width ∧
      clampExtent image.height = image.height :=
    ⟨congrArg Region.width hcaptured, congrArg Region.height hcaptured⟩
  have hcomplete : ((c.drawImage image topLeft).capture (image.placed topLeft)).Complete :=
    Array.size_ofFn
  refine hcomplete.ext topLeft hc hwidth hheight fun p => ?_
  refine (picture_capture _ (image.placed topLeft) p).trans ?_
  rw [hcaptured]
  by_cases hp : (image.placed topLeft).contains p = true
  · obtain ⟨color, -, hcolor⟩ := Image.exists_picture hc hp
    rw [if_pos hp, h.pixelAt?_drawImage_of_opaque ho hc (hin.inside hp) hp, hcolor]
    rfl
  · rw [if_neg hp, Image.picture_eq_none (Bool.eq_false_iff.mpr hp)]

/-- **Capturing and drawing are inverse to each other**, on every sound canvas, wherever it is moved
to. An image captured from a region and drawn back at its corner changes nothing, and neither does
the capture, as long as the positions that are captured keep within 32 bits; the region may lie in
the frame, partly outside, or wholly. The whole frame is captured without overflow and, drawn on any
canvas of that size, makes its pixels those of the original. An opaque image that has all its pixels
and lies in the frame is what comes back when its rectangle is captured after it was drawn, and
outside of the rectangle no pixel was changed. -/
theorem capture_drawImage_inverse (h : c.Sound) :
    (∀ region : Region, (∀ p, region.captured.contains p = true → p.fits = true) →
      c.reading region = c ∧ c.drawImage (c.capture region) region.corner = c) ∧
    (c.reading c.frame = c ∧ ∀ d : Canvas, d.Sound → d.width = c.width → d.height = c.height →
      d.drawImage c.captureFrame .zero = { d with pixels := c.pixels }) ∧
    ∀ (image : Image) (topLeft : Point), image.Opaque → image.Complete →
      c.Encloses (image.placed topLeft) →
        let drawn := c.drawImage image topLeft
        drawn.capture (image.placed topLeft) = image ∧
        (∀ p, (image.placed topLeft).contains p = false → drawn.pixelAt? p = c.pixelAt? p) ∧
        drawn = { c with pixels := drawn.pixels } := by
  refine ⟨fun region hfits => ⟨reading_eq_of_fits hfits, h.drawImage_capture hfits⟩,
    ⟨h.reading_frame, fun d => h.drawImage_captureFrame⟩, ?_⟩
  intro image topLeft ho hc hin drawn
  refine ⟨h.capture_drawImage ho hc hin, fun p => pixelAt?_drawImage_of_outside, ?_⟩
  exact drawImage_eq_of_fits fun p hp => h.fits_of_inside (hin.inside hp)

/-- A frame of three by two pixels that was moved and has a half transparent stripe. A region that
starts to its left and is higher than an image can be is captured and drawn back, the frame is
copied onto a white canvas, and its lower right corner is replaced by two pixels. -/
theorem capture_drawImage_inverse_of_stripe :
    let c := (blank 3 2).perform
      [.translate ⟨1, 0⟩, .draw (.rect ⟨0, 0, 5, 1⟩) ⟨255, 255, 255, 128⟩]
    let d := (blank 3 2).clear .white
    let image : Image := ⟨2, 1, #[.solid 1 2 3, .white]⟩
    let drawn := c.drawImage image ⟨1, 1⟩
    c.drawImage (c.capture ⟨-1, 1, 3, 20000⟩) ⟨-1, 1⟩ = c ∧
    d.drawImage c.captureFrame .zero = { d with pixels := c.pixels } ∧
    drawn.capture ⟨1, 1, 2, 1⟩ = image ∧ drawn.pixel 1 0 = c.pixel 1 0 ∧
    c.pixel 1 0 = some (.solid 128 128 128) := by
  intro c d image drawn
  have hc : c.Sound := (Sound.blank 3 2).perform _
  obtain ⟨hback, ⟨-, hframe⟩, himage⟩ := capture_drawImage_inverse hc
  have hfits : ∀ p, (Region.captured ⟨-1, 1, 3, 20000⟩).contains p = true → p.fits = true := by
    intro p hp
    rw [Region.contains_iff] at hp
    rw [Point.fits_iff]
    simp only [Region.captured, clampExtent, maxExtent] at hp
    omega
  have hopaque : image.Opaque := by
    intro color hcolor
    simp only [image, List.mem_toArray, List.mem_cons, List.not_mem_nil, or_false] at hcolor
    rcases hcolor with rfl | rfl <;> rfl
  obtain ⟨hcaptured, hothers, -⟩ := himage image ⟨1, 1⟩ hopaque rfl ⟨by decide, by decide⟩
  exact ⟨(hback _ hfits).2, hframe d ((Sound.blank 3 2).clear .white) rfl rfl, hcaptured,
    hothers ⟨1, 0⟩ (by decide), by decide +kernel⟩

end Canvas
end LiveSketch
