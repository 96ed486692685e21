import LiveSketch.Canvas
import LiveSketch.Proofs.Canvas.Covered

/-!
# Blending pixel by pixel

A drawing primitive hands the canvas one mark after the other: a position and a colour. The canvas
drops a mark outside the frame and looks the others up in its buffer, by a row-major index that is
not checked again. `Canvas.draw` and `Canvas.drawImage` say what comes out of this for every pixel
at once.

Here marks are carried out one by one, and an index outside the buffer is a failure. On a sound
canvas there is none, and as long as no position is marked twice the order of the marks does not
matter: what comes out is the picture that they depict, blended over the frame.

## Main definitions

* `Canvas.Sound` — the sides are within their limit, and the buffer holds one opaque colour for each
  pixel.
* `Canvas.blendAt?`, `Canvas.blendEach?` — marks one by one, with checked indices.
* `Canvas.blendPicture` — a picture blended over the frame.
* `Depicts` — marks that depict a picture, each position marked once.

## Main results

* `Canvas.Sound.isSome_pixel` — there is a pixel at a position exactly when it is in the frame.
* `Canvas.Sound.blendEach?_eq` — marks blend the picture they depict, and no index fails.
* `Shape.depicts_marks`, `Image.depicts_marks` — the marks of shapes and of images.
* `Canvas.drawImage_overflowed` — an image overflows exactly when one of its marks does.
-/

namespace LiveSketch

/-! ### Positions and indices -/

/-- The position of the `i`-th pixel of a block of the given width, relative to its top left
corner. -/
def Point.ofIndex (width i : Nat) : Point := ⟨(i % width : Nat), (i / width : Nat)⟩

/-- Whether a position relative to the top left corner is in a block of this size. -/
def Point.Inside (p : Point) (width height : Nat) : Prop :=
  (0 ≤ p.x ∧ p.x < width) ∧ 0 ≤ p.y ∧ p.y < height

namespace Point

theorem add_eq_iff {p offset q : Point} : p + offset = q ↔ p = q - offset := by
  obtain ⟨px, py⟩ := p
  obtain ⟨qx, qy⟩ := q
  show mk (px + offset.x) (py + offset.y) = _ ↔ _ = mk (qx - offset.x) (qy - offset.y)
  rw [mk.injEq, mk.injEq]
  omega

theorem add_zero (p : Point) : p + zero = p := by
  show (⟨p.x + 0, p.y + 0⟩ : Point) = p
  simp

theorem add_assoc (p q r : Point) : p + q + r = p + (q + r) := by
  show (⟨p.x + q.x + r.x, p.y + q.y + r.y⟩ : Point) = ⟨p.x + (q.x + r.x), p.y + (q.y + r.y)⟩
  simp [Int.add_assoc]

theorem add_comm (p q : Point) : p + q = q + p := by
  show (⟨p.x + q.x, p.y + q.y⟩ : Point) = ⟨q.x + p.x, q.y + p.y⟩
  simp [Int.add_comm]

theorem zero_add (p : Point) : zero + p = p := (add_comm zero p).trans (add_zero p)

theorem add_sub_cancel (p q : Point) : p + q - q = p := (add_eq_iff.mp rfl).symm

theorem sub_add_cancel (p q : Point) : p - q + q = p := add_eq_iff.mpr rfl

theorem sub_zero (p : Point) : p - zero = p := (add_eq_iff.mp (add_zero p)).symm

theorem add_right_cancel {p q r : Point} (h : p + r = q + r) : p = q :=
  (add_eq_iff.mp h).trans (add_sub_cancel q r)

theorem fits_iff {p : Point} : p.fits = true ↔
    (-2147483648 ≤ p.x ∧ p.x ≤ 2147483647) ∧ -2147483648 ≤ p.y ∧ p.y ≤ 2147483647 := by
  rw [fits, Bool.and_eq_true, inRange, inRange, decide_eq_true_iff, decide_eq_true_iff]

end Point

section RowMajor

variable {width height i x y : Nat}

theorem rowMajor_lt (hx : x < width) (hy : y < height) : y * width + x < width * height :=
  calc y * width + x < y * width + width := Nat.add_lt_add_left hx _
    _ = (y + 1) * width := (Nat.succ_mul y width).symm
    _ ≤ height * width := Nat.mul_le_mul_right width hy
    _ = width * height := Nat.mul_comm height width

theorem Point.Inside.index_lt {p : Point} (h : p.Inside width height) :
    p.y.toNat * width + p.x.toNat < width * height := by
  obtain ⟨hx, hy⟩ := h
  exact rowMajor_lt (by omega) (by omega)

theorem rowMajor_mod_div_lt (h : i < width * height) : i % width < width ∧ i / width < height :=
  ⟨Nat.mod_lt i (Nat.pos_of_mul_pos_right (Nat.lt_of_le_of_lt (Nat.zero_le i) h)),
    Nat.div_lt_of_lt_mul h⟩

/-- Row-major order is one to one: the index says the position, and the position the index. -/
theorem Point.ofIndex_eq_iff {p : Point} (h : i < width * height) :
    ofIndex width i = p ↔ p.Inside width height ∧ i = p.y.toNat * width + p.x.toNat := by
  obtain ⟨x, y⟩ := p
  obtain ⟨hmod, hdiv⟩ := rowMajor_mod_div_lt h
  rw [ofIndex, mk.injEq]
  constructor
  · rintro ⟨rfl, rfl⟩
    refine ⟨⟨⟨Int.natCast_nonneg _, Int.ofNat_lt.mpr hmod⟩,
      Int.natCast_nonneg _, Int.ofNat_lt.mpr hdiv⟩, ?_⟩
    exact ((Nat.mul_comm _ _) ▸ Nat.div_add_mod i width).symm
  · rintro ⟨⟨⟨hx, hxw⟩, hy, -⟩, rfl⟩
    dsimp only at hx hxw hy
    have hx' : x.toNat < width := by omega
    rw [Nat.add_comm, Nat.add_mul_mod_self_right, Nat.mod_eq_of_lt hx',
      Nat.add_mul_div_right _ _ (by omega), Nat.div_eq_of_lt hx', Nat.zero_add]
    exact ⟨Int.toNat_of_nonneg hx, Int.toNat_of_nonneg hy⟩

end RowMajor

namespace Canvas

variable {c : Canvas}

/-! ### Sound canvases -/

/-- What holds of every canvas: both sides are within their limit, the buffer has one entry for each
pixel, and every entry is opaque. -/
structure Sound (c : Canvas) : Prop where
  width_le : c.width ≤ maxExtent
  height_le : c.height ≤ maxExtent
  size_eq : c.pixels.size = c.width * c.height
  alpha_eq : ∀ color ∈ c.pixels, color.a = 255

/-- Where the pixel at column `x` and row `y` is stored. -/
def index (c : Canvas) (x y : Nat) : Nat := y * c.width + x

theorem Sound.index_lt_size {x y : Nat} (h : c.Sound) (hx : x < c.width) (hy : y < c.height) :
    c.index x y < c.pixels.size :=
  h.size_eq ▸ rowMajor_lt hx hy

/-- There is a pixel at a position exactly when the position is in the frame. -/
theorem Sound.isSome_pixel (h : c.Sound) (x y : Nat) :
    (c.pixel x y).isSome ↔ x < c.width ∧ y < c.height := by
  rw [pixel]
  split
  · next hin =>
    have hi : y * c.width + x < c.pixels.size := h.index_lt_size hin.1 hin.2
    rw [Array.getElem?_eq_getElem hi]
    exact iff_of_true rfl hin
  · next hout => exact iff_of_false Bool.false_ne_true hout

theorem Sound.position_eq_iff {i : Nat} {p : Point} (h : c.Sound) (hi : i < c.pixels.size) :
    c.position i = p ↔ p.Inside c.width c.height ∧ i = c.index p.x.toNat p.y.toNat :=
  Point.ofIndex_eq_iff (h.size_eq ▸ hi)

/-! ### Pictures -/

/-- A buffer that holds, for each pixel, a function of its position and its old colour. -/
theorem eq_mapPixels {f : Point → Rgba → Rgba} {pixels : Array Rgba}
    (hsize : pixels.size = c.pixels.size)
    (hf : ∀ i (hi : i < c.pixels.size) (_ : i < pixels.size),
      pixels[i] = f (c.position i) c.pixels[i]) :
    { c with pixels } = c.mapPixels f := by
  have hpixels : pixels = c.pixels.mapIdx fun i old => f (c.position i) old := by
    refine Array.ext (by rw [hsize, Array.size_mapIdx]) fun i hi _ => ?_
    rw [Array.getElem_mapIdx]
    exact hf i (hsize ▸ hi) hi
  rw [hpixels]
  rfl

theorem mapPixels_id (c : Canvas) : (c.mapPixels fun _ old => old) = c :=
  (eq_mapPixels rfl fun _ _ _ => rfl).symm

theorem mapPixels_mapPixels (c : Canvas) (f g : Point → Rgba → Rgba) :
    (c.mapPixels f).mapPixels g = c.mapPixels fun p old => g p (f p old) := by
  show { c with pixels := (c.pixels.mapIdx _).mapIdx _ } = { c with pixels := _ }
  rw [Array.mapIdx_mapIdx]
  rfl

theorem Sound.mapPixels {f : Point → Rgba → Rgba} (h : c.Sound)
    (hf : ∀ p old, old.a = 255 → (f p old).a = 255) : (c.mapPixels f).Sound where
  width_le := h.width_le
  height_le := h.height_le
  size_eq := Array.size_mapIdx.trans h.size_eq
  alpha_eq color hcolor := by
    obtain ⟨i, hi, rfl⟩ := Array.mem_mapIdx.mp hcolor
    exact hf _ _ (h.alpha_eq _ (Array.getElem_mem hi))

/-- Blends a picture over the frame: a colour for each position that something is drawn at. -/
def blendPicture (c : Canvas) (picture : Point → Option Rgba) : Canvas :=
  c.mapPixels fun p old =>
    match picture p with
    | some color => color.blendOver old
    | none => old

/-- What blending leaves in a pixel is opaque. -/
theorem Sound.blendPicture (h : c.Sound) (picture : Point → Option Rgba) :
    (c.blendPicture picture).Sound := by
  refine h.mapPixels fun p old hold => ?_
  cases picture p with
  | none => exact hold
  | some color => rfl

/-! ### One mark after the other -/

/-- Blends a colour over one position. Outside the frame nothing happens. In the frame the buffer is
read and written at the index of the position, which fails when the buffer ends before it. -/
def blendAt? (c : Canvas) (p : Point) (color : Rgba) : Option Canvas :=
  if p.x < 0 ∨ p.y < 0 ∨ c.width ≤ p.x ∨ c.height ≤ p.y then some c
  else
    let i := c.index p.x.toNat p.y.toNat
    c.pixels[i]?.map fun old =>
      { c with pixels := c.pixels.setIfInBounds i (color.blendOver old) }

/-- Blends marks one after the other. -/
def blendEach? (c : Canvas) : List (Point × Rgba) → Option Canvas
  | [] => some c
  | (p, color) :: rest => (c.blendAt? p color).bind fun next => next.blendEach? rest

/-- A mark blends the picture of one pixel, and its index is in the buffer. -/
theorem Sound.blendAt?_eq (h : c.Sound) (p : Point) (color : Rgba) :
    c.blendAt? p color = some (c.blendPicture fun q => if q = p then some color else none) := by
  rw [blendAt?, Canvas.blendPicture]
  split
  · next hout =>
    refine congrArg some (eq_mapPixels rfl fun i hi _ => ?_)
    have hne : c.position i ≠ p := fun he => by
      obtain ⟨hin, -⟩ := (h.position_eq_iff hi).mp he
      rw [Point.Inside] at hin
      omega
    rw [if_neg hne]
  · next hin =>
    have hp : p.Inside c.width c.height := by
      rw [Point.Inside]
      omega
    have hi : c.index p.x.toNat p.y.toNat < c.pixels.size := h.size_eq ▸ hp.index_lt
    dsimp only
    rw [Array.getElem?_eq_getElem hi]
    refine congrArg some (eq_mapPixels Array.size_setIfInBounds fun j hj _ => ?_)
    rw [Array.getElem_setIfInBounds hj]
    by_cases he : c.index p.x.toNat p.y.toNat = j
    · subst he
      rw [if_pos rfl, if_pos ((h.position_eq_iff hj).mpr ⟨hp, rfl⟩)]
    · have hne : c.position j ≠ p := fun hpos => he ((h.position_eq_iff hj).mp hpos).2.symm
      rw [if_neg he, if_neg hne]

end Canvas

/-- The marks depict a picture: each position that it has a colour for is marked with that colour,
once, and no other is marked. -/
structure Depicts (marks : List (Point × Rgba)) (picture : Point → Option Rgba) : Prop where
  once : marks.Pairwise fun a b => a.1 ≠ b.1
  mem_iff : ∀ p color, (p, color) ∈ marks ↔ picture p = some color

/-- The marks after the first depict the rest of the picture. -/
theorem Depicts.tail {p : Point} {color : Rgba} {rest : List (Point × Rgba)}
    {picture : Point → Option Rgba} (h : Depicts ((p, color) :: rest) picture) :
    Depicts rest fun q => if q = p then none else picture q := by
  obtain ⟨hfirst, hrest⟩ := List.pairwise_cons.mp h.once
  refine ⟨hrest, fun q other => ?_⟩
  by_cases hq : q = p
  · subst hq
    rw [if_pos rfl]
    exact iff_of_false (fun hmem => hfirst _ hmem rfl) (by simp)
  · rw [if_neg hq, ← h.mem_iff, List.mem_cons]
    exact ⟨Or.inr, fun hmem => hmem.resolve_left fun he => hq (congrArg Prod.fst he)⟩

namespace Canvas

/-- **Marks blend the picture they depict**, and no index fails. The induction is on the marks: the
first one takes its pixel out of the picture that is left to the others. -/
theorem Sound.blendEach?_eq {c : Canvas} {marks : List (Point × Rgba)}
    {picture : Point → Option Rgba} (h : c.Sound) (hm : Depicts marks picture) :
    c.blendEach? marks = some (c.blendPicture picture) := by
  induction marks generalizing c picture with
  | nil =>
    have hnone : ∀ p, picture p = none := fun p =>
      Option.eq_none_iff_forall_ne_some.mpr fun color he =>
        List.not_mem_nil ((hm.mem_iff p color).mpr he)
    have hsame : c.blendPicture picture = c.mapPixels fun _ old => old := by
      rw [Canvas.blendPicture]
      simp only [hnone]
    rw [hsame, mapPixels_id]
    rfl
  | cons mark rest ih =>
    obtain ⟨p, color⟩ := mark
    rw [blendEach?, h.blendAt?_eq, Option.bind_some, ih (h.blendPicture _) hm.tail]
    refine congrArg some ((mapPixels_mapPixels c _ _).trans ?_)
    refine congrArg c.mapPixels (funext fun q => funext fun old => ?_)
    by_cases hq : q = p
    · subst hq
      have hcolor : picture q = some color := (hm.mem_iff q color).mp List.mem_cons_self
      simp only [hcolor, if_true]
    · simp only [hq, if_false]

end Canvas

/-! ### The marks of shapes -/

namespace Shape

/-- The picture of a shape in one colour, moved by an offset. -/
def picture (shape : Shape) (color : Rgba) (offset p : Point) : Option Rgba :=
  if shape.covers (p - offset) then some color else none

/-- The marks of a shape in one colour, moved by an offset. -/
def marks (shape : Shape) (color : Rgba) (offset : Point) : List (Point × Rgba) :=
  shape.points.map fun p => (p + offset, color)

/-- Pixels that are all those of the shape, each listed once, depict it in whatever order they
come. -/
theorem depicts_of_points {shape : Shape} {points : List Point} (hn : points.Nodup)
    (hm : ∀ p, p ∈ points ↔ shape.covers p = true) (color : Rgba) (offset : Point) :
    Depicts (points.map fun p => (p + offset, color)) (shape.picture color offset) := by
  constructor
  · exact List.pairwise_map.mpr (hn.imp fun hne he => hne (Point.add_right_cancel he))
  · intro p other
    have hmem : (p, other) ∈ (points.map fun p => (p + offset, color)) ↔
        shape.covers (p - offset) = true ∧ color = other := by
      simp only [List.mem_map, Prod.mk.injEq, Point.add_eq_iff, hm]
      exact ⟨fun ⟨q, hq, he, hc⟩ => ⟨he ▸ hq, hc⟩, fun ⟨hp, hc⟩ => ⟨_, hp, rfl, hc⟩⟩
    rw [hmem, picture]
    split <;> simp [*]

theorem depicts_marks (shape : Shape) (color : Rgba) (offset : Point) :
    Depicts (shape.marks color offset) (shape.picture color offset) :=
  depicts_of_points shape.nodup_points (fun _ => mem_points) color offset

end Shape

/-! ### The marks of images -/

namespace Image

/-- The picture of an image, its top left corner at the given position. -/
def picture (image : Image) (topLeft p : Point) : Option Rgba := image.pixelAt? (p - topLeft)

/-- The marks of an image, its top left corner at the given position. -/
def marks (image : Image) (topLeft : Point) : List (Point × Rgba) :=
  (List.range image.drawnCount).filterMap fun i =>
    image.pixels[i]?.map fun color => (Point.ofIndex image.width i + topLeft, color)

theorem pixelAt?_eq_some_iff {image : Image} {p : Point} {color : Rgba} :
    image.pixelAt? p = some color ↔ p.Inside image.width image.height ∧
      image.pixels[p.y.toNat * image.width + p.x.toNat]? = some color := by
  rw [pixelAt?, pixel, Point.Inside]
  split
  · split
    · rw [and_iff_right (by omega)]
    · exact iff_of_false (by simp) (by omega)
  · exact iff_of_false (by simp) (by omega)

theorem mem_marks {image : Image} {topLeft p : Point} {color : Rgba} :
    (p, color) ∈ image.marks topLeft ↔ ∃ i < image.drawnCount,
      image.pixels[i]? = some color ∧ Point.ofIndex image.width i = p - topLeft := by
  simp only [marks, List.mem_filterMap, List.mem_range, Option.map_eq_some_iff, Prod.mk.injEq,
    Point.add_eq_iff]
  exact ⟨fun ⟨i, hi, _, hcolor, hp, he⟩ => ⟨i, hi, he ▸ hcolor, hp⟩,
    fun ⟨i, hi, hcolor, hp⟩ => ⟨i, hi, color, hcolor, hp, rfl⟩⟩

/-- Two indices that are drawn stand for two positions. -/
theorem once_marks (image : Image) (topLeft : Point) :
    (image.marks topLeft).Pairwise fun a b => a.1 ≠ b.1 := by
  have hlt : ∀ {i}, i ∈ List.range image.drawnCount → i < image.width * image.height := fun hi =>
    Nat.lt_of_lt_of_le (List.mem_range.mp hi) (Nat.min_le_right _ _)
  refine List.pairwise_filterMap.mpr (List.nodup_range.imp_of_mem fun hi hj hne a ha b hb he => ?_)
  obtain ⟨_, -, rfl⟩ := Option.map_eq_some_iff.mp ha
  obtain ⟨_, -, rfl⟩ := Option.map_eq_some_iff.mp hb
  have hp := Point.add_right_cancel he
  obtain ⟨-, hij⟩ := (Point.ofIndex_eq_iff (hlt hi)).mp hp
  obtain ⟨-, hjj⟩ := (Point.ofIndex_eq_iff (hlt hj)).mp rfl
  exact hne (hij.trans hjj.symm)

theorem depicts_marks (image : Image) (topLeft : Point) :
    Depicts (image.marks topLeft) (image.picture topLeft) := by
  refine ⟨once_marks image topLeft, fun p color => mem_marks.trans ?_⟩
  rw [picture, pixelAt?_eq_some_iff]
  constructor
  · rintro ⟨i, hi, hcolor, hp⟩
    obtain ⟨hin, rfl⟩ := (Point.ofIndex_eq_iff (Nat.lt_of_lt_of_le hi (Nat.min_le_right _ _))).mp hp
    exact ⟨hin, hcolor⟩
  · rintro ⟨hin, hcolor⟩
    obtain ⟨hlen, -⟩ := Array.getElem?_eq_some_iff.mp hcolor
    exact ⟨_, Nat.lt_min.mpr ⟨hlen, hin.index_lt⟩, hcolor,
      (Point.ofIndex_eq_iff hin.index_lt).mpr ⟨hin, rfl⟩⟩

theorem fits_marks_iff {image : Image} {topLeft : Point} :
    (∀ mark ∈ image.marks topLeft, mark.1.fits = true) ↔
      ∀ i < image.drawnCount, (Point.ofIndex image.width i + topLeft).fits = true := by
  constructor
  · intro h i hi
    have hlen : i < image.pixels.size := Nat.lt_of_lt_of_le hi (Nat.min_le_left _ _)
    refine h (_, image.pixels[i]) (mem_marks.mpr ⟨i, hi, Array.getElem?_eq_getElem hlen, ?_⟩)
    exact Point.add_eq_iff.mp rfl
  · rintro h ⟨p, color⟩ hmark
    obtain ⟨i, hi, -, hp⟩ := mem_marks.mp hmark
    exact Point.add_eq_iff.mpr hp ▸ h i hi

/-- Two corners say whether an image is drawn without overflow: the columns from the first to the
last one that is drawn, and the rows, are between those of the corners, and some mark is in the last
column and some other in the last row. -/
theorem fits_imageReach_iff (image : Image) (topLeft : Point) :
    (∀ p ∈ Canvas.imageReach image.drawnWidth image.drawnHeight topLeft, p.fits = true) ↔
      ∀ mark ∈ image.marks topLeft, mark.1.fits = true := by
  rw [fits_marks_iff]
  have hcols : image.drawnWidth = min image.drawnCount image.width := rfl
  by_cases hcount : image.drawnCount = 0
  · have hreach : Canvas.imageReach image.drawnWidth image.drawnHeight topLeft = [] :=
      if_neg (by omega)
    simp [hreach, hcount]
  · have hw : 0 < image.width := by
      have hle : image.drawnCount ≤ image.width * image.height := Nat.min_le_right _ _
      exact Nat.pos_of_mul_pos_right (Nat.lt_of_lt_of_le (Nat.pos_of_ne_zero hcount) hle)
    have hrows : image.drawnHeight = (image.drawnCount - 1) / image.width + 1 := by
      rw [← Nat.add_div_right _ hw, drawnHeight]
      congr 1
      omega
    have hreach : Canvas.imageReach image.drawnWidth image.drawnHeight topLeft =
        [topLeft, ⟨topLeft.x + image.drawnWidth - 1, topLeft.y + image.drawnHeight - 1⟩] :=
      if_pos ⟨by omega, hrows ▸ Nat.succ_pos _⟩
    have hmark : ∀ i, Point.ofIndex image.width i + topLeft =
        ⟨(i % image.width : Nat) + topLeft.x, (i / image.width : Nat) + topLeft.y⟩ := fun _ => rfl
    rw [hreach, List.forall_mem_cons, List.forall_mem_singleton]
    simp only [hmark, Point.fits_iff, hrows]
    constructor
    · intro h i hi
      have hmod := Nat.mod_lt i hw
      have hle := Nat.mod_le i image.width
      have hdiv : i / image.width ≤ (image.drawnCount - 1) / image.width :=
        Nat.div_le_div_right (by omega)
      generalize i % image.width = col at *
      generalize i / image.width = row at *
      generalize (image.drawnCount - 1) / image.width = last at *
      omega
    · intro h
      have hfirst := h 0 (by omega)
      rw [Nat.zero_mod, Nat.zero_div] at hfirst
      have hrow := h (image.drawnCount - 1) (by omega)
      have hcol := h (image.drawnWidth - 1) (by omega)
      rw [Nat.mod_eq_of_lt (by omega : image.drawnWidth - 1 < image.width)] at hcol
      omega

end Image

/-- What overflows exactly when some sum leaves the range does not if none of them does. -/
theorem Canvas.overflowed_eq_of_fits {ι : Type} {among : ι → Prop} {sum : ι → Point}
    {before after : Bool}
    (hiff : after = true ↔ before = true ∨ ∃ i, among i ∧ (sum i).fits = false)
    (h : ∀ i, among i → (sum i).fits = true) : after = before := by
  rw [Bool.eq_iff_iff, hiff]
  refine or_iff_left ?_
  rintro ⟨i, hi, hfits⟩
  rw [h i hi] at hfits
  cases hfits

/-- Drawing an image overflows exactly when the position of one of its marks does. -/
theorem Canvas.drawImage_overflowed (c : Canvas) (image : Image) (topLeft : Point) :
    (c.drawImage image topLeft).overflowed = true ↔
      c.overflowed = true ∨ ∃ mark ∈ image.marks topLeft, mark.1.fits = false := by
  show (c.overflowed || (imageReach _ _ topLeft).any fun p => !p.fits) = true ↔ _
  rw [Bool.or_eq_true, List.any_eq_true]
  refine or_congr_right ?_
  have hreach := not_congr (image.fits_imageReach_iff topLeft)
  simpa only [Classical.not_forall, Bool.not_eq_true, exists_prop, Bool.not_eq_true'] using hreach

end LiveSketch
