import LiveSketch.Proofs.Canvas.Emitted

/-!
# Pixels that leave the range

On a canvas that was moved each pixel of a primitive is moved with it, and the sum has to have 32
bits, like the position that it is computed from. A primitive can have more pixels than can be gone
through, so the canvas does not look for one that strays. It takes the positions that the move takes
out of the range, which are a rectangle along each axis, and asks the primitive whether it covers
one of these.

## One position is enough

A rectangle has the whole way from its corner to each of its positions, and a circle that from its
centre. If they meet another rectangle at all, they do so at its position nearest to the corner or
to the centre, since that is on the way to any position that the two share.

A line is different: the nearest position may be passed by. But a walk steps aside by at most one
pixel at a time, so between two of its pixels no number of steps aside is left out. It is enough to
look at the first and the last pixel of the part whose steps along the larger delta are within
bounds.

## Main definitions

* `Point.Between` — a position on the way from one to another along both axes.
* `Shape.held` — the pixels of a primitive that have a 32-bit position.

## Main results

* `Point.exists_mem_strays_iff` — the rectangles hold the positions that a move takes out.
* `Shape.meets_iff` — a shape meets a rectangle exactly when they have a position in common.
* `Canvas.draw_overflowed` — a primitive overflows exactly when one of its pixels strays.
* `Canvas.draw_overflowed_of_unmoved` — on a canvas that was not moved no primitive overflows.
-/

namespace LiveSketch

variable {r : Region} {a p q d : Point}

/-- A position is in one of the rectangles exactly when it has 32 bits and the move takes it out of
the range. -/
theorem Point.exists_mem_strays_iff :
    (∃ r ∈ d.strays, r.contains p = true) ↔ p.fits = true ∧ (p + d).fits = false := by
  have hsum : p + d = ⟨p.x + d.x, p.y + d.y⟩ := rfl
  rw [← Bool.not_eq_true, hsum, fits_iff, fits_iff]
  simp only [strays, List.mem_cons, List.not_mem_nil, or_false, exists_eq_or_imp, exists_eq_left,
    Region.contains_iff, strays.first, strays.count]
  by_cases hx : 0 ≤ d.x <;> by_cases hy : 0 ≤ d.y <;> simp only [hx, hy, if_true, if_false] <;>
    omega

/-- A position on the way from `p` to `q` along both axes. -/
def Point.Between (p q way : Point) : Prop :=
  (min p.x q.x ≤ way.x ∧ way.x ≤ max p.x q.x) ∧ min p.y q.y ≤ way.y ∧ way.y ≤ max p.y q.y

namespace Region

theorem contains_nearest (a : Point) (h : r.contains p = true) :
    r.contains (r.nearest a) = true := by
  rw [contains_iff] at h ⊢
  dsimp only [nearest]
  omega

theorem between_nearest (a : Point) (h : r.contains p = true) : a.Between p (r.nearest a) := by
  rw [contains_iff] at h
  dsimp only [Point.Between, nearest]
  omega

/-- A figure that with each of its positions has the whole way there from `a` meets a rectangle
exactly if it does so where the rectangle is nearest to `a`. -/
theorem nearest_covered_iff {figure : Point → Bool}
    (hway : ∀ p q, figure p = true → a.Between p q → figure q = true) :
    (r.contains (r.nearest a) && figure (r.nearest a)) = true ↔
      ∃ p, figure p = true ∧ r.contains p = true := by
  rw [Bool.and_eq_true]
  constructor
  · rintro ⟨hin, hcovered⟩
    exact ⟨_, hcovered, hin⟩
  · rintro ⟨p, hcovered, hin⟩
    exact ⟨contains_nearest a hin, hway p _ hcovered (between_nearest a hin)⟩

/-- A rectangle has the way from its corner to each of its positions. -/
theorem contains_of_between {region : Region} (h : region.contains p = true)
    (hq : Point.Between ⟨region.x, region.y⟩ p q) : region.contains q = true := by
  rw [contains_iff] at h ⊢
  dsimp only [Point.Between] at hq
  omega

end Region

namespace Shape

/-- A circle has the way from its centre to each of its pixels. -/
theorem circleCovers_of_between {center : Point} {radius : Nat}
    (h : circleCovers center radius p = true) (hq : center.Between p q) :
    circleCovers center radius q = true := by
  rw [circleCovers, Bool.and_eq_true, decide_eq_true_iff, Region.contains_iff] at h ⊢
  obtain ⟨hbox, hnear⟩ := h
  dsimp only [circleBox, Point.Between] at hbox hnear hq ⊢
  have hsquare : ∀ {m n : Int}, m.natAbs ≤ n.natAbs → m * m ≤ n * n := by
    intro m n hle
    rw [← Int.natAbs_mul_self, ← Int.natAbs_mul_self]
    exact Int.ofNat_le.mpr (Nat.mul_self_le_mul_self hle)
  refine ⟨by omega, Int.lt_of_le_of_lt (Int.add_le_add ?_ ?_) hnear⟩
  · exact hsquare (by omega)
  · exact hsquare (by omega)

/-! ### Lines -/

section Steps

variable {major minor : Nat}

theorem minorSteps_mono {k l : Nat} (h : k ≤ l) :
    minorSteps major minor k ≤ minorSteps major minor l := by
  rw [minorSteps, minorSteps]
  split
  · exact Nat.le_refl 0
  · have hmul := Nat.mul_le_mul_left (2 * minor) h
    exact Nat.div_le_div_right (by omega)

/-- A walk steps aside by at most one pixel at a time. -/
theorem minorSteps_succ_le (hle : minor ≤ major) (k : Nat) :
    minorSteps major minor (k + 1) ≤ minorSteps major minor k + 1 := by
  rw [minorSteps, minorSteps]
  split
  · exact Nat.zero_le _
  · next hmajor =>
    have hmul : 2 * minor * (k + 1) = 2 * minor * k + 2 * minor := Nat.mul_succ _ _
    rw [← Nat.add_div_right _ (by omega : 0 < 2 * major)]
    exact Nat.div_le_div_right (by omega)

/-- No number of steps aside is left out between two pixels. The induction is on the last one, and
the step is taken where the bound from below is first reached. -/
theorem exists_minorSteps_between (hle : minor ≤ major) {first last : Nat} {low high : Int}
    (hpart : first ≤ last) (hbounds : low ≤ high) (hfirst : minorSteps major minor first ≤ high)
    (hlast : low ≤ minorSteps major minor last) :
    ∃ k, first ≤ k ∧ k ≤ last ∧
      low ≤ minorSteps major minor k ∧ minorSteps major minor k ≤ high := by
  induction hpart with
  | refl => exact ⟨first, Nat.le_refl _, Nat.le_refl _, hlast, hfirst⟩
  | @step last hpart ih =>
    by_cases hreached : low ≤ minorSteps major minor last
    · obtain ⟨k, hk, hkl, hsteps⟩ := ih hreached
      exact ⟨k, hk, Nat.le_succ_of_le hkl, hsteps⟩
    · have hstep := minorSteps_succ_le hle last
      exact ⟨last + 1, Nat.le_succ_of_le hpart, Nat.le_refl _, hlast, by omega⟩

theorem lineReaches_iff (hle : minor ≤ major) {along across : Int × Int} :
    lineReaches major minor along across = true ↔ ∃ k : Nat, k < major + 1 ∧
      (along.1 ≤ k ∧ k ≤ along.2) ∧
        across.1 ≤ minorSteps major minor k ∧ minorSteps major minor k ≤ across.2 := by
  simp only [lineReaches, Bool.and_eq_true, decide_eq_true_iff]
  constructor
  · rintro ⟨⟨⟨hpart, hbounds⟩, hfirst⟩, hlast⟩
    obtain ⟨k, hk, hkl, hsteps⟩ :=
      exists_minorSteps_between hle (by omega) hbounds hfirst hlast
    exact ⟨k, by omega, by omega, hsteps⟩
  · rintro ⟨k, hk, halong, hsteps⟩
    have hfirst : minorSteps major minor (max 0 along.1).toNat ≤ minorSteps major minor k :=
      minorSteps_mono (by omega)
    have hlast : minorSteps major minor k ≤
        minorSteps major minor (min (major : Int) along.2).toNat := minorSteps_mono (by omega)
    omega

end Steps

/-- A coordinate that is reached by `k` steps is within bounds exactly when `k` is. -/
theorem stepsTo_iff {delta start low x : Int} {length k : Nat}
    (hx : x - start = k * stepSign delta) :
    ((stepsTo delta start low length).1 ≤ k ∧ k ≤ (stepsTo delta start low length).2) ↔
      low ≤ x ∧ x < low + length := by
  rw [stepSign] at hx
  rw [stepsTo]
  by_cases hdelta : 0 ≤ delta
  · rw [if_pos hdelta] at hx ⊢
    dsimp only
    omega
  · rw [if_neg hdelta] at hx ⊢
    dsimp only
    omega

/-- The steps along both axes are within bounds for some pixel exactly when its coordinates are: `x`
along the larger delta and `y` along the smaller. -/
theorem lineReaches_stepsTo_iff {major minor startMajor startMinor lowMajor lowMinor : Int}
    {width height : Nat} (hle : minor.natAbs ≤ major.natAbs) :
    lineReaches major.natAbs minor.natAbs (stepsTo major startMajor lowMajor width)
        (stepsTo minor startMinor lowMinor height) = true ↔
      ∃ x y, lineCoversOffset major minor (x - startMajor) (y - startMinor) = true ∧
        (lowMajor ≤ x ∧ x < lowMajor + width) ∧ lowMinor ≤ y ∧ y < lowMinor + height := by
  rw [lineReaches_iff hle]
  constructor
  · rintro ⟨k, hk, halong, hacross⟩
    have hx := Int.add_sub_cancel (k * stepSign major) startMajor
    have hy := Int.add_sub_cancel
      (minorSteps major.natAbs minor.natAbs k * stepSign minor) startMinor
    exact ⟨_, _, lineCoversOffset_iff.mpr ⟨k, hk, hx, hy⟩, (stepsTo_iff hx).mp halong,
      (stepsTo_iff hy).mp hacross⟩
  · rintro ⟨x, y, hcovers, hxs, hys⟩
    obtain ⟨k, hk, hx, hy⟩ := lineCoversOffset_iff.mp hcovers
    exact ⟨k, hk, (stepsTo_iff hx).mpr hxs, (stepsTo_iff hy).mpr hys⟩

theorem line_meets_iff {start stop : Point} : (line start stop).meets r = true ↔
    ∃ p, lineCovers start stop p = true ∧ r.contains p = true := by
  show lineMeets start stop r = true ↔ _
  simp only [lineMeets, lineCovers, Region.contains_iff]
  split
  · next hle =>
    rw [lineReaches_stepsTo_iff hle]
    constructor
    · rintro ⟨y, x, hcovers, hy, hx⟩
      exact ⟨⟨x, y⟩, hcovers, hx.1, hx.2, hy⟩
    · rintro ⟨p, hcovers, hx, hx', hy⟩
      exact ⟨p.y, p.x, hcovers, hy, hx, hx'⟩
  · next hlt =>
    rw [lineReaches_stepsTo_iff (by omega)]
    constructor
    · rintro ⟨x, y, hcovers, hx, hy⟩
      exact ⟨⟨x, y⟩, hcovers, hx.1, hx.2, hy⟩
    · rintro ⟨p, hcovers, hx, hx', hy⟩
      exact ⟨p.x, p.y, hcovers, ⟨hx, hx'⟩, hy⟩

/-! ### All shapes -/

/-- **A shape meets a rectangle** exactly when it covers one of its positions. -/
theorem meets_iff {shape : Shape} :
    shape.meets r = true ↔ ∃ p, shape.covers p = true ∧ r.contains p = true := by
  cases shape with
  | rect region => exact Region.nearest_covered_iff fun _ _ => Region.contains_of_between
  | circle center radius => exact Region.nearest_covered_iff fun _ _ => circleCovers_of_between
  | line start stop => exact line_meets_iff
  | text content topLeft =>
    rw [meets, List.any_eq_true]
    exact exists_congr fun p => and_congr_left fun _ => mem_textPixels

/-- The pixels of a primitive whose positions have 32 bits. Only these can be handed to the
canvas. -/
def held (shape : Shape) : List Point := shape.emitted.filter Point.fits

theorem mem_held {shape : Shape} : p ∈ shape.held ↔ shape.covers p = true ∧ p.fits = true := by
  rw [held, List.mem_filter, mem_emitted]

end Shape

namespace Canvas

/-- **Drawing a shape overflows** exactly when the offset takes one of its pixels out of the
range. -/
theorem draw_overflowed (c : Canvas) (shape : Shape) (color : Rgba) :
    (c.draw shape color).overflowed = true ↔
      c.overflowed = true ∨ ∃ p ∈ shape.held, (p + c.offset).fits = false := by
  show (c.overflowed || c.offset.strays.any shape.meets) = true ↔ _
  rw [Bool.or_eq_true, List.any_eq_true]
  refine or_congr_right ?_
  simp only [Shape.meets_iff, Shape.mem_held, and_assoc, ← Point.exists_mem_strays_iff]
  constructor
  · rintro ⟨r, hr, p, hcovers, hin⟩
    exact ⟨p, hcovers, r, hr, hin⟩
  · rintro ⟨p, hcovers, r, hr, hin⟩
    exact ⟨r, hr, p, hcovers, hin⟩

/-- A shape none of whose pixels strays is drawn without overflow. -/
theorem draw_overflowed_of_fits {c : Canvas} {shape : Shape}
    (h : ∀ p ∈ shape.held, (p + c.offset).fits = true) (color : Rgba) :
    (c.draw shape color).overflowed = c.overflowed :=
  overflowed_eq_of_fits (c.draw_overflowed shape color) h

/-- On a canvas that was not moved nothing overflows, however large the shape is. -/
theorem draw_overflowed_of_unmoved {c : Canvas} (hz : c.offset = .zero) (shape : Shape)
    (color : Rgba) : (c.draw shape color).overflowed = c.overflowed := by
  refine draw_overflowed_of_fits (fun p hp => ?_) color
  rw [hz, Point.add_zero]
  exact (Shape.mem_held.mp hp).2

/-- Shapes that reach past the end of the range, and the first of them moved by five pixels. -/
example :
    let rect : Shape := .rect ⟨2147483640, 0, 12, 1⟩
    let circle : Shape := .circle ⟨0, 0⟩ 2147483648
    ((blank 1 1).draw rect .white).overflowed = false ∧
      ((blank 1 1).draw circle .white).overflowed = false ∧
      (((blank 1 1).translate ⟨5, 0⟩).draw rect .white).overflowed = true := by
  decide

end Canvas

end LiveSketch
