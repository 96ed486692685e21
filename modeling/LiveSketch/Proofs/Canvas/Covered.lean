import LiveSketch.Shape

/-!
# The pixels of a shape

A shape is a decidable set of pixels, which says nothing about how many there are or in which order
they come. Here they are listed. Every shape keeps within a rectangle that is read off from its
arguments: a line within the box of its end points, a text within the box of its longest line. What
the shape covers is what passes its test in that rectangle, row by row, and no pixel is listed
twice.

## Main definitions

* `Region.points` — the positions of a rectangle, row by row.
* `Shape.bounds` — a rectangle that holds all that a shape covers.
* `Shape.points` — what a shape covers, row by row.

## Main results

* `Shape.contains_bounds` — the rectangle holds the shape.
* `Shape.mem_points`, `Shape.nodup_points` — every covered pixel is listed, and only once.
-/

namespace LiveSketch

namespace Region

/-- The positions of a rectangle, row by row. -/
def points (r : Region) : List Point :=
  (List.range r.height).flatMap fun (row : Nat) =>
    (List.range r.width).map fun (col : Nat) => ⟨r.x + col, r.y + row⟩

theorem contains_iff {r : Region} {p : Point} :
    r.contains p = true ↔ r.x ≤ p.x ∧ p.x < r.x + r.width ∧ r.y ≤ p.y ∧ p.y < r.y + r.height :=
  decide_eq_true_iff

theorem mem_points {r : Region} {p : Point} : p ∈ r.points ↔ r.contains p = true := by
  simp only [points, List.mem_flatMap, List.mem_map, List.mem_range, contains_iff]
  constructor
  · rintro ⟨row, hrow, col, hcol, rfl⟩
    dsimp only
    omega
  · intro h
    refine ⟨(p.y - r.y).toNat, by omega, (p.x - r.x).toNat, by omega, ?_⟩
    obtain ⟨x, y⟩ := p
    dsimp only at h ⊢
    rw [Point.mk.injEq]
    omega

/-- Two positions of one row differ in their column, and those of two rows in their row. -/
theorem nodup_points (r : Region) : r.points.Nodup := by
  refine List.pairwise_flatMap.mpr ⟨fun row _ => List.pairwise_map.mpr ?_, ?_⟩
  · refine List.nodup_range.imp fun hne he => hne ?_
    have hx := congrArg Point.x he
    dsimp only at hx
    omega
  · refine List.nodup_range.imp fun hne p hp q hq he => hne ?_
    obtain ⟨i, -, rfl⟩ := List.mem_map.mp hp
    obtain ⟨j, -, rfl⟩ := List.mem_map.mp hq
    have hy := congrArg Point.y he
    dsimp only at hy
    omega

end Region

namespace Shape

/-! ### Bounds -/

/-- The length of the longest of some lines. -/
def longest : List (List Char) → Nat
  | [] => 0
  | chars :: rest => max chars.length (longest rest)

theorem length_le_longest {chars : List Char} {lines : List (List Char)} (h : chars ∈ lines) :
    chars.length ≤ longest lines := by
  induction lines with
  | nil => exact absurd h List.not_mem_nil
  | cons first rest ih =>
    rw [longest]
    rcases List.mem_cons.mp h with rfl | h
    · exact Nat.le_max_left _ _
    · exact Nat.le_trans (ih h) (Nat.le_max_right _ _)

/-- A rectangle that holds all that a shape covers. -/
def bounds : Shape → Region
  | rect region => region
  | circle center radius => circleBox center radius
  | line start stop =>
    ⟨min start.x stop.x, min start.y stop.y,
      (stop.x - start.x).natAbs + 1, (stop.y - start.y).natAbs + 1⟩
  | text content topLeft =>
    ⟨topLeft.x, topLeft.y,
      Font.cellWidth * longest (textLines content), Font.cellHeight * (textLines content).length⟩

/-- A line takes no more steps along its minor axis than its delta there. -/
theorem minorSteps_le {major minor k : Nat} (h : k ≤ major) :
    minorSteps major minor k ≤ minor := by
  rw [minorSteps]
  split
  · exact Nat.zero_le _
  · next hmajor =>
    refine Nat.le_of_lt_succ ((Nat.div_lt_iff_lt_mul (by omega)).mpr ?_)
    have hk : minor * k ≤ minor * major := Nat.mul_le_mul_left minor h
    calc 2 * minor * k + major - 1
        = 2 * (minor * k) + major - 1 := by rw [Nat.mul_assoc]
      _ < 2 * (minor * major) + 2 * major := by omega
      _ = (minor + 1) * (2 * major) := by
          rw [Nat.add_mul, Nat.one_mul, Nat.mul_left_comm]

/-- Steps from one coordinate towards another that do not pass it stay between the two. -/
theorem between_of_steps {start stop d : Int} {k : Nat} (hk : k ≤ (stop - start).natAbs)
    (hd : d = stepSign (stop - start) * k) :
    min start stop ≤ start + d ∧
      start + d < min start stop + ((stop - start).natAbs + 1 : Nat) := by
  rw [stepSign] at hd
  split at hd <;> omega

/-- The pixels of a line, one for each step along its larger delta. -/
theorem lineCoversOffset_iff {major minor dMajor dMinor : Int} :
    lineCoversOffset major minor dMajor dMinor = true ↔ ∃ k < major.natAbs + 1,
      dMajor = k * stepSign major ∧
        dMinor = minorSteps major.natAbs minor.natAbs k * stepSign minor := by
  have hsign : stepSign major * stepSign major = 1 := by
    rw [stepSign]
    split <;> rfl
  simp only [lineCoversOffset, Bool.and_eq_true, decide_eq_true_eq]
  constructor
  · rintro ⟨⟨hpos, hle⟩, hminor⟩
    refine ⟨(stepSign major * dMajor).toNat, by omega, ?_, hminor.trans (Int.mul_comm _ _)⟩
    rw [Int.toNat_of_nonneg hpos, Int.mul_right_comm, hsign, Int.one_mul]
  · rintro ⟨k, hk, rfl, rfl⟩
    have halong : stepSign major * (k * stepSign major) = k := by
      rw [Int.mul_left_comm, hsign, Int.mul_one]
    rw [halong, Int.toNat_natCast]
    exact ⟨by omega, Int.mul_comm _ _⟩

theorem steps_of_lineCoversOffset {major minor dMajor dMinor : Int}
    (h : lineCoversOffset major minor dMajor dMinor = true) :
    (∃ k ≤ major.natAbs, dMajor = stepSign major * k) ∧
      ∃ k ≤ minor.natAbs, dMinor = stepSign minor * k := by
  obtain ⟨k, hk, hmajor, hminor⟩ := lineCoversOffset_iff.mp h
  exact ⟨⟨k, Nat.le_of_lt_succ hk, hmajor.trans (Int.mul_comm _ _)⟩,
    _, minorSteps_le (Nat.le_of_lt_succ hk), hminor.trans (Int.mul_comm _ _)⟩

theorem contains_bounds_line {start stop p : Point} (h : lineCovers start stop p = true) :
    (line start stop).bounds.contains p = true := by
  have hsteps : (∃ k ≤ (stop.x - start.x).natAbs, p.x - start.x = stepSign (stop.x - start.x) * k) ∧
      ∃ k ≤ (stop.y - start.y).natAbs, p.y - start.y = stepSign (stop.y - start.y) * k := by
    rw [lineCovers] at h
    split at h
    · exact (steps_of_lineCoversOffset h).symm
    · exact steps_of_lineCoversOffset h
  obtain ⟨⟨kx, hkx, hx⟩, ky, hky, hy⟩ := hsteps
  have hxs := between_of_steps hkx hx
  have hys := between_of_steps hky hy
  rw [Region.contains_iff]
  dsimp only [bounds]
  omega

theorem lt_of_inked {c : Char} {col row : Nat} (h : Font.inked c col row = true) :
    col < Font.cellWidth ∧ row < Font.cellHeight :=
  of_decide_eq_true (Bool.and_eq_true_iff.mp h).1

theorem mem_glyphPixels {c : Char} {corner p : Point} : p ∈ glyphPixels c corner ↔
    ∃ col row : Nat, Font.inked c col row = true ∧ p = ⟨corner.x + col, corner.y + row⟩ := by
  simp only [glyphPixels, List.mem_flatMap, List.mem_filterMap, List.mem_range,
    Option.ite_none_right_eq_some, Option.some.injEq]
  constructor
  · rintro ⟨row, -, col, -, hinked, rfl⟩
    exact ⟨col, row, hinked, rfl⟩
  · rintro ⟨col, row, hinked, rfl⟩
    obtain ⟨hcol, hrow⟩ := lt_of_inked hinked
    exact ⟨row, hrow, col, hcol, hinked, rfl⟩

/-- A glyph keeps within its cell. -/
theorem in_cell {c : Char} {corner p : Point} (h : p ∈ glyphPixels c corner) :
    (corner.x ≤ p.x ∧ p.x < corner.x + Font.cellWidth) ∧
      corner.y ≤ p.y ∧ p.y < corner.y + Font.cellHeight := by
  obtain ⟨col, row, hinked, rfl⟩ := mem_glyphPixels.mp h
  obtain ⟨hcol, hrow⟩ := lt_of_inked hinked
  dsimp only
  omega

/-- A covered offset is an inked pixel in the cell of some character of some line. -/
theorem textCovers_iff {lines : List (List Char)} {offset : Point} :
    textCovers (lines.map List.toArray).toArray offset = true ↔
      ∃ (row col : Nat) (chars : List Char) (c : Char),
        lines[row]? = some chars ∧ chars[col]? = some c ∧
          offset ∈ glyphPixels c ⟨(Font.cellWidth * col : Nat), (Font.cellHeight * row : Nat)⟩ := by
  constructor
  · intro h
    rw [textCovers] at h
    split at h
    · next hpos =>
      dsimp only at h
      split at h
      · exact absurd h Bool.false_ne_true
      · next line hline =>
        split at h
        · exact absurd h Bool.false_ne_true
        · next c hc =>
          rw [List.getElem?_toArray, List.getElem?_map, Option.map_eq_some_iff] at hline
          obtain ⟨chars, hchars, rfl⟩ := hline
          rw [List.getElem?_toArray] at hc
          refine ⟨_, _, chars, c, hchars, hc, mem_glyphPixels.mpr ⟨_, _, h, ?_⟩⟩
          obtain ⟨x, y⟩ := offset
          dsimp only at hpos ⊢
          rw [← Int.natCast_add, ← Int.natCast_add, Nat.div_add_mod, Nat.div_add_mod,
            Int.toNat_of_nonneg hpos.1, Int.toNat_of_nonneg hpos.2]
    · exact absurd h Bool.false_ne_true
  · rintro ⟨row, col, chars, c, hchars, hc, hp⟩
    obtain ⟨i, j, hinked, rfl⟩ := mem_glyphPixels.mp hp
    obtain ⟨hi, hj⟩ := lt_of_inked hinked
    have hline : (lines.map List.toArray).toArray[row]? = some chars.toArray := by
      rw [List.getElem?_toArray, List.getElem?_map, hchars]
      rfl
    have hnonneg : ∀ m n : Nat, (0 : Int) ≤ m + n := fun m n =>
      Int.add_nonneg (Int.natCast_nonneg m) (Int.natCast_nonneg n)
    rw [textCovers, if_pos ⟨hnonneg _ _, hnonneg _ _⟩]
    dsimp only
    rw [← Int.natCast_add, ← Int.natCast_add, Int.toNat_natCast, Int.toNat_natCast,
      Nat.mul_add_div (by decide), Nat.mul_add_div (by decide), Nat.mul_add_mod, Nat.mul_add_mod,
      Nat.div_eq_of_lt hi, Nat.div_eq_of_lt hj, Nat.mod_eq_of_lt hi, Nat.mod_eq_of_lt hj,
      Nat.add_zero, Nat.add_zero, hline]
    dsimp only
    rw [List.getElem?_toArray, hc]
    exact hinked

theorem contains_bounds_text {content : String} {topLeft p : Point}
    (h : textCovers (textGrid content) (p - topLeft) = true) :
    (text content topLeft).bounds.contains p = true := by
  obtain ⟨row, col, chars, c, hchars, hc, hp⟩ := textCovers_iff.mp h
  obtain ⟨hrow, -⟩ := List.getElem?_eq_some_iff.mp hchars
  obtain ⟨hlen, -⟩ := List.getElem?_eq_some_iff.mp hc
  have hcol := Nat.lt_of_lt_of_le hlen (length_le_longest (List.mem_of_getElem? hchars))
  have hcell := in_cell hp
  have hsub : (p - topLeft).x = p.x - topLeft.x ∧ (p - topLeft).y = p.y - topLeft.y := ⟨rfl, rfl⟩
  rw [Region.contains_iff]
  dsimp only [bounds]
  simp only [Font.cellWidth, Font.cellHeight] at hcell ⊢
  omega

/-- A shape covers nothing outside its bounds. -/
theorem contains_bounds {shape : Shape} {p : Point} (h : shape.covers p = true) :
    shape.bounds.contains p = true := by
  cases shape with
  | rect region => exact h
  | circle center radius => exact (Bool.and_eq_true_iff.mp h).1
  | line start stop => exact contains_bounds_line h
  | text content topLeft => exact contains_bounds_text h

/-! ### Listing -/

/-- What a shape covers, row by row. -/
def points (shape : Shape) : List Point := shape.bounds.points.filter shape.covers

theorem mem_points {shape : Shape} {p : Point} : p ∈ shape.points ↔ shape.covers p = true := by
  rw [points, List.mem_filter, Region.mem_points]
  exact ⟨And.right, fun h => ⟨contains_bounds h, h⟩⟩

theorem nodup_points (shape : Shape) : shape.points.Nodup := shape.bounds.nodup_points.filter _

end Shape

end LiveSketch
