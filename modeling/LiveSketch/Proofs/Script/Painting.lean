import LiveSketch.Proofs.Canvas.Moving
import LiveSketch.Proofs.Script.Commands

/-!
# What drawing commands do to a canvas

Commands that wait are drawn one after the other. Moves add up on the way, and nothing takes them
back before the next frame starts, so where a pixel comes to lie depends on all the commands of the
frame before it. Positions have 32 bits. A move can leave them, and so can a pixel that is drawn
after it. A primitive may reach past the ends of the range by itself; its pixels out there have no
position that anything could be added to.

## Overflow

Whether something overflows is decided sum by sum. The sums of a command depend on the canvas only
through its offset, and the offset is the running sum of the moves, so the sums of a frame can be
listed from its commands alone. That moves may cancel each other does not help: what counts are the
sums on the way. The total size of the moves bounds all of them.

## Main definitions

* `Canvas.paint`, `Canvas.paintFrames` — drawing commands, and drawing frames of commands.
* `DrawCommand.shift`, `travel` — how far commands move what is drawn after them.
* `DrawCommand.sums`, `runningSums` — the sums of positions that drawing computes.
* `wander` — the total size of all moves.

## Main results

* `Canvas.paint_offset` — where the canvas is moved to in the end.
* `Canvas.apply_overflowed`, `Canvas.paint_overflowed`, `Canvas.paintFrames_overflowed` — when a
  command, commands and frames overflow.
* `fits_of_mem_runningSums`, `Canvas.paintFrames_overflowed_of_calm` — a frame that keeps away from
  the ends of the range does not.
-/

namespace LiveSketch

/-! ### Moving the canvas -/

/-- How far a command moves what is drawn after it. -/
def DrawCommand.shift : DrawCommand → Point
  | translate offset => offset
  | _ => .zero

/-- How far commands move what is drawn after them. -/
def travel : List DrawCommand → Point
  | [] => .zero
  | command :: rest => command.shift + travel rest

namespace Canvas

/-- Draws one command after the other. -/
def paint (commands : List DrawCommand) (c : Canvas) : Canvas :=
  commands.foldl (fun c command => command.apply c) c

theorem apply_offset (command : DrawCommand) (c : Canvas) :
    (command.apply c).offset = c.offset + command.shift := by
  cases command with
  | translate offset => rfl
  | resize width height => exact (setSize_offset c _ _).trans (Point.add_zero c.offset).symm
  | background _ | rect _ _ | circle _ _ _ | line _ _ _ | text _ _ _ | title _ | cursor _ =>
    exact (Point.add_zero c.offset).symm

/-- The canvas is moved as far as all its commands say together. -/
theorem paint_offset (commands : List DrawCommand) (c : Canvas) :
    (paint commands c).offset = c.offset + travel commands := by
  induction commands generalizing c with
  | nil => exact (Point.add_zero c.offset).symm
  | cons command rest ih =>
    calc (paint rest (command.apply c)).offset
        = (command.apply c).offset + travel rest := ih _
      _ = c.offset + (command.shift + travel rest) := by rw [apply_offset, Point.add_assoc]

end Canvas

/-- Drawing what waits leaves nothing waiting. -/
theorem Board.flush_eq (b : Board) (c : Canvas) :
    b.flush c = ({ b with commands := #[] }, c.paint b.waiting) := by
  rw [Board.flush, Canvas.paint, Board.waiting, Array.foldl_toList]

/-! ### The sums of a frame -/

/-- The pixels that a command hands to the canvas, where the command itself puts them. -/
def DrawCommand.held : DrawCommand → List Point
  | rect region _ => (Shape.rect region).held
  | circle center radius _ => (Shape.circle center radius).held
  | line start stop _ => (Shape.line start stop).held
  | text content topLeft _ => (Shape.text content topLeft).held
  | _ => []

/-- The sums that a command computes on a canvas that was moved by `offset`: where the canvas is
moved to, or where each pixel comes to lie. -/
def DrawCommand.sums (offset : Point) : DrawCommand → List Point
  | translate d => [offset + d]
  | command => command.held.map (· + offset)

/-- The sums that commands compute, each of them where the earlier ones moved the canvas to. -/
def runningSums : Point → List DrawCommand → List Point
  | _, [] => []
  | offset, command :: rest => command.sums offset ++ runningSums (offset + command.shift) rest

namespace Canvas

/-- Draws frames. Each of them starts with an unmoved canvas. -/
def paintFrames (frames : List (List DrawCommand)) (c : Canvas) : Canvas :=
  frames.foldl (fun c commands => c.resetFrame.paint commands) c

/-- A command overflows exactly when one of its sums does. -/
theorem apply_overflowed (command : DrawCommand) (c : Canvas) :
    (command.apply c).overflowed = true ↔
      c.overflowed = true ∨ ∃ sum ∈ command.sums c.offset, sum.fits = false := by
  have hdrawn : ∀ shape color, (c.draw shape color).overflowed = true ↔
      c.overflowed = true ∨ ∃ sum ∈ shape.held.map (· + c.offset), sum.fits = false := by
    intro shape color
    rw [draw_overflowed]
    refine or_congr_right ⟨?_, ?_⟩
    · rintro ⟨p, hp, hfits⟩
      exact ⟨p + c.offset, List.mem_map_of_mem hp, hfits⟩
    · rintro ⟨sum, hsum, hfits⟩
      obtain ⟨p, hp, rfl⟩ := List.mem_map.mp hsum
      exact ⟨p, hp, hfits⟩
  have hidle : c.overflowed = true ↔
      c.overflowed = true ∨ ∃ sum ∈ ([] : List Point), sum.fits = false := by simp
  cases command with
  | rect region color => exact hdrawn (.rect region) color
  | circle center radius color => exact hdrawn (.circle center radius) color
  | line start stop color => exact hdrawn (.line start stop) color
  | text content topLeft color => exact hdrawn (.text content topLeft) color
  | translate d =>
    show (c.overflowed || !(c.offset + d).fits) = true ↔ _
    simp [DrawCommand.sums]
  | resize width height =>
    have hsize : (c.resize width height).overflowed = c.overflowed := by
      show (c.setSize _ _).overflowed = _
      rw [setSize]
      split <;> rfl
    show (c.resize width height).overflowed = true ↔ _
    rw [hsize]
    exact hidle
  | background _ | title _ | cursor _ => exact hidle

/-- **Commands overflow exactly when one of their sums does**, wherever in the frame it is. -/
theorem paint_overflowed (commands : List DrawCommand) (c : Canvas) :
    (c.paint commands).overflowed = true ↔
      c.overflowed = true ∨ ∃ sum ∈ runningSums c.offset commands, sum.fits = false := by
  induction commands generalizing c with
  | nil => simp [paint, runningSums]
  | cons command rest ih =>
    show ((command.apply c).paint rest).overflowed = true ↔ _
    rw [ih, apply_overflowed, apply_offset, runningSums]
    simp only [List.mem_append, or_and_right, exists_or, or_assoc]

/-- **Frames overflow exactly when one of them does**, each of them on its own. -/
theorem paintFrames_overflowed (frames : List (List DrawCommand)) (c : Canvas) :
    (c.paintFrames frames).overflowed = true ↔ c.overflowed = true ∨
      ∃ commands ∈ frames, ∃ sum ∈ runningSums .zero commands, sum.fits = false := by
  induction frames generalizing c with
  | nil => simp [paintFrames]
  | cons commands rest ih =>
    show ((c.resetFrame.paint commands).paintFrames rest).overflowed = true ↔ _
    rw [ih, paint_overflowed, or_assoc]
    refine or_congr_right ?_
    simp only [List.mem_cons, or_and_right, exists_or, exists_eq_left]
    rfl

end Canvas

/-! ### Keeping away from the ends of the range -/

/-- How far a move goes along the axis on which it goes further. -/
def Point.size (p : Point) : Nat := max p.x.natAbs p.y.natAbs

/-- How far commands move the canvas if none of their moves takes another one back. -/
def wander : List DrawCommand → Nat
  | [] => 0
  | command :: rest => command.shift.size + wander rest

/-- The pixels of a command stay in the range if they are moved by `reach` along both axes, forward
or back. -/
def DrawCommand.Clears (command : DrawCommand) (reach : Nat) : Prop :=
  ∀ p ∈ command.held,
    (p + ⟨reach, reach⟩).fits = true ∧ (p - ⟨reach, reach⟩).fits = true

instance (command : DrawCommand) (reach : Nat) : Decidable (command.Clears reach) :=
  inferInstanceAs (Decidable (∀ p ∈ command.held, _ ∧ _))

theorem Point.size_add_le (p q : Point) : (p + q).size ≤ p.size + q.size := by
  show max (p.x + q.x).natAbs (p.y + q.y).natAbs ≤
    max p.x.natAbs p.y.natAbs + max q.x.natAbs q.y.natAbs
  omega

theorem Point.fits_of_size_lt {p : Point} (h : p.size < 2 ^ 31) : p.fits = true := by
  have hsize : max p.x.natAbs p.y.natAbs < 2 ^ 31 := h
  rw [fits_iff]
  omega

/-- What is moved no further than `reach` stays in the range, if the range leaves that much room. -/
theorem Point.fits_of_size_le {p d : Point} {reach : Nat} (hd : d.size ≤ reach)
    (hforward : (p + ⟨reach, reach⟩).fits = true) (hback : (p - ⟨reach, reach⟩).fits = true) :
    (p + d).fits = true := by
  have hsize : max d.x.natAbs d.y.natAbs ≤ reach := hd
  have hforward : (Point.mk (p.x + reach) (p.y + reach)).fits = true := hforward
  have hback : (Point.mk (p.x - reach) (p.y - reach)).fits = true := hback
  show (Point.mk (p.x + d.x) (p.y + d.y)).fits = true
  rw [Point.fits_iff] at *
  dsimp only at *
  omega

/-- No sum of a frame leaves the range if the moves are small and the pixels keep away from its
ends. The induction follows the offset: it and the moves that are left stay within `reach`. -/
theorem fits_of_mem_runningSums {reach : Nat} (hreach : reach < 2 ^ 31)
    {commands : List DrawCommand} {offset sum : Point}
    (hwander : offset.size + wander commands ≤ reach)
    (hclear : ∀ command ∈ commands, command.Clears reach)
    (hsum : sum ∈ runningSums offset commands) : sum.fits = true := by
  induction commands generalizing offset with
  | nil => cases hsum
  | cons command rest ih =>
    obtain ⟨hcommand, hrest⟩ := List.forall_mem_cons.mp hclear
    rw [wander] at hwander
    have hmoved : (offset + command.shift).size + wander rest ≤ reach := by
      have := Point.size_add_le offset command.shift
      omega
    rw [runningSums, List.mem_append] at hsum
    rcases hsum with hsum | hsum
    · cases command with
      | translate d =>
        obtain rfl := List.mem_singleton.mp hsum
        have hsize : (offset + d).size ≤ reach := Nat.le_trans (Nat.le_add_right _ _) hmoved
        exact Point.fits_of_size_lt (by omega)
      | _ =>
        obtain ⟨p, hp, rfl⟩ := List.mem_map.mp hsum
        obtain ⟨hforward, hback⟩ := hcommand p hp
        exact Point.fits_of_size_le (by omega) hforward hback
    · exact ih hmoved hrest hsum

/-- A pixel that is not moved stays where it is, and there it is in the range. -/
theorem DrawCommand.clears_zero (command : DrawCommand) : command.Clears 0 := by
  have hheld : ∀ p ∈ command.held, p.fits = true := by
    intro p hp
    cases command with
    | rect _ _ | circle _ _ _ | line _ _ _ | text _ _ _ => exact (Shape.mem_held.mp hp).2
    | background _ | translate _ | resize _ _ | title _ | cursor _ => cases hp
  intro p hp
  have hzero : p + ⟨(0 : Nat), (0 : Nat)⟩ = p ∧ p - ⟨(0 : Nat), (0 : Nat)⟩ = p :=
    ⟨p.add_zero, p.sub_zero⟩
  rw [hzero.1, hzero.2]
  exact ⟨hheld p hp, hheld p hp⟩

/-- Frames with small moves, whose pixels keep away from the ends of the range, do not overflow. -/
theorem Canvas.paintFrames_overflowed_of_calm {reach : Nat} (hreach : reach < 2 ^ 31)
    {frames : List (List DrawCommand)} {c : Canvas}
    (hcalm : ∀ commands ∈ frames,
      wander commands ≤ reach ∧ ∀ command ∈ commands, command.Clears reach) :
    (c.paintFrames frames).overflowed = c.overflowed := by
  rw [Bool.eq_iff_iff, paintFrames_overflowed]
  refine or_iff_left ?_
  rintro ⟨commands, hc, sum, hsum, hfits⟩
  obtain ⟨hwander, hclear⟩ := hcalm commands hc
  have hzero : Point.zero.size + wander commands ≤ reach := (Nat.zero_add _).symm ▸ hwander
  rw [fits_of_mem_runningSums hreach hzero hclear hsum] at hfits
  cases hfits

end LiveSketch
