import LiveSketch.FrameClock

/-!
# Frames on the grid

A clock started at the instant `s` with frames of duration `d` divides time into a grid: the
instants `s + k * d`. The clock keeps only the time since the last grid point that a due frame stood
for. A quiet tick adds to it what has passed and a due tick takes its remainder, so the rounding of
one frame never moves the next.

## The invariant

`OnGrid s` says that the clock's remainder is that of all the time since `s`. One step lemma,
`OnGrid.tick`, says what a tick does to it; the statement about all the ticks of a run is an
induction that uses nothing else.

## Main definitions

* `FrameClock.history` — a clock that is told the time again and again.
* `FrameClock.OnGrid` — the remainder is that of the time since the start.

## Main results

* `FrameClock.OnGrid.tick` — a tick is due when a grid point has passed, and the deadline is the
  next one.
* `FrameClock.frames_on_grid` — the same of every tick of every run.
-/

namespace LiveSketch
namespace FrameClock

/-- Tells the clock the time again and again. What is listed for each tick is the clock after it and
whether a frame was due. -/
def history (c : FrameClock) : List Nat → Except Abort (List (FrameClock × Bool))
  | [] => .ok []
  | now :: rest =>
    match c.tick now with
    | .error abort => .error abort
    | .ok (after, due) => (after.history rest).map ((after, due) :: ·)

theorem history_cons_of_ok {c after : FrameClock} {now : Nat} {rest : List Nat} {due : Bool}
    {marks : List (FrameClock × Bool)} (h : c.tick now = .ok (after, due))
    (hr : after.history rest = .ok marks) :
    c.history (now :: rest) = .ok ((after, due) :: marks) := by
  rw [history, h]
  show (after.history rest).map _ = _
  rw [hr]
  rfl

/-- A tick that no frame is due at only adds the time that has passed. -/
theorem tick_of_lt {c : FrameClock} {now : Nat}
    (h : c.accumulator + (now - c.lastTick) < c.frameDuration) :
    c.tick now = .ok ({ c with
      lastTick := now, accumulator := c.accumulator + (now - c.lastTick) }, false) :=
  if_pos h

/-- A tick that a frame is due at keeps what remains after whole frames. -/
theorem tick_of_le {c : FrameClock} {now : Nat} (hd : 0 < c.frameDuration)
    (h : c.frameDuration ≤ c.accumulator + (now - c.lastTick)) :
    c.tick now = .ok ({ c with
      lastTick := now
      accumulator := (c.accumulator + (now - c.lastTick)) % c.frameDuration
      intervals := recordInterval c.intervals (now - c.lastTick) }, true) :=
  (if_neg (Nat.not_lt.mpr h)).trans (if_neg (Nat.ne_of_gt hd))

/-! ### Dividing time

`a` and `b` are two times since the start. What the clock adds up between them is the remainder of
`a` and the time from `a` to `b`. -/

section Division

variable {a b d : Nat}

/-- What was added up is what is missing from the whole frames before `a`. -/
theorem whole_add_waited (h : a ≤ b) : d * (a / d) + (a % d + (b - a)) = b := by
  have ha := Nat.div_add_mod a d
  omega

theorem waited_mod (h : a ≤ b) : (a % d + (b - a)) % d = b % d := by
  rw [← Nat.mul_add_mod d (a / d), whole_add_waited h]

/-- A whole frame was added up exactly when a grid point lies between the two times. -/
theorem le_waited_iff (hd : 0 < d) (h : a ≤ b) : d ≤ a % d + (b - a) ↔ a / d < b / d := by
  have hb : b / d = a / d + (a % d + (b - a)) / d := by
    rw [← Nat.mul_add_div hd, whole_add_waited h]
  rw [hb, Nat.lt_add_right_iff_pos, Nat.div_pos_iff]
  exact ⟨fun hw => ⟨hd, hw⟩, And.right⟩

/-- There are more whole frames in `b` than in `a` exactly when a multiple of the duration lies
behind `a` and not behind `b`. -/
theorem div_lt_div_iff_exists_mul (hd : 0 < d) : a / d < b / d ↔ ∃ k, a < k * d ∧ k * d ≤ b := by
  constructor
  · intro h
    exact ⟨b / d, (Nat.div_lt_iff_lt_mul hd).mp h, Nat.div_mul_le_self b d⟩
  · rintro ⟨k, ha, hb⟩
    have hak : a / d < k := (Nat.div_lt_iff_lt_mul hd).mpr ha
    have hkb : k ≤ b / d := (Nat.le_div_iff_mul_le hd).mpr hb
    exact Nat.lt_of_lt_of_le hak hkb

end Division

/-! ### One tick -/

/-- The time that a clock carries over to the next frame is what remains of the time since `s` after
whole frames. -/
structure OnGrid (s : Nat) (c : FrameClock) : Prop where
  begun : s ≤ c.lastTick
  remainder : c.accumulator = (c.lastTick - s) % c.frameDuration

theorem onGrid_start (rate : Binary) (s : Nat) : OnGrid s (start rate s) where
  begun := Nat.le_refl s
  remainder := by
    show 0 = (s - s) % _
    rw [Nat.sub_self, Nat.zero_mod]

namespace OnGrid

variable {s now : Nat} {c : FrameClock}

/-- The next frame is due at the next grid point. -/
theorem deadline_eq (h : OnGrid s c) (hd : 0 < c.frameDuration) :
    c.deadline = s + ((c.lastTick - s) / c.frameDuration + 1) * c.frameDuration ∧
      c.lastTick < c.deadline := by
  have hlt := Nat.mod_lt (c.lastTick - s) hd
  have hdiv := Nat.div_add_mod (c.lastTick - s) c.frameDuration
  have hs := h.begun
  have heq : c.deadline = c.lastTick + (c.frameDuration - c.accumulator) := rfl
  rw [heq, h.remainder, Nat.add_mul, Nat.one_mul, Nat.mul_comm (_ / _)]
  omega

/-- **What a tick does.** It never fails, it stays on the grid, and a frame is due exactly when more
whole frames have passed since the start than at the last tick. -/
theorem tick (h : OnGrid s c) (hd : 0 < c.frameDuration) (hn : c.lastTick ≤ now) :
    ∃ after due, c.tick now = .ok (after, due) ∧ OnGrid s after ∧ after.rate = c.rate ∧
      after.lastTick = now ∧
      (due = true ↔ (c.lastTick - s) / c.frameDuration < (now - s) / c.frameDuration) := by
  have hs := h.begun
  have hsplit : now - c.lastTick = (now - s) - (c.lastTick - s) := by omega
  have hle : c.lastTick - s ≤ now - s := by omega
  have hwaited : c.accumulator + (now - c.lastTick) =
      (c.lastTick - s) % c.frameDuration + ((now - s) - (c.lastTick - s)) := by
    rw [h.remainder, hsplit]
  have hdue := le_waited_iff hd hle
  rw [← hwaited] at hdue
  by_cases hw : c.frameDuration ≤ c.accumulator + (now - c.lastTick)
  · refine ⟨_, true, tick_of_le hd hw, ⟨Nat.le_trans hs hn, ?_⟩, rfl, rfl, ?_⟩
    · show (c.accumulator + (now - c.lastTick)) % c.frameDuration = (now - s) % c.frameDuration
      rw [hwaited, waited_mod hle]
    · exact ⟨fun _ => hdue.mp hw, fun _ => rfl⟩
  · refine ⟨_, false, tick_of_lt (Nat.not_le.mp hw), ⟨Nat.le_trans hs hn, ?_⟩, rfl, rfl, ?_⟩
    · show c.accumulator + (now - c.lastTick) = (now - s) % c.frameDuration
      rw [← waited_mod hle, ← hwaited, Nat.mod_eq_of_lt (Nat.not_le.mp hw)]
    · exact ⟨fun hf => absurd hf Bool.false_ne_true, fun hlt => absurd (hdue.mpr hlt) hw⟩

end OnGrid

/-! ### A run -/

/-- What the grid says about a tick at `now` that follows one at `before`: whether a frame was due,
and when the next one is. -/
structure TickedOnGrid (s d before now : Nat) (after : FrameClock) (due : Bool) : Prop where
  /-- A frame is due exactly when more whole frames have passed. -/
  due_iff : due = true ↔ (before - s) / d < (now - s) / d
  /-- However many grid points have passed, there is one frame for all of them. -/
  due_iff_passed : due = true ↔ ∃ k, before < s + k * d ∧ s + k * d ≤ now
  deadline_eq : after.deadline = s + ((now - s) / d + 1) * d
  now_lt_deadline : now < after.deadline

variable {s d : Nat}

/-- The ticks of a run stay on the grid, by induction on the times. -/
theorem OnGrid.history {c : FrameClock} {times : List Nat} (h : OnGrid s c) (hd : 0 < c.frameDuration)
    (ht : (c.lastTick :: times).Pairwise (· ≤ ·)) :
    ∃ marks, c.history times = .ok marks ∧ marks.length = times.length ∧
      ∀ (i before now : Nat) (after : FrameClock) (due : Bool),
        (c.lastTick :: times)[i]? = some before → times[i]? = some now →
          marks[i]? = some (after, due) →
            TickedOnGrid s c.frameDuration before now after due := by
  induction times generalizing c with
  | nil => exact ⟨[], rfl, rfl, fun i _ _ _ _ _ hn _ => by simp at hn⟩
  | cons now rest ih =>
    obtain ⟨hnow, hrest⟩ := List.pairwise_cons.mp ht
    obtain ⟨after, due, htick, hgrid, hrate, rfl, hdue⟩ := h.tick hd (hnow now List.mem_cons_self)
    have hsame : after.frameDuration = c.frameDuration := congrArg durationAt hrate
    obtain ⟨marks, hmarks, hlen, hall⟩ := ih hgrid (hsame ▸ hd) hrest
    refine ⟨(after, due) :: marks, history_cons_of_ok htick hmarks,
      by rw [List.length_cons, List.length_cons, hlen], ?_⟩
    intro i before now' after' due' hb hn hm
    cases i with
    | succ i =>
      rw [← hsame]
      exact hall i before now' after' due' hb hn hm
    | zero =>
      simp only [List.getElem?_cons_zero, Option.some.injEq, Prod.mk.injEq] at hb hn hm
      obtain ⟨rfl, rfl⟩ := hm
      subst hb hn
      have hdead := hgrid.deadline_eq (hsame ▸ hd)
      rw [hsame] at hdead
      refine ⟨hdue, hdue.trans ((div_lt_div_iff_exists_mul hd).trans ?_), hdead.1, hdead.2⟩
      have hs := h.begun
      have hs' := hgrid.begun
      constructor
      · rintro ⟨k, hlt, hle⟩
        exact ⟨k, by omega, by omega⟩
      · rintro ⟨k, hlt, hle⟩
        exact ⟨k, by omega, by omega⟩

/-- **The clock does not drift.** Tell a clock the time as often as you like, never going back. No
tick fails. A tick is due exactly when more whole frames have passed since the start `s` than at the
tick before it, that is, when some grid point `s + k * d` has passed in between, and there is one
frame however many have. After it, the deadline is the next grid point, which is still to come. -/
theorem frames_on_grid (rate : Binary) (s : Nat) (times : List Nat)
    (hd : 0 < (start rate s).frameDuration) (ht : (s :: times).Pairwise (· ≤ ·)) :
    ∃ marks, (start rate s).history times = .ok marks ∧ marks.length = times.length ∧
      ∀ (i before now : Nat) (after : FrameClock) (due : Bool),
        (s :: times)[i]? = some before → times[i]? = some now →
          marks[i]? = some (after, due) →
            TickedOnGrid s (start rate s).frameDuration before now after due :=
  (onGrid_start rate s).history hd ht

/-- Ten frames a second, from the instant 7 on. The first tick is early, the second one late, the
third comes at the same instant, and before the last one three grid points pass: it is due once, and
the deadline is the fifth grid point. -/
theorem frames_on_grid_of_late_ticks :
    let c := start (BinaryFormat.single.ofInt 10) 7
    let times := [60000000, 130000000, 130000000, 450000000]
    0 < c.frameDuration ∧ (7 :: times).Pairwise (· ≤ ·) ∧
      ∃ marks, c.history times = .ok marks ∧ marks.length = 4 ∧
        (∀ after due, marks[2]? = some (after, due) → due = false ∧ after.deadline = 200000009) ∧
        ∀ after due, marks[3]? = some (after, due) → due = true ∧ after.deadline = 500000012 := by
  intro c times
  have hd : 0 < c.frameDuration := by decide +kernel
  have ht : (7 :: times).Pairwise (· ≤ ·) := by decide
  obtain ⟨marks, hmarks, hlen, hall⟩ := frames_on_grid (BinaryFormat.single.ofInt 10) 7 times hd ht
  refine ⟨hd, ht, marks, hmarks, hlen, ?_, ?_⟩
  · intro after due hm
    have htick := hall 2 130000000 130000000 after due rfl rfl hm
    refine ⟨Bool.eq_false_iff.mpr fun h => ?_, ?_⟩
    · exact absurd (htick.due_iff.mp h) (Nat.lt_irrefl _)
    · rw [htick.deadline_eq]
      decide +kernel
  · intro after due hm
    have htick := hall 3 130000000 450000000 after due rfl rfl hm
    refine ⟨htick.due_iff.mpr (by decide +kernel), ?_⟩
    rw [htick.deadline_eq]
    decide +kernel

end FrameClock
end LiveSketch
