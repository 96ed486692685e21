import LiveSketch.Proofs.FrameClock.Grid

/-!
# What the measured rate is taken over

The measured rate is an average over intervals that the clock records, one for each due frame. A
frame takes as long as it is since the frame before it. What the clock records is how long it is
since the last tick, due or not: the time that passed at quiet ticks in between is left out, and the
measured rate is too high by as much.

## The idea

Both lists come from the times of a run by the same two operations in a different order. Recorded is
the gap before each tick, of those ticks that are due. The lengths of the frames are the gaps between
those ticks that are due. `gaps_selected` compares the two orders: what is missing from a recorded
interval is the time at the quiet ticks before it.

## Main definitions

* `gaps` — the times between instants.
* `selected` — what belongs to the due ticks.
* `quietTime` — for each due tick, the time that passed at the quiet ticks before it.
* `lastN`, `total` — the last few of a list, and the sum that an average is taken of.
* `FrameClock.final` — the clock after a run.

## Main results

* `FrameClock.history_intervals` — what the clock has recorded after a run.
* `gaps_selected` — the lengths of frames and the recorded intervals.
* `FrameClock.recorded_intervals` — both for the intervals that the measured rate is taken over.
-/

namespace LiveSketch

/-! ### Times and due ticks -/

/-- The times between one instant and the next. -/
def gaps (before : Nat) : List Nat → List Nat
  | [] => []
  | now :: rest => (now - before) :: gaps now rest

/-- What belongs to the due ones among the ticks. -/
def selected {α : Type} : List Bool → List α → List α
  | due :: dues, x :: rest => if due then x :: selected dues rest else selected dues rest
  | _, _ => []

/-- For each due tick the time that passed at the quiet ticks before it, given how much time passed
before each tick. `waited` is what passed at quiet ticks already. -/
def quietTime (waited : Nat) : List Bool → List Nat → List Nat
  | due :: dues, gap :: rest =>
    if due then waited :: quietTime 0 dues rest else quietTime (waited + gap) dues rest
  | _, _ => []

/-- The last `n` elements of a list, or all of them. -/
def lastN {α : Type} (n : Nat) (l : List α) : List α := l.drop (l.length - n)

/-- How long some durations are together. -/
def total (durations : List Nat) : Nat := durations.foldl (· + ·) 0

section LastN

variable {α : Type} {n : Nat}

theorem lastN_of_length_le {l : List α} (h : l.length ≤ n) : lastN n l = l := by
  rw [lastN, Nat.sub_eq_zero_of_le h, List.drop_zero]

theorem length_lastN (n : Nat) (l : List α) : (lastN n l).length = min n l.length := by
  rw [lastN, List.length_drop]
  omega

/-- What stands in front of the last elements does not matter. -/
theorem lastN_append_of_le {l l' : List α} (h : n ≤ l'.length) :
    lastN n (l ++ l') = lastN n l' := by
  rw [lastN, lastN, List.drop_append, List.length_append, List.drop_eq_nil_of_le (by omega),
    List.nil_append]
  congr 1
  omega

/-- Elements that are forgotten now need not be remembered before. -/
theorem lastN_append (n : Nat) (l l' : List α) : lastN n (lastN n l ++ l') = lastN n (l ++ l') := by
  by_cases h : l.length ≤ n
  · rw [lastN_of_length_le h]
  · have hle : n ≤ (lastN n l ++ l').length := by
      rw [List.length_append, length_lastN]
      omega
    calc lastN n (lastN n l ++ l')
        = lastN n (l.take (l.length - n) ++ (lastN n l ++ l')) := (lastN_append_of_le hle).symm
      _ = lastN n (l.take (l.length - n) ++ lastN n l ++ l') := by rw [List.append_assoc]
      _ = lastN n (l ++ l') := congrArg (fun k => lastN n (k ++ l')) (List.take_append_drop _ l)

theorem lastN_zipWith {β γ : Type} (f : α → β → γ) {l : List α} {l' : List β}
    (h : l.length = l'.length) :
    lastN n (List.zipWith f l l') = List.zipWith f (lastN n l) (lastN n l') := by
  rw [lastN, lastN, lastN, List.length_zipWith, List.drop_zipWith, h, Nat.min_self]

end LastN

theorem length_quietTime (waited : Nat) (dues : List Bool) (times : List Nat) :
    (quietTime waited dues times).length = (selected dues times).length := by
  induction dues generalizing waited times with
  | nil => rfl
  | cons due dues ih =>
    cases times with
    | nil => rfl
    | cons gap rest => cases due <;> simp [quietTime, selected, ih]

/-- **How long the frames were.** The gap between two due ticks is the gap before the later one and
the time at the quiet ticks between them. `b` is the last due tick and `a` the last tick. -/
theorem gaps_selected {a b : Nat} {times : List Nat} (dues : List Bool) (h : b ≤ a)
    (ht : (a :: times).Pairwise (· ≤ ·)) :
    gaps b (selected dues times) = List.zipWith (· + ·) (selected dues (gaps a times))
      (quietTime (a - b) dues (gaps a times)) := by
  induction times generalizing a b dues with
  | nil => cases dues <;> rfl
  | cons now rest ih =>
    obtain ⟨hnow, hrest⟩ := List.pairwise_cons.mp ht
    have han : a ≤ now := hnow now List.mem_cons_self
    cases dues with
    | nil => rfl
    | cons due dues =>
      cases due with
      | true =>
        have hhead : now - b = (now - a) + (a - b) := by omega
        have htail := ih dues (Nat.le_refl now) hrest
        rw [Nat.sub_self] at htail
        simp only [selected, gaps, quietTime, if_true, List.zipWith_cons_cons]
        rw [htail, hhead]
      | false =>
        have hwaited : a - b + (now - a) = now - b := by omega
        simp only [selected, gaps, quietTime, Bool.false_eq_true, if_false]
        rw [hwaited]
        exact ih dues (Nat.le_trans h han) hrest

theorem foldl_zipWith_add {l l' : List Nat} (h : l.length = l'.length) (k k' : Nat) :
    (List.zipWith (· + ·) l l').foldl (· + ·) (k + k') =
      l.foldl (· + ·) k + l'.foldl (· + ·) k' := by
  induction l generalizing l' k k' with
  | nil => cases l' with
    | nil => rfl
    | cons y l' => simp at h
  | cons x l ih =>
    cases l' with
    | nil => simp at h
    | cons y l' =>
      have hhead : k + k' + (x + y) = (k + x) + (k' + y) := by omega
      rw [List.zipWith_cons_cons, List.foldl_cons, hhead, ih (Nat.succ.inj h)]
      rfl

/-- Durations that are added one by one take as long as all of them together. -/
theorem total_zipWith_add {l l' : List Nat} (h : l.length = l'.length) :
    total (List.zipWith (· + ·) l l') = total l + total l' :=
  foldl_zipWith_add h 0 0

/-- Adding changes nothing exactly when nothing is added. -/
theorem eq_zipWith_add_iff {l l' : List Nat} (h : l.length = l'.length) :
    l = List.zipWith (· + ·) l l' ↔ ∀ n ∈ l', n = 0 := by
  induction l generalizing l' with
  | nil => cases l' <;> simp_all
  | cons x l ih =>
    cases l' with
    | nil => simp at h
    | cons y l' =>
      rw [List.zipWith_cons_cons, List.cons.injEq, ih (Nat.succ.inj h), List.forall_mem_cons]
      constructor
      · rintro ⟨hx, hl⟩
        exact ⟨by omega, hl⟩
      · rintro ⟨rfl, hl⟩
        exact ⟨rfl, hl⟩

namespace FrameClock

/-! ### What the clock records -/

/-- The clock after a run. -/
def final (c : FrameClock) : List (FrameClock × Bool) → FrameClock
  | [] => c
  | (after, _) :: rest => after.final rest

theorem recordInterval_eq (intervals : List Nat) (elapsed : Nat) :
    recordInterval intervals elapsed = lastN maxIntervals (intervals ++ [elapsed]) := rfl

/-- What a tick records. -/
theorem tick_intervals {c after : FrameClock} {now : Nat} {due : Bool}
    (h : c.tick now = .ok (after, due)) : after.lastTick = now ∧
      after.intervals = if due then recordInterval c.intervals (now - c.lastTick) else c.intervals := by
  rw [tick] at h
  split at h
  · obtain ⟨rfl, rfl⟩ := Prod.mk.inj (Except.ok.inj h)
    exact ⟨rfl, rfl⟩
  · split at h
    · cases h
    · obtain ⟨rfl, rfl⟩ := Prod.mk.inj (Except.ok.inj h)
      exact ⟨rfl, rfl⟩

/-- After a run the clock has recorded the gap before each due tick, and forgotten all but the
latest. -/
theorem history_intervals {c : FrameClock} {times : List Nat} {marks : List (FrameClock × Bool)}
    (h : c.history times = .ok marks) (hc : c.intervals.length ≤ maxIntervals) :
    (c.final marks).intervals = lastN maxIntervals
      (c.intervals ++ selected (marks.map Prod.snd) (gaps c.lastTick times)) := by
  induction times generalizing c marks with
  | nil =>
    obtain rfl : [] = marks := Except.ok.inj h
    simp only [final, List.map_nil, gaps, selected, List.append_nil, lastN_of_length_le hc]
  | cons now rest ih =>
    rw [history] at h
    split at h
    · cases h
    · next after due htick =>
      cases hrest : after.history rest with
      | error abort => rw [hrest] at h; cases h
      | ok later =>
        rw [hrest] at h
        obtain rfl := Except.ok.inj h
        obtain ⟨rfl, hrec⟩ := tick_intervals htick
        cases due with
        | false =>
          rw [if_neg Bool.false_ne_true] at hrec
          simp only [final, List.map_cons, gaps, selected, Bool.false_eq_true, if_false]
          rw [ih hrest (hrec ▸ hc), hrec]
        | true =>
          rw [if_pos rfl, recordInterval_eq] at hrec
          simp only [final, List.map_cons, gaps, selected, if_true]
          have hle : after.intervals.length ≤ maxIntervals := by
            rw [hrec, length_lastN]
            exact Nat.min_le_left _ _
          rw [ih hrest hle, hrec, lastN_append, List.append_assoc, List.singleton_append]

/-- **The measured rate leaves out quiet ticks.** Tell a clock the time as often as you like, never
going back. The intervals that the measured rate is taken over are the gaps before the latest due
ticks. The frames took longer: each of them took its interval and the time that passed at the quiet
ticks since the frame before it, and so did they together. So the intervals are the lengths of the
frames exactly when no time passed at those quiet ticks. -/
theorem recorded_intervals (rate : Binary) (s : Nat) (times : List Nat)
    (hd : 0 < (start rate s).frameDuration) (ht : (s :: times).Pairwise (· ≤ ·)) :
    ∃ marks, (start rate s).history times = .ok marks ∧
      let dues := marks.map Prod.snd
      let recorded := ((start rate s).final marks).intervals
      let frames := lastN maxIntervals (gaps s (selected dues times))
      let quiet := lastN maxIntervals (quietTime 0 dues (gaps s times))
      recorded = lastN maxIntervals (selected dues (gaps s times)) ∧
        frames = List.zipWith (· + ·) recorded quiet ∧ total frames = total recorded + total quiet ∧
        (recorded = frames ↔ ∀ time ∈ quiet, time = 0) := by
  obtain ⟨marks, hmarks, -, -⟩ := frames_on_grid rate s times hd ht
  refine ⟨marks, hmarks, ?_⟩
  intro dues recorded frames quiet
  have hlen : (selected dues (gaps s times)).length = (quietTime 0 dues (gaps s times)).length :=
    (length_quietTime 0 dues (gaps s times)).symm
  have hrec : recorded = lastN maxIntervals (selected dues (gaps s times)) :=
    history_intervals hmarks (Nat.zero_le _)
  have hgaps := gaps_selected dues (Nat.le_refl s) ht
  rw [Nat.sub_self] at hgaps
  have hframes : frames = List.zipWith (· + ·) recorded quiet := by
    show lastN maxIntervals (gaps s (selected dues times)) = _
    rw [hgaps, lastN_zipWith _ hlen, hrec]
  have hsame : recorded.length = quiet.length := by
    rw [hrec, length_lastN, hlen]
    exact (length_lastN _ _).symm
  refine ⟨hrec, hframes, ?_, ?_⟩
  · rw [hframes, total_zipWith_add hsame]
  · rw [hframes]
    exact eq_zipWith_add_iff hsame

/-- Ten frames a second. A quiet tick comes before the first due one, 60 milliseconds after the
start. The frame has taken 120 milliseconds, and 60 are recorded. -/
theorem recorded_intervals_after_quiet_tick :
    let c := start (BinaryFormat.single.ofInt 10) 0
    let times := [60000000, 120000000]
    0 < c.frameDuration ∧ (0 :: times).Pairwise (· ≤ ·) ∧
      ∃ marks, c.history times = .ok marks ∧ marks.map Prod.snd = [false, true] ∧
        (c.final marks).intervals = [60000000] ∧
        gaps 0 (selected (marks.map Prod.snd) times) = [120000000] := by
  intro c times
  have hd : 0 < c.frameDuration := by decide +kernel
  have ht : (0 :: times).Pairwise (· ≤ ·) := by decide
  obtain ⟨marks, hmarks, hrec, -⟩ :=
    recorded_intervals (BinaryFormat.single.ofInt 10) 0 times hd ht
  have hquiet : c.accumulator + (60000000 - c.lastTick) < c.frameDuration := by decide +kernel
  have hrun : c.history times = _ := history_cons_of_ok (tick_of_lt hquiet)
    (history_cons_of_ok (tick_of_le (by decide +kernel) (by decide +kernel)) rfl)
  obtain rfl := Except.ok.inj (hmarks.symm.trans hrun)
  exact ⟨hd, ht, _, hmarks, rfl, hrec, rfl⟩

end FrameClock
end LiveSketch
