import LiveSketch.CommandLine
import LiveSketch.Proofs.FrameClock.Grid
import LiveSketch.Proofs.Number.Rounding
import LiveSketch.Settings.File

/-!
# Rates without a frame duration

The duration of a frame is the reciprocal of the rate, rounded twice: to single precision, and then
to whole nanoseconds. The reciprocal is always a number between zero and one, so a duration there is.
But it can be zero, and then a clock stops the program at its first tick: it divides by it. Nothing
keeps such rates out. A settings file and a flag may ask for any number of single precision, and the
rates are only bounded from below.

## The threshold

Half a nanosecond is the duration of a frame at two thousand million frames a second, and durations
up to half a nanosecond are rounded to zero. The first rounding blurs this: half a nanosecond is no
number of single precision. It lies between `9007199 * 2 ^ -54` and `9007200 * 2 ^ -54`, below their
middle. Two thousand million is a number of single precision, and its reciprocal is rounded down; the
number before it is 128 less, and its reciprocal is rounded up.

## Main definitions

* `Binary.AtLeast` — comparison with a natural number.
* `FrameClock.Supplied` — the rates that a settings file or a flag supplies.
* `FrameClock.nanosOf?` — the duration that a number of seconds stands for, if there is one.

## Main results

* `FrameClock.Supplied.contains` — the supplied rates are of single precision.
* `FrameClock.durationAt_eq_zero_iff` — the rates without a frame duration.
* `FrameClock.ticking_aborts_iff` — when ticking stops the program.
-/

namespace LiveSketch

open BinaryFormat (single magnitude magnitude_eq)

/-! ### Rates that are asked for -/

theorem contains_single_round (negative : Bool) (n : Nat) {d : Nat} (hd : 0 < d) :
    single.Contains (single.round negative n d) :=
  BinaryFormat.contains_round (by decide) (by decide) negative hd

theorem CommandLine.contains_readRate {text : String} {rate : Binary}
    (h : readRate text = .ok rate) : single.Contains rate := by
  rw [readRate] at h
  split at h
  · cases h
  · split at h
    · next hread =>
      obtain rfl := Except.ok.inj h
      exact Decimal.contains_read (by decide) (by decide) hread
    · cases h

namespace Settings

theorem contains_rateOf {node : Yaml.Node} {rate : Binary} (h : rateOf node = .ok rate) :
    single.Contains rate := by
  rw [rateOf] at h
  split at h
  · obtain rfl := Except.ok.inj h
    exact contains_single_round _ _ Nat.one_pos
  · next x _ =>
    obtain rfl := Except.ok.inj h
    cases x with
    | nan => trivial
    | infinite negative => trivial
    | finite negative m q =>
      rw [BinaryFormat.convert, BinaryFormat.scaleBy_eq]
      exact contains_single_round _ _ (Nat.mul_pos Nat.one_pos (Nat.two_pow_pos _))
  · cases h

variable {s t : Settings}

/-- A setting is read and put in its place, or not read at all. -/
theorem exists_of_map_eq_ok {ε α β : Type} {f : α → β} {x : Except ε α} {b : β}
    (h : x.map f = .ok b) : ∃ a, x = .ok a ∧ f a = b := by
  cases x with
  | error e => cases h
  | ok a => exact ⟨a, rfl, Except.ok.inj h⟩

theorem contains_fps_set {name : String} {value : Yaml.Node} (hs : single.Contains s.fps)
    (h : s.set name value = .ok t) : single.Contains t.fps := by
  unfold set at h
  split at h
  case h_3 =>
    obtain ⟨fps, hfps, rfl⟩ := exists_of_map_eq_ok h
    exact contains_rateOf hfps
  case h_9 =>
    obtain rfl := Except.ok.inj h
    exact hs
  all_goals
    obtain ⟨_, -, rfl⟩ := exists_of_map_eq_ok h
    exact hs

theorem contains_fps_setAll {entries : List (Yaml.Node × Yaml.Node)} {seen : List String}
    (hs : single.Contains s.fps) (h : setAll entries seen s = .ok t) : single.Contains t.fps := by
  induction entries generalizing seen s with
  | nil =>
    obtain rfl := Except.ok.inj h
    exact hs
  | cons entry rest ih =>
    obtain ⟨key, value⟩ := entry
    rw [setAll] at h
    split at h
    · cases h
    · split at h
      · cases h
      · split at h
        · cases h
        · next hset => exact ih (contains_fps_set hs hset) h

theorem contains_fps_default : single.Contains ({} : Settings).fps := by
  show single.Contains (single.ofInt 60)
  exact contains_single_round _ _ Nat.one_pos

theorem contains_fps_ofText {text : String} (h : ofText text = .ok s) : single.Contains s.fps := by
  rw [ofText] at h
  split at h
  · cases h
  · split at h
    · obtain rfl := Except.ok.inj h
      exact contains_fps_default
    · split at h
      · cases h
      · next node _ =>
        rw [ofNode] at h
        split at h
        · next entries _ =>
          cases hset : setAll entries [] {} with
          | error e => rw [hset] at h; cases h
          | ok found =>
            rw [hset] at h
            obtain rfl := Except.ok.inj h
            exact contains_fps_setAll contains_fps_default hset
        · cases h

/-- The rate of a settings file is a number of single precision. -/
theorem contains_fps_load {tree : FileTree} {path : Path} (h : load tree path = .ok s) :
    single.Contains s.fps := by
  rw [load] at h
  split at h
  · cases h
  · next text _ =>
    cases htext : ofText text with
    | error e => rw [htext] at h; cases h
    | ok found =>
      rw [htext] at h
      obtain rfl := Except.ok.inj h
      exact contains_fps_ofText htext

end Settings

/-- The rates that a settings file or a flag supplies. -/
inductive FrameClock.Supplied : Binary → Prop
  | file {tree : FileTree} {path : Path} {settings : Settings}
      (h : Settings.load tree path = .ok settings) : Supplied settings.fps
  | flag {text : String} {rate : Binary} (h : CommandLine.readRate text = .ok rate) : Supplied rate

/-- A supplied rate is a number of single precision. -/
theorem FrameClock.Supplied.contains {rate : Binary} (h : Supplied rate) :
    single.Contains rate := by
  cases h with
  | file h => exact Settings.contains_fps_load h
  | flag h => exact CommandLine.contains_readRate h

/-! ### The reciprocal -/

/-- Whether a number is at least `n`. -/
def Binary.AtLeast (n : Nat) : Binary → Prop
  | .nan => False
  | .infinite negative => negative = false
  | .finite negative m q => negative = false ∧ n * (magnitude m q).2 ≤ (magnitude m q).1

namespace FrameClock

/-- The duration in nanoseconds that a number of seconds stands for, rounded. A negative number, one
that is not finite, and one with too many seconds for sixty-four bits stand for none. -/
def nanosOf? : Binary → Option Nat
  | .finite negative m q =>
    let nanos := divNearestEven ((magnitude m q).1 * nanosPerSecond) (magnitude m q).2
    if negative ∧ 0 < m ∨ 2 ^ 64 * nanosPerSecond ≤ nanos then none else some nanos
  | _ => none

theorem one_eq : one = .finite false 8388608 (-23) := by decide +kernel

theorem magnitude_pos (m : Nat) (q : Int) : 0 < (magnitude m q).2 := by
  rw [magnitude_eq]
  exact Nat.two_pow_pos _

/-- The rate that is used: one frame a second, infinity, or a number from one on. -/
theorem effectiveRate_cases (rate : Binary) :
    effectiveRate rate = one ∧ ¬rate.AtLeast 1 ∨
      rate = .infinite false ∧ effectiveRate rate = .infinite false ∨
      ∃ m q, rate = .finite false m q ∧ effectiveRate rate = .finite false m q ∧
        (magnitude m q).2 ≤ (magnitude m q).1 := by
  cases rate with
  | nan => exact .inl ⟨rfl, id⟩
  | infinite negative =>
    cases negative with
    | true => exact .inl ⟨rfl, fun h => by cases h⟩
    | false => exact .inr (.inl ⟨rfl, rfl⟩)
  | finite negative m q =>
    by_cases h : negative = true ∨ (magnitude m q).1 < (magnitude m q).2
    · refine .inl ⟨if_pos h, ?_⟩
      rintro ⟨rfl, hle⟩
      rcases h with h | h
      · cases h
      · omega
    · obtain ⟨hn, hle⟩ := not_or.mp h
      obtain rfl : negative = false := Bool.eq_false_iff.mpr hn
      exact .inr (.inr ⟨m, q, rfl, if_neg h, Nat.not_lt.mp hle⟩)

/-- The reciprocal of a number `N / D` from one on. It is the significand that `D / N` is rounded to
after `k` doublings, `k` being as large as single precision allows. -/
theorem exists_reciprocal {m : Nat} {q : Int} (h : (magnitude m q).2 ≤ (magnitude m q).1) :
    ∃ k m' q', single.divMagnitudes one (.finite false m q) = .finite false m' q' ∧
      (magnitude m' q').1 * 2 ^ k =
        divNearestEven ((magnitude m q).2 * 2 ^ k) (magnitude m q).1 * (magnitude m' q').2 ∧
      (magnitude m q).2 * 2 ^ k < 2 ^ 24 * (magnitude m q).1 ∧
      (k < 149 → 2 ^ 23 * (magnitude m q).1 ≤ (magnitude m q).2 * 2 ^ k) := by
  have hD := magnitude_pos m q
  generalize hN : (magnitude m q).1 = N at h ⊢
  generalize hD' : (magnitude m q).2 = D at h hD ⊢
  have hone : magnitude 8388608 (-23) = (8388608, 8388608) := by decide
  have hdiv : single.divMagnitudes one (.finite false m q) =
      single.round false (8388608 * D) (8388608 * N) := by
    rw [one_eq, BinaryFormat.divMagnitudes]
    simp only [hone]
    rw [hN, hD', if_neg (by omega)]
  have hn : 0 < 8388608 * D := by omega
  have hle : 8388608 * D ≤ 8388608 * N := by omega
  have hd : 0 < 8388608 * N := Nat.lt_of_lt_of_le hn hle
  have hexp := BinaryFormat.exponentFor_le (f := single) (by decide) hn hle
  have hbelow := BinaryFormat.below_exponentFor (f := single) (by decide) hn hd
  have hfull := BinaryFormat.not_below_exponentFor (f := single) (by decide) hn hd
  obtain ⟨m', q', hround, hvalue⟩ :=
    BinaryFormat.round_proper (f := single) (by decide) (by decide) (by decide) false hn hle
  rw [BinaryFormat.significandFor] at hvalue
  rw [Below, Int.neg_neg] at hbelow hfull
  generalize single.exponentFor (8388608 * D) (8388608 * N) = e at hexp hbelow hfull hvalue
  have he : e.toNat = 0 := by
    have hmax : max (1 - (single.precision : Int)) single.minExponent = -23 := by decide
    omega
  rw [he, Nat.pow_zero, Nat.mul_one, Nat.mul_assoc] at hbelow hfull hvalue
  rw [divNearestEven_mul_left (by decide)] at hvalue
  refine ⟨(-e).toNat, m', q', hdiv.trans hround, hvalue, ?_, ?_⟩
  · have hp : (2 : Nat) ^ single.precision = 2 ^ 24 := by decide
    rw [hp] at hbelow
    omega
  · intro hk
    have hp : (2 : Nat) ^ (single.precision - 1) = 2 ^ 23 := by decide
    have hmin : single.minExponent = -149 := by decide
    rw [hp] at hfull
    have := hfull (by omega)
    omega

/-! ### The threshold -/

/-- Numbers of single precision below two thousand million keep a distance from it. -/
theorem gap_below_threshold {m : Nat} {q : Int} (hm : m < 2 ^ 24)
    (h : (magnitude m q).1 < 2000000000 * (magnitude m q).2) :
    (magnitude m q).1 ≤ 1999999872 * (magnitude m q).2 := by
  rw [magnitude_eq] at h ⊢
  dsimp only at h ⊢
  by_cases hq : 0 ≤ q
  · have hden : (-q).toNat = 0 := by omega
    rw [hden, Nat.pow_zero, Nat.mul_one] at h ⊢
    by_cases hlarge : 7 ≤ q
    · -- a multiple of 128, as the threshold is
      have hsplit : q.toNat = (q.toNat - 7) + 7 := by omega
      rw [hsplit, Nat.pow_add, ← Nat.mul_assoc] at h ⊢
      omega
    · have hpow : 2 ^ q.toNat ≤ 2 ^ 6 := Nat.pow_le_pow_right Nat.two_pos (by omega)
      have hbound : m * 2 ^ q.toNat ≤ 2 ^ 24 * 2 ^ 6 := Nat.mul_le_mul (Nat.le_of_lt hm) hpow
      omega
  · have hnum : q.toNat = 0 := by omega
    have hden := Nat.two_pow_pos (-q).toNat
    rw [hnum, Nat.pow_zero, Nat.mul_one]
    omega

section Threshold

variable {N D k : Nat}

/-- From the threshold on, the reciprocal is at most half a nanosecond. -/
theorem rounded_le_half (hbelow : D * 2 ^ k < 2 ^ 24 * N)
    (hfull : k < 149 → 2 ^ 23 * N ≤ D * 2 ^ k) (h : 2000000000 * D ≤ N) :
    2 * (divNearestEven (D * 2 ^ k) N * nanosPerSecond) ≤ 2 ^ k := by
  have hN : 0 < N := by omega
  rw [nanosPerSecond]
  rcases Nat.lt_trichotomy k 54 with hk | rfl | hk
  · have hpow : D * 2 ^ k ≤ D * 2 ^ 53 :=
      Nat.mul_le_mul_left D (Nat.pow_le_pow_right Nat.two_pos (by omega))
    have := hfull (by omega)
    omega
  · have hs : divNearestEven (D * 2 ^ 54) N ≤ 9007199 := divNearestEven_le hN (by omega)
    omega
  · have hs : divNearestEven (D * 2 ^ k) N ≤ 2 ^ 24 := divNearestEven_le_of_le hN (Nat.le_of_lt hbelow)
    have hpow : 2 ^ 55 ≤ 2 ^ k := Nat.pow_le_pow_right Nat.two_pos hk
    omega

/-- Up to the number of single precision before it, the reciprocal is more than that. -/
theorem half_lt_rounded (hbelow : D * 2 ^ k < 2 ^ 24 * N)
    (hfull : k < 149 → 2 ^ 23 * N ≤ D * 2 ^ k) (h : N ≤ 1999999872 * D) :
    2 ^ k < 2 * (divNearestEven (D * 2 ^ k) N * nanosPerSecond) := by
  have hN : 0 < N := by omega
  rw [nanosPerSecond]
  rcases Nat.lt_trichotomy k 54 with hk | rfl | hk
  · have hs : 2 ^ 23 ≤ divNearestEven (D * 2 ^ k) N :=
      le_divNearestEven_of_le hN (hfull (by omega))
    have hpow : 2 ^ k ≤ 2 ^ 53 := Nat.pow_le_pow_right Nat.two_pos (by omega)
    omega
  · have hs : 9007200 ≤ divNearestEven (D * 2 ^ 54) N := le_divNearestEven hN (by omega)
    omega
  · have hpow : D * 2 ^ 55 ≤ D * 2 ^ k :=
      Nat.mul_le_mul_left D (Nat.pow_le_pow_right Nat.two_pos hk)
    omega

end Threshold

/-! ### The duration of a frame -/

theorem durationAt_of_div {rate : Binary} {negative : Bool} {m : Nat} {q : Int}
    (h : single.divMagnitudes one rate = .finite negative m q) :
    durationAt rate = divNearestEven ((magnitude m q).1 * nanosPerSecond) (magnitude m q).2 := by
  rw [durationAt, h]

/-- The reciprocal of the rate that is used stands for the duration of a frame, at most a second. -/
theorem nanosOf?_reciprocal (rate : Binary) :
    nanosOf? (single.divMagnitudes one (effectiveRate rate)) = some (durationAt (effectiveRate rate)) ∧
      durationAt (effectiveRate rate) ≤ nanosPerSecond := by
  rcases effectiveRate_cases rate with ⟨hrate, -⟩ | ⟨-, hrate⟩ | ⟨m, q, -, hrate, hle⟩
  · rw [hrate]
    decide +kernel
  · rw [hrate]
    decide +kernel
  · obtain ⟨k, m', q', hdiv, hvalue, -, -⟩ := exists_reciprocal hle
    have hN : 0 < (magnitude m q).1 := Nat.lt_of_lt_of_le (magnitude_pos m q) hle
    have hs : divNearestEven ((magnitude m q).2 * 2 ^ k) (magnitude m q).1 ≤ 2 ^ k :=
      divNearestEven_le_of_le hN (by rw [Nat.mul_comm]; exact Nat.mul_le_mul_left _ hle)
    have hlt : divNearestEven ((magnitude m' q').1 * nanosPerSecond) (magnitude m' q').2 ≤
        nanosPerSecond := by
      refine divNearestEven_le_of_le (magnitude_pos m' q') ?_
      rw [Nat.mul_comm]
      refine Nat.mul_le_mul_left _ (Nat.le_of_mul_le_mul_right (c := 2 ^ k) ?_ (Nat.two_pow_pos k))
      rw [hvalue, Nat.mul_comm]
      exact Nat.mul_le_mul_left _ hs
    rw [hrate, durationAt_of_div hdiv, hdiv]
    refine ⟨if_neg ?_, hlt⟩
    rintro (⟨hneg, -⟩ | hlarge)
    · cases hneg
    · exact absurd (Nat.le_trans hlarge hlt) (by decide)

/-- **The rates without a frame duration** are those from two thousand million frames a second on. -/
theorem durationAt_eq_zero_iff {rate : Binary} (h : single.Contains rate) :
    durationAt (effectiveRate rate) = 0 ↔ rate.AtLeast 2000000000 := by
  rcases effectiveRate_cases rate with ⟨hrate, hsmall⟩ | ⟨rfl, -⟩ | ⟨m, q, rfl, hrate, hle⟩
  · have hone : durationAt one ≠ 0 := by decide +kernel
    rw [hrate]
    refine ⟨fun hz => absurd hz hone, fun hbig => absurd ?_ hsmall⟩
    cases rate with
    | nan => exact hbig
    | infinite negative => exact hbig
    | finite negative m q => exact ⟨hbig.1, by have := hbig.2; omega⟩
  · exact ⟨fun _ => rfl, fun _ => by decide +kernel⟩
  · obtain ⟨k, m', q', hdiv, hvalue, hbelow, hfull⟩ := exists_reciprocal hle
    have hD := magnitude_pos m q
    have hdur : durationAt (.finite false m q) = divNearestEven
        (divNearestEven ((magnitude m q).2 * 2 ^ k) (magnitude m q).1 * nanosPerSecond) (2 ^ k) := by
      rw [durationAt_of_div hdiv]
      refine divNearestEven_congr (magnitude_pos m' q') (Nat.two_pow_pos k) ?_
      rw [Nat.mul_right_comm, hvalue, Nat.mul_right_comm]
    rw [hrate, hdur, divNearestEven_eq_zero_iff (Nat.two_pow_pos k)]
    constructor
    · intro hz
      refine ⟨rfl, Nat.not_lt.mp fun hlt => ?_⟩
      have hgap := gap_below_threshold h.1 hlt
      exact absurd hz (Nat.not_le.mpr (half_lt_rounded hbelow hfull hgap))
    · rintro ⟨-, hbig⟩
      exact rounded_le_half hbelow hfull hbig

/-! ### Ticking -/

/-- While frames have a duration no tick fails, whatever the times are. -/
theorem history_of_pos {c : FrameClock} (hd : 0 < c.frameDuration) (times : List Nat) :
    ∃ marks, c.history times = .ok marks := by
  induction times generalizing c with
  | nil => exact ⟨[], rfl⟩
  | cons now rest ih =>
    by_cases hw : c.accumulator + (now - c.lastTick) < c.frameDuration
    · have htick := tick_of_lt hw
      obtain ⟨marks, hmarks⟩ := ih (c := { c with
        lastTick := now, accumulator := c.accumulator + (now - c.lastTick) }) hd
      exact ⟨_, history_cons_of_ok htick hmarks⟩
    · have htick := tick_of_le hd (Nat.not_lt.mp hw)
      obtain ⟨marks, hmarks⟩ := ih (c := { c with
        lastTick := now
        accumulator := (c.accumulator + (now - c.lastTick)) % c.frameDuration
        intervals := recordInterval c.intervals (now - c.lastTick) }) hd
      exact ⟨_, history_cons_of_ok htick hmarks⟩

/-- Without a frame duration the first tick fails. -/
theorem tick_of_zero {c : FrameClock} (hd : c.frameDuration = 0) (now : Nat) :
    c.tick now = .error .remainderByZero :=
  (if_neg (by show ¬_ < c.frameDuration; omega)).trans (if_pos hd)

/-- **Ticking stops the program exactly at rates from two thousand million on.** Whichever rate a
settings file or a flag supplies, the clock's frame duration is one that its reciprocal stands for,
and at most a second. Told the time as often as you like, the clock fails exactly if the rate is
infinite or at least two thousand million, and then at the first tick. -/
theorem ticking_aborts_iff {rate : Binary} (h : Supplied rate) (s : Nat) (times : List Nat) :
    nanosOf? (single.divMagnitudes one (start rate s).rate) = some (start rate s).frameDuration ∧
      (start rate s).frameDuration ≤ nanosPerSecond ∧
      ((start rate s).history times = .error .remainderByZero ↔
        rate.AtLeast 2000000000 ∧ times ≠ []) := by
  obtain ⟨hnanos, hle⟩ := nanosOf?_reciprocal rate
  refine ⟨hnanos, hle, ?_⟩
  rw [← durationAt_eq_zero_iff h.contains]
  constructor
  · intro herr
    refine ⟨Nat.eq_zero_of_not_pos fun hd => ?_, ?_⟩
    · obtain ⟨marks, hmarks⟩ := history_of_pos (c := start rate s) hd times
      rw [hmarks] at herr
      cases herr
    · rintro rfl
      cases herr
  · rintro ⟨hd, hne⟩
    cases times with
    | nil => exact absurd rfl hne
    | cons now rest => rw [history, tick_of_zero (c := start rate s) hd now]

/-- A settings file asks for two thousand million frames a second, and the first tick fails. With 128
less, asked for by a flag, it does not. -/
theorem ticking_aborts_at_two_billion :
    let tree : FileTree := { nodes := [(["c"], .file (Utf8.encode "fps: 2e9\n") 3)] }
    (∃ settings, Settings.load tree ⟨"/c"⟩ = .ok settings ∧
        (start settings.fps 5).history [6] = .error .remainderByZero) ∧
      ∃ rate, CommandLine.readRate "1999999872" = .ok rate ∧
        (start rate 5).history [6] ≠ .error .remainderByZero := by
  intro tree
  constructor
  · have hfps : (Settings.load tree ⟨"/c"⟩).toOption.map (·.fps) =
        some (single.ofInt 2000000000) := by decide +kernel
    cases hs : Settings.load tree ⟨"/c"⟩ with
    | error e => rw [hs] at hfps; cases hfps
    | ok settings =>
      rw [hs] at hfps
      have hrate : settings.fps = .finite false 15625000 7 :=
        (Option.some.inj hfps).trans (by decide +kernel)
      have haborts := (ticking_aborts_iff (.file hs) 5 [6]).2.2
      refine ⟨settings, rfl, haborts.mpr ⟨?_, by decide⟩⟩
      rw [hrate]
      exact ⟨rfl, by decide⟩
  · have hrate : (CommandLine.readRate "1999999872").toOption =
        some (.finite false 15624999 7) := by decide +kernel
    cases hs : CommandLine.readRate "1999999872" with
    | error e => rw [hs] at hrate; cases hrate
    | ok rate =>
      rw [hs] at hrate
      obtain rfl := Option.some.inj hrate
      have haborts := (ticking_aborts_iff (.flag hs) 5 [6]).2.2
      exact ⟨_, rfl, fun h => absurd (haborts.mp h).1.2 (by decide)⟩

end FrameClock
end LiveSketch
