import LiveSketch.Number.Decimal

/-!
# Rounding to a binary format

A fraction is rounded by scaling it with a power of two until its whole part has as many bits as the
format's significands, and rounding what it is then to the nearest integer. Two things make this
right: the exponent is chosen such that the scaled fraction lies between the least and the greatest
full significand, and rounding to an integer moves a fraction past no integer.

## Implementation notes

Everything is stated by multiplying out, in natural numbers. `Below n d e b` is the comparison
`n / d * 2 ^ e < b`, for exponents of either sign.

## Main definitions

* `Below` — a scaled fraction is below a natural number.
* `BinaryFormat.Contains` — the numbers of a format.

## Main results

* `divNearestEven_le`, `le_divNearestEven` — between which integers a quotient is rounded.
* `BinaryFormat.below_exponentFor`, `not_below_exponentFor` — the exponent that is chosen.
* `BinaryFormat.contains_round` — rounding gives a number of the format.
* `BinaryFormat.round_proper` — a fraction up to one is rounded to a finite number.
* `Decimal.contains_read` — so does reading a decimal text.
-/

namespace LiveSketch

/-! ### Rounding a quotient -/

section Quotient

variable {n d k : Nat}

/-- A quotient less than half above an integer is rounded to at most that integer. -/
theorem divNearestEven_le (hd : 0 < d) (h : 2 * n < (2 * k + 1) * d) : divNearestEven n d ≤ k := by
  have hsplit := Nat.div_add_mod n d
  have hquot : n / d ≤ k := by
    refine Nat.le_of_lt_succ ((Nat.div_lt_iff_lt_mul hd).mpr ?_)
    rw [Nat.add_mul, Nat.mul_assoc] at h
    rw [Nat.succ_mul]
    omega
  rw [divNearestEven]
  split
  · exact hquot
  · next hr =>
    rcases Nat.lt_or_eq_of_le hquot with hlt | rfl
    · exact hlt
    · rw [Nat.add_mul, Nat.mul_assoc, Nat.mul_comm (n / d) d] at h
      exact absurd (.inl (by omega)) hr

/-- A quotient less than half below an integer is rounded to at least that integer. -/
theorem le_divNearestEven (hd : 0 < d) (h : 2 * (k * d) < 2 * n + d) : k ≤ divNearestEven n d := by
  have hsplit := Nat.div_add_mod n d
  have hrem := Nat.mod_lt n hd
  have hquot : k ≤ n / d + 1 := by
    refine Nat.le_of_lt_succ (Nat.lt_of_mul_lt_mul_right (a := d) ?_)
    rw [Nat.succ_mul, Nat.add_mul, Nat.mul_comm (n / d) d]
    omega
  rw [divNearestEven]
  split
  · next hr =>
    rcases Nat.lt_or_eq_of_le hquot with hlt | rfl
    · exact Nat.le_of_lt_succ hlt
    · rw [Nat.add_mul, Nat.mul_comm (n / d) d] at h
      omega
  · exact hquot

theorem divNearestEven_le_of_le (hd : 0 < d) (h : n ≤ k * d) : divNearestEven n d ≤ k := by
  refine divNearestEven_le hd ?_
  rw [Nat.add_mul, Nat.mul_assoc]
  omega

theorem le_divNearestEven_of_le (hd : 0 < d) (h : k * d ≤ n) : k ≤ divNearestEven n d :=
  le_divNearestEven hd (by omega)

/-- Up to one half is rounded to nothing, one half included, since zero is even. -/
theorem divNearestEven_eq_zero_iff (hd : 0 < d) : divNearestEven n d = 0 ↔ 2 * n ≤ d := by
  constructor
  · intro h
    refine Nat.not_lt.mp fun hlt => ?_
    have hone : 1 ≤ divNearestEven n d := le_divNearestEven hd (by omega)
    omega
  · intro h
    have hn : n / d = 0 := Nat.div_eq_of_lt (by omega)
    have hr : n % d = n := Nat.mod_eq_of_lt (by omega)
    rw [divNearestEven, hn, hr]
    exact if_pos (by omega)

theorem divNearestEven_mul_left {c : Nat} (hc : 0 < c) (n d : Nat) :
    divNearestEven (c * n) (c * d) = divNearestEven n d := by
  have hlt : 2 * (c * (n % d)) < c * d ↔ 2 * (n % d) < d := by
    rw [Nat.mul_left_comm]
    exact Nat.mul_lt_mul_left hc
  have heq : 2 * (c * (n % d)) = c * d ↔ 2 * (n % d) = d := by
    rw [Nat.mul_left_comm]
    exact Nat.mul_right_inj (Nat.ne_of_gt hc)
  simp only [divNearestEven, Nat.mul_div_mul_left n d hc, Nat.mul_mod_mul_left, hlt, heq]

/-- Only the quotient matters. -/
theorem divNearestEven_congr {n' d' : Nat} (hd : 0 < d) (hd' : 0 < d') (h : n * d' = n' * d) :
    divNearestEven n d = divNearestEven n' d' := by
  rw [← divNearestEven_mul_left hd' n d, ← divNearestEven_mul_left hd n' d', Nat.mul_comm d' n, h,
    Nat.mul_comm n' d, Nat.mul_comm d' d]

end Quotient

/-! ### Scaled fractions -/

/-- The fraction `n / d`, multiplied by `2 ^ e`, is below `b`. -/
def Below (n d : Nat) (e : Int) (b : Nat) : Prop := n * 2 ^ e.toNat < b * (d * 2 ^ (-e).toNat)

section Below

variable {n d b t : Nat} {e e' : Int}

theorem Below.mono (h : Below n d e b) (he : e' ≤ e) : Below n d e' b := by
  have hup : 2 ^ e'.toNat ≤ 2 ^ e.toNat := Nat.pow_le_pow_right Nat.two_pos (by omega)
  have hdown : 2 ^ (-e).toNat ≤ 2 ^ (-e').toNat := Nat.pow_le_pow_right Nat.two_pos (by omega)
  calc n * 2 ^ e'.toNat
      ≤ n * 2 ^ e.toNat := Nat.mul_le_mul_left n hup
    _ < b * (d * 2 ^ (-e).toNat) := h
    _ ≤ b * (d * 2 ^ (-e').toNat) := Nat.mul_le_mul_left b (Nat.mul_le_mul_left d hdown)

/-- Doubling both sides of the comparison. -/
theorem below_succ : Below n d (e + 1) (2 * b) ↔ Below n d e b := by
  rw [Below, Below]
  by_cases he : 0 ≤ e
  · have hup : (e + 1).toNat = e.toNat + 1 := by omega
    have hdown : (-(e + 1)).toNat = 0 := by omega
    have hdown' : (-e).toNat = 0 := by omega
    rw [hup, hdown, hdown', Nat.pow_succ, ← Nat.mul_assoc, Nat.mul_comm _ 2, Nat.mul_assoc 2 b]
    exact Nat.mul_lt_mul_left Nat.two_pos
  · have hup : (e + 1).toNat = 0 := by omega
    have hup' : e.toNat = 0 := by omega
    have hdown : (-e).toNat = (-(e + 1)).toNat + 1 := by omega
    rw [hup, hup', hdown, Nat.pow_succ, ← Nat.mul_assoc d, Nat.mul_comm _ 2,
      Nat.mul_left_comm b 2, Nat.mul_assoc 2 b]

/-- The lengths of numerator and denominator in bits bound a fraction from above. -/
theorem below_of_log2 (hd : 0 < d) (h : n.log2 + 1 + e ≤ t + d.log2) : Below n d e (2 ^ t) := by
  have hn : n < 2 ^ (n.log2 + 1) := Nat.lt_log2_self
  have hd : 2 ^ d.log2 ≤ d := Nat.log2_self_le (Nat.ne_of_gt hd)
  calc n * 2 ^ e.toNat
      < 2 ^ (n.log2 + 1) * 2 ^ e.toNat := Nat.mul_lt_mul_of_pos_right hn (Nat.two_pow_pos _)
    _ = 2 ^ (n.log2 + 1 + e.toNat) := (Nat.pow_add ..).symm
    _ ≤ 2 ^ (t + (d.log2 + (-e).toNat)) := Nat.pow_le_pow_right Nat.two_pos (by omega)
    _ = 2 ^ t * (2 ^ d.log2 * 2 ^ (-e).toNat) := by rw [← Nat.pow_add, ← Nat.pow_add]
    _ ≤ 2 ^ t * (d * 2 ^ (-e).toNat) := Nat.mul_le_mul_left _ (Nat.mul_le_mul_right _ hd)

/-- They bound it from below as well. -/
theorem not_below_of_log2 (hn : 0 < n) (h : t + d.log2 + 1 ≤ n.log2 + e) : ¬Below n d e (2 ^ t) := by
  have hn : 2 ^ n.log2 ≤ n := Nat.log2_self_le (Nat.ne_of_gt hn)
  have hd : d ≤ 2 ^ (d.log2 + 1) := Nat.le_of_lt Nat.lt_log2_self
  refine Nat.not_lt.mpr ?_
  calc 2 ^ t * (d * 2 ^ (-e).toNat)
      ≤ 2 ^ t * (2 ^ (d.log2 + 1) * 2 ^ (-e).toNat) :=
        Nat.mul_le_mul_left _ (Nat.mul_le_mul_right _ hd)
    _ = 2 ^ (t + (d.log2 + 1 + (-e).toNat)) := by rw [← Nat.pow_add, ← Nat.pow_add]
    _ ≤ 2 ^ (n.log2 + e.toNat) := Nat.pow_le_pow_right Nat.two_pos (by omega)
    _ = 2 ^ n.log2 * 2 ^ e.toNat := Nat.pow_add ..
    _ ≤ n * 2 ^ e.toNat := Nat.mul_le_mul_right _ hn

end Below

namespace BinaryFormat

theorem scaleBy_eq (n d : Nat) (e : Int) :
    scaleBy n d e = (n * 2 ^ e.toNat, d * 2 ^ (-e).toNat) := by
  rw [scaleBy]
  split
  · have h : (-e).toNat = 0 := by omega
    rw [h, Nat.pow_zero, Nat.mul_one]
  · have h : e.toNat = 0 := by omega
    rw [h, Nat.pow_zero, Nat.mul_one]

/-! ### The exponent -/

variable {f : BinaryFormat} {n d : Nat}

/-- The exponent before it is raised to the least one of the format: the scaled fraction has as many
bits as a significand. -/
theorem exists_full_exponent (hp : 0 < f.precision) (hn : 0 < n) (hd : 0 < d) :
    ∃ q, f.exponentFor n d = max q f.minExponent ∧ Below n d (-q) (2 ^ f.precision) ∧
      ¬Below n d (-q) (2 ^ (f.precision - 1)) ∧ q ≤ n.log2 - d.log2 - f.precision + 1 := by
  obtain ⟨p, hp⟩ : ∃ p, f.precision = p + 1 := ⟨f.precision - 1, by omega⟩
  rw [exponentFor, hp, Nat.add_sub_cancel]
  dsimp only
  generalize hlow : (n.log2 : Int) - d.log2 - (p + 1 : Nat) = low
  rw [scaleBy_eq]
  have hdouble : 2 ^ (p + 1) = 2 * 2 ^ p := by rw [Nat.pow_succ, Nat.mul_comm]
  have hupper : Below n d (-low) (2 ^ (p + 1 + 1)) := below_of_log2 hd (by omega)
  have hlower : ¬Below n d (-low) (2 ^ p) := not_below_of_log2 hn (by omega)
  have hstep : -low = -(low + 1) + 1 := by omega
  by_cases h : Below n d (-low) (2 ^ (p + 1))
  · refine ⟨low, ?_, h, hlower, by omega⟩
    rw [if_neg (by rw [Nat.mul_comm]; exact Nat.not_le.mpr h)]
  · refine ⟨low + 1, ?_, ?_, ?_, by omega⟩
    · rw [if_pos (by rw [Nat.mul_comm]; exact Nat.not_lt.mp h)]
    · rw [hstep, Nat.pow_succ, Nat.mul_comm] at hupper
      exact below_succ.mp hupper
    · rw [hstep, hdouble] at h
      exact fun hb => h (below_succ.mpr hb)

/-- The scaled fraction is below the first integer that is too long for a significand. -/
theorem below_exponentFor (hp : 0 < f.precision) (hn : 0 < n) (hd : 0 < d) :
    Below n d (-f.exponentFor n d) (2 ^ f.precision) := by
  obtain ⟨q, hq, hupper, -, -⟩ := exists_full_exponent hp hn hd
  rw [hq]
  exact hupper.mono (by omega)

/-- Above the least exponent it is not below the least significand of full length. -/
theorem not_below_exponentFor (hp : 0 < f.precision) (hn : 0 < n) (hd : 0 < d)
    (h : f.minExponent < f.exponentFor n d) :
    ¬Below n d (-f.exponentFor n d) (2 ^ (f.precision - 1)) := by
  obtain ⟨q, hq, -, hlower, -⟩ := exists_full_exponent hp hn hd
  have hmax : f.exponentFor n d = q := by omega
  rwa [hmax]

/-- The exponent of a fraction up to one. -/
theorem exponentFor_le (hp : 0 < f.precision) (hn : 0 < n) (h : n ≤ d) :
    f.exponentFor n d ≤ max (1 - (f.precision : Int)) f.minExponent := by
  obtain ⟨q, hq, -, -, hle⟩ := exists_full_exponent hp hn (Nat.lt_of_lt_of_le hn h)
  have hlog : n.log2 ≤ d.log2 := by
    refine Nat.le_of_lt_succ ((Nat.log2_lt (Nat.ne_of_gt hn)).mpr ?_)
    exact Nat.lt_of_le_of_lt h Nat.lt_log2_self
  omega

/-! ### The rounded number -/

/-- Whether a number is one of the format. -/
def Contains (f : BinaryFormat) : Binary → Prop
  | .nan | .infinite _ => True
  | .finite _ m q => m < 2 ^ f.precision ∧ f.minExponent ≤ q ∧ q ≤ f.maxExponent

/-- The significand that a fraction is rounded to. It may be one bit too long by rounding up. -/
def significandFor (f : BinaryFormat) (n d : Nat) : Nat :=
  divNearestEven (n * 2 ^ (-f.exponentFor n d).toNat) (d * 2 ^ (f.exponentFor n d).toNat)

theorem significandFor_le (hp : 0 < f.precision) (hn : 0 < n) (hd : 0 < d) :
    f.significandFor n d ≤ 2 ^ f.precision := by
  have hbelow := below_exponentFor (f := f) hp hn hd
  rw [Below, Int.neg_neg] at hbelow
  exact divNearestEven_le_of_le (Nat.mul_pos hd (Nat.two_pow_pos _)) (Nat.le_of_lt hbelow)

/-- A significand that is too long is halved, and the exponent raised. -/
theorem round_eq (negative : Bool) (hn : 0 < n) : f.round negative n d =
    if f.significandFor n d = 2 ^ f.precision then
      if f.maxExponent < f.exponentFor n d + 1 then .infinite negative
      else .finite negative (f.significandFor n d / 2) (f.exponentFor n d + 1)
    else if f.maxExponent < f.exponentFor n d then .infinite negative
      else .finite negative (f.significandFor n d) (f.exponentFor n d) := by
  rw [round, if_neg (Nat.ne_of_gt hn)]
  dsimp only
  rw [scaleBy_eq, Int.neg_neg, ← significandFor]
  by_cases hs : f.significandFor n d = 2 ^ f.precision
  · rw [if_pos hs, if_pos hs]
  · rw [if_neg hs, if_neg hs]

/-- **Rounding gives a number of the format.** -/
theorem contains_round (hp : 0 < f.precision) (hrange : f.minExponent ≤ f.maxExponent)
    (negative : Bool) (hd : 0 < d) : f.Contains (f.round negative n d) := by
  rcases Nat.eq_zero_or_pos n with rfl | hn
  · exact ⟨Nat.two_pow_pos _, Int.le_refl _, hrange⟩
  · have hle := significandFor_le hp hn hd
    have hmin : f.minExponent ≤ f.exponentFor n d := by
      obtain ⟨q, hq, -⟩ := exists_full_exponent hp hn hd
      omega
    have hpos := Nat.two_pow_pos f.precision
    rw [round_eq negative hn]
    split
    · split
      · trivial
      · exact ⟨by omega, by omega, by omega⟩
    · split
      · trivial
      · exact ⟨by omega, by omega, by omega⟩

theorem magnitude_eq (m : Nat) (q : Int) : magnitude m q = (m * 2 ^ q.toNat, 2 ^ (-q).toNat) := by
  rw [magnitude, scaleBy_eq, Nat.one_mul]

/-- **A fraction up to one is rounded to a finite number**: its significand, scaled back. -/
theorem round_proper (hp : 0 < f.precision) (hmin : f.minExponent ≤ 0) (hmax : 0 < f.maxExponent)
    (negative : Bool) (hn : 0 < n) (h : n ≤ d) :
    ∃ m q, f.round negative n d = .finite negative m q ∧
      (magnitude m q).1 * 2 ^ (-f.exponentFor n d).toNat =
        f.significandFor n d * (magnitude m q).2 := by
  have hexp := exponentFor_le (f := f) hp hn h
  rw [round_eq negative hn]
  generalize f.exponentFor n d = q at hexp ⊢
  split
  · next hs =>
    rw [if_neg (by omega)]
    refine ⟨_, _, rfl, ?_⟩
    obtain ⟨p, hp⟩ : ∃ p, f.precision = p + 1 := ⟨f.precision - 1, by omega⟩
    rw [magnitude_eq, hs, hp, Nat.pow_succ, Nat.mul_div_cancel _ Nat.two_pos]
    show 2 ^ p * 2 ^ (q + 1).toNat * 2 ^ (-q).toNat = 2 ^ p * 2 * 2 ^ (-(q + 1)).toNat
    rw [← Nat.pow_add, ← Nat.pow_add, ← Nat.pow_succ, ← Nat.pow_add]
    congr 1
    omega
  · rw [if_neg (by omega)]
    refine ⟨_, _, rfl, ?_⟩
    have hq : q.toNat = 0 := by omega
    rw [magnitude_eq, hq, Nat.pow_zero, Nat.mul_one]

end BinaryFormat

/-! ### Decimal text -/

namespace Decimal

open BinaryFormat

/-- **Reading a decimal text gives a number of the format.** -/
theorem contains_read {f : BinaryFormat} (hp : 0 < f.precision)
    (hrange : f.minExponent ≤ f.maxExponent) {text : String} {x : Binary}
    (h : read f text = some x) : f.Contains x := by
  rw [read] at h
  dsimp only at h
  split at h
  · obtain rfl := Option.some.inj h
    trivial
  · split at h
    · obtain rfl := Option.some.inj h
      trivial
    · obtain ⟨l, -, rfl⟩ := Option.map_eq_some_iff.mp h
      have hzero : f.Contains (.finite l.negative 0 f.minExponent) :=
        ⟨Nat.two_pow_pos _, Int.le_refl _, hrange⟩
      rw [Literal.toBinary]
      split
      · exact hzero
      · split
        · trivial
        · split
          · exact hzero
          · split
            · exact contains_round hp hrange _ Nat.one_pos
            · exact contains_round hp hrange _ (Nat.pow_pos (by decide))

end Decimal
end LiveSketch
