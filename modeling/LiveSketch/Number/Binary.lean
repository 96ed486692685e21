/-!
# Binary floating-point numbers

Numbers of a fixed binary precision, taken apart into exact integers. Frame rates are single
precision and script numbers are double precision; everything that has to come out to the last bit —
reading decimal text, dividing rates, printing — is done here on exact fractions and rounded once.

## Main definitions

* `Binary` — a number of such a format: not a number, infinite, or `m * 2 ^ q` with a sign.
* `BinaryFormat` — precision and exponent range; `single` and `double`.
* `BinaryFormat.round` — the number of the format nearest to a fraction, a tie going to the even
  significand.
* `BinaryFormat.decode`, `BinaryFormat.encode` — the bit patterns.

## Implementation notes

`round` is the only place where precision is lost. It finds the exponent at which the significand
has exactly `precision` bits (or the least exponent, for subnormal numbers), divides, and rounds the
quotient.
-/

namespace LiveSketch

/-- The power of the core library, also where another instance of the same power is in scope. -/
@[default_instance 20000]
instance (priority := 10000) corePower {α : Type} [NatPow α] : Pow α Nat := instPowNat

/-- A floating-point number. A finite one is `significand * 2 ^ exponent`, with a sign that also
tells the two zeros apart. -/
inductive Binary where
  | nan
  | infinite (negative : Bool)
  | finite (negative : Bool) (significand : Nat) (exponent : Int)
deriving DecidableEq, Inhabited

/-- A binary interchange format: the number of significand bits, the exponent of the last bit of its
smallest numbers, and the width of the exponent field. -/
structure BinaryFormat where
  precision : Nat
  minExponent : Int
  exponentBits : Nat

/-- The quotient `n / d` rounded to the nearest integer, a tie going to the even one. -/
def divNearestEven (n d : Nat) : Nat :=
  let quotient := n / d
  let rest := 2 * (n % d)
  if rest < d ∨ (rest = d ∧ quotient % 2 = 0) then quotient else quotient + 1

namespace BinaryFormat

/-- Thirty-two bits: twenty-four of significand. -/
def single : BinaryFormat := ⟨24, -149, 8⟩

/-- Sixty-four bits: fifty-three of significand. -/
def double : BinaryFormat := ⟨53, -1074, 11⟩

/-- The exponent of the last bit of the largest numbers. -/
def maxExponent (f : BinaryFormat) : Int := f.minExponent + 2 ^ f.exponentBits - 3

/-- The fraction `n / d`, multiplied by `2 ^ e`, as a pair of naturals. -/
def scaleBy (n d : Nat) (e : Int) : Nat × Nat :=
  if 0 ≤ e then (n * 2 ^ e.toNat, d) else (n, d * 2 ^ (-e).toNat)

/-- The exponent at which the significand of `n / d` has `precision` bits, or the least exponent of
the format when it would have fewer. -/
def exponentFor (f : BinaryFormat) (n d : Nat) : Int :=
  let low : Int := n.log2 - d.log2 - f.precision
  let (n', d') := scaleBy n d (-low)
  let q := if d' * 2 ^ f.precision ≤ n' then low + 1 else low
  max q f.minExponent

/-- The number of the format nearest to `n / d` (with `0 < d`). -/
def round (f : BinaryFormat) (negative : Bool) (n d : Nat) : Binary :=
  if n = 0 then .finite negative 0 f.minExponent
  else
    let q := f.exponentFor n d
    let (n', d') := scaleBy n d (-q)
    let m := divNearestEven n' d'
    let (m, q) := if m = 2 ^ f.precision then (m / 2, q + 1) else (m, q)
    if f.maxExponent < q then .infinite negative else .finite negative m q

/-- Takes a bit pattern apart. -/
def decode (f : BinaryFormat) (bits : Nat) : Binary :=
  let fraction := bits % 2 ^ (f.precision - 1)
  let field := bits / 2 ^ (f.precision - 1) % 2 ^ f.exponentBits
  let negative := bits.testBit (f.precision - 1 + f.exponentBits)
  if field = 2 ^ f.exponentBits - 1 then
    if fraction = 0 then .infinite negative else .nan
  else if field = 0 then .finite negative fraction f.minExponent
  else .finite negative (2 ^ (f.precision - 1) + fraction) (f.minExponent + field - 1)

/-- The bit pattern of a number of the format; every number that is not one gets the same
pattern. -/
def encode (f : BinaryFormat) : Binary → Nat
  | .nan => (2 ^ (f.exponentBits + 1) - 1) * 2 ^ (f.precision - 2)
  | .infinite negative => sign negative + (2 ^ f.exponentBits - 1) * 2 ^ (f.precision - 1)
  | .finite negative m q =>
    if m < 2 ^ (f.precision - 1) then sign negative + m
    else sign negative + (q - f.minExponent + 1).toNat * 2 ^ (f.precision - 1)
      + (m - 2 ^ (f.precision - 1))
where
  /-- The sign bit. -/
  sign (negative : Bool) : Nat :=
    if negative then 2 ^ (f.precision - 1 + f.exponentBits) else 0

/-- The nearest number of the format to an integer. -/
def ofInt (f : BinaryFormat) (n : Int) : Binary := f.round (decide (n < 0)) n.natAbs 1

/-- The nearest number of the format to a number of any format. -/
def convert (f : BinaryFormat) : Binary → Binary
  | .nan => .nan
  | .infinite negative => .infinite negative
  | .finite negative m q =>
    let (n, d) := scaleBy m 1 q
    f.round negative n d

/-- The magnitude of a finite number as a fraction. -/
def magnitude (significand : Nat) (exponent : Int) : Nat × Nat := scaleBy significand 1 exponent

/-- The sum of two finite numbers of which neither is negative. -/
def addMagnitudes (f : BinaryFormat) : Binary → Binary → Binary
  | .finite _ m q, .finite _ m' q' =>
    let (n, d) := magnitude m q
    let (n', d') := magnitude m' q'
    f.round false (n * d' + n' * d) (d * d')
  | _, _ => .nan

/-- The quotient of two numbers of which neither is negative. -/
def divMagnitudes (f : BinaryFormat) : Binary → Binary → Binary
  | .finite _ m q, .finite _ m' q' =>
    let (n, d) := magnitude m q
    let (n', d') := magnitude m' q'
    if n' = 0 then (if n = 0 then .nan else .infinite false)
    else f.round false (n * d') (d * n')
  | .finite _ _ _, .infinite _ => .finite false 0 f.minExponent
  | .infinite _, .finite _ _ _ => .infinite false
  | _, _ => .nan

end BinaryFormat

namespace Binary

/-- Whether the number is a zero of either sign. -/
def isZero : Binary → Bool
  | finite _ 0 _ => true
  | _ => false

/-- The double-precision number that a machine float holds. -/
def ofFloat (x : Float) : Binary := BinaryFormat.double.decode x.toBits.toNat

/-- The machine float of a double-precision number. -/
def toFloat (b : Binary) : Float := Float.ofBits (BinaryFormat.double.encode b).toUInt64

end Binary

end LiveSketch
