import LiveSketch.Number.Binary

/-!
# Decimal text of numbers

Reading decimal text into a binary format, and writing a binary number with as few digits as read
back to it.

## Main definitions

* `Decimal.read` — the nearest number of a format to a decimal text.
* `Decimal.shortest` — the digits and exponent of the shortest decimal that reads back.
* `Decimal.plain`, `Decimal.scientific`, `Decimal.fixed` — layouts of those digits.

## Implementation notes

**Shortest digits.** The decimals that read back to `m * 2 ^ q` are those in the interval halfway to
its two neighbours, the ends belonging to it exactly when `m` is even. If a decimal with a given
last place lies in that interval, so does one of the two nearest to the number on that place, so it
is enough to look at these two, place by place, from one digit upwards.

**Range.** A decimal exponent far outside a format's range decides the answer before any power of
ten is computed.
-/

namespace LiveSketch
namespace Decimal

/-- A decimal number: `digits * 10 ^ exponent`, with a sign. -/
structure Literal where
  negative : Bool
  digits : Nat
  exponent : Int
deriving Inhabited

/-- Whether a character is one of the ten ASCII digits. -/
def isDigit (c : Char) : Bool := decide (48 ≤ c.toNat ∧ c.toNat ≤ 57)

/-- The value of a digit sequence. -/
def digitsValue (cs : List Char) : Nat := cs.foldl (fun n c => 10 * n + (c.toNat - 48)) 0

/-- An optional sign in front of a text, and what follows it. -/
def takeSign : List Char → Bool × List Char
  | '-' :: rest => (true, rest)
  | '+' :: rest => (false, rest)
  | rest => (false, rest)

/-- The exponent part of a decimal text: nothing, or `e` with a signed digit sequence. -/
def readExponent : List Char → Option Int
  | [] => some 0
  | c :: rest =>
    if c = 'e' ∨ c = 'E' then
      let (negative, ds) := takeSign rest
      if ds.isEmpty || !ds.all isDigit then none
      else some (if negative then -(digitsValue ds : Int) else digitsValue ds)
    else none

/-- Reads digits with an optional point and exponent. At least one digit has to be there. -/
def readUnsigned (negative : Bool) (cs : List Char) : Option Literal :=
  let whole := cs.takeWhile isDigit
  let rest := cs.dropWhile isDigit
  let (fraction, rest) := match rest with
    | '.' :: more => (more.takeWhile isDigit, more.dropWhile isDigit)
    | _ => ([], rest)
  if whole.isEmpty && fraction.isEmpty then none
  else (readExponent rest).map fun e =>
    ⟨negative, digitsValue (whole ++ fraction), e - fraction.length⟩

/-- The number of decimal digits of a natural number; zero has one. -/
def digitCount (n : Nat) : Nat := (Nat.toDigits 10 n).length

/-- The nearest number of the format to a decimal. -/
def Literal.toBinary (f : BinaryFormat) (l : Literal) : Binary :=
  let size : Int := digitCount l.digits + l.exponent
  if l.digits = 0 then .finite l.negative 0 f.minExponent
  else if 400 < size then .infinite l.negative
  else if size < -400 then .finite l.negative 0 f.minExponent
  else if 0 ≤ l.exponent then f.round l.negative (l.digits * 10 ^ l.exponent.toNat) 1
  else f.round l.negative l.digits (10 ^ (-l.exponent).toNat)

/-- The lower-case form of an ASCII text. -/
def lowerAscii (cs : List Char) : List Char := cs.map Char.toLower

/-- Reads a number: an optional sign, then digits, or a name of infinity or of not-a-number in any
case. -/
def read (f : BinaryFormat) (text : String) : Option Binary :=
  let (negative, cs) := takeSign text.toList
  let name := String.ofList (lowerAscii cs)
  if name = "inf" ∨ name = "infinity" then some (.infinite negative)
  else if name = "nan" then some .nan
  else (readUnsigned negative cs).map (Literal.toBinary f)

/-- The fraction `n / d`, multiplied by `10 ^ e`, as a pair of naturals. -/
def scaleTen (n d : Nat) (e : Int) : Nat × Nat :=
  if 0 ≤ e then (n * 10 ^ e.toNat, d) else (n, d * 10 ^ (-e).toNat)

/-- The power of ten that a positive fraction starts at: the largest `e` with `10 ^ e ≤ n / d`. -/
def leadingExponent (n d : Nat) : Int :=
  let guess : Int := (digitCount n : Int) - digitCount d
  let (n', d') := scaleTen n d (-guess)
  if d' ≤ n' then guess else guess - 1

/-- The multiples of `10 ^ place` on both sides of the fraction `n / d` that lie within the interval
from `lo / d` to `hi / d`, the nearer one if both do. `closed` says whether the ends belong to the
interval. -/
def candidate (n lo hi d : Nat) (closed : Bool) (place : Int) : Option Nat :=
  let (num, den) := scaleTen n d (-place)
  let (low, _) := scaleTen lo d (-place)
  let (high, _) := scaleTen hi d (-place)
  let below := num / den
  let above := below + 1
  let inside (k : Nat) : Bool :=
    if closed then decide (low ≤ k * den ∧ k * den ≤ high)
    else decide (low < k * den ∧ k * den < high)
  match inside below, inside above with
  | true, true => some (if num - below * den ≤ above * den - num then below else above)
  | true, false => some below
  | false, true => some above
  | false, false => none

/-- Looks for the shortest decimal, from the leading place `place` downwards. -/
def search (n lo hi d : Nat) (closed : Bool) : Nat → Int → Nat × Int
  | 0, place => let (num, den) := scaleTen n d (-place); (num / den, place)
  | fuel + 1, place =>
    match candidate n lo hi d closed place with
    | some digits => (digits, place)
    | none => search n lo hi d closed fuel (place - 1)

/-- Drops trailing zeros from a digit string of value `digits * 10 ^ place`. -/
def dropZeros : Nat → Nat → Int → Nat × Int
  | 0, digits, place => (digits, place)
  | fuel + 1, digits, place =>
    if digits % 10 = 0 ∧ digits ≠ 0 then dropZeros fuel (digits / 10) (place + 1)
    else (digits, place)

/-- The shortest decimal that reads back as `m * 2 ^ q`, for `0 < m`: its digits and the power of
ten that the last of them stands for. -/
def shortest (f : BinaryFormat) (m : Nat) (q : Int) : Nat × Int :=
  -- everything is measured in quarters of the last place
  let boundary := decide (m = 2 ^ (f.precision - 1) ∧ f.minExponent < q)
  let (scale, d) := BinaryFormat.scaleBy 1 4 q
  let n := 4 * m * scale
  let hi := (4 * m + 2) * scale
  let lo := (4 * m - (if boundary then 1 else 2)) * scale
  let (digits, place) := search n lo hi d (m % 2 == 0) 20 (leadingExponent n d)
  dropZeros 20 digits place

/-- Digits of a natural number. -/
def digitText (n : Nat) : List Char := Nat.toDigits 10 n

/-- Positional layout of `digits * 10 ^ place`, with no more than the digits need. -/
def plain (digits : Nat) (place : Int) : String :=
  let ds := digitText digits
  if 0 ≤ place then String.ofList (ds ++ List.replicate place.toNat '0')
  else
    let count := (-place).toNat
    if count < ds.length then
      String.ofList (ds.take (ds.length - count) ++ '.' :: ds.drop (ds.length - count))
    else String.ofList ('0' :: '.' :: (List.replicate (count - ds.length) '0' ++ ds))

/-- Scientific layout: one digit, a point if more follow, and the exponent. -/
def scientific (digits : Nat) (place : Int) : String :=
  let ds := digitText digits
  let exponent := place + ds.length - 1
  let significand := match ds with
    | first :: second :: rest => first :: '.' :: second :: rest
    | ds => ds
  String.ofList significand ++ "e" ++ toString exponent

/-- The number `n / d` with `places` digits after the point, rounded to nearest, a tie going to the
even digit. -/
def fixed (n d places : Nat) : String :=
  let scaled := divNearestEven (n * 10 ^ places) d
  let whole := toString (scaled / 10 ^ places)
  if places = 0 then whole
  else
    let ds := digitText (scaled % 10 ^ places)
    whole ++ "." ++ String.ofList (List.replicate (places - ds.length) '0' ++ ds)

end Decimal

/-- How a format writes its numbers: when it turns to scientific notation, and whether a whole
number keeps a fraction. Magnitudes are given as exponents of ten. -/
structure NumberStyle where
  /-- Whether a positive number, given by its shortest digits and their place, is written with an
  exponent. -/
  usesExponent : Nat → Int → Bool
  /-- Whether a whole number written positionally ends in `.0`. -/
  keepsFraction : Bool
  /-- The text of zero. -/
  zero : (negative : Bool) → String

namespace NumberStyle

/-- The text of a number in a style. -/
def render (style : NumberStyle) (f : BinaryFormat) : Binary → String
  | .nan => "NaN"
  | .infinite negative => if negative then "-inf" else "inf"
  | .finite negative m q =>
    if m = 0 then style.zero negative
    else
      let (digits, place) := Decimal.shortest f m q
      let sign := if negative then "-" else ""
      if style.usesExponent digits place then sign ++ Decimal.scientific digits place
      else if 0 ≤ place ∧ style.keepsFraction then sign ++ Decimal.plain digits place ++ ".0"
      else sign ++ Decimal.plain digits place

/-- Values handed to the host are written positionally with the fewest digits: `2`, `0.5`,
`100000000000000000000`. -/
def hostText : NumberStyle where
  usesExponent := fun _ _ => false
  keepsFraction := false
  zero := fun negative => if negative then "-0" else "0"

/-- Diagnostic text always shows that a number is fractional, and uses an exponent from `10 ^ 16` on
and below `10 ^ -4`. -/
def diagnostic : NumberStyle where
  usesExponent := fun digits place =>
    let exponent := place + Decimal.digitCount digits - 1
    decide (16 ≤ exponent ∨ exponent < -4)
  keepsFraction := true
  zero := fun negative => if negative then "-0.0" else "0.0"

end NumberStyle

end LiveSketch
