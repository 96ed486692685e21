import LiveSketch.Script.Library.Basic
import LiveSketch.Script.Token.Lexer

/-!
# Built-in functions: numbers

Conversion, comparison and the usual functions of numbers.

## Main definitions

* `Library.ofInt?`, `Library.ofFloat?` — functions of one number.
* `Library.number?` — all of them, by name.
-/

namespace LiveSketch
namespace Library

/-- The integer below a fractional number, toward zero, if it fits. -/
def toInt (x : Float) : Outcome :=
  let tooLarge : Outcome :=
    .error (.arithmetic (.conversion "to_int" (Datum.numberText .hostText x)))
  match Binary.ofFloat x with
  | .nan => .ok (.int 0)
  | .infinite _ => tooLarge
  | .finite negative m q =>
    let (n, d) := BinaryFormat.magnitude m q
    let whole : Int := (n / d : Nat)
    let signed := if negative then -whole else whole
    if decide (signed < -(2 ^ 63)) || decide (2 ^ 63 < signed) then tooLarge
    else .ok (.int (max Datum.leastInt (min Datum.greatestInt signed)))

/-- The digits of a number's 64 bits in a base that is a power of two. -/
def digitsIn (base : Nat) (n : Int) : String := String.ofList (Nat.toDigits base (Datum.bits n))

/-- The sign of an integer. -/
def signOf (n : Int) : Int := if n < 0 then -1 else if n = 0 then 0 else 1

/-- Functions of one integer. -/
def ofInt? (name : String) (n : Int) : Option Answer :=
  match name with
  | "abs" =>
    if Datum.fits n.natAbs then give (.int n.natAbs) else stop (.arithmetic (.negativeOverflow n))
  | "sign" => give (.int (signOf n))
  | "is_zero" => give (.bool (decide (n = 0)))
  | "is_odd" => give (.bool (decide (n % 2 = 1)))
  | "is_even" => give (.bool (decide (n % 2 = 0)))
  | "to_int" => give (.int n)
  | "to_float" => give (.float (Float.ofInt n))
  | "to_hex" => give (.text (digitsIn 16 n))
  | "to_octal" => give (.text (digitsIn 8 n))
  | "to_binary" => give (.text (digitsIn 2 n))
  | _ => none

/-- The functions that give a number for a number. -/
def curves : List (String × (Float → Float)) :=
  [("sin", Float.sin), ("cos", Float.cos), ("tan", Float.tan), ("sinh", Float.sinh),
   ("cosh", Float.cosh), ("tanh", Float.tanh), ("asin", Float.asin), ("acos", Float.acos),
   ("atan", Float.atan), ("asinh", Float.asinh), ("acosh", Float.acosh), ("atanh", Float.atanh),
   ("sqrt", Float.sqrt), ("exp", Float.exp), ("ln", Float.log), ("log", Float.log10),
   ("abs", Float.abs), ("floor", Float.floor), ("ceiling", Float.ceil), ("round", Float.round),
   ("int", fun x => if x < 0 then Float.ceil x else Float.floor x),
   ("fraction", fun x => x - (if x < 0 then Float.ceil x else Float.floor x)),
   ("to_degrees", fun x => x * (180.0 / 3.141592653589793)),
   ("to_radians", fun x => x * (3.141592653589793 / 180.0))]

/-- Functions of one fractional number. -/
def ofFloat? (name : String) (x : Float) : Option Answer :=
  match name with
  | "sign" => give (.int (if x < 0 then -1 else if 0 < x then 1 else 0))
  | "is_zero" => give (.bool (x == 0))
  | "is_nan" => give (.bool x.isNaN)
  | "is_finite" => give (.bool x.isFinite)
  | "is_infinite" => give (.bool x.isInf)
  | "to_int" => some (answer (toInt x))
  | _ => ((curves.lookup name).map fun f => give (.float (f x))).getD none

/-- The characters of a text without the blanks at both ends. -/
def trimmed (cs : List Char) : List Char :=
  ((cs.dropWhile Lexer.isBlank).reverse.dropWhile Lexer.isBlank).reverse

/-- The value of a digit in some base up to thirty-six. -/
def digitOf? (base : Nat) (c : Char) : Option Nat :=
  let value? :=
    if '0' ≤ c ∧ c ≤ '9' then some (c.toNat - 48)
    else if 'a' ≤ c ∧ c ≤ 'z' then some (c.toNat - 87)
    else if 'A' ≤ c ∧ c ≤ 'Z' then some (c.toNat - 55)
    else none
  value?.filter fun n => decide (n < base)

/-- The integer that a text is, in some base. -/
def parseInt (base : Nat) (s : String) : Outcome :=
  let refuse (reason : String) : Outcome := .error (.arithmetic (.badNumber "integer" s reason))
  let cs := trimmed s.toList
  let (negative, digits) := Decimal.takeSign cs
  if cs.isEmpty then refuse "cannot parse integer from empty string"
  else
    match digits.mapM (digitOf? base) with
    | none => refuse "invalid digit found in string"
    | some [] => refuse "invalid digit found in string"
    | some values =>
      let size : Int := (values.foldl (fun n d => base * n + d) 0 : Nat)
      let n := if negative then -size else size
      if Datum.fits n then .ok (.int n)
      else refuse (if negative then "number too small to fit in target type"
        else "number too large to fit in target type")

/-- The fractional number that a text is. -/
def parseFloat (s : String) : Outcome :=
  let cs := trimmed s.toList
  match Decimal.read .double (String.ofList cs) with
  | some x => .ok (.float x.toFloat)
  | none =>
    let reason := if cs.isEmpty then "cannot parse float from empty string" else "invalid float literal"
    .error (.arithmetic (.badNumber "floating-point" s reason))

/-- The smaller or the larger one of two numbers or texts. -/
def extreme? (larger : Bool) (a b : Datum) : Option Answer :=
  let ordered : Option Bool := match a, b with
    | .int m, .int n => some (decide (m ≤ n))
    | .int m, .float y => some (decide (Float.ofInt m ≤ y))
    | .float x, .int n => some (decide (x ≤ Float.ofInt n))
    | .float x, .float y => some (decide (x ≤ y))
    | .text s, .text t => some (!decide (t < s))
    | .char c, .char d => some (decide (c ≤ d))
    | _, _ => none
  let chosen (d : Datum) : Datum := match a, b, d with
    | .int _, .float _, .int n => .float (Float.ofInt n)
    | .float _, .int _, .int n => .float (Float.ofInt n)
    | _, _, d => d
  match ordered with
  | some p => give (chosen (if p == larger then b else a))
  | none => none

/-- The functions of numbers. -/
def number? (name : String) (args : List Datum) : Option Answer :=
  match name, args with
  | "min", [a, b] => extreme? false a b
  | "max", [a, b] => extreme? true a b
  | "PI", [] => give (.float 3.141592653589793)
  | "E", [] => give (.float 2.718281828459045)
  | "atan", [.float x, .float y] => give (.float (Float.atan2 x y))
  | "hypot", [.float x, .float y] => give (.float (Float.sqrt (x * x + y * y)))
  | "log", [.float x, .float base] => give (.float (Float.log x / Float.log base))
  | "parse_int", [.text s] => some (answer (parseInt 10 s))
  | "parse_int", [.text s, .int radix] =>
    if 2 ≤ radix ∧ radix ≤ 36 then some (answer (parseInt radix.toNat s))
    else stop (.arithmetic (.badRadix radix))
  | "parse_float", [.text s] => some (answer (parseFloat s))
  | name, [.int n] => ofInt? name n
  | name, [.float x] => ofFloat? name x
  | "to_int", [.char c] => give (.int c.toNat)
  | _, _ => none

end Library

end LiveSketch
