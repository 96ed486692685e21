import LiveSketch.Script.Fault

/-!
# Operators

What the operators of the sketch language do with values.

## Main definitions

* `Datum.operate` — an operator between two values.
* `Datum.operateAlone` — an operator in front of a value.
* `Datum.contains?` — membership.
* `Datum.combine` — the new value of a variable that an operator is applied to.

## Implementation notes

`none` says that there is no such operator for these types; a fault says that there is one and that
it has no result. Integer arithmetic never wraps: a result outside of 64 bits is a fault. Shifts are
the exception, they drop bits.
-/

namespace LiveSketch

/-- The result of an operation, or why it has none. -/
abbrev Outcome := Except Cause Datum

namespace Datum

/-! ### Numbers -/

/-- An integer result, if it fits. -/
def checked (operation symbol : String) (a b result : Int) : Outcome :=
  if fits result then .ok (.int result)
  else .error (.arithmetic (.overflow operation (toString a) symbol (toString b)))

/-- A power of an integer. Exponents that cannot fit are not computed. -/
def power (a b : Int) : Outcome :=
  if b < 0 then .error (.arithmetic (.negativePower (toString a) (toString b)))
  else if a = 0 ∨ a = 1 then .ok (.int (if b = 0 then 1 else a))
  else if a = -1 then .ok (.int (if b % 2 = 0 then 1 else -1))
  else if 64 < b then .error (.arithmetic (.overflow "Exponential" (toString a) "**" (toString b)))
  else checked "Exponential" "**" a b (a ^ b.toNat)

/-- The integer with the lowest 64 bits of a number. -/
def wrap (n : Int) : Int := Int.bmod n (2 ^ 64)

/-- Shifts an integer to the left; a negative amount shifts to the right. -/
def shiftLeft (a b : Int) : Int :=
  if 64 ≤ b then 0
  else if 0 ≤ b then wrap (a * 2 ^ b.toNat)
  else if b ≤ -64 then (if a < 0 then -1 else 0)
  else Int.fdiv a (2 ^ (-b).toNat)

/-- The number of 64 bits that holds the bits of an integer. -/
def bits (n : Int) : Nat := (n % 2 ^ 64).toNat

/-- An operator between integers. -/
def operateInts (symbol : String) (a b : Int) : Option Outcome :=
  let truth (p : Bool) : Option Outcome := some (.ok (.bool p))
  match symbol with
  | "+" => some (checked "Addition" "+" a b (a + b))
  | "-" => some (checked "Subtraction" "-" a b (a - b))
  | "*" => some (checked "Multiplication" "*" a b (a * b))
  | "/" => some <|
    if b = 0 then .error (.arithmetic (.divisionByZero (toString a) (toString b)))
    else checked "Division" "/" a b (Int.tdiv a b)
  | "%" => some <|
    if b = 0 ∨ (a = leastInt ∧ b = -1) then
      .error (.arithmetic (.remainder (toString a) (toString b)))
    else .ok (.int (Int.tmod a b))
  | "**" => some (power a b)
  | "<<" => some (.ok (.int (shiftLeft a b)))
  | ">>" => some (.ok (.int (shiftLeft a (-b))))
  | "&" => some (.ok (.int (wrap (bits a &&& bits b))))
  | "|" => some (.ok (.int (wrap (bits a ||| bits b))))
  | "^" => some (.ok (.int (wrap (bits a ^^^ bits b))))
  | "==" => truth (decide (a = b))
  | "!=" => truth (decide (a ≠ b))
  | "<" => truth (decide (a < b))
  | "<=" => truth (decide (a ≤ b))
  | ">" => truth (decide (b < a))
  | ">=" => truth (decide (b ≤ a))
  | _ => none

/-- The remainder of a division that is rounded toward zero; it is exact. -/
def remainder (x y : Float) : Float :=
  match Binary.ofFloat x, Binary.ofFloat y with
  | .finite negative m q, .finite _ m' q' =>
    if m' = 0 then Binary.toFloat .nan
    else
      let low := min q q'
      let rest := (m * 2 ^ (q - low).toNat) % (m' * 2 ^ (q' - low).toNat)
      let (n, d) := BinaryFormat.scaleBy rest 1 low
      (BinaryFormat.double.round negative n d).toFloat
  | .finite _ _ _, .infinite _ => x
  | _, _ => Binary.toFloat .nan

/-- An operator between fractional numbers. -/
def operateFloats (symbol : String) (x y : Float) : Option Outcome :=
  let truth (p : Bool) : Option Outcome := some (.ok (.bool p))
  match symbol with
  | "+" => some (.ok (.float (x + y)))
  | "-" => some (.ok (.float (x - y)))
  | "*" => some (.ok (.float (x * y)))
  | "/" => some (.ok (.float (x / y)))
  | "%" => some (.ok (.float (remainder x y)))
  | "**" => some (.ok (.float (Float.pow x y)))
  | "==" => truth (x == y)
  | "!=" => truth (x != y)
  | "<" => truth (decide (x < y))
  | "<=" => truth (decide (x ≤ y))
  | ">" => truth (decide (y < x))
  | ">=" => truth (decide (y ≤ x))
  | _ => none

/-! ### Truth values and texts -/

/-- An operator between truth values. -/
def operateBools (symbol : String) (a b : Bool) : Option Outcome :=
  let truth (p : Bool) : Option Outcome := some (.ok (.bool p))
  match symbol with
  | "&" => truth (a && b)
  | "|" => truth (a || b)
  | "^" => truth (a != b)
  | "==" => truth (a == b)
  | "!=" => truth (a != b)
  | "<" => truth (!a && b)
  | "<=" => truth (!a || b)
  | ">" => truth (a && !b)
  | ">=" => truth (a || !b)
  | _ => none

/-- The first occurrence of a text in another one, as the number of characters in front of it. -/
def findIn (needle : List Char) : List Char → Option Nat
  | [] => if needle.isEmpty then some 0 else none
  | c :: rest =>
    if needle.isPrefixOf (c :: rest) then some 0 else (findIn needle rest).map (· + 1)

/-- A text without the occurrences of another one. The first argument bounds their number. -/
def withoutText (needle : List Char) : Nat → List Char → List Char
  | 0, cs => cs
  | fuel + 1, cs =>
    match findIn needle cs with
    | none => cs
    | some i => cs.take i ++ withoutText needle fuel (cs.drop (i + needle.length))

/-- The first text without the second one. -/
def minusText (s t : String) : String :=
  if t = "" then s else String.ofList (withoutText t.toList s.length s.toList)

/-- An operator between texts. -/
def operateTexts (symbol : String) (s t : String) : Option Outcome :=
  let truth (p : Bool) : Option Outcome := some (.ok (.bool p))
  match symbol with
  | "+" => some (.ok (.text (s ++ t)))
  | "-" => some (.ok (.text (minusText s t)))
  | "==" => truth (s == t)
  | "!=" => truth (s != t)
  | "<" => truth (decide (s < t))
  | "<=" => truth (!decide (t < s))
  | ">" => truth (decide (t < s))
  | ">=" => truth (!decide (s < t))
  | _ => none

/-- An operator between characters. They make a text together, and are ordered. -/
def operateChars (symbol : String) (c d : Char) : Option Outcome :=
  if symbol = "-" then none
  else operateTexts symbol (String.singleton c) (String.singleton d)

/-! ### All types -/

/-- Comparisons that have the same answer for all values of two types: values of different types are
not equal, and not in any order. -/
def unrelated (symbol : String) : Option Outcome :=
  if symbol = "!=" then some (.ok (.bool true))
  else if ["==", "<", "<=", ">", ">="].contains symbol then some (.ok (.bool false))
  else none

/-- Equality and inequality of two values of one type. -/
def equality (symbol : String) (a b : Datum) : Option Outcome :=
  if symbol = "==" then some (.ok (.bool (same a b)))
  else if symbol = "!=" then some (.ok (.bool (!same a b)))
  else none

/-- An operator between two values. -/
def operate (symbol : String) (left right : Datum) : Option Outcome :=
  match left, right with
  | int a, int b => operateInts symbol a b
  | float x, float y => operateFloats symbol x y
  | int a, float y => operateFloats symbol (Float.ofInt a) y
  | float x, int b => operateFloats symbol x (Float.ofInt b)
  | bool a, bool b => operateBools symbol a b
  | text s, text t => operateTexts symbol s t
  | char c, char d => operateChars symbol c d
  | char c, text t =>
    if symbol = "-" then none else operateTexts symbol (String.singleton c) t
  | text s, char d => operateTexts symbol s (String.singleton d)
  | unit, unit => (equality symbol unit unit).or (unrelated symbol)
  | text s, d => if symbol = "+" then some (.ok (.text (s ++ d.printed))) else unrelated symbol
  | d, text t => if symbol = "+" then some (.ok (.text (d.printed ++ t))) else unrelated symbol
  | char c, unit => if symbol = "+" then some (.ok (.text (String.singleton c))) else unrelated symbol
  | unit, char c => if symbol = "+" then some (.ok (.text (String.singleton c))) else unrelated symbol
  | array xs, array ys =>
    if symbol = "+" then some (.ok (.array (xs ++ ys))) else equality symbol left right
  | map xs, map ys =>
    if symbol = "+" then some (.ok (.map (Fields.merge xs ys))) else equality symbol left right
  | bytes xs, bytes ys =>
    if symbol = "+" then some (.ok (.bytes (xs ++ ys))) else equality symbol left right
  | pointer _ _, pointer _ _ => equality symbol left right
  | range _ _ c, range _ _ d => if c = d then equality symbol left right else unrelated symbol
  | instant, instant =>
    if symbol = "-" then some (.ok (.float 0)) else (equality symbol unit unit)
  | instant, int _ => if symbol = "+" || symbol = "-" then some (.ok instant) else unrelated symbol
  | instant, float _ =>
    if symbol = "+" || symbol = "-" then some (.ok instant) else unrelated symbol
  | sequence _, sequence _ => none
  | _, _ => unrelated symbol

/-- An operator in front of a value. -/
def operateAlone (symbol : String) (d : Datum) : Option Outcome :=
  match symbol, d with
  | "-", int n =>
    some (if fits (-n) then .ok (.int (-n)) else .error (.arithmetic (.negativeOverflow n)))
  | "-", float x => some (.ok (.float (-x)))
  | "+", int n => some (.ok (.int n))
  | "+", float x => some (.ok (.float x))
  | "!", bool b => some (.ok (.bool !b))
  | _, _ => none

/-- Whether a value holds another one, for types that can say. -/
def contains? (whole part : Datum) : Option Bool :=
  match whole, part with
  | array items, d => some (items.any fun item => same item d)
  | text s, text t => some (findIn t.toList s.toList).isSome
  | text s, char c => some (s.toList.contains c)
  | map fields, text name => some (Fields.has fields name)
  | range start stop closed, int n =>
    some (decide (start ≤ n) && (decide (n < stop) || (closed && decide (n = stop))))
  | bytes items, int n => some (items.any fun b => decide ((b.toNat : Int) = n % 256))
  | _, _ => none

/-- The new value of something that an operator is applied to. An array takes one more item. -/
def combine (symbol : String) (old new : Datum) : Option Outcome :=
  match old, new with
  | array xs, array ys => if symbol = "+" then some (.ok (.array (xs ++ ys))) else none
  | array xs, d => if symbol = "+" then some (.ok (.array (xs ++ [d]))) else operate symbol old d
  | bytes xs, int n =>
    if symbol = "+" then some (.ok (.bytes (xs ++ [(bits n).toUInt8]))) else operate symbol old new
  | _, _ => operate symbol old new

end Datum

end LiveSketch
