import LiveSketch.Number.Decimal
import LiveSketch.Script.Datum
import LiveSketch.Text.Quoted

/-!
# Texts of script values

How values are printed, inspected, and handed to the host.

## Main definitions

* `NumberStyle.script` — how scripts print numbers.
* `Datum.inspected` — a value as a part of another one, and in diagnostics.
* `Datum.printed`, `Datum.hostText` — a value on its own, as scripts and as the host show it.

## Implementation notes

The two outermost forms differ in the characters inside of arrays and maps only: the host quotes
them.
-/

namespace LiveSketch

/-- Whether `digits * 10 ^ place` is below `bound * 10 ^ boundPlace`. -/
def Decimal.below (digits : Nat) (place : Int) (bound : Nat) (boundPlace : Int) : Bool :=
  let low := min place boundPlace
  decide (digits * 10 ^ (place - low).toNat < bound * 10 ^ (boundPlace - low).toNat)

/-- Scripts print numbers positionally from about `10 ^ -13` up to about `10 ^ 13`, and always show
that they are fractional. -/
def NumberStyle.script : NumberStyle where
  usesExponent := fun digits place =>
    Decimal.below 9999999827968 0 digits place ||
      Decimal.below digits place 99999998245167 (-27)
  keepsFraction := true
  zero := fun _ => "0.0"

namespace Datum

/-- The text of a number in a style. -/
def numberText (style : NumberStyle) (x : Float) : String :=
  style.render .double (Binary.ofFloat x)

/-- A character in single quotes. -/
def quotedChar (c : Char) : String :=
  if c = '\x27' then "\x27\\\x27\x27"
  else if c = '\x22' then "\x27\x22\x27"
  else "\x27" ++ String.ofList (Quoted.escape c) ++ "\x27"

/-- Two hexadecimal digits. -/
def byteText (b : UInt8) : String :=
  let ds := Nat.toDigits 16 b.toNat
  String.ofList (List.replicate (2 - ds.length) '0' ++ ds)

/-- Bytes in groups of eight. -/
def bytesText (bytes : List UInt8) : String :=
  let pieces := bytes.zipIdx.map fun (b, i) =>
    (if 0 < i ∧ i % 8 = 0 then " " else "") ++ byteText b
  "[" ++ String.join pieces ++ "]"

mutual

/-- A value as a part of another one, and in diagnostics; texts are quoted. -/
def inspected (quoteChars : Bool) : Datum → String
  | unit => "()"
  | bool b => if b then "true" else "false"
  | int n => toString n
  | float x => numberText .diagnostic x
  | char c => if quoteChars then quotedChar c else String.singleton c
  | text s => Quoted.text s
  | array items => "[" ++ ", ".intercalate (inspectedItems quoteChars items) ++ "]"
  | map fields => "#\x7b" ++ ", ".intercalate (inspectedFields quoteChars fields) ++ "\x7d"
  | bytes items => bytesText items
  | pointer name _ => "Fn(" ++ name ++ ")"
  | range start stop closed => toString start ++ (if closed then "..=" else "..") ++ toString stop
  | sequence _ => "<iterator>"
  | instant => "<timestamp>"

/-- The items of an array. -/
def inspectedItems (quoteChars : Bool) : List Datum → List String
  | [] => []
  | d :: rest => inspected quoteChars d :: inspectedItems quoteChars rest

/-- The fields of a map. -/
def inspectedFields (quoteChars : Bool) : List (String × Datum) → List String
  | [] => []
  | (name, d) :: rest =>
    (Quoted.text name ++ ": " ++ inspected quoteChars d) :: inspectedFields quoteChars rest

end

/-- A value on its own: nothing for no value, texts and characters as they are. -/
def shown (quoteChars : Bool) : Datum → String
  | unit => ""
  | float x => numberText .script x
  | char c => String.singleton c
  | text s => s
  | d => d.inspected quoteChars

/-- What a script prints. -/
def printed (d : Datum) : String := d.shown false

/-- What a script shows in diagnostics. -/
def diagnosed (d : Datum) : String := d.inspected false

/-- What the host shows. -/
def hostText (d : Datum) : String := d.shown true

end Datum

end LiveSketch
