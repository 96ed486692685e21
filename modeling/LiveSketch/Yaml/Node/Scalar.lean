import LiveSketch.Yaml.Node
import LiveSketch.Yaml.Token

/-!
# The meaning of YAML scalars

Which scalar stands for nothing, a truth value, a number or a text.

## Main definitions

* `Node.integer?`, `Node.real?` — the numbers.
* `Node.ofPlain` — a plain scalar.
* `Node.ofScalar` — any scalar, with its tag.

## Implementation notes

Integers are decimal, or hexadecimal, octal or binary behind `0x`, `0o` or `0b`. Digits with a zero
in front are a text. Integers of more than 64 bits are read as such but have no meaning; those of
more than 128 bits are read as numbers with a fraction.
-/

namespace LiveSketch
namespace Yaml
namespace Node

/-- Removes a given start of a text. -/
def after? (start : String) (cs : List Char) : Option (List Char) :=
  if start.toList.isPrefixOf cs then some (cs.drop start.length) else none

/-- Removes one plus sign. -/
def dropPlus : List Char → List Char
  | '+' :: rest => rest
  | cs => cs

/-- The value of a digit in a base. -/
def digit? (base : Nat) (c : Char) : Option Nat :=
  let n :=
    if '0' ≤ c ∧ c ≤ '9' then c.toNat - 48
    else if 'a' ≤ c ∧ c ≤ 'z' then c.toNat - 87
    else if 'A' ≤ c ∧ c ≤ 'Z' then c.toNat - 55
    else base
  if n < base then some n else none

/-- The number that one or more digits write in a base. -/
def digits? (base : Nat) (cs : List Char) : Option Nat :=
  if cs.isEmpty then none
  else cs.foldl (fun n c => do return (← n) * base + (← digit? base c)) (some 0)

/-- The bases that have a mark. -/
def markedBases : List (String × Nat) := [("0x", 16), ("0o", 8), ("0b", 2)]

/-- A number with a base mark. -/
def marked? (cs : List Char) : Option Nat :=
  markedBases.findSome? fun (mark, base) => (after? mark cs).bind (digits? base)

/-- Whether a text consists of digits with a zero in front. -/
def hasLeadingZero (cs : List Char) : Bool :=
  match cs with
  | '-' :: '0' :: d :: rest => (d :: rest).all Decimal.isDigit
  | '+' :: '0' :: d :: rest => (d :: rest).all Decimal.isDigit
  | '0' :: d :: rest => (d :: rest).all Decimal.isDigit
  | _ => false

/-- An integer of any size. -/
def integer? (cs : List Char) : Option Int :=
  match cs with
  | '-' :: rest =>
    match marked? rest with
    | some n => some (-(n : Int))
    | none => if hasLeadingZero cs then none else (digits? 10 rest).map fun n => -(n : Int)
  | _ =>
    match marked? (dropPlus cs) with
    | some n => some (n : Int)
    | none => if hasLeadingZero cs then none else (digits? 10 (dropPlus cs)).map (↑·)

/-- How much of an integer the notation can hold. -/
inductive Extent where
  | word
  | wide
  | unbounded
deriving DecidableEq

/-- The extent of an integer. -/
def extent (n : Int) : Extent :=
  if -2 ^ 63 ≤ n ∧ n < 2 ^ 64 then .word
  else if -2 ^ 127 ≤ n ∧ n < 2 ^ 128 then .wide
  else .unbounded

/-- A number with a fraction, an exponent, or a name. -/
def real? (cs : List Char) : Option Binary :=
  let signless := dropPlus cs
  if cs.head? = some '+' ∧ (signless.head? = some '+' ∨ signless.head? = some '-') then none
  else
    let s := String.ofList signless
    let whole := String.ofList cs
    if s = ".inf" ∨ s = ".Inf" ∨ s = ".INF" then some (.infinite false)
    else if whole = "-.inf" ∨ whole = "-.Inf" ∨ whole = "-.INF" then some (.infinite true)
    else if whole = ".nan" ∨ whole = ".NaN" ∨ whole = ".NAN" then some .nan
    else
      match Decimal.read .double s with
      | some (.finite negative m q) => some (.finite negative m q)
      | _ => none

/-- Whether a text stands for nothing. -/
def isNullText (s : String) : Bool := s = "null" || s = "Null" || s = "NULL" || s = "~"

/-- A truth value. -/
def bool? (s : String) : Option Bool :=
  if s = "true" ∨ s = "True" ∨ s = "TRUE" then some true
  else if s = "false" ∨ s = "False" ∨ s = "FALSE" then some false
  else none

/-- The text for an integer of more than 64 bits. -/
def tooWide (n : Int) : String :=
  let width := if n < 0 then "i128" else "u128"
  s!"invalid type: integer \x60{n}\x60 as {width}, expected any YAML value"

/-- An integer, or nothing if the text is not one of those that can be written. -/
def ofInteger? (s : String) : Option (Except String Node) :=
  (integer? s.toList).bind fun n =>
    match extent n with
    | .word => some (.ok (.integer n))
    | .wide => some (.error (tooWide n))
    | .unbounded => none

/-- A plain scalar, or the text of the fault it is. -/
def ofPlain (s : String) : Except String Node :=
  if s = "" ∨ isNullText s then .ok .null
  else
    match bool? s with
    | some b => .ok (.bool b)
    | none =>
      match ofInteger? s with
      | some result => result
      | none =>
        match (if hasLeadingZero s.toList then none else real? s.toList) with
        | some x => .ok (.real x)
        | none => .ok (.text s)

/-- The start of the tags of the standard types. -/
def standardTag (name : String) : String := "tag:yaml.org,2002:" ++ name

/-- The text for a scalar that is not of the type its tag names. -/
def notOfType (s expected : String) : String :=
  s!"invalid value: string {Quoted.text s}, expected {expected}"

/-- A scalar. A standard tag forces its type; any other tag makes a text. -/
def ofScalar (tag : Option String) (s : String) (style : ScalarStyle) : Except String Node :=
  match tag with
  | none => if style = .plain then ofPlain s else .ok (.text s)
  | some tag =>
    if tag = standardTag "bool" then
      match bool? s with
      | some b => .ok (.bool b)
      | none => .error (notOfType s "a boolean")
    else if tag = standardTag "int" then
      (ofInteger? s).getD (.error (notOfType s "an integer"))
    else if tag = standardTag "float" then
      match real? s.toList with
      | some x => .ok (.real x)
      | none => .error (notOfType s "a float")
    else if tag = standardTag "null" then
      if isNullText s then .ok .null else .error (notOfType s "null")
    else .ok (.text s)

end Node
end Yaml
end LiveSketch
