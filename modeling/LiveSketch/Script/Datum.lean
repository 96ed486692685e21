import LiveSketch.Number.Binary

/-!
# Script values

What variables of a sketch hold.

## Main definitions

* `Datum` — a value of the sketch language.
* `Datum.typeName` — the name of its type.
* `Datum.Fields` — the fields of a map, sorted by name.
* `Datum.same` — equality of values.

## Implementation notes

Integers are kept in 64 bits by the operations that make them (`Datum.fits`). The fields of a map are
a list without repeated names, in order of the names, which is the order in which a map is shown.
-/

namespace LiveSketch

/-- A value of the sketch language. -/
inductive Datum where
  | unit
  | bool (b : Bool)
  | int (n : Int)
  | float (x : Float)
  | char (c : Char)
  | text (s : String)
  | array (items : List Datum)
  | map (fields : List (String × Datum))
  | bytes (items : List UInt8)
  /-- A function by name, with arguments that come before those of a call. -/
  | pointer (name : String) (bound : List Datum)
  /-- The integers from `start` to `stop`, the last one belonging to it if it is closed. -/
  | range (start stop : Int) (closed : Bool)
  /-- Values that can only be gone through. -/
  | sequence (items : List Datum)
  | instant
deriving Inhabited

namespace Datum

/-- The name of the type of a value. -/
def typeName : Datum → String
  | unit => "()"
  | bool _ => "bool"
  | int _ => "i64"
  | float _ => "f64"
  | char _ => "char"
  | text _ => "string"
  | array _ => "array"
  | map _ => "map"
  | bytes _ => "blob"
  | pointer _ _ => "Fn"
  | range _ _ closed => if closed then "range=" else "range"
  | sequence _ => "iterator"
  | instant => "timestamp"

/-- The type of an argument as the list of a missing function's arguments shows it. -/
def argumentType : Datum → String
  | text _ => "&str | ImmutableString | String"
  | d => d.typeName

/-- The integers of the language. -/
def fits (n : Int) : Bool := decide (-(2 ^ 63) ≤ n ∧ n < 2 ^ 63)

/-- The least integer. -/
def leastInt : Int := -(2 ^ 63)

/-- The greatest integer. -/
def greatestInt : Int := 2 ^ 63 - 1

/-! ### Fields of a map -/

/-- The fields of a map, sorted by name. -/
abbrev Fields := List (String × Datum)

namespace Fields

/-- The value of a field. -/
def get? (fields : Fields) (name : String) : Option Datum := fields.lookup name

/-- Whether there is a field of a name. -/
def has (fields : Fields) (name : String) : Bool := (fields.get? name).isSome

/-- Sets a field, at its place in the order of the names. -/
def set (name : String) (value : Datum) : Fields → Fields
  | [] => [(name, value)]
  | (n, v) :: rest =>
    if n = name then (name, value) :: rest
    else if name < n then (name, value) :: (n, v) :: rest
    else (n, v) :: set name value rest

/-- Removes a field. -/
def erase (fields : Fields) (name : String) : Fields := fields.filter fun field => field.1 ≠ name

/-- Sets every field of a second map. -/
def merge (fields more : Fields) : Fields := more.foldl (fun all (n, v) => set n v all) fields

/-- Fields given in any order; of two with the same name the later one counts. -/
def ofList (pairs : List (String × Datum)) : Fields := merge [] pairs

end Fields

/-! ### Equality -/

mutual

/-- Whether two values are equal. An integer equals the number of the other kind with its value;
otherwise values of different types differ. -/
def same : Datum → Datum → Bool
  | unit, unit => true
  | bool a, bool b => a == b
  | int a, int b => a == b
  | float a, float b => a == b
  | int a, float b => Float.ofInt a == b
  | float a, int b => a == Float.ofInt b
  | char a, char b => a == b
  | text a, text b => a == b
  | char a, text b => String.singleton a == b
  | text a, char b => a == String.singleton b
  | array a, array b => sameItems a b
  | map a, map b => sameFields a b
  | bytes a, bytes b => a == b
  | pointer a as, pointer b bs => a == b && sameItems as bs
  | range a b c, range d e f => a == d && b == e && c == f
  | _, _ => false

/-- Whether two lists hold equal values. -/
def sameItems : List Datum → List Datum → Bool
  | [], [] => true
  | a :: as, b :: bs => same a b && sameItems as bs
  | _, _ => false

/-- Whether two maps have equal fields. -/
def sameFields : List (String × Datum) → List (String × Datum) → Bool
  | [], [] => true
  | (n, a) :: as, (m, b) :: bs => n == m && same a b && sameFields as bs
  | _, _ => false

end

end Datum

end LiveSketch
