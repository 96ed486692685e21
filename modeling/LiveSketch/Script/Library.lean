import LiveSketch.Script.Library.Collection
import LiveSketch.Script.Library.Text

/-!
# Built-in functions

The functions that every script can call and that need nothing but their arguments.

## Main definitions

* `Library.find?` — the functions, by name.
* `Library.property?` — the functions that can also be read like a property.
-/

namespace LiveSketch
namespace Library

/-- Functions of any value. -/
def anything? (name : String) (args : List Datum) : Option Answer :=
  match name, args with
  | "to_string", [d] => give (.text d.printed)
  | "to_debug", [d] => give (.text d.diagnosed)
  | "name", [.pointer name _] => give (.text name)
  | "is_anonymous", [.pointer _ _] => give (.bool false)
  | "timestamp", [] => give .instant
  | "elapsed", [.instant] => give (.float 0)
  | "sleep", [.int _] => give .unit
  | "sleep", [.float _] => give .unit
  | _, _ => none

/-- An operator called like a function. -/
def operator? (symbol : String) (args : List Datum) : Option Answer :=
  match args with
  | [a, b] => (Datum.operate symbol a b).map answer
  | [a] => (Datum.operateAlone symbol a).map answer
  | _ => none

/-- The functions that need nothing but their arguments. -/
def find? (name : String) (args : List Datum) : Option Answer :=
  (operator? name args).or <| (number? name args).or <| (text? name args).or <|
    (collection? name args).or (anything? name args)

/-- The properties of a value that is not a map. -/
def property? (name : String) (subject : Datum) : Option Answer :=
  let readable := match subject with
    | .text _ => ["len", "is_empty", "bytes", "chars"]
    | .array _ => ["len", "is_empty"]
    | .bytes _ => ["len", "is_empty"]
    | .int _ => ["is_odd", "is_even", "is_zero"]
    | .float _ =>
      ["is_zero", "floor", "ceiling", "round", "int", "fraction", "is_nan", "is_finite",
       "is_infinite"]
    | .range _ _ _ => ["start", "end", "is_inclusive", "is_exclusive", "is_empty"]
    | .pointer _ _ => ["name", "is_anonymous"]
    | .instant => ["elapsed"]
    | _ => []
  if readable.contains name then find? name [subject] else none

end Library

end LiveSketch
