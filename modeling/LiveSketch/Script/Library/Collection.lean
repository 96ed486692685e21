import LiveSketch.Script.Library.Basic

/-!
# Built-in functions: arrays, maps and bytes

Functions of collections that need no function of the script.

## Main definitions

* `Library.array?`, `Library.map?`, `Library.bytes?`, `Library.range?` — the functions, by name.
* `Library.collection?` — all of them.
-/

namespace LiveSketch
namespace Library

/-! ### Arrays -/

/-- Functions of an array alone. -/
def ofArray? (name : String) (items : List Datum) : Option Answer :=
  match name with
  | "len" => give (.int items.length)
  | "is_empty" => give (.bool items.isEmpty)
  | "clear" => become (.array [])
  | "reverse" => become (.array items.reverse)
  | "pop" =>
    match items.getLast? with
    | some d => replyWith d (.array items.dropLast)
    | none => give .unit
  | "shift" =>
    match items with
    | d :: rest => replyWith d (.array rest)
    | [] => give .unit
  | _ => none

/-- Functions of an array and an integer. -/
def ofArrayInt? (name : String) (items : List Datum) (n : Int) : Option Answer :=
  let (first, count) := span items.length n items.length
  match name with
  | "get" => give (((position? items.length n).bind fun i => items[i]?).getD .unit)
  | "remove" =>
    match position? items.length n with
    | some i => replyWith (items.getD i .unit) (.array (removeAt items i))
    | none => give .unit
  | "truncate" => become (.array (items.take n.toNat))
  | "chop" => become (.array (items.drop (items.length - n.toNat)))
  | "extract" => give (.array ((items.drop first).take count))
  | "split" => replyWith (.array (items.drop first)) (.array (items.take first))
  | _ => none

/-- Functions of an array and two more arguments. -/
def ofArrayTwo? (name : String) (items : List Datum) (a b : Datum) : Option Answer :=
  match name, a, b with
  | "insert", .int n, d => become (.array (insertAt items (span items.length n 0).1 d))
  | "set", .int n, d =>
    match position? items.length n with
    | some i => become (.array (replaceAt items i d))
    | none => give .unit
  | "pad", .int length, d =>
    become (.array (items ++ List.replicate (length.toNat - items.length) d))
  | "extract", .int start, .int length =>
    let (first, count) := span items.length start length
    give (.array ((items.drop first).take count))
  | "drain", .int start, .int length =>
    let (first, count) := span items.length start length
    replyWith (.array ((items.drop first).take count))
      (.array (items.take first ++ items.drop (first + count)))
  | "retain", .int start, .int length =>
    let (first, count) := span items.length start length
    replyWith (.array (items.take first ++ items.drop (first + count)))
      (.array ((items.drop first).take count))
  | "splice", .range start stop closed, .array more =>
    let (start, length) := spanOfRange start stop closed
    let (first, count) := span items.length start length
    become (.array (items.take first ++ more ++ items.drop (first + count)))
  | _, _, _ => none

/-- The functions of arrays. -/
def array? (name : String) (items : List Datum) (args : List Datum) : Option Answer :=
  match name, args with
  | name, [] => ofArray? name items
  | "push", [d] => become (.array (items ++ [d]))
  | "append", [.array more] => become (.array (items ++ more))
  | "contains", [d] => give (.bool (items.any fun item => item.same d))
  | "extract", [.range start stop closed] =>
    let (start, length) := spanOfRange start stop closed
    ofArrayTwo? "extract" items (.int start) (.int length)
  | "drain", [.range start stop closed] =>
    let (start, length) := spanOfRange start stop closed
    ofArrayTwo? "drain" items (.int start) (.int length)
  | name, [.int n] =>
    if name = "index_of" then
      give (.int (((items.findIdx? fun item => item.same (.int n)).map Int.ofNat).getD (-1)))
    else ofArrayInt? name items n
  | "index_of", [d] =>
    match d with
    | .pointer _ _ => none
    | d => give (.int (((items.findIdx? fun item => item.same d).map Int.ofNat).getD (-1)))
  | name, [a, b] => ofArrayTwo? name items a b
  | "splice", [.int start, .int length, .array more] =>
    let (first, count) := span items.length start length
    become (.array (items.take first ++ more ++ items.drop (first + count)))
  | _, _ => none

/-! ### Maps -/

/-- The functions of maps. -/
def map? (name : String) (fields : Datum.Fields) (args : List Datum) : Option Answer :=
  match name, args with
  | "len", [] => give (.int fields.length)
  | "is_empty", [] => give (.bool fields.isEmpty)
  | "clear", [] => become (.map [])
  | "keys", [] => give (.array (fields.map fun field => .text field.1))
  | "values", [] => give (.array (fields.map (·.2)))
  | "contains", [.text key] => give (.bool (fields.has key))
  | "get", [.text key] => give ((fields.get? key).getD .unit)
  | "set", [.text key, d] => become (.map (fields.set key d))
  | "remove", [.text key] => replyWith ((fields.get? key).getD .unit) (.map (fields.erase key))
  | "mixin", [.map more] => become (.map (fields.merge more))
  | "fill_with", [.map more] =>
    become (.map (fields.merge (more.filter fun field => !fields.has field.1)))
  | _, _ => none

/-! ### Bytes and ranges -/

/-- The functions of bytes. -/
def bytes? (name : String) (items : List UInt8) (args : List Datum) : Option Answer :=
  let byte (n : Int) : UInt8 := (Datum.bits n).toUInt8
  let value (b : UInt8) : Datum := .int b.toNat
  match name, args with
  | "len", [] => give (.int items.length)
  | "is_empty", [] => give (.bool items.isEmpty)
  | "clear", [] => become (.bytes [])
  | "reverse", [] => become (.bytes items.reverse)
  | "pop", [] => replyWith (((items.getLast?).map value).getD (.int 0)) (.bytes items.dropLast)
  | "shift", [] => replyWith (((items.head?).map value).getD (.int 0)) (.bytes items.tail)
  | "push", [.int n] => become (.bytes (items ++ [byte n]))
  | "append", [.bytes more] => become (.bytes (items ++ more))
  | "append", [.text s] => become (.bytes (items ++ s.toUTF8.toList))
  | "contains", [.int n] => give (.bool (items.contains (byte n)))
  | "get", [.int n] =>
    give (.int ((((position? items.length n).bind fun i => items[i]?).map (·.toNat)).getD 0 : Nat))
  | "pad", [.int length, .int n] =>
    become (.bytes (items ++ List.replicate (length.toNat - items.length) (byte n)))
  | "truncate", [.int n] => become (.bytes (items.take n.toNat))
  | "to_array", [] => give (.array (items.map value))
  | _, _ => none

/-- The integers from `start` in steps, up to `stop`, as far as the fuel goes. -/
def stepped (step stop : Int) : Nat → Int → List Datum
  | 0, _ => []
  | fuel + 1, n =>
    if (0 < step ∧ n < stop) ∨ (step < 0 ∧ stop < n) then
      .int n :: stepped step stop fuel (n + step)
    else []

/-- The fractional numbers from `start` in steps, up to `stop`, as far as the fuel goes. -/
def steppedFloats (step stop : Float) : Nat → Float → List Datum
  | 0, _ => []
  | fuel + 1, x =>
    if (0 < step && x < stop) || (step < 0 && stop < x) then
      .float x :: steppedFloats step stop fuel (x + step)
    else []

/-- The fault of steps that lead nowhere. -/
def standingStill : Option Answer :=
  some (.error (.inCall "range" "" (.raised (.arithmetic .standingStill) none) none))

/-- The integers from `start` in steps, up to `stop`. -/
def steppedRange (start stop step : Int) : Option Answer :=
  if step = 0 then standingStill
  else give (.sequence (stepped step stop ((stop - start).natAbs + 1) start))

/-- The functions of ranges, and those that make collections. -/
def range? (name : String) (args : List Datum) : Option Answer :=
  match name, args with
  | "range", [.int start, .int stop] => give (.range start stop false)
  | "range", [.int start, .int stop, .int step] => steppedRange start stop step
  | "range", [.range start stop false, .int step] => steppedRange start stop step
  | "range", [.float start, .float stop, .float step] =>
    if start + step == start then standingStill
    else
      let count := ((stop - start) / step).abs.toUInt64.toNat + 2
      give (.sequence (steppedFloats step stop count start))
  | "contains", [.range start stop closed, .int n] =>
    (Datum.contains? (.range start stop closed) (.int n)).bind fun p => give (.bool p)
  | "start", [.range start _ _] => give (.int start)
  | "end", [.range _ stop _] => give (.int stop)
  | "is_inclusive", [.range _ _ closed] => give (.bool closed)
  | "is_exclusive", [.range _ _ closed] => give (.bool !closed)
  | "is_empty", [.range start stop closed] =>
    give (.bool (decide (stop < start) || (!closed && decide (stop = start))))
  | "blob", [] => give (.bytes [])
  | "blob", [.int n] => give (.bytes (List.replicate n.toNat 0))
  | "blob", [.int n, .int b] => give (.bytes (List.replicate n.toNat (Datum.bits b).toUInt8))
  | _, _ => none

/-- The functions of collections. -/
def collection? (name : String) (args : List Datum) : Option Answer :=
  match args with
  | .array items :: rest => array? name items rest
  | .map fields :: rest => map? name fields rest
  | .bytes items :: rest => bytes? name items rest
  | _ => range? name args

end Library

end LiveSketch
