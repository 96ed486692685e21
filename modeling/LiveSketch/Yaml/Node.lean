import LiveSketch.Number.Decimal
import LiveSketch.Text.Quoted

/-!
# YAML nodes

What a YAML text says, without how it says it.

## Main definitions

* `Node` — scalars, sequences, mappings, and nodes with a tag of their own.
* `Node.same`, `Node.find?`, `Node.insert` — comparison, and entries of a mapping.
* `Node.kindText` — a node as it is mentioned in a fault.

## Implementation notes

A mapping keeps its entries in the order of the text. Two mappings are the same if they have the same
entries, in any order.
-/

namespace LiveSketch
namespace Yaml

/-- A YAML node. -/
inductive Node where
  | null
  | bool (b : Bool)
  | integer (n : Int)
  | real (x : Binary)
  | text (s : String)
  | sequence (items : List Node)
  | mapping (entries : List (Node × Node))
  | tagged (tag : String) (node : Node)
deriving Inhabited

/-- Numbers in faults are written positionally and always show that they are fractional. -/
def faultNumbers : NumberStyle where
  usesExponent := fun _ _ => false
  keepsFraction := true
  zero := fun negative => if negative then "-0.0" else "0.0"

/-- Numbers that name an entry turn to exponents at `10 ^ 16` and below `10 ^ -5`. -/
def keyNumbers : NumberStyle where
  usesExponent := fun digits place =>
    let point := place + Decimal.digitCount digits
    decide (16 < point ∨ point ≤ -5)
  keepsFraction := true
  zero := fun negative => if negative then "-0.0" else "0.0"

/-- Whether two numbers are the same. Both zeros are, and so is not-a-number with itself. -/
def sameNumber (x y : Binary) : Bool := (x.isZero && y.isZero) || x == y

namespace Node

/-- A node without its tag. -/
def untagged : Node → Node
  | tagged _ node => node.untagged
  | node => node

/-- Whether a node says nothing. -/
def isNull (node : Node) : Bool :=
  match node.untagged with
  | null => true
  | _ => false

mutual

/-- Whether two nodes are the same. -/
def same : Node → Node → Bool
  | null, null => true
  | bool a, bool b => a == b
  | integer m, integer n => m == n
  | real x, real y => sameNumber x y
  | text s, text t => s == t
  | sequence xs, sequence ys => sameItems xs ys
  | mapping xs, mapping ys => xs.length == ys.length && coveredBy xs ys
  | tagged s a, tagged t b => s == t && same a b
  | _, _ => false

/-- Whether two sequences are the same, item by item. -/
def sameItems : List Node → List Node → Bool
  | [], [] => true
  | x :: xs, y :: ys => same x y && sameItems xs ys
  | _, _ => false

/-- Whether every entry of a mapping is an entry of another one. -/
def coveredBy : List (Node × Node) → List (Node × Node) → Bool
  | [], _ => true
  | (key, value) :: rest, other =>
    other.any (fun entry => same key entry.1 && same value entry.2) && coveredBy rest other

end

/-- The place of a key among entries. -/
def position? (entries : List (Node × Node)) (key : Node) : Option Nat :=
  entries.findIdx? fun entry => key.same entry.1

/-- The entry with a given key. -/
def find? (entries : List (Node × Node)) (key : Node) : Option (Node × Node) :=
  entries.find? fun entry => key.same entry.1

/-- Sets the value of a key: that of the entry that has it, or that of a new entry at the end. -/
def insert (entries : List (Node × Node)) (key value : Node) : List (Node × Node) :=
  match position? entries key with
  | some i => entries.modify i fun entry => (entry.1, value)
  | none => entries ++ [(key, value)]

/-- A node as it is mentioned in a fault. -/
def kindText : Node → String
  | null => "unit value"
  | bool b => s!"boolean \x60{b}\x60"
  | integer n => s!"integer \x60{n}\x60"
  | real x => s!"floating point \x60{faultNumbers.render .double x}\x60"
  | text s => "string " ++ Quoted.text s
  | sequence _ => "sequence"
  | mapping _ => "map"
  | tagged _ _ => "enum"

/-- The text for a node of the wrong kind. -/
def wrongKind (node : Node) (expected : String) : String :=
  s!"invalid type: {node.untagged.kindText}, expected {expected}"

/-- The text for a node of the right kind that has a value out of range. -/
def wrongValue (node : Node) (expected : String) : String :=
  s!"invalid value: {node.untagged.kindText}, expected {expected}"

/-- The text for a key that occurs twice. -/
def repeatedKey : Node → String
  | null => "duplicate entry with null key"
  | bool b => s!"duplicate entry with key \x60{b}\x60"
  | integer n => s!"duplicate entry with key {n}"
  | real .nan => "duplicate entry with key .nan"
  | real (.infinite negative) =>
    "duplicate entry with key " ++ (if negative then "-.inf" else ".inf")
  | real x => "duplicate entry with key " ++ keyNumbers.render .double x
  | text s => "duplicate entry with key " ++ Quoted.text s
  | _ => "duplicate entry in YAML map"

end Node

end Yaml
end LiveSketch
