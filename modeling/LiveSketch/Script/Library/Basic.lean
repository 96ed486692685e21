import LiveSketch.Script.Operator

/-!
# Built-in functions: answers and positions

What a built-in function gives back, and how positions in sequences are counted.

## Main definitions

* `Reply`, `Answer` — the result of a function, and the new value of its first argument.
* `Library.position?` — a position counted from the front, or from the end if it is negative.
* `Library.span` — a start and a length, moved into a sequence.
-/

namespace LiveSketch

/-- The result of a built-in function. A function that changes its first argument also gives the new
value of it. -/
structure Reply where
  value : Datum
  subject : Option Datum := none

/-- A reply, or the fault of the function. -/
abbrev Answer := Except Fault Reply

namespace Library

/-- An answer that leaves the arguments alone. -/
def give (value : Datum) : Option Answer := some (.ok { value })

/-- An answer that changes the first argument. -/
def replyWith (value subject : Datum) : Option Answer := some (.ok { value, subject := some subject })

/-- An answer that only changes the first argument. -/
def become (subject : Datum) : Option Answer := replyWith .unit subject

/-- A fault of the function itself. -/
def stop (cause : Cause) : Option Answer := some (.error (.raised cause none))

/-- An answer that leaves the arguments alone, or a fault. -/
def answer : Outcome → Answer
  | .ok value => .ok { value }
  | .error cause => .error (.raised cause none)

/-- A position in a sequence of a size: from the front, or from the end if it is negative. -/
def position? (size : Nat) (index : Int) : Option Nat :=
  if 0 ≤ index then (if index < size then some index.toNat else none)
  else if index.natAbs ≤ size then some (size - index.natAbs)
  else none

/-- A start, from the end if it is negative, and a length, both moved into a sequence. -/
def span (size : Nat) (start length : Int) : Nat × Nat :=
  if (size : Int) ≤ start then (size, 0)
  else
    let first := if start < 0 then size - min start.natAbs size else start.toNat
    (first, min length.toNat (size - first))

/-- The start and the length of a range. -/
def spanOfRange (start stop : Int) (closed : Bool) : Int × Int :=
  let first := max start 0
  let last := max stop first
  (first, last - first + (if closed then 1 else 0))

/-- A list with an item put in at a position. -/
def insertAt {α : Type} (items : List α) (position : Nat) (item : α) : List α :=
  items.take position ++ item :: items.drop position

/-- A list without the item at a position. -/
def removeAt {α : Type} (items : List α) (position : Nat) : List α :=
  items.take position ++ items.drop (position + 1)

/-- A list with another item at a position. -/
def replaceAt {α : Type} (items : List α) (position : Nat) (item : α) : List α :=
  items.set position item

end Library

end LiveSketch
