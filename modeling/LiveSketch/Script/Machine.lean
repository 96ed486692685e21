import LiveSketch.Script.Expr
import LiveSketch.Script.Library
import LiveSketch.Script.Sketchpad

/-!
# Running scripts: the machine

What running script code acts on, and how it can end.

## Main definitions

* `Scope` — the variables in sight.
* `Machine` — variables, the object behind `this`, the board and the console.
* `World` — what does not change while a script runs.
* `Halt` — why code stops before its end.
* `Turn` — how a call ended, and what became of its first argument.

## Implementation notes

**Nothing is lost on a fault.** `Eval` keeps the machine when it stops, so what a script did before a
fault stays done. For the same reason a call reports its first argument's new value even when it
fails (`Turn`).
-/

namespace LiveSketch

/-- A variable. -/
structure Binding where
  name : String
  value : Datum
  constant : Bool := false
deriving Inhabited

/-- The variables in sight, newest first. -/
abbrev Scope := List Binding

namespace Scope

/-- The newest variable of a name. -/
def find? (scope : Scope) (name : String) : Option Binding :=
  List.find? (fun b => decide (b.name = name)) scope

/-- Changes the newest variable of a name. -/
def assign (name : String) (value : Datum) : Scope → Scope
  | [] => []
  | b :: rest => if b.name = name then { b with value } :: rest else b :: assign name value rest

/-- The oldest variables, as many as given. -/
def rewind (scope : Scope) (size : Nat) : Scope := scope.drop (scope.length - size)

/-- Variables for the parameters of a function. -/
def ofParams (params : List String) (args : List Datum) : Scope :=
  ((params.zip args).map fun (name, value) => { name, value }).reverse

end Scope

/-- What running script code acts on. -/
structure Machine where
  scope : Scope := []
  /-- The object behind `this`, if there is one. -/
  subject : Option Datum := none
  /-- Constants of the statements that are running, for the functions they call. -/
  constants : List (String × Datum) := []
  board : Board := {}
  console : Console := {}
deriving Inhabited

/-- What does not change while a script runs. -/
structure World where
  functions : List Function := []
  /-- The name of the source text. -/
  source : String := ""
  scene : Scene := {}
  /-- How many calls are under way. -/
  depth : Nat := 0
  /-- Whether the statements of the source text itself are running, outside of any block. -/
  atTop : Bool := false

namespace World

/-- The function of a name and a number of parameters. -/
def function? (w : World) (name : String) (arity : Nat) : Option Function :=
  w.functions.find? fun f => decide (f.name = name) && f.params.length == arity

/-- Whether there is a function of a name. -/
def knows (w : World) (name : String) : Bool := w.functions.any fun f => decide (f.name = name)

/-- Inside of a block. -/
def inside (w : World) : World := { w with atTop := false }

/-- Inside of a call. -/
def deeper (w : World) : World := { w with atTop := false, depth := w.depth + 1 }

end World

/-- How many calls may be under way inside of the outermost one. -/
def maxDepth : Nat := 8

/-- Why code stops before its end. -/
inductive Halt where
  | fault (fault : Fault)
  | leave (value : Datum)
  | next
  | giveBack (value : Datum)
  /-- The script asked for the end of the whole run. -/
  | quit (value : Datum)
deriving Inhabited

/-- Running a piece of code. -/
abbrev Eval (α : Type) := EStateM Halt Machine α

/-- How a call ended, and the new value of its first argument if that changed. -/
structure Turn where
  result : Except Halt Datum
  subject : Option Datum := none
deriving Inhabited

namespace Turn

/-- A call that gave a value. -/
def done (value : Datum) : Turn := ⟨.ok value, none⟩

/-- A call that stopped for a reason. -/
def stopped (cause : Cause) (place : Option Place) : Turn :=
  ⟨.error (.fault (.raised cause place)), none⟩

/-- The answer of a built-in function that was called from a place. -/
def ofAnswer (place : Option Place) : Answer → Turn
  | .ok reply => ⟨.ok reply.value, reply.subject⟩
  | .error fault => ⟨.error (.fault (fault.orAt place)), none⟩

end Turn

namespace Eval

variable {α : Type}

/-- Stops for a reason at a place. -/
def stop (cause : Cause) (place : Option Place) : Eval α := throw (.fault (.raised cause place))

/-- Runs code and says how it ended. -/
def outcome (code : Eval α) : Eval (Except Halt α) := fun m =>
  match code m with
  | .ok a m => .ok (.ok a) m
  | .error halt m => .ok (.error halt) m

/-- Goes on with a value, or stops. -/
def resume : Except Halt α → Eval α
  | .ok a => pure a
  | .error halt => throw halt

/-- Runs code and then forgets the variables it brought into sight. -/
def enclosed (code : Eval α) : Eval α := fun m =>
  let size := m.scope.length
  match code m with
  | .ok a m => .ok a { m with scope := m.scope.rewind size }
  | .error halt m => .error halt { m with scope := m.scope.rewind size }

/-- Brings a variable into sight. -/
def declare (name : String) (value : Datum) (constant : Bool) : Eval Unit :=
  modify fun m => { m with scope := ⟨name, value, constant⟩ :: m.scope }

/-- Changes the newest variable of a name. -/
def assign (name : String) (value : Datum) : Eval Unit :=
  modify fun m => { m with scope := m.scope.assign name value }

/-- Changes the object behind `this`. -/
def assignSubject (value : Datum) : Eval Unit := modify fun m => { m with subject := some value }

/-- Prints a line. -/
def printLine (text : String) : Eval Unit :=
  modify fun m => { m with console := m.console.write Console.stdout (text ++ "\n") }

end Eval

/-- A call in words: the name, and the types of the arguments. -/
def signature (name : String) (args : List Datum) : String :=
  name ++ " (" ++ ", ".intercalate (args.map Datum.argumentType) ++ ")"

/-! ### Going through values -/

/-- Values to go through. -/
inductive Supply where
  | list (items : List Datum)
  | count (next stop : Int)

namespace Supply

/-- The values that a value consists of. -/
def of? : Datum → Option Supply
  | .array items => some (.list items)
  | .text s => some (.list (s.toList.map .char))
  | .range start stop closed => some (.count start (if closed then stop + 1 else stop))
  | .sequence items => some (.list items)
  | .bytes items => some (.list (items.map fun b => .int b.toNat))
  | _ => none

/-- The first value and the others. -/
def next? : Supply → Option (Datum × Supply)
  | list [] => none
  | list (d :: rest) => some (d, list rest)
  | count next stop => if next < stop then some (.int next, count (next + 1) stop) else none

end Supply

end LiveSketch
