import LiveSketch.Script.Fault
import LiveSketch.Script.Sketchpad

/-!
# Script languages

What the script engine has to know about the language that sketches are written in.

## Main definitions

* `Signature`, `FunctionTable` — functions by name and number of parameters.
* `FunctionTable.merge` — new definitions on top of old ones.
* `Ground` — what running code acts on besides the variables.
* `Language` — compiling, running, and calling.

## Implementation notes

The types say what running code can reach: the statements of a source text change variables, the
board and the console; a call changes the sketch object as well. Neither can touch the table of
functions, so only merging a source text does.
-/

namespace LiveSketch

/-- The name of a function and the number of its parameters. -/
structure Signature where
  name : String
  arity : Nat
deriving DecidableEq, Inhabited

/-- Functions by signature. -/
abbrev FunctionTable (β : Type) := List (Signature × β)

namespace FunctionTable

variable {β : Type}

/-- The function of a signature. -/
def find? (table : FunctionTable β) (s : Signature) : Option β := table.lookup s

/-- Whether there is a function of a name and a number of parameters. -/
def has (table : FunctionTable β) (name : String) (arity : Nat) : Bool :=
  (table.find? ⟨name, arity⟩).isSome

/-- Adds functions. Those of a known signature take the place of the old ones. -/
def merge (table new : FunctionTable β) : FunctionTable β :=
  (table.filter fun entry => (new.find? entry.1).isNone) ++ new

end FunctionTable

/-- What running code acts on besides the variables of the script. -/
structure Ground where
  board : Board := {}
  console : Console := {}
deriving Inhabited

/-- A language for sketches. -/
structure Language where
  Program : Type
  Body : Type
  /-- The variables of the source texts themselves. -/
  Variables : Type
  /-- The sketch object. -/
  Object : Type
  noVariables : Variables
  newObject : Object
  compile : String → Except ParseFault Program
  /-- The functions that a program defines, each signature at most once. -/
  functions : Program → FunctionTable Body
  /-- Runs the statements of a program. The table holds its functions already. -/
  run (program : Program) (table : FunctionTable Body) (source : String) (scene : Scene) :
    Variables → Ground → Variables × Ground × Except Fault Unit
  /-- Calls the function with the signature that a name and arguments have. -/
  call (name : String) (args : List Value) (table : FunctionTable Body) (source : String)
    (scene : Scene) :
    Variables → Object → Ground → Variables × Object × Ground × Except Fault Value

end LiveSketch
