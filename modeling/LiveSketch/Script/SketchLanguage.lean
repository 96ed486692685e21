import LiveSketch.Script.Evaluator
import LiveSketch.Script.Language
import LiveSketch.Script.Program.Simplify

/-!
# The sketch language

The language that sketches are written in, as the script engine needs it.

## Main definitions

* `SketchLanguage.run`, `SketchLanguage.call` — running a program and calling one of its functions.
* `sketchLanguage` — the language.

## Implementation notes

A function that the runtime calls sees the variables of the source texts, unlike one that is called
by another function. Faults come out of it as they are: the call itself is no part of the backtrace.
-/

namespace LiveSketch

/-- A value of the host as a script value. -/
def Datum.ofValue : Value → Datum
  | .unit => .unit
  | .bool b => .bool b
  | .int n => .int n
  | .float x => .float x
  | .str s => .text s

/-- A script value as the host sees it: plain values, and the text of everything else. -/
def Datum.toValue : Datum → Value
  | .unit => .unit
  | .bool b => .bool b
  | .int n => .int n
  | .float x => .float x
  | d => .str d.hostText

namespace SketchLanguage

/-- The functions of a program, by signature. -/
def functions (program : Program) : FunctionTable Function :=
  program.functions.map fun f => (⟨f.name, f.params.length⟩, f)

/-- The surroundings of code in a table of functions. -/
def world (table : FunctionTable Function) (source : String) (scene : Scene) : World where
  functions := table.map (·.2)
  source := source
  scene := scene

/-- Runs the statements of a program. -/
def run (program : Program) (table : FunctionTable Function) (source : String) (scene : Scene)
    (scope : Scope) (ground : Ground) : Scope × Ground × Except Fault Unit :=
  let w := { world table source scene with atTop := true }
  let m : Machine := { scope, board := ground.board, console := ground.console }
  match Evaluator.statements Evaluator.fuel w program.body m with
  | .ok _ m => (m.scope, ⟨m.board, m.console⟩, .ok ())
  | .error (.fault fault) m => (m.scope, ⟨m.board, m.console⟩, .error fault)
  | .error _ m => (m.scope, ⟨m.board, m.console⟩, .ok ())

/-- A fault as it comes out of a function that the runtime called. A fault of the whole run has no
place there. -/
def outermost : Fault → Fault
  | .raised cause place => .raised cause (if cause.isGlobal then none else place)
  | fault => fault

/-- The value that a function gave back. -/
def returned : Halt → Except Fault Value
  | .fault fault => .error (outermost fault)
  | .giveBack d => .ok d.toValue
  | .quit d => .ok d.toValue
  | .leave _ => .ok .unit
  | .next => .ok .unit

/-- Calls a function. -/
def call (name : String) (args : List Value) (table : FunctionTable Function) (source : String)
    (scene : Scene) (scope : Scope) (object : Datum) (ground : Ground) :
    Scope × Datum × Ground × Except Fault Value :=
  match table.find? ⟨name, args.length⟩ with
  | none => (scope, object, ground, .error (.raised (.unknownFunction name) none))
  | some f =>
    let m : Machine :=
      { scope := Scope.ofParams f.params (args.map Datum.ofValue) ++ scope
        subject := some object, board := ground.board, console := ground.console }
    let finish (m : Machine) (result : Except Fault Value) :
        Scope × Datum × Ground × Except Fault Value :=
      (m.scope.rewind scope.length, m.subject.getD object, ⟨m.board, m.console⟩, result)
    match Evaluator.statement Evaluator.fuel (world table source scene) f.body m with
    | .ok d m => finish m (.ok d.toValue)
    | .error halt m => finish m (returned halt)

end SketchLanguage

/-- The language that sketches are written in. -/
def sketchLanguage : Language where
  Program := Program
  Body := Function
  Variables := Scope
  Object := Datum
  noVariables := []
  newObject := .map []
  compile source := (Program.parse source).map Program.simplified
  functions := SketchLanguage.functions
  run := SketchLanguage.run
  call := SketchLanguage.call

end LiveSketch
