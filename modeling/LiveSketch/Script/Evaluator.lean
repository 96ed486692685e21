import LiveSketch.Script.Machine
import LiveSketch.Script.Parser

/-!
# Running scripts

What statements and expressions do.

## Main definitions

* `Evaluator.statement`, `Evaluator.expression` — running a statement, and the value of an
  expression.
* `Evaluator.invoke` — calling a function of the script or a built-in one.
* `Evaluator.walk` — taking the steps of an access chain, and putting changed parts back.

## Implementation notes

**Fuel.** Every rule calls others with less fuel, and a loop uses fuel for every round. A run that
uses up `Evaluator.fuel` stops with a fault, so running a script is a total function. The nesting of
calls has its own, much lower limit.

**Changing things in place.** Values are not shared. A step into a value gives back the value's new
state, and whoever took the step puts it where the value came from. The arguments of all steps of a
chain are evaluated before the first step is taken.

**Order of look-up.** A function of the script is called before a built-in one of the same name and
number of arguments.
-/

namespace LiveSketch
namespace Evaluator

open Eval

/-- A step of a chain with its arguments evaluated. -/
inductive Move where
  | index (key : Datum) (lenient : Bool) (mark keyPlace : Place)
  | property (name : String) (lenient : Bool) (place : Place)
  /-- `argPlace` is where the first argument starts. -/
  | method (name : String) (args : List Datum) (lenient : Bool) (place : Place)
      (argPlace : Option Place)

/-- Whether a step is not taken from a missing value. -/
def Move.lenient : Move → Bool
  | index _ lenient _ _ => lenient
  | property _ lenient _ => lenient
  | method _ _ lenient _ _ => lenient

/-- Something that is to be stored, with the operator that is applied first. `owner` is the variable
it is stored in, for messages. -/
structure Store where
  operator : Option String
  value : Datum
  place : Place
  owner : String
  ownerPlace : Place

/-- The new value of a variable, an item or a field. -/
def Store.apply (store : Store) (constant : Bool) (old : Datum) : Except Halt Datum :=
  if constant then
    .error (.fault (.raised (.constantAssigned store.owner) (some store.ownerPlace)))
  else
    match store.operator with
    | none => .ok store.value
    | some symbol =>
      match old.combine symbol store.value with
      | some (.ok value) => .ok value
      | some (.error cause) => .error (.fault (.raised cause (some store.place)))
      | none =>
        .error (.fault (.raised (.unknownFunction (signature symbol [old, store.value]))
          (some store.place)))

/-! ### Reading and storing parts of a value -/

/-- The position that a key means, or the reason why it means none. -/
def positionOf (size : Nat) (key : Datum) (outside : Int → Nat → Cause) : Except Cause Nat :=
  match key with
  | .int n =>
    match Library.position? size n with
    | some i => .ok i
    | none => .error (outside n size)
  | key => .error (.wrongType key.typeName "i64")

/-- The position of a bit that a key means. -/
def bitOf (key : Datum) : Except Cause Nat := positionOf 64 key fun n _ => .bitBounds n

/-- The part of a value that a key means. Reasons that have to do with the key are named at the key,
others at the bracket. -/
def readIndex (target key : Datum) (mark keyPlace : Place) : Except Halt Datum :=
  let at_ {α : Type} (r : Except Cause α) : Except Halt α :=
    r.mapError fun cause => .fault (.raised cause (some keyPlace))
  match target with
  | .array items => (at_ (positionOf items.length key .arrayBounds)).map fun i => items.getD i .unit
  | .text s =>
    (at_ (positionOf s.length key .textBounds)).map fun i =>
      ((s.toList[i]?).map Datum.char).getD .unit
  | .bytes items =>
    (at_ (positionOf items.length key .arrayBounds)).map fun i => .int (items.getD i 0).toNat
  | .int n => (at_ (bitOf key)).map fun i => .bool ((Datum.bits n).testBit i)
  | .map fields =>
    match key with
    | .text name => .ok ((Datum.Fields.get? fields name).getD .unit)
    | key => at_ (.error (.wrongType key.typeName "string"))
  | target =>
    .error (.fault (.raised (.notIndexable s!"{target.typeName} [{key.typeName}]") (some mark)))

/-- A value with another part at a key that means one. -/
def writeIndex (target key part : Datum) : Datum :=
  let index (size : Nat) : Option Nat :=
    match key with
    | .int n => Library.position? size n
    | _ => none
  match target, part with
  | .array items, part => ((index items.length).map fun i => .array (items.set i part)).getD target
  | .text s, .char c =>
    ((index s.length).map fun i => .text (String.ofList (s.toList.set i c))).getD target
  | .bytes items, .int n =>
    ((index items.length).map fun i => .bytes (items.set i (Datum.bits n).toUInt8)).getD target
  | .int n, .bool b =>
    ((index 64).map fun i =>
      let cleared := Datum.bits n - (if (Datum.bits n).testBit i then 2 ^ i else 0)
      .int (Datum.wrap (cleared + (if b then 2 ^ i else 0)))).getD target
  | .map fields, part =>
    match key with
    | .text name => .map (Datum.Fields.set name part fields)
    | _ => target
  | _, _ => target

/-- The type that a part of a value has to have, if it has to have one. -/
def partType? : Datum → Option String
  | .text _ => some "char"
  | .bytes _ => some "i64"
  | .int _ => some "bool"
  | _ => none

/-- Stores a part of a value. -/
def storeIndex (target key : Datum) (constant : Bool) (store : Store) (mark keyPlace : Place) :
    Turn :=
  match readIndex target key mark keyPlace with
  | .error (.fault (.raised (.notIndexable types) _)) =>
    .stopped (.notIndexable s!"{types} = {store.value.typeName}") (some mark)
  | .error halt => ⟨.error halt, none⟩
  | .ok old =>
    match store.apply constant old with
    | .error halt =>
      ⟨.error halt, if constant then none else some (writeIndex target key old)⟩
    | .ok new =>
      match (partType? target).filter fun expected => expected ≠ new.typeName with
      | some expected => .stopped (.wrongType new.typeName expected) (some store.place)
      | none => ⟨.ok .unit, some (writeIndex target key new)⟩

/-- A property of a value. A missing field of a map is nothing. -/
def readProperty (target : Datum) (name : String) (place : Place) : Except Halt Datum :=
  match target with
  | .map fields => .ok ((Datum.Fields.get? fields name).getD .unit)
  | target =>
    match Library.property? name target with
    | some (.ok reply) => .ok reply.value
    | some (.error fault) => .error (.fault (fault.orAt (some place)))
    | none => .error (.fault (.raised (.unreadable name target.typeName) (some place)))

/-- Stores a property. A field is there as soon as it is stored to. -/
def storeProperty (target : Datum) (name : String) (constant : Bool) (store : Store)
    (place : Place) : Turn :=
  match target with
  | .map fields =>
    let old := (Datum.Fields.get? fields name).getD .unit
    match store.apply constant old with
    | .error halt =>
      ⟨.error halt, if constant then none else some (.map (Datum.Fields.set name old fields))⟩
    | .ok new => ⟨.ok .unit, some (.map (Datum.Fields.set name new fields))⟩
  | target =>
    match store.operator, readProperty target name place with
    | some _, .error halt => ⟨.error halt, none⟩
    | _, _ => .stopped (.unwritable name target.typeName store.value.typeName) (some place)

/-- A map with a field changed, if it has that field; any other value as it is. -/
def putBack (target : Datum) (name : String) (part : Datum) : Option Datum :=
  match target with
  | .map fields =>
    if Datum.Fields.has fields name then some (.map (Datum.Fields.set name part fields)) else none
  | _ => none

/-! ### Functions of the run itself -/

/-- Functions that need the machine, and no function of the script. -/
def special? (w : World) (name : String) (args : List Datum) (place : Option Place) :
    Option (Eval Turn) :=
  match name, args with
  | "type_of", [d] => some (pure (.done (.text d.typeName)))
  | "is_shared", [_] => some (pure (.done (.bool false)))
  | "print", [] => some do
    printLine ""
    pure (.done .unit)
  | "print", [d] => some do
    printLine d.printed
    pure (.done .unit)
  | "debug", [d] => some do
    let source := if w.source = "" then "script" else w.source
    let where_ := (place.map Place.text).getD "none"
    printLine s!"[{source} @ {where_}] {d.diagnosed}"
    pure (.done .unit)
  | "exit", [] => some (pure ⟨.error (.quit .unit), none⟩)
  | "exit", [d] => some (pure ⟨.error (.quit d), none⟩)
  | name, args =>
    some do
      let m ← get
      match m.board.perform? w.scene name args with
      | some (board, outcome) =>
        set { m with board }
        pure (.ofAnswer place (Library.answer outcome))
      | none =>
        match Library.find? name args with
        | some answer => pure (.ofAnswer place answer)
        | none => pure (.stopped (.unknownFunction (signature name args)) place)

/-- Whether a call failed because there is no function of a name. -/
def isUnknown (name : String) (turn : Turn) : Bool :=
  match turn.result with
  | .error (.fault (.raised (.unknownFunction text) _)) => name.toList.isPrefixOf text.toList
  | _ => false

/-- A fault on its way out of a built-in function that called back into the script. -/
def throughBuiltin (w : World) (name : String) (place : Option Place) : Halt → Halt
  | .fault fault => .fault (.inCall name w.source fault place)
  | halt => halt

/-- The function that a value stands for, and its first arguments. -/
def callee? : Datum → Option (String × List Datum)
  | .pointer name bound => some (name, bound)
  | .text name => some (name, [])
  | _ => none

/-- Whether a value counts as true for functions that choose items. -/
def holds : Datum → Bool
  | .bool b => b
  | _ => false

/-- The words of a text in the notation of data interchange: braces enclose maps, `null` is the empty
value, and neither has another notation. -/
def dataWords (text : String) : List Lexeme :=
  let refused (symbol : String) : Token := .fault (.foreignSymbol symbol "Invalid JSON syntax")
  (lexemes text).map fun lexeme =>
    match lexeme.token with
    | .reserved "null" => { lexeme with token := .mark "()" }
    | .mark "\x7b" => { lexeme with token := .mark "#\x7b" }
    | .mark "#\x7b" => { lexeme with token := refused "#\x7b" }
    | .mark "()" => { lexeme with token := refused "()" }
    | .piece _ => { lexeme with token := refused "interpolated string" }
    | _ => lexeme

/-- Compares two values for sorting: numbers, texts, characters and truth values with their like. -/
def comesBefore (a b : Datum) : Bool :=
  match a, b with
  | .bool p, .bool q => !p && q
  | .int m, .int n => decide (m < n)
  | .float x, .float y => decide (x < y)
  | .text s, .text t => decide (s < t)
  | .char c, .char d => decide (c < d)
  | _, _ => false

/-- Items in ascending order; equal ones keep their order. -/
def sorted (items : List Datum) : List Datum := items.mergeSort fun a b => !comesBefore b a

/-- Items without those that equal the one before. -/
def deduped : List Datum → List Datum
  | [] => []
  | d :: rest =>
    match deduped rest with
    | [] => [d]
    | e :: more => if d.same e then d :: more else d :: e :: more

mutual

/-- Runs a statement; the value is that of its last expression. -/
def statement : Nat → World → Stmt → Eval Datum
  | 0, _, _ => stop .tooLong none
  | fuel + 1, w, s =>
    match s with
    | .nothing => pure .unit
    | .expr e => expression fuel w e
    | .declare name constant value _ => do
      let d ← match value with
        | some e => expression fuel w e
        | none => pure .unit
      declare name d constant
      if constant && w.atTop && !w.functions.isEmpty then
        modify fun m => { m with constants := (name, d) :: m.constants }
      pure .unit
    | .assign operator target value place => do
      let d ← expression fuel w value
      assignment fuel w operator target d place
      pure .unit
    | .block body => enclosed (statements fuel w.inside body)
    | .branch guard yes no => do
      if ← condition fuel w guard then statement fuel w yes else statement fuel w no
    | .choose subject cases otherwise _ => do
      let d ← expression fuel w subject
      choice fuel w d cases otherwise
    | .repeatWhile guard body => repeating fuel w guard body
    | .repeatUntil body guard stopOn => repeatingUntil fuel w body guard stopOn
    | .forEach name counter subject body => do
      let d ← expression fuel w subject
      match Supply.of? d with
      | none => stop .notIterable (some subject.start)
      | some supply => enclosed (going fuel w name counter body 0 supply)
    | .leave value _ => do
      let d ← optional fuel w value
      throw (.leave d)
    | .next _ => throw .next
    | .giveBack value _ => do
      let d ← optional fuel w value
      throw (.giveBack d)
    | .throw value place => do
      let d ← optional fuel w value
      stop (.thrown d) (some place)
    | .attempt body name handler => do
      match ← outcome (statement fuel w body) with
      | .ok d => pure d
      | .error (.fault fault) => handling fuel w fault name handler
      | .error halt => throw halt
    | .load path _ => do
      let d ← expression fuel w path
      match d with
      | .text name => stop (.unknownModule name) (some path.start)
      | d => stop (.wrongType d.typeName "string") (some path.start)

/-- Runs statements one after another. -/
def statements : Nat → World → List Stmt → Eval Datum
  | 0, _, _ => stop .tooLong none
  | _ + 1, _, [] => pure .unit
  | fuel + 1, w, [s] => statement fuel w s
  | fuel + 1, w, s :: rest => do
    let _ ← statement fuel w s
    statements fuel w rest

/-- The value of an expression that may be left out. -/
def optional : Nat → World → Option Expr → Eval Datum
  | 0, _, _ => stop .tooLong none
  | _ + 1, _, none => pure .unit
  | fuel + 1, w, some e => expression fuel w e

/-- A truth value. -/
def condition : Nat → World → Expr → Eval Bool
  | 0, _, _ => stop .tooLong none
  | fuel + 1, w, e => do
    match ← expression fuel w e with
    | .bool b => pure b
    | d => stop (.wrongType d.typeName "bool") (some e.place)

/-- Stores a value. -/
def assignment : Nat → World → Option String → Expr → Datum → Place → Eval Unit
  | 0, _, _, _, _, _ => stop .tooLong none
  | fuel + 1, w, operator, target, value, place =>
    match target with
    | .this p => do
      match (← get).subject with
      | none => stop .unboundThis (some p)
      | some old =>
        let new ← resume ((Store.mk operator value place "this" p).apply false old)
        assignSubject new
    | .variable name p => do
      match (← get).scope.find? name with
      | some b =>
        let new ← resume ((Store.mk operator value place name p).apply b.constant b.value)
        assign name new
      | none =>
        if w.knows name then stop (.constantAssigned name) (some p)
        else stop (.unknownVariable name) (some p)
    | .chain root steps => do
      let _ ← chain fuel w root steps (some ⟨operator, value, place, "", root.start⟩)
      pure ()
    | target => stop (.constantAssigned "") (some target.start)

/-- Runs the handler of a fault, if the fault can be caught. -/
def handling : Nat → World → Fault → Option String → Stmt → Eval Datum
  | 0, _, _, _, _ => stop .tooLong none
  | fuel + 1, w, fault, name, handler =>
    match fault with
    | .raised cause place =>
      if cause.isGlobal then throw (.fault (.raised cause place))
      else rethrowing fuel w fault name handler
    | .inCall _ _ _ _ => rethrowing fuel w fault name handler

/-- Runs a handler, which has no value. Throwing nothing in it throws the fault again, from there. -/
def rethrowing : Nat → World → Fault → Option String → Stmt → Eval Datum
  | 0, _, _, _, _ => stop .tooLong none
  | fuel + 1, w, fault, name, handler => do
    let run : Eval Datum := enclosed do
      match name with
      | some n => declare n (fault.caught w.source) false
      | none => pure ()
      statement fuel w handler
    match ← outcome run with
    | .ok _ => pure .unit
    | .error (.fault (.raised (.thrown .unit) place)) => throw (.fault (fault.setPlace place))
    | .error halt => throw halt

/-- Runs the first case that has the value among its keys. -/
def choice :
    Nat → World → Datum → List (List Expr × Option Expr × Stmt) → Option Stmt → Eval Datum
  | 0, _, _, _, _ => stop .tooLong none
  | fuel + 1, w, _, [], some s => statement fuel w s
  | _ + 1, _, _, [], none => pure .unit
  | fuel + 1, w, d, (keys, guard, body) :: rest, otherwise => do
    let found ← keyed fuel w d keys
    let allowed ← if found then
        match guard with
        | some e => condition fuel w e
        | none => pure true
      else pure false
    if allowed then statement fuel w body else choice fuel w d rest otherwise

/-- Whether a value is one of some keys, or in one of them that is a range. -/
def keyed : Nat → World → Datum → List Expr → Eval Bool
  | 0, _, _, _ => stop .tooLong none
  | _ + 1, _, _, [] => pure false
  | fuel + 1, w, d, key :: rest => do
    let k ← expression fuel w key
    let hit := match k, d with
      | .range _ _ _, .int _ => (Datum.contains? k d).getD false
      | k, d => decide (k.typeName = d.typeName) && k.same d
    if hit then pure true else keyed fuel w d rest

/-- Repeats a block while a condition holds; the value is that of the `break`. -/
def repeating : Nat → World → Option Expr → Stmt → Eval Datum
  | 0, _, _, _ => stop .tooLong none
  | fuel + 1, w, guard, body => do
    let goOn ← match guard with
      | some e => condition fuel w e
      | none => pure true
    if !goOn then pure .unit
    else
      match ← outcome (statement fuel w body) with
      | .ok _ => repeating fuel w guard body
      | .error .next => repeating fuel w guard body
      | .error (.leave d) => pure d
      | .error halt => throw halt

/-- Repeats a block until its condition says so. -/
def repeatingUntil : Nat → World → Stmt → Expr → Bool → Eval Datum
  | 0, _, _, _, _ => stop .tooLong none
  | fuel + 1, w, body, guard, stopOn => do
    let round ← outcome (statement fuel w body)
    match round with
    | .error (.leave d) => pure d
    | .error .next | .ok _ => do
      let p ← condition fuel w guard
      if p == stopOn then pure .unit else repeatingUntil fuel w body guard stopOn
    | .error halt => throw halt

/-- Runs a block for every value of a supply. -/
def going : Nat → World → String → Option String → Stmt → Int → Supply → Eval Datum
  | 0, _, _, _, _, _, _ => stop .tooLong none
  | fuel + 1, w, name, counter, body, count, supply =>
    match supply.next? with
    | none => pure .unit
    | some (d, rest) => do
      let round : Eval Datum := enclosed do
        match counter with
        | some c => declare c (.int count) false
        | none => pure ()
        declare name d false
        statement fuel w body
      match ← outcome round with
      | .ok _ => going fuel w name counter body (count + 1) rest
      | .error .next => going fuel w name counter body (count + 1) rest
      | .error (.leave d) => pure d
      | .error halt => throw halt

/-- The value of an expression. -/
def expression : Nat → World → Expr → Eval Datum
  | 0, _, _ => stop .tooLong none
  | fuel + 1, w, e =>
    match e with
    | .unit _ => pure .unit
    | .bool b _ => pure (.bool b)
    | .int n _ => pure (.int n)
    | .float x _ => pure (.float x)
    | .char c _ => pure (.char c)
    | .text s _ => pure (.text s)
    | .template parts _ => do
      let ds ← expressions fuel w parts
      pure (.text (String.join (ds.map Datum.printed)))
    | .array items _ => do
      let ds ← expressions fuel w items
      pure (.array ds)
    | .map entries _ => do
      let ds ← expressions fuel w (entries.map (·.2))
      pure (.map (Datum.Fields.ofList ((entries.map (·.1)).zip ds)))
    | .variable name place => do
      match (← get).scope.find? name with
      | some b => pure b.value
      | none =>
        if w.knows name then pure (.pointer name [])
        else stop (.unknownVariable name) (some place)
    | .qualified qualifiers name place => do
      if qualifiers = ["global"] then
        match (← get).constants.lookup name with
        | some d => pure d
        | none => stop (.unknownVariable s!"global::{name}") (some place)
      else stop (.unknownModule ("::".intercalate qualifiers)) (some place)
    | .this place => do
      match (← get).subject with
      | some d => pure d
      | none => stop .unboundThis (some place)
    | .qualifiedCall qualifiers args place => do
      let _ ← expressions fuel w args
      stop (.unknownModule ("::".intercalate qualifiers)) (some place)
    | .call name args place => call fuel w name args place
    | .operator symbol args place => do
      let ds ← expressions fuel w args
      operation fuel w symbol ds place
    | .and left right _ => do
      if ← condition fuel w left then
        let p ← condition fuel w right
        pure (.bool p)
      else pure (.bool false)
    | .or left right _ => do
      if ← condition fuel w left then pure (.bool true)
      else
        let p ← condition fuel w right
        pure (.bool p)
    | .orElse left right _ => do
      match ← expression fuel w left with
      | .unit => expression fuel w right
      | d => pure d
    | .chain root steps => chain fuel w root steps none
    | .block body _ => statement fuel w body

/-- The values of expressions, from the left. -/
def expressions : Nat → World → List Expr → Eval (List Datum)
  | 0, _, _ => stop .tooLong none
  | _ + 1, _, [] => pure []
  | fuel + 1, w, e :: rest => do
    let d ← expression fuel w e
    let ds ← expressions fuel w rest
    pure (d :: ds)

/-- The result of an operator. -/
def operation : Nat → World → String → List Datum → Place → Eval Datum
  | 0, _, _, _, _ => stop .tooLong none
  | fuel + 1, w, symbol, args, place =>
    match symbol, args with
    | "..", [.int a, .int b] => pure (.range a b false)
    | "..=", [.int a, .int b] => pure (.range a b true)
    | "contains", [whole, part] =>
      match whole.contains? part with
      | some p => pure (.bool p)
      | none => stop (.unknownFunction (signature symbol args)) (some place)
    | symbol, args => do
      let turn ← invoke fuel w symbol args false (some place)
      resume turn.result

/-- The value of a call. A variable or `this` as the first argument is what a built-in function
changes; it is looked at after the other arguments. -/
def call : Nat → World → String → List Expr → Place → Eval Datum
  | 0, _, _, _, _ => stop .tooLong none
  | fuel + 1, w, name, args, place =>
    match name, args with
    | "call", first :: rest => do
      let d ← expression fuel w first
      match d with
      | .pointer callee bound => do
        let ds ← expressions fuel w rest
        let turn ← invoke fuel w callee (bound ++ ds) false (some place)
        resume turn.result
      | d => stop (.wrongType d.typeName "Fn") (some first.start)
    | "Fn", [e] => do
      match ← expression fuel w e with
      | .text s =>
        if isProperName s then pure (.pointer s [])
        else stop (.unknownFunction s) (some e.start)
      | d => stop (.wrongType d.typeName "string") (some e.start)
    | "curry", first :: second :: rest => do
      match ← expression fuel w first with
      | .pointer callee bound => do
        let ds ← expressions fuel w (second :: rest)
        pure (.pointer callee (bound ++ ds))
      | d => stop (.wrongType d.typeName "Fn") (some first.start)
    | "is_def_var", [e] => do
      match ← expression fuel w e with
      | .text s => do
        let m ← get
        pure (.bool (m.scope.find? s).isSome)
      | d => stop (.wrongType d.typeName "string") (some e.start)
    | "is_def_fn", [e, count] => do
      match ← expression fuel w e with
      | .text s => do
        match ← expression fuel w count with
        | .int n => pure (.bool (decide (0 ≤ n) && (w.function? s n.toNat).isSome))
        | d => stop (.wrongType d.typeName "i64") (some count.start)
      | d => stop (.wrongType d.typeName "string") (some e.start)
    | "eval", [e] => do
      match ← expression fuel w e with
      | .text s => evaluation fuel w s e.start
      | d => stop (.wrongType d.typeName "string") (some e.start)
    | name, .variable x p :: rest => do
      let ds ← expressions fuel w rest
      let first ← expression fuel w (.variable x p)
      let turn ← invoke fuel w name (first :: ds) false (some place)
      match turn.subject, (← get).scope.find? x with
      | some new, some b => if b.constant then pure () else assign x new
      | _, _ => pure ()
      resume turn.result
    | name, .this p :: rest => do
      let ds ← expressions fuel w rest
      let first ← expression fuel w (.this p)
      let turn ← invoke fuel w name (first :: ds) false (some place)
      match turn.subject with
      | some new => assignSubject new
      | none => pure ()
      resume turn.result
    | name, args => do
      let ds ← expressions fuel w args
      let turn ← invoke fuel w name ds false (some place)
      resume turn.result

/-- Runs source text where it stands. -/
def evaluation : Nat → World → String → Place → Eval Datum
  | 0, _, _, _ => stop .tooLong none
  | fuel + 1, w, source, place =>
    let wrap {α : Type} (halt : Halt) : Eval α := throw (throughBuiltin w "eval" (some place) halt)
    match Program.parse source with
    | .error fault => wrap (.fault (.raised (.parsing fault.cause) fault.place))
    | .ok program =>
      if !program.functions.isEmpty then
        wrap (.fault (.raised (.parsing .misplacedFunction) (some place)))
      else do
        match ← outcome (statements fuel { w.deeper with atTop := w.atTop } program.body) with
        | .ok d => pure d
        | .error (.giveBack d) => pure d
        | .error halt => wrap halt

/-- Calls a function of the script, or a built-in one. Called as a method, the first argument is the
object of a function of the script, and not one of its parameters. -/
def invoke : Nat → World → String → List Datum → Bool → Option Place → Eval Turn
  | 0, _, _, _, _, _ => stop .tooLong none
  | fuel + 1, w, name, args, method, place =>
    match w.function? name (if method then args.length - 1 else args.length) with
    | some f =>
      match method, args with
      | true, object :: rest => enter fuel w.deeper f (some object) rest place
      | _, args => enter fuel w.deeper f none args place
    | none =>
      match name, args with
      | "parse_json", [.text s] => interchange fuel w s place
      | name, .array items :: rest => do
        match ← ofItems fuel w name items rest place with
        | some turn => pure turn
        | none => (special? w name args place).getD (pure default)
      | name, args => (special? w name args place).getD (pure default)

/-- Runs the body of a function. It sees its parameters and nothing else. -/
def enter : Nat → World → Function → Option Datum → List Datum → Option Place → Eval Turn
  | 0, _, _, _, _, _ => stop .tooLong none
  | fuel + 1, w, f, object, args, place =>
    if maxDepth < w.depth then pure (.stopped .tooDeep place)
    else do
      let m ← get
      set { m with scope := Scope.ofParams f.params args, subject := object }
      let result ← outcome (statement fuel w f.body)
      let after ← get
      set { after with scope := m.scope, subject := m.subject }
      let result := match result with
        | .ok d => .ok d
        | .error (.giveBack d) => .ok d
        | .error (.fault fault) => .error (.fault (fault.leaving f.name w.source place))
        | .error halt => .error halt
      pure ⟨result, object.bind fun _ => after.subject⟩

/-- The map that a text in the notation of data interchange describes. -/
def interchange : Nat → World → String → Option Place → Eval Turn
  | 0, _, _, _ => stop .tooLong none
  | fuel + 1, w, text, place =>
    match Parser.parseLone (dataWords text) with
    | .error fault => pure (.stopped (.parsing fault.cause) fault.place)
    | .ok e => do
      let m ← get
      set { m with scope := [], subject := none }
      let result ← outcome (expression fuel w e)
      modify fun after => { after with scope := m.scope, subject := m.subject }
      match result with
      | .ok (.map fields) => pure (.done (.map fields))
      | .ok d => pure (.stopped (.wrongResult d.typeName "map") place)
      | .error halt => pure ⟨.error halt, none⟩

/-- Calls back with an item: as the object of a function without parameters, then as its argument,
then with further arguments. -/
def callback :
    Nat → World → String × List Datum → Option Datum → List Datum → List Datum → Option Place →
      Eval Turn
  | 0, _, _, _, _, _, _ => stop .tooLong none
  | fuel + 1, w, (name, bound), object, args, extras, place => do
    let first ← match object with
      | some d => invoke fuel w name (d :: (bound ++ args)) true place
      | none => invoke fuel w name (bound ++ args) false place
    if !isUnknown name first then pure first
    else
      let all := bound ++ object.toList ++ args
      let second ← match object with
        | some _ => invoke fuel w name all false place
        | none => pure first
      if !isUnknown name second then pure { second with subject := none }
      else
        let third ← invoke fuel w name (all ++ extras) false place
        pure { third with subject := none }

/-- What a callback gives for every item, with the new values of the items. -/
def eachItem :
    Nat → World → String × List Datum → List Datum → Int → Option Place →
      Eval (Except Halt (List (Datum × Datum)))
  | 0, _, _, _, _, _ => stop .tooLong none
  | _ + 1, _, _, [], _, _ => pure (.ok [])
  | fuel + 1, w, callee, d :: rest, i, place => do
    let turn ← callback fuel w callee (some d) [] [.int i] place
    match turn.result with
    | .error halt => pure (.error halt)
    | .ok v => do
      match ← eachItem fuel w callee rest (i + 1) place with
      | .error halt => pure (.error halt)
      | .ok more => pure (.ok ((v, turn.subject.getD d) :: more))

/-- The first item that a callback accepts, with its position and the callback's value. -/
def firstItem :
    Nat → World → String × List Datum → (Datum → Bool) → List Datum → Int → Option Place →
      Eval (Except Halt (Option (Datum × Int × Datum)))
  | 0, _, _, _, _, _, _ => stop .tooLong none
  | _ + 1, _, _, _, [], _, _ => pure (.ok none)
  | fuel + 1, w, callee, wanted, d :: rest, i, place => do
    let turn ← callback fuel w callee (some d) [] [.int i] place
    match turn.result with
    | .error halt => pure (.error halt)
    | .ok v =>
      if wanted v then pure (.ok (some (d, i, v)))
      else firstItem fuel w callee wanted rest (i + 1) place

/-- Combines items into one value. -/
def foldItems :
    Nat → World → String × List Datum → Datum → List (Datum × Int) → Option Place → Eval Turn
  | 0, _, _, _, _, _ => stop .tooLong none
  | _ + 1, _, _, acc, [], _ => pure (.done acc)
  | fuel + 1, w, callee, acc, (d, i) :: rest, place => do
    let turn ← callback fuel w callee none [acc, d] [.int i] place
    match turn.result with
    | .error halt => pure ⟨.error halt, none⟩
    | .ok v => foldItems fuel w callee v rest place

/-- Puts an item into a sorted list. The order is that of a callback; a fault in it counts as
"equal". -/
def placeItem :
    Nat → World → String × List Datum → Datum → List Datum → Option Place → Eval (List Datum)
  | 0, _, _, _, _, _ => stop .tooLong none
  | _ + 1, _, _, d, [], _ => pure [d]
  | fuel + 1, w, (name, bound), d, e :: rest, place => do
    let turn ← invoke fuel w name (bound ++ [e, d]) false place
    let later := match turn.result with
      | .ok (.int n) => decide (0 < n)
      | _ => false
    if later then pure (d :: e :: rest)
    else do
      let placed ← placeItem fuel w (name, bound) d rest place
      pure (e :: placed)

/-- Sorts items by a callback. -/
def sortItems :
    Nat → World → String × List Datum → List Datum → List Datum → Option Place →
      Eval (List Datum)
  | 0, _, _, _, _, _ => stop .tooLong none
  | _ + 1, _, _, done, [], _ => pure done
  | fuel + 1, w, callee, done, d :: rest, place => do
    let done ← placeItem fuel w callee d done place
    sortItems fuel w callee done rest place

/-- Leaves out items that a callback finds equal to the last one kept; a fault in it counts as
"not equal". -/
def dedupItems :
    Nat → World → String × List Datum → Datum → List Datum → Option Place → Eval (List Datum)
  | 0, _, _, _, _, _ => stop .tooLong none
  | _ + 1, _, _, kept, [], _ => pure [kept]
  | fuel + 1, w, (name, bound), kept, d :: rest, place => do
    let turn ← invoke fuel w name (bound ++ [d, kept]) false place
    match turn.result with
    | .ok (.bool true) => dedupItems fuel w (name, bound) kept rest place
    | _ => do
      let more ← dedupItems fuel w (name, bound) d rest place
      pure (kept :: more)

/-- Functions of arrays that call back, or that compare items. -/
def ofItems :
    Nat → World → String → List Datum → List Datum → Option Place → Eval (Option Turn)
  | 0, _, _, _, _, _ => stop .tooLong none
  | fuel + 1, w, name, items, args, place =>
    let failed (halt : Halt) : Eval (Option Turn) :=
      pure (some ⟨.error (throughBuiltin w name place halt), none⟩)
    let gave (d : Datum) : Eval (Option Turn) := pure (some (.done d))
    let changed (d new : Datum) : Eval (Option Turn) := pure (some ⟨.ok d, some new⟩)
    match name, args with
    | "sort", [] => changed .unit (.array (sorted items))
    | "dedup", [] => changed .unit (.array (deduped items))
    | "reduce", [f, start] =>
      match callee? f with
      | none => pure none
      | some callee => do
        let turn ← foldItems fuel w callee start (items.zipIdx.map fun (d, i) => (d, Int.ofNat i))
          place
        match turn.result with
        | .ok d => gave d
        | .error halt => failed halt
    | "reduce_rev", [f, start] =>
      match callee? f with
      | none => pure none
      | some callee => do
        let turn ← foldItems fuel w callee start
          (items.zipIdx.map fun (d, i) => (d, Int.ofNat i)).reverse place
        match turn.result with
        | .ok d => gave d
        | .error halt => failed halt
    | name, [f] =>
      match callee? f with
      | none => pure none
      | some callee =>
        let chosen (want : Bool) : Eval (Except Halt (List Datum × List Datum)) := do
          match ← eachItem fuel w callee items 0 place with
          | .error halt => pure (.error halt)
          | .ok pairs =>
            let parts := (items.zip (pairs.map (·.1))).partition fun (_, v) => holds v == want
            pure (.ok (parts.1.map (·.1), parts.2.map (·.1)))
        let found (wanted : Datum → Bool) (k : Option (Datum × Int × Datum) → Datum) :
            Eval (Option Turn) := do
          match ← firstItem fuel w callee wanted items 0 place with
          | .error halt => failed halt
          | .ok hit => gave (k hit)
        match name with
        | "map" => do
          match ← eachItem fuel w callee items 0 place with
          | .error halt => failed halt
          | .ok pairs => gave (.array (pairs.map (·.1)))
        | "for_each" => do
          match ← eachItem fuel w callee items 0 place with
          | .error halt => failed halt
          | .ok pairs => changed .unit (.array (pairs.map (·.2)))
        | "filter" => do
          match ← chosen true with
          | .error halt => failed halt
          | .ok (yes, _) => gave (.array yes)
        | "drain" => do
          match ← chosen true with
          | .error halt => failed halt
          | .ok (yes, no) => changed (.array yes) (.array no)
        | "retain" => do
          match ← chosen true with
          | .error halt => failed halt
          | .ok (yes, no) => changed (.array no) (.array yes)
        | "all" => found (fun v => !holds v) fun hit => .bool hit.isNone
        | "some" => found holds fun hit => .bool hit.isSome
        | "find" => found holds fun hit => (hit.map (·.1)).getD .unit
        | "find_map" =>
          found (fun v => !v.same .unit) fun hit => (hit.map (·.2.2)).getD .unit
        | "index_of" =>
          match f with
          | .text _ => pure none
          | _ => found holds fun hit => .int ((hit.map (·.2.1)).getD (-1))
        | "reduce" => do
          let turn ← foldItems fuel w callee .unit
            (items.zipIdx.map fun (d, i) => (d, Int.ofNat i)) place
          match turn.result with
          | .ok d => gave d
          | .error halt => failed halt
        | "reduce_rev" => do
          let turn ← foldItems fuel w callee .unit
            (items.zipIdx.map fun (d, i) => (d, Int.ofNat i)).reverse place
          match turn.result with
          | .ok d => gave d
          | .error halt => failed halt
        | "sort" => do
          let done ← sortItems fuel w callee [] items place
          changed .unit (.array done)
        | "dedup" =>
          match items with
          | [] => changed .unit (.array [])
          | d :: rest => do
            let done ← dedupItems fuel w callee d rest place
            changed .unit (.array done)
        | _ => pure none
    | _, _ => pure none

/-- The steps of a chain with their arguments evaluated, from the left. -/
def moves : Nat → World → List Step → Eval (List Move)
  | 0, _, _ => stop .tooLong none
  | _ + 1, _, [] => pure []
  | fuel + 1, w, step :: rest => do
    let move ← match step with
      | .index key lenient mark => do
        let d ← expression fuel w key
        pure (Move.index d lenient mark key.start)
      | .property name lenient _ place => pure (Move.property name lenient place)
      | .method name args lenient _ place => do
        let ds ← expressions fuel w args
        pure (Move.method name ds lenient place ((args.head?).map Expr.start))
    let more ← moves fuel w rest
    pure (move :: more)

/-- The value of a chain, or of storing at its end. -/
def chain : Nat → World → Expr → List Step → Option Store → Eval Datum
  | 0, _, _, _, _ => stop .tooLong none
  | fuel + 1, w, root, steps, store => do
    let path ← moves fuel w steps
    match root with
    | .variable name place => do
      match (← get).scope.find? name with
      | some b => do
        let store := store.map fun s => { s with owner := name }
        let turn ← walk fuel w b.value b.constant path store
        match turn.subject with
        | some new => if b.constant then pure () else assign name new
        | none => pure ()
        resume turn.result
      | none => do
        let d ← expression fuel w (.variable name place)
        let turn ← walk fuel w d false path store
        resume turn.result
    | .this place => do
      match (← get).subject with
      | none => stop .unboundThis (some place)
      | some d => do
        let turn ← walk fuel w d false path store
        match turn.subject with
        | some new => assignSubject new
        | none => pure ()
        resume turn.result
    | root => do
      let d ← expression fuel w root
      let turn ← walk fuel w d false path store
      resume turn.result

/-- Takes steps from a value; at the end something may be stored. The turn's subject is the value
with its changed parts put back. -/
def walk : Nat → World → Datum → Bool → List Move → Option Store → Eval Turn
  | 0, _, _, _, _, _ => stop .tooLong none
  | _ + 1, _, target, _, [], _ => pure (.done target)
  | fuel + 1, w, target, constant, move :: rest, store =>
    let missing := match target with
      | .unit => move.lenient
      | _ => false
    if missing then pure (.done .unit)
    else
      match move, rest, store with
      | .index key _ mark keyPlace, [], some store =>
        pure (storeIndex target key constant store mark keyPlace)
      | .property name _ place, [], some store =>
        pure (storeProperty target name constant store place)
      | .index key _ mark keyPlace, rest, store =>
        match readIndex target key mark keyPlace with
        | .error halt => pure ⟨.error halt, none⟩
        | .ok part => do
          let turn ← walk fuel w part constant rest store
          pure { turn with subject := turn.subject.bind fun new =>
            match target, key with
            | .map _, .text name => putBack target name new
            | target, key => some (writeIndex target key new) }
      | .property name _ place, rest, store =>
        match readProperty target name place with
        | .error halt => pure ⟨.error halt, none⟩
        | .ok part => do
          let turn ← walk fuel w part constant rest store
          pure { turn with subject := turn.subject.bind (putBack target name) }
      | .method name args _ place argPlace, rest, store => do
        let turn ← method fuel w target name args place argPlace
        let turn : Turn := match constant, turn.subject, turn.result with
          | true, some _, .ok _ => .stopped (.constantChanged name) (some place)
          | _, _, _ => turn
        match turn.result with
        | .error _ => pure turn
        | .ok d => do
          let after ← walk fuel w d false rest store
          pure { after with subject := turn.subject }

/-- Calls a method of a value. -/
def method : Nat → World → Datum → String → List Datum → Place → Option Place → Eval Turn
  | 0, _, _, _, _, _, _ => stop .tooLong none
  | fuel + 1, w, target, name, args, place, argPlace =>
    match name, target, args with
    | "call", .pointer callee bound, args => do
      let turn ← invoke fuel w callee (bound ++ args) false (some place)
      pure { turn with subject := none }
    | "call", target, .pointer callee bound :: rest =>
      invoke fuel w callee (target :: (bound ++ rest)) true (some place)
    | "call", target, [] => pure (.stopped (.wrongType target.typeName "Fn") (some place))
    | "call", _, d :: _ => pure (.stopped (.wrongType d.typeName "Fn") argPlace)
    | "curry", .pointer callee bound, args => pure (.done (.pointer callee (bound ++ args)))
    | "curry", target, _ => pure (.stopped (.wrongType target.typeName "Fn") (some place))
    | name, .map fields, args =>
      match Datum.Fields.get? fields name with
      | some (.pointer callee bound) =>
        invoke fuel w callee (.map fields :: (bound ++ args)) true (some place)
      | _ => invoke fuel w name (.map fields :: args) true (some place)
    | name, target, args => invoke fuel w name (target :: args) true (some place)

end

/-- The fuel of a run. -/
def fuel : Nat := 100000000

end Evaluator
end LiveSketch
