import LiveSketch.Script.Datum.Text
import LiveSketch.Script.Expr
import LiveSketch.Script.Operator

/-!
# Pure code

Which parts of a program do nothing but give a value.

## Main definitions

* `Expr.constant?` — the value of an expression that is known from its text.
* `Expr.isPure`, `Stmt.isPure` — code that has no effect.
* `Stmt.isLocallyPure` — code that has no effect outside of its block.

## Implementation notes

Reading a variable counts as pure even though the variable may be missing: code whose value nobody
needs is left out without asking whether it would fail.
-/

namespace LiveSketch

mutual

/-- The value of an expression, if it is known from its text. -/
def Expr.constant? : Expr → Option Datum
  | .unit _ => some .unit
  | .bool b _ => some (.bool b)
  | .int n _ => some (.int n)
  | .float x _ => some (.float x)
  | .char c _ => some (.char c)
  | .text s _ => some (.text s)
  | .template parts _ =>
    (constants? parts).map fun ds => .text (String.join (ds.map Datum.printed))
  | .array items _ => (constants? items).map .array
  | .map entries _ => (constantEntries? entries).map fun fields => .map (Datum.Fields.ofList fields)
  | .operator symbol args _ =>
    match constants? args with
    | some [left, right] =>
      match Datum.operate symbol left right with
      | some (.ok d) => some d
      | _ => none
    | _ => none
  | .and left right _ =>
    match left.constant? with
    | some (.bool true) => right.constant?
    | some (.bool false) => some (.bool false)
    | _ => none
  | .or left right _ =>
    match left.constant? with
    | some (.bool false) => right.constant?
    | some (.bool true) => some (.bool true)
    | _ => none
  | _ => none

/-- The values of expressions that are all known. -/
def constants? : List Expr → Option (List Datum)
  | [] => some []
  | e :: rest =>
    match Expr.constant? e with
    | some d => (constants? rest).map (d :: ·)
    | none => none

/-- The fields of a map whose values are all known. -/
def constantEntries? : List (String × Expr) → Option (List (String × Datum))
  | [] => some []
  | (name, e) :: rest =>
    match Expr.constant? e with
    | some d => (constantEntries? rest).map ((name, d) :: ·)
    | none => none

end

mutual

/-- Whether an expression only gives a value. -/
def Expr.isPure : Expr → Bool
  | .template parts _ => arePure parts
  | .array items _ => arePure items
  | .map entries _ => areEntriesPure entries
  | .variable _ _ => true
  | .qualified _ _ _ => true
  | .and left right _ => left.isPure && right.isPure
  | .or left right _ => left.isPure && right.isPure
  | .orElse left right _ => left.isPure && right.isPure
  | .block body _ => body.isPure
  | e => e.constant?.isSome

/-- Whether expressions only give values. -/
def arePure : List Expr → Bool
  | [] => true
  | e :: rest => e.isPure && arePure rest

/-- Whether the values of a map's fields are pure. -/
def areEntriesPure : List (String × Expr) → Bool
  | [] => true
  | (_, e) :: rest => e.isPure && areEntriesPure rest

/-- Whether a statement has no effect. A loop that may not end has one. -/
def Stmt.isPure : Stmt → Bool
  | .nothing => true
  | .expr e => e.isPure
  | .block body => areStepsPure body
  | .branch guard yes no => guard.isPure && yes.isPure && no.isPure
  | .choose subject cases (some otherwise) _ =>
    subject.isPure && areCasesPure cases && otherwise.isPure
  | .forEach _ _ subject body => subject.isPure && body.isPure
  | .attempt body _ handler => body.isPure && handler.isPure
  | .repeatWhile (some (.bool false _)) _ => true
  | .repeatUntil body (.bool b _) stopOn => b == stopOn && body.isPure
  | _ => false

/-- Whether statements have no effect. -/
def areStepsPure : List Stmt → Bool
  | [] => true
  | s :: rest => s.isPure && areStepsPure rest

/-- Whether cases have no effect. -/
def areCasesPure : List (List Expr × Option Expr × Stmt) → Bool
  | [] => true
  | (_, none, body) :: rest => body.isPure && areCasesPure rest
  | (_, some guard, body) :: rest => guard.isPure && body.isPure && areCasesPure rest

end

namespace Stmt

/-- Whether a statement has no effect outside of the block it stands in. -/
def isLocallyPure : Stmt → Bool
  | .declare _ _ none _ => true
  | .declare _ _ (some e) _ => e.isPure
  | .load path _ => path.isPure
  | s => s.isPure

/-- Whether the value of a statement is the value of a block that ends in it. -/
def givesValue : Stmt → Bool
  | .expr _ => true
  | .block _ => true
  | .branch _ _ _ => true
  | .choose _ _ _ _ => true
  | _ => false

/-- Whether a statement cannot be moved out of its block. -/
def isBoundToBlock : Stmt → Bool
  | .declare _ _ _ _ => true
  | .load _ _ => true
  | _ => false

end Stmt

end LiveSketch
