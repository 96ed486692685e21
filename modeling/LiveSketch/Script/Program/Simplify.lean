import LiveSketch.Script.Program.Pure

/-!
# Simplifying programs

Leaves out code whose value nobody needs.

## Main definitions

* `Block.tidy` — the statements of a block that matter.
* `Stmt.simplified`, `Expr.simplified` — a statement and an expression without idle parts.
* `Program.simplified` — a whole program.

## Implementation notes

The value of a block is needed if it is a part of an expression, the body of a function, or the last
statement of a block whose value is needed. The bodies of loops and the two parts of a `try` are not.
Reading a missing variable, or a condition that is no truth value, is not noticed in code that is left
out.

Inside of other code, a declaration with a pure value goes as well if nothing that matters follows it.
-/

namespace LiveSketch

namespace Block

/-- Whether the value of a statement keeps earlier declarations: it may use them. -/
def usesNames : Stmt → Bool
  | .expr e => e.constant?.isNone
  | .declare _ _ (some e) _ => e.constant?.isSome
  | .declare _ _ none _ => true
  | .load path _ => path.constant?.isNone
  | _ => false

/-- Whether a statement counts as pure: inside of other code, declarations may. -/
def counts (inner : Bool) (s : Stmt) : Bool := if inner then s.isLocallyPure else s.isPure

/-- The place of the last statement that earlier declarations may matter to. -/
def lastUse (inner : Bool) (body : List Stmt) : Nat :=
  (body.zipIdx.foldl (fun last (s, i) => if !counts inner s || usesNames s then i else last) 0)

/-- The statements without the pure ones; the last one stays if the value is needed. -/
def dropPure (needed inner : Bool) (body : List Stmt) : List Stmt :=
  let last := lastUse inner body
  (body.zipIdx.filter fun (s, i) =>
    (needed && i + 1 == body.length) || !(s.isPure || (counts inner s && decide (last ≤ i)))).map
    (·.1)

/-- The statements, given last first, without pure ones at the end. Where the value is needed a
statement that has none is left out, unless it hides the value of the one before. -/
def dropLast (needed inner : Bool) : List Stmt → List Stmt
  | [] => []
  | [s] => if counts inner s && !(needed && s.givesValue) then [] else [s]
  | s :: before :: rest =>
    if needed then
      match s with
      | .nothing =>
        if before.givesValue then s :: before :: rest
        else dropLast needed inner (before :: rest)
      | s =>
        if s.givesValue || !counts inner s then s :: before :: rest
        else if before.givesValue then .nothing :: before :: rest
        else dropLast needed inner (before :: rest)
    else if counts inner s then dropLast needed inner (before :: rest)
    else s :: before :: rest

/-- The statements that matter, found in several rounds: what is left out in one may have kept
something else. -/
def tidy (needed inner : Bool) : Nat → List Stmt → List Stmt
  | 0, body => body
  | fuel + 1, body =>
    let kept := (dropLast needed inner (dropPure needed inner body).reverse).reverse
    if kept.length = body.length then kept else tidy needed inner fuel kept

/-- A statement as a part of the block around it: the statements of an inner block that declares
nothing stand for themselves. -/
def spliced : Stmt → List Stmt
  | .block body => if body.any Stmt.isBoundToBlock then [.block body] else body
  | s => [s]

/-- A block of statements that have been simplified. -/
def of (needed inner : Bool) (body : List Stmt) : List Stmt :=
  let body := body.flatMap spliced
  tidy needed inner (body.length + 1) body

/-- A statement that runs a block. -/
def statement : List Stmt → Stmt
  | [] => .nothing
  | body => .block body

/-- Whether a statement runs nothing. -/
def isEmpty : Stmt → Bool
  | .nothing => true
  | .block [] => true
  | _ => false

/-- A choice between two statements. Without them only the condition is left, whatever its value. -/
def branch (needed : Bool) (guard : Expr) (yes no : Stmt) : Stmt :=
  if isEmpty yes && isEmpty no then
    if guard.isPure then .nothing
    else if needed then .block [.expr guard, .nothing]
    else .expr guard
  else .branch guard yes no

/-- A statement that may fail. One that cannot needs no handler. -/
def attempt (body : Stmt) (name : Option String) (handler : Stmt) : Stmt :=
  if body.isPure then .nothing else .attempt body name handler

end Block

/-- Operators that an assignment can apply. -/
def assigningOperators : List String := ["+", "-", "*", "/", "**", "%", "<<", ">>", "&", "|", "^"]

/-- An assignment to a variable of an operator applied to it applies the operator in place. -/
def inPlace (operator : Option String) (target value : Expr) (place : Place) : Stmt :=
  match operator, target, value with
  | none, .variable name p, .operator symbol [.variable first _, second] at_ =>
    if name = first ∧ assigningOperators.contains symbol then
      .assign (some symbol) (.variable name p) second at_
    else .assign operator target value place
  | _, _, _ => .assign operator target value place

namespace Expr

/-- `&&`: a side that is known to be true does not matter. -/
def both (left right : Expr) (place : Place) : Expr :=
  match left.constant?, right.constant? with
  | some (.bool true), _ => right
  | some (.bool false), _ => left
  | _, some (.bool true) => left
  | _, _ => .and left right place

/-- `||`: a side that is known to be false does not matter. -/
def either (left right : Expr) (place : Place) : Expr :=
  match left.constant?, right.constant? with
  | some (.bool false), _ => right
  | some (.bool true), _ => left
  | _, some (.bool false) => left
  | _, _ => .or left right place

/-- `??`: a left side that is known settles it. -/
def otherwise (left right : Expr) (place : Place) : Expr :=
  match left.constant? with
  | some .unit => right
  | some _ => left
  | none => .orElse left right place

/-- A block used for its value. -/
def ofBlock (body : Stmt) (place : Place) : Expr :=
  match body with
  | .nothing => .unit place
  | .block [.expr e] => e
  | .expr e => e
  | body => .block body place

end Expr

mutual

/-- An expression without idle parts. -/
def Expr.simplified : Expr → Expr
  | .template parts p => .template (simplifiedAll parts) p
  | .array items p => .array (simplifiedAll items) p
  | .map entries p => .map (simplifiedEntries entries) p
  | .call name args p => .call name (simplifiedAll args) p
  | .qualifiedCall qualifiers args p => .qualifiedCall qualifiers (simplifiedAll args) p
  | .operator symbol args p => .operator symbol (simplifiedAll args) p
  | .and left right p => .both left.simplified right.simplified p
  | .or left right p => .either left.simplified right.simplified p
  | .orElse left right p => .otherwise left.simplified right.simplified p
  | .chain root steps => .chain root.simplified (simplifiedSteps steps)
  | .block body p => .ofBlock (body.simplified true) p
  | e => e

/-- Expressions without idle parts. -/
def simplifiedAll : List Expr → List Expr
  | [] => []
  | e :: rest => e.simplified :: simplifiedAll rest

/-- Fields of a map without idle parts. -/
def simplifiedEntries : List (String × Expr) → List (String × Expr)
  | [] => []
  | (name, e) :: rest => (name, e.simplified) :: simplifiedEntries rest

/-- Steps of a chain without idle parts. -/
def simplifiedSteps : List Step → List Step
  | [] => []
  | .index key lenient p :: rest => .index key.simplified lenient p :: simplifiedSteps rest
  | .property name lenient mark p :: rest => .property name lenient mark p :: simplifiedSteps rest
  | .method name args lenient mark p :: rest =>
    .method name (simplifiedAll args) lenient mark p :: simplifiedSteps rest

/-- An expression that may be left out, without idle parts. -/
def simplifiedOption : Option Expr → Option Expr
  | none => none
  | some e => some e.simplified

/-- A statement without idle parts. `needed` says whether its value is needed. -/
def Stmt.simplified (needed : Bool) : Stmt → Stmt
  | .nothing => .nothing
  | .expr e => .expr e.simplified
  | .declare name constant value p => .declare name constant (simplifiedOption value) p
  | .assign operator target value p =>
    inPlace operator (simplifiedTarget target) value.simplified p
  | .block body => Block.statement (Block.of needed true (simplifiedBody needed body))
  | .branch guard yes no =>
    Block.branch needed guard.simplified (yes.simplified needed) (no.simplified needed)
  | .choose subject cases otherwise p =>
    .choose subject.simplified (simplifiedCases needed cases)
      (simplifiedOtherwise needed otherwise) p
  | .repeatWhile guard body => .repeatWhile (simplifiedOption guard) (body.simplified false)
  | .repeatUntil body guard stopOn =>
    .repeatUntil (body.simplified false) guard.simplified stopOn
  | .forEach name counter subject body =>
    .forEach name counter subject.simplified (body.simplified false)
  | .leave value p => .leave (simplifiedOption value) p
  | .next p => .next p
  | .giveBack value p => .giveBack (simplifiedOption value) p
  | .throw value p => .throw (simplifiedOption value) p
  | .attempt body name handler =>
    Block.attempt (body.simplified false) name (handler.simplified false)
  | .load path p => .load path.simplified p

/-- The target of an assignment. A variable stays what it is. -/
def simplifiedTarget : Expr → Expr
  | .chain root steps => .chain root.simplified (simplifiedSteps steps)
  | e => e

/-- The statements of a block, each without idle parts. Only the value of the last one may be
needed. -/
def simplifiedBody (needed : Bool) : List Stmt → List Stmt
  | [] => []
  | [s] => [s.simplified needed]
  | s :: rest => s.simplified false :: simplifiedBody needed rest

/-- Cases without idle parts. -/
def simplifiedCases (needed : Bool) :
    List (List Expr × Option Expr × Stmt) → List (List Expr × Option Expr × Stmt)
  | [] => []
  | (keys, guard, body) :: rest =>
    (keys, simplifiedOption guard, body.simplified needed) :: simplifiedCases needed rest

/-- The last case, without idle parts. -/
def simplifiedOtherwise (needed : Bool) : Option Stmt → Option Stmt
  | none => none
  | some s => some (s.simplified needed)

end

/-- The statements of a function or a source text, without those that do not matter. -/
def simplifiedOutermost (body : List Stmt) : List Stmt :=
  Block.of true false (simplifiedBody true body)

/-- A function without idle parts. -/
def Function.simplified (f : Function) : Function :=
  { f with body := match f.body with
    | .block body => .block (simplifiedOutermost body)
    | body => .block (simplifiedOutermost [body]) }

/-- A program without idle parts. -/
def Program.simplified (program : Program) : Program where
  functions := program.functions.map Function.simplified
  body := simplifiedOutermost program.body

end LiveSketch
