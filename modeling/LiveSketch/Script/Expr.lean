import LiveSketch.Script.Token

/-!
# Programs

What the grammar of the sketch language yields.

## Main definitions

* `Expr`, `Step`, `Stmt` — expressions, the steps of an access chain, and statements.
* `Expr.place`, `Expr.start` — the place a message about an expression names, and its beginning.
* `Function`, `Program` — a function, and a whole source text.

## Implementation notes

An access chain is flat: a root and the steps taken from it. Operators are calls by the operator's
symbol; `&&`, `||` and `??` are separate because they may skip their right side.
-/

namespace LiveSketch

mutual

/-- An expression. -/
inductive Expr where
  | unit (place : Place)
  | bool (b : Bool) (place : Place)
  | int (n : Int) (place : Place)
  | float (x : Float) (place : Place)
  | char (c : Char) (place : Place)
  | text (s : String) (place : Place)
  /-- A text with values in it. -/
  | template (parts : List Expr) (place : Place)
  | array (items : List Expr) (place : Place)
  | map (entries : List (String × Expr)) (place : Place)
  | variable (name : String) (place : Place)
  /-- A name behind one or more qualifiers. -/
  | qualified (qualifiers : List String) (name : String) (place : Place)
  | this (place : Place)
  /-- A call of a function behind one or more qualifiers. -/
  | qualifiedCall (qualifiers : List String) (args : List Expr) (place : Place)
  | call (name : String) (args : List Expr) (place : Place)
  | operator (symbol : String) (args : List Expr) (place : Place)
  | and (left right : Expr) (place : Place)
  | or (left right : Expr) (place : Place)
  | orElse (left right : Expr) (place : Place)
  | chain (root : Expr) (steps : List Step)
  /-- A statement used for its value. -/
  | block (body : Stmt) (place : Place)

/-- A step of an access chain. With `lenient` set it is not taken from a missing value. -/
inductive Step where
  | index (key : Expr) (lenient : Bool) (place : Place)
  | property (name : String) (lenient : Bool) (mark place : Place)
  | method (name : String) (args : List Expr) (lenient : Bool) (mark place : Place)

/-- A statement. -/
inductive Stmt where
  | nothing
  | expr (e : Expr)
  | declare (name : String) (constant : Bool) (value : Option Expr) (place : Place)
  /-- An assignment, with the operator it applies first, if any. -/
  | assign (operator : Option String) (target value : Expr) (place : Place)
  | block (body : List Stmt)
  | branch (guard : Expr) (yes no : Stmt)
  | choose (subject : Expr) (cases : List (List Expr × Option Expr × Stmt)) (otherwise : Option Stmt)
      (place : Place)
  | repeatWhile (guard : Option Expr) (body : Stmt)
  | repeatUntil (body : Stmt) (guard : Expr) (stopOn : Bool)
  | forEach (name : String) (counter : Option String) (subject : Expr) (body : Stmt)
  | leave (value : Option Expr) (place : Place)
  | next (place : Place)
  | giveBack (value : Option Expr) (place : Place)
  | throw (value : Option Expr) (place : Place)
  | attempt (body : Stmt) (name : Option String) (handler : Stmt)
  | load (path : Expr) (place : Place)

end

instance : Inhabited Expr := ⟨.unit default⟩
instance : Inhabited Stmt := ⟨.nothing⟩

/-- The place of the mark that takes a step. -/
def Step.place : Step → Place
  | .index _ _ place => place
  | .property _ _ mark _ => mark
  | .method _ _ _ mark _ => mark

namespace Expr

/-- The place a message about the expression names: for an operator its symbol, for a chain its first
step. -/
def place : Expr → Place
  | .unit p => p
  | .bool _ p => p
  | .int _ p => p
  | .float _ p => p
  | .char _ p => p
  | .text _ p => p
  | .template _ p => p
  | .array _ p => p
  | .map _ p => p
  | .variable _ p => p
  | .qualified _ _ p => p
  | .this p => p
  | .qualifiedCall _ _ p => p
  | .call _ _ p => p
  | .operator _ _ p => p
  | .and _ _ p => p
  | .or _ _ p => p
  | .orElse _ _ p => p
  | .chain root steps =>
    match steps with
    | step :: _ => step.place
    | [] => root.place
  | .block _ p => p

/-- Where the expression begins. -/
def start : Expr → Place
  | .operator _ (first :: _ :: _) _ => first.start
  | .and left _ _ => left.start
  | .or left _ _ => left.start
  | .orElse left _ _ => left.start
  | .chain root _ => root.start
  | e => e.place

end Expr

/-- A function of a program. -/
structure Function where
  name : String
  params : List String
  body : Stmt
deriving Inhabited

/-- A source text: the functions it defines, and the statements it runs. -/
structure Program where
  functions : List Function
  body : List Stmt
deriving Inhabited

end LiveSketch
