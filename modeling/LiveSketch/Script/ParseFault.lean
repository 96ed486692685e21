import LiveSketch.Script.Token

/-!
# Parse faults

Why a source text is not a program.

## Main definitions

* `ParseCause`, `ParseCause.message` — the reasons and their texts.
* `ParseFault` — a reason and where it was noticed.
-/

namespace LiveSketch

/-- Why a source text is not a program. -/
inductive ParseCause where
  | word (why : LexFault)
  | incomplete
  | tooDeep
  | unknownOperator (symbol : String)
  | missing (expected purpose : String)
  | badIndex (text : String)
  | duplicateProperty (name : String)
  | duplicateVariable (name : String)
  | propertyExpected
  | variableExpected
  | reserved (text : String)
  | mismatched (expected actual : String)
  | expressionExpected (kind : String)
  | misplacedFunction
  | functionExists (name : String) (arity : Nat)
  | functionNameMissing
  | parametersMissing (name : String)
  | bodyMissing (name : String)
  | duplicateParameter (function name : String)
  | constantAssigned (name : String)
  | notAssignable
  | misplacedBreak
  | guardedDefault
  | lateCase
deriving DecidableEq, Inhabited

/-- What is wrong with the text. -/
def ParseCause.message : ParseCause → String
  | word why => why.message
  | incomplete => "Script is incomplete"
  | tooDeep => "Expression exceeds maximum complexity"
  | unknownOperator symbol => s!"Unknown operator: '{symbol}'"
  | missing expected purpose => s!"Expecting '{expected}' {purpose}"
  | badIndex text => text
  | duplicateProperty name => s!"Duplicated property for object map literal: {name}"
  | duplicateVariable name => s!"Duplicated variable name: {name}"
  | propertyExpected => "Expecting name of a property"
  | variableExpected => "Expecting name of a variable"
  | reserved text =>
    if isProperName text then s!"'{text}' is a reserved keyword"
    else s!"'{text}' is a reserved symbol"
  | mismatched expected actual => s!"Expecting {expected}, not {actual}"
  | expressionExpected kind => s!"Expecting {kind} expression"
  | misplacedFunction =>
    "Function definitions must be at global level and cannot be inside a block or another function"
  | functionExists name 0 => s!"Function {name} with no parameters already exists"
  | functionExists name 1 => s!"Function {name} with 1 parameter already exists"
  | functionExists name arity => s!"Function {name} with {arity} parameters already exists"
  | functionNameMissing => "Expecting function name in function declaration"
  | parametersMissing name => s!"Expecting parameters for function '{name}'"
  | bodyMissing name => s!"Expecting body statement block for function '{name}'"
  | duplicateParameter function name => s!"Duplicated parameter '{name}' for function '{function}'"
  | constantAssigned name =>
    if name = "" then "Cannot assign to a constant value" else s!"Cannot assign to constant {name}"
  | notAssignable => "Expression cannot be assigned to"
  | misplacedBreak => "Break statement should only be used inside a loop"
  | guardedDefault => "Default switch case cannot have condition"
  | lateCase => "Default switch case must be the last"

/-- Why a source text is not a program, and where. -/
structure ParseFault where
  cause : ParseCause
  place : Option Place
deriving DecidableEq, Inhabited

/-- The reason with its place. -/
def ParseFault.message (f : ParseFault) : String := f.cause.message ++ Place.suffix f.place

end LiveSketch
