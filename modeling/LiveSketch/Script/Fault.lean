import LiveSketch.Hooks
import LiveSketch.Script.Datum.Text
import LiveSketch.Script.ParseFault

/-!
# Script faults

What goes wrong when a script runs, and what is told about it.

## Main definitions

* `Cause`, `Cause.message` — the reasons and their texts.
* `Fault` — a reason, its place, and the calls it came through.
* `Fault.toFailure` — the failure that the lifecycle sees: class and message of the innermost
  reason, and one backtrace line per call, innermost first.
* `Fault.caught` — what a script sees of a fault that it catches.

## Implementation notes

A fault that comes out of a function is wrapped once per call, so it remembers the whole chain. Only
the innermost reason names the class and the text.
-/

namespace LiveSketch

/-- Why a calculation has no result. -/
inductive ArithmeticCause where
  /-- The result does not fit. -/
  | overflow (operation left symbol right : String)
  | negativeOverflow (n : Int)
  | divisionByZero (left right : String)
  | remainder (left right : String)
  | negativePower (left right : String)
  | conversion (function argument : String)
  | badNumber (kind text reason : String)
  | badRadix (radix : Int)
  | standingStill
deriving DecidableEq, Inhabited

/-- The text of the reason. -/
def ArithmeticCause.message : ArithmeticCause → String
  | overflow operation left symbol right => s!"{operation} overflow: {left} {symbol} {right}"
  | negativeOverflow n => s!"Negation overflow: -{n}"
  | divisionByZero left right => s!"Division by zero: {left} / {right}"
  | remainder left right => s!"Modulo division by zero or overflow: {left} % {right}"
  | negativePower left right => s!"Integer raised to a negative power: {left} ** {right}"
  | conversion function argument => s!"Integer overflow: {function}({argument})"
  | badNumber kind text reason => s!"Error parsing {kind} number '{text}': {reason}"
  | badRadix radix => s!"Invalid radix: '{radix}'"
  | standingStill => "step value cannot be zero"

/-- Why a script stops. -/
inductive Cause where
  | unknownVariable (name : String)
  | unknownFunction (signature : String)
  | unknownModule (name : String)
  | unknownProperty (name : String)
  | constantAssigned (name : String)
  | constantChanged (method : String)
  | unreadable (property type : String)
  | unwritable (property type valueType : String)
  | arrayBounds (index : Int) (size : Nat)
  | textBounds (index : Int) (size : Nat)
  | bitBounds (index : Int)
  | notIndexable (types : String)
  | notIterable
  | unboundThis
  | wrongType (actual expected : String)
  | wrongResult (actual expected : String)
  | arithmetic (why : ArithmeticCause)
  | tooDeep
  | tooLong
  | parsing (why : ParseCause)
  /-- A value that was thrown. -/
  | thrown (value : Datum)
  /-- Anything else, with the name of its kind. It may lie with the whole run. -/
  | other (kind text : String) (wholeRun : Bool)
deriving Inhabited

namespace Cause

/-- How many things there are, in words. -/
def countText (n : Nat) (none one many : String) : String :=
  if n = 0 then none else if n = 1 then s!"only 1 {one}" else s!"only {n} {many}"

/-- The text of the reason. -/
def message : Cause → String
  | unknownVariable name => s!"Variable not found: {name}"
  | unknownFunction signature => s!"Function not found: {signature}"
  | unknownModule name => s!"Module not found: {name}"
  | unknownProperty name => s!"Property not found: {name}"
  | constantAssigned name => s!"Cannot modify constant {name}"
  | constantChanged method => s!"Cannot call non-pure method '{method}' on constant"
  | unreadable property type =>
    s!"Unknown property '{property}' - a getter is not registered for type '{type}'"
  | unwritable property type valueType =>
    s!"No writable property '{property}' - a setter is not registered for type '{type}' to handle '{valueType}'"
  | arrayBounds index size =>
    let held := countText size "array is empty" "element in array" "elements in array"
    s!"Array index {index} out of bounds: {held}"
  | textBounds index size =>
    let held := countText size "string is empty" "character in string" "characters in string"
    s!"String index {index} out of bounds: {held}"
  | bitBounds index => s!"Bit-field index {index} out of bounds: only 64 bits in bit-field"
  | notIndexable types => s!"Indexer unavailable: {types}"
  | notIterable => "For loop expects an iterable type"
  | unboundThis => "'this' not bound"
  | wrongType actual expected => s!"Data type incorrect: {actual} (expecting {expected})"
  | wrongResult actual expected => s!"Output type incorrect: {actual} (expecting {expected})"
  | arithmetic why => why.message
  | tooDeep => "Stack overflow"
  | tooLong => "Too many operations"
  | parsing why => s!"Syntax error: {why.message}"
  | thrown value =>
    let text := value.hostText
    if text = "" then "Runtime error" else s!"Runtime error: {text}"
  | other _ text _ => text

/-- The class that failures of this kind belong to. -/
def className : Cause → String
  | parsing _ => "ParseError"
  | unknownVariable _ => "NameError"
  | unknownFunction _ => "NoMethodError"
  | unknownProperty _ => "NoMethodError"
  | wrongType _ _ => "TypeError"
  | wrongResult _ _ => "TypeError"
  | arithmetic _ => "ArithmeticError"
  | arrayBounds _ _ => "IndexError"
  | textBounds _ _ => "IndexError"
  | tooDeep => "StackOverflow"
  | thrown _ => "RuntimeError"
  | _ => "ScriptError"

/-- Whether the fault lies with the whole run and not with a statement of it. Scripts cannot catch
such faults, and the calls they come through are not recorded. -/
def isGlobal : Cause → Bool
  | parsing _ => true
  | tooDeep => true
  | tooLong => true
  | other _ _ wholeRun => wholeRun
  | _ => false

end Cause

/-- What went wrong and where, with the calls it came through, outermost first. -/
inductive Fault where
  | raised (cause : Cause) (place : Option Place)
  /-- A fault inside of a function that was called from `place`; `source` is the name of the source
  text that the function belongs to. -/
  | inCall (function source : String) (inner : Fault) (place : Option Place)
deriving Inhabited

namespace Fault

/-- The innermost reason. -/
def cause : Fault → Cause
  | raised cause _ => cause
  | inCall _ _ inner _ => inner.cause

/-- The place of the innermost reason. -/
def origin : Fault → Option Place
  | raised _ place => place
  | inCall _ _ inner _ => inner.origin

/-- The place of the outermost call. -/
def place : Fault → Option Place
  | raised _ place => place
  | inCall _ _ _ place => place

/-- Puts the outermost part at another place. -/
def setPlace (place : Option Place) : Fault → Fault
  | raised cause _ => raised cause place
  | inCall function source inner _ => inCall function source inner place

/-- Puts the outermost part at a place, unless it already has one. -/
def orAt (fault : Fault) (place : Option Place) : Fault :=
  match fault.place with
  | none => fault.setPlace place
  | some _ => fault

/-- The fault as it leaves a function. -/
def leaving (function source : String) (callPlace : Option Place) (fault : Fault) : Fault :=
  match fault with
  | raised cause _ =>
    if cause.isGlobal then raised cause callPlace else inCall function source fault callPlace
  | inCall _ _ _ _ => inCall function source fault callPlace

/-- The source text that the innermost call belongs to. -/
def innermostSource (default : String) : Fault → String
  | raised _ _ => default
  | inCall _ source inner _ => inner.innermostSource source

/-- A place in a source text. Without a column it is a line. -/
def placeText (source : String) : Option Place → String
  | some p => if p.column = 0 then s!"{source}:{p.line}" else s!"{source}:{p.line}:{p.column}"
  | none => source

/-- One line per call, innermost first. -/
def callLines : Fault → List String
  | raised _ _ => []
  | inCall function source inner place =>
    inner.callLines ++ [s!"{placeText source place} in `{function}`"]

/-- The line of the innermost reason, if its place is known. -/
def originLine (fault : Fault) : List String :=
  match fault.origin with
  | some p => [placeText (fault.innermostSource "script") (some p)]
  | none => []

/-- What the lifecycle sees. -/
def toFailure (fault : Fault) : Failure where
  className := fault.cause.className
  message := fault.cause.message ++ Place.suffix fault.origin
  backtrace := fault.originLine ++ fault.callLines

/-! ### Catching -/

/-- The whole fault in words. -/
def text : Fault → String
  | raised cause place => cause.message ++ Place.suffix place
  | inCall function source inner place =>
    let file := if source = "" then "" else s!" @ '{source}'"
    s!"{inner.text} in call to function '{function}'{file}" ++ Place.suffix place

/-- The name of the kind of a reason, and its details. -/
def causeFields : Cause → Datum.Fields
  | .unknownVariable name => kind "ErrorVariableNotFound" [("variable", .text name)]
  | .unknownFunction signature => kind "ErrorFunctionNotFound" [("function", .text signature)]
  | .unknownModule name => kind "ErrorModuleNotFound" [("module", .text name)]
  | .unknownProperty name => kind "ErrorPropertyNotFound" [("property", .text name)]
  | .constantAssigned name => kind "ErrorAssignmentToConstant" [("variable", .text name)]
  | .constantChanged method =>
    kind "ErrorNonPureMethodCallOnConstant" [("function", .text method)]
  | .unreadable property type =>
    kind "ErrorDotExpr" [("property", .text (Cause.unreadable property type).message)]
  | .unwritable property type valueType =>
    kind "ErrorDotExpr" [("property", .text (Cause.unwritable property type valueType).message)]
  | .arrayBounds index size => kind "ErrorArrayBounds" [("length", .int size), ("index", .int index)]
  | .textBounds index size => kind "ErrorStringBounds" [("length", .int size), ("index", .int index)]
  | .bitBounds index => kind "ErrorBitFieldBounds" [("length", .int 64), ("index", .int index)]
  | .notIndexable types => kind "ErrorIndexingType" [("type", .text types)]
  | .notIterable => kind "ErrorFor" []
  | .unboundThis => kind "ErrorUnboundThis" []
  | .wrongType actual expected =>
    kind "ErrorMismatchDataType" [("requested", .text expected), ("actual", .text actual)]
  | .wrongResult actual expected =>
    kind "ErrorMismatchOutputType" [("requested", .text expected), ("actual", .text actual)]
  | .arithmetic _ => kind "ErrorArithmetic" []
  | .tooDeep => kind "ErrorStackOverflow" []
  | .tooLong => kind "ErrorTooManyOperations" []
  | .parsing _ => kind "ErrorParsing" []
  | .thrown _ => kind "ErrorRuntime" []
  | .other name _ _ => kind name []
where
  /-- The name of the kind in front of other fields. -/
  kind (name : String) (fields : Datum.Fields) : Datum.Fields := ("error", .text name) :: fields

/-- The details of the outermost part. -/
def fields : Fault → Datum.Fields
  | raised cause _ => causeFields cause
  | inCall function source _ _ =>
    [("error", .text "ErrorInFunctionCall"), ("function", .text function), ("source", .text source)]

/-- What a script sees of a fault that it catches: the value that was thrown, or a description. -/
def caught (source : String) (fault : Fault) : Datum :=
  match fault.cause with
  | .thrown value => value
  | _ =>
    let placed : Datum.Fields := match fault.place with
      | some p => [("line", .int p.line), ("position", .int p.column)]
      | none => []
    .map (Datum.Fields.ofList
      ([("message", .text (fault.setPlace none).text), ("source", .text source)] ++ placed ++
        fault.fields))

end Fault

end LiveSketch
