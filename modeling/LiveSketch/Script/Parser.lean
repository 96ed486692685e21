import LiveSketch.Script.Expr
import LiveSketch.Script.ParseFault
import LiveSketch.Script.Token.Lexer

/-!
# Parsing programs

From words to a program.

## Main definitions

* `Parser.State`, `Parse` — the words still to read and what is known about names.
* `Parser.statement`, `Parser.expression` — the grammar.
* `Program.parse`, `Parser.parseLone` — a whole source text, and a single expression.

## Implementation notes

**Fuel.** Every rule calls others with less fuel. A rule reads a word or hands on to a rule that
binds more tightly, so the nesting is bounded by a multiple of the number of words, and the fuel is
computed from that number.

**Names.** Only as much is known about names as is needed to refuse assignments to constants that
are in sight.
-/

namespace LiveSketch
namespace Parser

/-- The words still to read, the names in sight, newest first, with whether they are constant, and
the functions seen. -/
structure State where
  lexemes : List Lexeme
  names : List (String × Bool) := []
  functions : List Function := []
deriving Inhabited

/-- A parsing step. -/
abbrev Parse (α : Type) := EStateM ParseFault State α

/-- Where a statement stands. -/
structure Setting where
  /-- At the top level of the source text, outside every block. -/
  atTop : Bool := true
  inFunction : Bool := false
  inLoop : Bool := false
  /-- Names of map entries have to be quoted. -/
  quotesKeys : Bool := false

/-- The next word, which stays where it is. -/
def peek : Parse Lexeme := do
  match (← get).lexemes with
  | lexeme :: _ => pure lexeme
  | [] => pure ⟨.eof, none⟩

/-- Takes the next word. The last one is never used up. -/
def take : Parse Lexeme := do
  let s ← get
  match s.lexemes with
  | [] => pure ⟨.eof, none⟩
  | [lexeme] => pure lexeme
  | lexeme :: rest =>
    set { s with lexemes := rest }
    pure lexeme

/-- Stops at a place. -/
def fail {α : Type} (cause : ParseCause) (place : Option Place) : Parse α := throw ⟨cause, place⟩

/-- Stops at a word that is a fault, else for a reason of the grammar. -/
def failAt {α : Type} (lexeme : Lexeme) (cause : ParseCause) : Parse α :=
  match lexeme.token with
  | .fault why => fail (.word why) lexeme.place
  | _ => fail cause lexeme.place

/-- Whether a word is a given mark. -/
def isMark (lexeme : Lexeme) (mark : String) : Bool :=
  match lexeme.token with
  | .mark m => m == mark
  | _ => false

/-- Whether a word is the end of the text. -/
def isEnd (lexeme : Lexeme) : Bool :=
  match lexeme.token with
  | .eof => true
  | _ => false

/-- The place of a word. -/
def placeOf (lexeme : Lexeme) : Place := lexeme.place.getD {}

/-- Takes the next word if it is a given mark. -/
def accept (mark : String) : Parse Bool := do
  if isMark (← peek) mark then
    let _ ← take
    pure true
  else pure false

/-- Takes a given mark, or stops. -/
def expect (mark purpose : String) : Parse Place := do
  let lexeme ← take
  if isMark lexeme mark then pure (placeOf lexeme) else failAt lexeme (.missing mark purpose)

/-- Takes the name of a variable. -/
def variableName : Parse (String × Place) := do
  let lexeme ← take
  match lexeme.token with
  | .name s => pure (s, placeOf lexeme)
  | .reserved s =>
    if isProperName s then fail (.reserved s) lexeme.place else fail .variableExpected lexeme.place
  | _ => failAt lexeme .variableExpected

/-- Brings a name into sight. -/
def declare (name : String) (constant : Bool) : Parse Unit :=
  modify fun s => { s with names := (name, constant) :: s.names }

/-- Runs a step and forgets the names it brought into sight. -/
def enclosed {α : Type} (step : Parse α) : Parse α := do
  let names := (← get).names
  let a ← step
  modify fun s => { s with names }
  pure a

/-! ### Checks on expressions -/

/-- What a literal is called, if it cannot be a truth value. -/
def notBool? : Expr → Option String
  | .unit _ => some "()"
  | .int _ _ => some "a number"
  | .float _ _ => some "a floating-point number"
  | .char _ _ => some "a character"
  | .text _ _ => some "a string"
  | .template _ _ => some "a string"
  | .array _ _ => some "an array"
  | .map _ _ => some "an object map"
  | _ => none

/-- What a literal is called, if it cannot be iterated over. -/
def notIterable? : Expr → Option String
  | .unit _ => some "()"
  | .bool _ _ => some "a boolean"
  | .int _ _ => some "a number"
  | .float _ _ => some "a floating-point number"
  | .char _ _ => some "a character"
  | .map _ _ => some "an object map"
  | _ => none

/-- Refuses literals that cannot be truth values. -/
def ensureBool (e : Expr) : Parse Expr :=
  match notBool? e with
  | some actual => fail (.mismatched "a boolean expression" actual) (some e.start)
  | none => pure e

/-- Refuses literals that cannot be iterated over. -/
def ensureIterable (e : Expr) : Parse Expr :=
  match notIterable? e with
  | some actual => fail (.mismatched "an iterable value" actual) (some e.start)
  | none => pure e

/-- Refuses a block where an expression has to be. -/
def ensureNoBlock : Parse Unit := do
  let lexeme ← peek
  if isMark lexeme "\x7b" then fail (.expressionExpected "a boolean") lexeme.place

/-- Refuses an assignment where a condition has to be. -/
def ensureNoAssignment : Parse Unit := do
  let lexeme ← peek
  if isMark lexeme "=" then
    fail (.word (.foreignSymbol "=" "Possibly a typo of '=='?")) lexeme.place

mutual

/-- Whether an expression is a literal. -/
def isLiteral : Expr → Bool
  | .unit _ => true
  | .bool _ _ => true
  | .int _ _ => true
  | .float _ _ => true
  | .char _ _ => true
  | .text _ _ => true
  | .array items _ => areLiteral items
  | .map entries _ => haveLiterals entries
  | _ => false

/-- Whether all expressions are literals. -/
def areLiteral : List Expr → Bool
  | [] => true
  | e :: rest => isLiteral e && areLiteral rest

/-- Whether all entries hold literals. -/
def haveLiterals : List (String × Expr) → Bool
  | [] => true
  | (_, e) :: rest => isLiteral e && haveLiterals rest

end

/-- Refuses keys that a literal cannot be indexed with. -/
def checkIndex (root key : Expr) : Parse Unit :=
  let refuse (text : String) : Parse Unit := fail (.badIndex text) (some key.start)
  match root with
  | .map _ _ =>
    match key with
    | .int _ _ => refuse "Object map expects string index, not a number"
    | .float _ _ => refuse "Object map expects string index, not a floating-point number"
    | .char _ _ => refuse "Object map expects string index, not a character"
    | .unit _ => refuse "Object map expects string index, not ()"
    | .bool _ _ => refuse "Object map expects string index, not a boolean expression"
    | _ => pure ()
  | .int _ _ | .array _ _ | .text _ _ | .template _ _ =>
    match key with
    | .text _ _ | .template _ _ =>
      refuse "Array, string or bit-field expects numeric index, not a string"
    | .float _ _ =>
      refuse "Array, string or bit-field expects integer index, not a floating-point number"
    | .char _ _ => refuse "Array, string or bit-field expects integer index, not a character"
    | .unit _ => refuse "Array, string or bit-field expects integer index, not ()"
    | .bool _ _ => refuse "Array, string or bit-field expects integer index, not a boolean"
    | _ => pure ()
  | .float _ _ | .char _ _ | .bool _ _ | .unit _ =>
    fail (.badIndex "Only arrays, object maps and strings can be indexed") (some root.start)
  | _ => pure ()

/-- Adds a step to an access chain. -/
def extend (root : Expr) (step : Step) : Expr :=
  match root with
  | .chain root steps => .chain root (steps ++ [step])
  | root => .chain root [step]

/-- The step of a chain that cannot be assigned to, if the last one is such. -/
def unassignableStep? (steps : List Step) : Option Place :=
  match steps.getLast? with
  | some (.method _ _ _ _ place) => some place
  | _ => none

/-- Makes an assignment, if its left side can be assigned to. -/
def assignment (operator : Option String) (target value : Expr) (place : Place) : Parse Stmt := do
  let made := Stmt.assign operator target value place
  match target with
  | .this _ => pure made
  | .variable name namePlace =>
    match (← get).names.find? (fun entry => entry.1 = name) with
    | some (_, true) => fail (.constantAssigned name) (some namePlace)
    | _ => pure made
  | .chain root steps =>
    match unassignableStep? steps with
    | some bad => fail .notAssignable (some bad)
    | none =>
      match root with
      | .variable _ _ | .this _ => pure made
      | root => fail .notAssignable (some root.place)
  | .and _ _ _ | .or _ _ _ | .orElse _ _ _ =>
    if operator.isNone then
      fail (.word (.foreignSymbol "=" "Possibly a typo of '=='?")) (some place)
    else fail .notAssignable (some target.place)
  | target =>
    if isLiteral target then fail (.constantAssigned "") (some target.start)
    else fail .notAssignable (some target.place)

/-- Whether a statement ends by itself, without a semicolon. -/
def endsItself : Stmt → Bool
  | .block _ => true
  | .branch _ _ _ => true
  | .choose _ _ _ _ => true
  | .repeatWhile _ _ => true
  | .forEach _ _ _ _ => true
  | .attempt _ _ _ => true
  | _ => false

/-- Whether a statement is empty. -/
def isNothing : Stmt → Bool
  | .nothing => true
  | _ => false

/-- The negative of an operand: of a literal, the negative literal. -/
def negate (e : Expr) (place : Place) : Expr :=
  match e with
  | .int n _ => if Lexer.isInt64 (-n) then .int (-n) place else .float (-(Float.ofInt n)) place
  | .float x _ => .float (-x) place
  | e => .operator "-" [e] place

/-- An operand with a plus sign. -/
def keepSign (e : Expr) (place : Place) : Expr :=
  match e with
  | .int n p => .int n p
  | .float x p => .float x p
  | e => .operator "+" [e] place

/-- Whether a word can start the arguments of a call. -/
def opensArguments (lexeme : Lexeme) : Bool := isMark lexeme "(" || isMark lexeme "()"

/-- Combines two operands. -/
def combine (symbol : String) (left right : Expr) (place : Place) : Parse Expr :=
  match symbol with
  | "||" => do
    let right ← ensureBool right
    let left ← ensureBool left
    pure (.or left right place)
  | "&&" => do
    let right ← ensureBool right
    let left ← ensureBool left
    pure (.and left right place)
  | "??" => pure (.orElse left right place)
  | "in" => pure (.operator "contains" [right, left] place)
  | "!in" => pure (.operator "!" [.operator "contains" [right, left] place] place)
  | symbol => pure (.operator symbol [left, right] place)

/-- The binding strength of a word, which must not be a reserved symbol. -/
def strength (lexeme : Lexeme) : Parse Nat :=
  match lexeme.token with
  | .reserved s =>
    if isProperName s then pure 0 else fail (.unknownOperator s) lexeme.place
  | .fault why => fail (.word why) lexeme.place
  | token => pure token.precedence

mutual

/-- A statement. -/
def statement : Nat → Setting → Parse Stmt
  | 0, _ => fail .tooDeep none
  | fuel + 1, at_ => do
    let lexeme ← peek
    let here := placeOf lexeme
    match lexeme.token with
    | .eof => pure .nothing
    | .mark ";" => do
      let _ ← take
      pure .nothing
    | .mark "\x7b" => block fuel at_
    | .mark "fn" =>
      if at_.atTop then do
        let _ ← take
        function fuel here
      else fail .misplacedFunction lexeme.place
    | .mark "private" =>
      if at_.atTop then do
        let _ ← take
        let next ← take
        if isMark next "fn" then function fuel (placeOf next)
        else fail (.missing "fn" "following 'private'") next.place
      else fail .misplacedFunction lexeme.place
    | .mark "if" => branch fuel at_
    | .mark "switch" => choice fuel at_
    | .mark "while" => loop fuel at_
    | .mark "loop" => loop fuel at_
    | .mark "do" => doLoop fuel at_
    | .mark "for" => forLoop fuel at_
    | .mark "continue" =>
      if at_.inLoop then do
        let _ ← take
        pure (.next here)
      else fail .misplacedBreak lexeme.place
    | .mark "break" =>
      if at_.inLoop then do
        let _ ← take
        let value ← optionalValue fuel at_
        pure (.leave value here)
      else fail .misplacedBreak lexeme.place
    | .mark "return" => do
      let _ ← take
      let value ← optionalValue fuel at_
      pure (.giveBack value here)
    | .mark "throw" => do
      let _ ← take
      let value ← optionalValue fuel at_
      pure (.throw value here)
    | .mark "try" => attempt fuel at_
    | .mark "let" => do
      let _ ← take
      declaration fuel at_ false
    | .mark "const" => do
      let _ ← take
      declaration fuel at_ true
    | .mark "import" => do
      let _ ← take
      let path ← expression fuel at_
      if ← accept "as" then
        let _ ← variableName
      pure (.load path here)
    | _ => expressionStatement fuel at_

/-- The value of a `return`, `throw` or `break`, which may be left out. -/
def optionalValue : Nat → Setting → Parse (Option Expr)
  | 0, _ => fail .tooDeep none
  | fuel + 1, at_ => do
    let lexeme ← peek
    if isEnd lexeme || isMark lexeme ";" || (isMark lexeme "\x7d" && !at_.atTop) then pure none
    else do
      let e ← expression fuel at_
      pure (some e)

/-- A declaration, after its keyword. -/
def declaration : Nat → Setting → Bool → Parse Stmt
  | 0, _, _ => fail .tooDeep none
  | fuel + 1, at_, constant => do
    let (name, place) ← variableName
    let value ← if ← accept "=" then do
        let e ← expression fuel at_
        pure (some e)
      else pure none
    declare name constant
    pure (.declare name constant value place)

/-- An expression as a statement, or an assignment. -/
def expressionStatement : Nat → Setting → Parse Stmt
  | 0, _ => fail .tooDeep none
  | fuel + 1, at_ => do
    let e ← expression fuel at_
    let lexeme ← peek
    match lexeme.token with
    | .mark m =>
      if m = "=" then do
        let _ ← take
        let value ← expression fuel at_
        assignment none e value (placeOf lexeme)
      else if Token.assigning.contains m then do
        let _ ← take
        let value ← expression fuel at_
        assignment (some (String.ofList m.toList.dropLast)) e value (placeOf lexeme)
      else pure (.expr e)
    | _ => pure (.expr e)

/-- The statements of a block, up to its closing brace. -/
def statements : Nat → Setting → Parse (List Stmt)
  | 0, _ => fail .tooDeep none
  | fuel + 1, at_ => do
    let lexeme ← peek
    if isMark lexeme "\x7d" then pure []
    else if isEnd lexeme then fail (.missing "\x7d" "to terminate this block") lexeme.place
    else do
      let s ← statement fuel at_
      if isNothing s then statements fuel at_
      else do
        let next ← peek
        if isMark next "\x7d" then pure [s]
        else if isMark next ";" then do
          let _ ← take
          let rest ← statements fuel at_
          pure (s :: rest)
        else if endsItself s then do
          let rest ← statements fuel at_
          pure (s :: rest)
        else failAt next (.missing ";" "to terminate this statement")

/-- A block. -/
def block : Nat → Setting → Parse Stmt
  | 0, _ => fail .tooDeep none
  | fuel + 1, at_ => do
    let _ ← expect "\x7b" "to start a statement block"
    let body ← enclosed (statements fuel { at_ with atTop := false })
    let _ ← take
    pure (.block body)

/-- A function, after its keyword, which stands at `place`. -/
def function : Nat → Place → Parse Stmt
  | 0, _ => fail .tooDeep none
  | fuel + 1, place => do
    let lexeme ← take
    match lexeme.token with
    | .name name => do
      let next ← peek
      let params ←
        if isMark next "()" then do
          let _ ← take
          pure []
        else if isMark next "(" then do
          let _ ← take
          parameters fuel name []
        else fail (.parametersMissing name) next.place
      let bodyStart ← peek
      if !isMark bodyStart "\x7b" then fail (.bodyMissing name) bodyStart.place
      let names := (← get).names
      modify fun s => { s with names := (params.map fun p => (p, false)).reverse }
      let body ← block fuel { atTop := false, inFunction := true }
      modify fun s => { s with names }
      let known := (← get).functions
      if known.any fun f => f.name = name && f.params.length = params.length then
        fail (.functionExists name params.length) (some place)
      modify fun s => { s with functions := s.functions ++ [⟨name, params, body⟩] }
      pure .nothing
    | .reserved s => fail (.reserved s) lexeme.place
    | _ => failAt lexeme .functionNameMissing

/-- The parameters of a function, up to the closing parenthesis. -/
def parameters : Nat → String → List String → Parse (List String)
  | 0, _, _ => fail .tooDeep none
  | fuel + 1, function, sofar => do
    let lexeme ← take
    match lexeme.token with
    | .mark ")" => pure sofar
    | .name p =>
      if sofar.contains p then fail (.duplicateParameter function p) lexeme.place
      else do
        let next ← take
        match next.token with
        | .mark ")" => pure (sofar ++ [p])
        | .mark "," => parameters fuel function (sofar ++ [p])
        | _ => failAt next (.missing "," s!"to separate the parameters of function '{function}'")
    | .reserved s =>
      if isProperName s then fail (.reserved s) lexeme.place
      else fail (.missing ")" s!"to close the parameters list of function '{function}'") lexeme.place
    | _ => failAt lexeme (.missing ")" s!"to close the parameters list of function '{function}'")

/-- A condition. -/
def condition : Nat → Setting → Parse Expr
  | 0, _ => fail .tooDeep none
  | fuel + 1, at_ => do
    ensureNoBlock
    let e ← expression fuel at_
    let guard ← ensureBool e
    ensureNoAssignment
    pure guard

/-- An `if` statement. -/
def branch : Nat → Setting → Parse Stmt
  | 0, _ => fail .tooDeep none
  | fuel + 1, at_ => do
    let _ ← take
    let at_ := { at_ with atTop := false }
    let guard ← condition fuel at_
    let yes ← block fuel at_
    if ← accept "else" then
      let no ← if isMark (← peek) "if" then branch fuel at_ else block fuel at_
      pure (.branch guard yes no)
    else pure (.branch guard yes .nothing)

/-- A `while` or `loop` statement. -/
def loop : Nat → Setting → Parse Stmt
  | 0, _ => fail .tooDeep none
  | fuel + 1, at_ => do
    let lexeme ← take
    let at_ := { at_ with atTop := false }
    let guard ← if isMark lexeme "while" then do
        let e ← condition fuel at_
        pure (some e)
      else pure none
    let body ← block fuel { at_ with inLoop := true }
    pure (.repeatWhile guard body)

/-- A `do` statement. -/
def doLoop : Nat → Setting → Parse Stmt
  | 0, _ => fail .tooDeep none
  | fuel + 1, at_ => do
    let _ ← take
    let at_ := { at_ with atTop := false }
    let body ← block fuel { at_ with inLoop := true }
    let lexeme ← take
    if isMark lexeme "while" || isMark lexeme "until" then
      let guard ← condition fuel at_
      pure (.repeatUntil body guard (isMark lexeme "until"))
    else failAt lexeme (.missing "while" "for the do statement")

/-- A `for` statement. -/
def forLoop : Nat → Setting → Parse Stmt
  | 0, _ => fail .tooDeep none
  | fuel + 1, at_ => do
    let _ ← take
    let at_ := { at_ with atTop := false }
    let (name, counter) ← if ← accept "(" then do
        let (name, _) ← variableName
        let _ ← expect "," "after the iteration variable name"
        let (counter, place) ← variableName
        if counter = name then fail (.duplicateVariable counter) (some place)
        let _ ← expect ")" "to close the iteration variable"
        pure (name, some counter)
      else do
        let (name, _) ← variableName
        pure (name, none)
    let _ ← expect "in" "after the iteration variable"
    ensureNoBlock
    let e ← expression fuel at_
    let subject ← ensureIterable e
    let body ← enclosed do
      match counter with
      | some c => declare c false
      | none => pure ()
      declare name false
      block fuel { at_ with inLoop := true }
    pure (.forEach name counter subject body)

/-- A `try` statement. -/
def attempt : Nat → Setting → Parse Stmt
  | 0, _ => fail .tooDeep none
  | fuel + 1, at_ => do
    let _ ← take
    let at_ := { at_ with atTop := false }
    let body ← block fuel at_
    let _ ← expect "catch" "for the 'try' statement"
    let name ← if ← accept "(" then do
        let (name, _) ← variableName
        let _ ← expect ")" "to enclose the catch variable"
        pure (some name)
      else pure none
    let handler ← enclosed do
      match name with
      | some n => declare n false
      | none => pure ()
      block fuel at_
    pure (.attempt body name handler)

/-- A `switch` statement. -/
def choice : Nat → Setting → Parse Stmt
  | 0, _ => fail .tooDeep none
  | fuel + 1, at_ => do
    let lexeme ← take
    let at_ := { at_ with atTop := false }
    let subject ← expression fuel at_
    let _ ← expect "\x7b" "to start a switch block"
    let (cases, otherwise) ← switchCases fuel at_
    pure (.choose subject cases otherwise (placeOf lexeme))

/-- The cases of a `switch` statement, up to the closing brace. -/
def switchCases :
    Nat → Setting → Parse (List (List Expr × Option Expr × Stmt) × Option Stmt)
  | 0, _ => fail .tooDeep none
  | fuel + 1, at_ => do
    let lexeme ← peek
    if isMark lexeme "\x7d" then
      let _ ← take
      pure ([], none)
    else if isEnd lexeme then fail (.missing "\x7d" "to end this switch block") lexeme.place
    else if isMark lexeme "_" then
      let _ ← take
      let next ← peek
      if isMark next "if" then fail .guardedDefault next.place
      let body ← caseBody fuel at_
      let last ← take
      if isMark last "\x7d" then pure ([], some body)
      else if isEnd last then fail (.missing "\x7d" "to end this switch block") last.place
      else failAt last .lateCase
    else
      let keys ← caseKeys fuel at_
      let guard ← if ← accept "if" then do
          let e ← expression fuel at_
          let e ← ensureBool e
          pure (some e)
        else pure none
      let body ← caseBody fuel at_
      let (cases, otherwise) ← switchCases fuel at_
      pure ((keys, guard, body) :: cases, otherwise)

/-- The keys of a case, separated by bars. -/
def caseKeys : Nat → Setting → Parse (List Expr)
  | 0, _ => fail .tooDeep none
  | fuel + 1, at_ => do
    let first ← unary fuel at_
    let key ← infixes fuel at_ 31 first
    if ← accept "|" then
      let rest ← caseKeys fuel at_
      pure (key :: rest)
    else pure [key]

/-- The body of a case and the comma after it. -/
def caseBody : Nat → Setting → Parse Stmt
  | 0, _ => fail .tooDeep none
  | fuel + 1, at_ => do
    let _ ← expect "=>" "in this switch case"
    let body ← statement fuel at_
    let lexeme ← peek
    if isMark lexeme "," then
      let _ ← take
      pure body
    else if isMark lexeme "\x7d" || endsItself body then pure body
    else if isEnd lexeme then fail (.missing ")" "to end this switch block") lexeme.place
    else failAt lexeme (.missing "," "to separate the items in this switch block")

/-- An expression. -/
def expression : Nat → Setting → Parse Expr
  | 0, _ => fail .tooDeep none
  | fuel + 1, at_ => do
    let first ← unary fuel at_
    infixes fuel at_ 1 first

/-- The infix operators after an operand, as far as they bind more strongly than `least`, or as
strongly if they group to the right. -/
def infixes : Nat → Setting → Nat → Expr → Parse Expr
  | 0, _, _, _ => fail .tooDeep none
  | fuel + 1, at_, least, left => do
    let lexeme ← peek
    let strong ← strength lexeme
    let right := lexeme.token.bindsRight
    if strong < least || (strong = least && !right) then pure left
    else do
      let _ ← take
      let operand ← unary fuel at_
      let next ← peek
      let nextStrong ← strength next
      let operand ←
        if (strong = nextStrong && right) || strong < nextStrong then infixes fuel at_ strong operand
        else pure operand
      match lexeme.token with
      | .mark symbol => do
        let e ← combine symbol left operand (placeOf lexeme)
        infixes fuel at_ least e
      | _ => pure left

/-- An operand with signs in front. -/
def unary : Nat → Setting → Parse Expr
  | 0, _ => fail .tooDeep none
  | fuel + 1, at_ => do
    let lexeme ← peek
    match lexeme.token with
    | .mark "-" => do
      let _ ← take
      let e ← unary fuel at_
      pure (negate e (placeOf lexeme))
    | .mark "+" => do
      let _ ← take
      let e ← unary fuel at_
      pure (keepSign e (placeOf lexeme))
    | .mark "!" => do
      let _ ← take
      let e ← unary fuel at_
      pure (.operator "!" [e] (placeOf lexeme))
    | .eof => fail .incomplete lexeme.place
    | _ => do
      let root ← primary fuel at_
      steps fuel at_ root true

/-- An operand without the steps taken from it. -/
def primary : Nat → Setting → Parse Expr
  | 0, _ => fail .tooDeep none
  | fuel + 1, at_ => do
    let lexeme ← peek
    let here := placeOf lexeme
    let literal (e : Expr) : Parse Expr := do
      let _ ← take
      pure e
    match lexeme.token with
    | .int n => literal (.int n here)
    | .float x => literal (.float x here)
    | .char c => literal (.char c here)
    | .text s => literal (.text s here)
    | .mark "true" => literal (.bool true here)
    | .mark "false" => literal (.bool false here)
    | .mark "()" => literal (.unit here)
    | .mark "\x7b" => do
      let body ← block fuel { at_ with atTop := false }
      pure (.block body here)
    | .mark "(" => do
      let _ ← take
      let e ← expression fuel at_
      let _ ← expect ")" "for a matching ( in this expression"
      pure e
    | .mark "if" => do
      let body ← branch fuel at_
      pure (.block body here)
    | .mark "while" => do
      let body ← loop fuel at_
      pure (.block body here)
    | .mark "loop" => do
      let body ← loop fuel at_
      pure (.block body here)
    | .mark "do" => do
      let body ← doLoop fuel at_
      pure (.block body here)
    | .mark "for" => do
      let body ← forLoop fuel at_
      pure (.block body here)
    | .mark "switch" => do
      let body ← choice fuel at_
      pure (.block body here)
    | .piece s => do
      let _ ← take
      let parts ← pieces fuel at_
      let front := if s = "" then [] else [Expr.text s here]
      pure (.template (front ++ parts) here)
    | .mark "[" => do
      let _ ← take
      let items ← arrayItems fuel at_
      pure (.array items here)
    | .mark "#\x7b" => do
      let _ ← take
      let entries ← mapEntries fuel at_ []
      pure (.map entries here)
    | .name s => do
      let _ ← take
      let next ← peek
      if opensArguments next then do
        let args ← arguments fuel at_ s
        pure (.call s args here)
      else if isMark next "::" then qualified fuel at_ [s] here
      else pure (.variable s here)
    | .reserved s => do
      let _ ← take
      let next ← peek
      if Reserved.callable s && opensArguments next then do
        let args ← arguments fuel at_ s
        pure (.call s args here)
      else if s = "this" then
        if at_.inFunction then pure (.this here)
        else
          fail (.word (.foreignSymbol s "'this' can only be used in functions")) lexeme.place
      else fail (.reserved s) lexeme.place
    | .mark m => fail (.word (.unexpected m)) lexeme.place
    | .eof => fail .incomplete lexeme.place
    | .fault why => fail (.word why) lexeme.place

/-- The values and texts of a template, after its first piece. -/
def pieces : Nat → Setting → Parse (List Expr)
  | 0, _ => fail .tooDeep none
  | fuel + 1, at_ => do
    let start ← peek
    let body ← block fuel { at_ with atTop := false }
    let part := Expr.block body (placeOf start)
    let lexeme ← take
    let text (s : String) : List Expr := if s = "" then [] else [.text s (placeOf lexeme)]
    match lexeme.token with
    | .text s => pure (part :: text s)
    | .piece s => do
      let rest ← pieces fuel at_
      pure (part :: (text s ++ rest))
    | _ => failAt lexeme .incomplete

/-- A name behind qualifiers. -/
def qualified : Nat → Setting → List String → Place → Parse Expr
  | 0, _, _, _ => fail .tooDeep none
  | fuel + 1, at_, qualifiers, place => do
    let _ ← take
    let (name, _) ← variableName
    let next ← peek
    if isMark next "::" then qualified fuel at_ (qualifiers ++ [name]) place
    else if opensArguments next then do
      let args ← arguments fuel at_ name
      pure (.qualifiedCall qualifiers args place)
    else pure (.qualified qualifiers name place)

/-- The arguments of a call, with the parentheses. -/
def arguments : Nat → Setting → String → Parse (List Expr)
  | 0, _, _ => fail .tooDeep none
  | fuel + 1, at_, function => do
    let lexeme ← take
    if isMark lexeme "()" then pure []
    else do
      let next ← peek
      if isMark next ")" then do
        let _ ← take
        pure []
      else if isEnd next then
        fail (.missing ")" s!"to close the arguments list of this function call '{function}'")
          next.place
      else moreArguments fuel at_ function

/-- The arguments of a call up to the closing parenthesis. A comma may stand after the last one. -/
def moreArguments : Nat → Setting → String → Parse (List Expr)
  | 0, _, _ => fail .tooDeep none
  | fuel + 1, at_, function => do
    let lexeme ← peek
    if isMark lexeme ")" then do
      let _ ← take
      return []
    let e ← expression fuel at_
    let lexeme ← peek
    if isMark lexeme ")" then do
      let _ ← take
      pure [e]
    else if isMark lexeme "," then do
      let _ ← take
      let rest ← moreArguments fuel at_ function
      pure (e :: rest)
    else if isEnd lexeme then
      fail (.missing ")" s!"to close the arguments list of this function call '{function}'")
        lexeme.place
    else failAt lexeme (.missing "," s!"to separate the arguments to function call '{function}'")

/-- The items of an array, up to the closing bracket. -/
def arrayItems : Nat → Setting → Parse (List Expr)
  | 0, _ => fail .tooDeep none
  | fuel + 1, at_ => do
    let lexeme ← peek
    if isMark lexeme "]" then do
      let _ ← take
      pure []
    else if isEnd lexeme then fail (.missing "]" "to end this array literal") lexeme.place
    else do
      let e ← expression fuel at_
      let next ← peek
      if isMark next "," then do
        let _ ← take
        let rest ← arrayItems fuel at_
        pure (e :: rest)
      else if isMark next "]" then do
        let _ ← take
        pure [e]
      else if isEnd next then fail (.missing "]" "to end this array literal") next.place
      else failAt next (.missing "," "to separate the items of this array literal")

/-- The entries of a map, up to the closing brace. -/
def mapEntries : Nat → Setting → List (String × Expr) → Parse (List (String × Expr))
  | 0, _, _ => fail .tooDeep none
  | fuel + 1, at_, sofar => do
    let unclosed := ParseCause.missing "\x7d" "to end this object map literal"
    let lexeme ← peek
    if isMark lexeme "\x7d" then do
      let _ ← take
      pure sofar
    else do
      let lexeme ← take
      let named (name : String) : Parse (List (String × Expr)) := do
        if sofar.any fun entry => entry.1 = name then fail (.duplicateProperty name) lexeme.place
        let _ ← expect ":" s!"to follow the property '{name}' in this object map literal"
        let e ← expression fuel at_
        let sofar := sofar ++ [(name, e)]
        let next ← peek
        match next.token with
        | .mark "," => do
          let _ ← take
          mapEntries fuel at_ sofar
        | .mark "\x7d" => mapEntries fuel at_ sofar
        | .name _ => fail (.missing "," "to separate the items of this object map literal") next.place
        | _ => failAt next unclosed
      match lexeme.token with
      | .name s => if at_.quotesKeys then fail .propertyExpected lexeme.place else named s
      | .text s => named s
      | .piece _ => fail .propertyExpected lexeme.place
      | .reserved s =>
        if isProperName s then fail (.reserved s) lexeme.place
        else fail (if sofar.isEmpty then unclosed else .propertyExpected) lexeme.place
      | .eof => fail unclosed lexeme.place
      | _ => failAt lexeme (if sofar.isEmpty then unclosed else .propertyExpected)

/-- The steps taken from an operand. -/
def steps : Nat → Setting → Expr → Bool → Parse Expr
  | 0, _, _, _ => fail .tooDeep none
  | fuel + 1, at_, root, first => do
    let lexeme ← peek
    let here := placeOf lexeme
    match lexeme.token with
    | .mark "[" => do
      let e ← indexed fuel at_ root first false here
      steps fuel at_ e false
    | .mark "?[" => do
      let e ← indexed fuel at_ root first true here
      steps fuel at_ e false
    | .mark "." => do
      let e ← accessed fuel at_ root false here
      steps fuel at_ e false
    | .mark "?." => do
      let e ← accessed fuel at_ root true here
      steps fuel at_ e false
    | _ => pure root

/-- An index step. -/
def indexed : Nat → Setting → Expr → Bool → Bool → Place → Parse Expr
  | 0, _, _, _, _, _ => fail .tooDeep none
  | fuel + 1, at_, root, first, lenient, place => do
    let _ ← take
    let key ← expression fuel at_
    if first then checkIndex root key
    let _ ← expect "]" "for a matching [ in this index expression"
    pure (extend root (.index key lenient place))

/-- A property or method step. -/
def accessed : Nat → Setting → Expr → Bool → Place → Parse Expr
  | 0, _, _, _, _ => fail .tooDeep none
  | fuel + 1, at_, root, lenient, place => do
    let _ ← take
    let lexeme ← take
    let here := placeOf lexeme
    let method (name : String) : Parse Expr := do
      let args ← arguments fuel at_ name
      pure (extend root (.method name args lenient place here))
    match lexeme.token with
    | .name s => do
      if opensArguments (← peek) then method s
      else pure (extend root (.property s lenient place here))
    | .reserved s =>
      if Reserved.callableAsMethod s then do
        if opensArguments (← peek) then method s else fail (.reserved s) lexeme.place
      else fail (.reserved s) lexeme.place
    | _ => fail .propertyExpected lexeme.place

end

/-- The statements of a whole source text. -/
def topLevel : Nat → Nat → Parse (List Stmt)
  | 0, _ => fail .tooDeep none
  | count + 1, fuel => do
    let lexeme ← peek
    if isEnd lexeme then pure []
    else do
      let s ← statement fuel {}
      if isNothing s then topLevel count fuel
      else do
        let next ← peek
        if isEnd next then pure [s]
        else if isMark next ";" then do
          let _ ← take
          let rest ← topLevel count fuel
          pure (s :: rest)
        else if endsItself s then do
          let rest ← topLevel count fuel
          pure (s :: rest)
        else failAt next (.missing ";" "to terminate this statement")

/-- More than the deepest nesting of rules that a number of words can need. -/
def fuelFor (words : List Lexeme) : Nat := 12 * (words.length + 2)

/-- A single expression, which has to be the whole text; names of map entries are quoted in it. -/
def loneExpression (fuel : Nat) : Parse Expr := do
  let e ← expression fuel { quotesKeys := true }
  let lexeme ← peek
  if isEnd lexeme then pure e else failAt lexeme (.word (.unexpected lexeme.token.shown))

/-- The result of a parsing step on some words. -/
def runOn {α : Type} (words : List Lexeme) (step : Parse α) : Except ParseFault (α × State) :=
  match step { lexemes := words } with
  | .ok a s => .ok (a, s)
  | .error e _ => .error e

/-- Parses words that are a single expression. -/
def parseLone (words : List Lexeme) : Except ParseFault Expr :=
  (runOn words (loneExpression (fuelFor words))).map (·.1)

end Parser

/-- Parses a source text. -/
def Program.parse (source : String) : Except ParseFault Program :=
  let words := lexemes source
  (Parser.runOn words (Parser.topLevel (words.length + 1) (Parser.fuelFor words))).map
    fun (body, s) => ⟨s.functions, body⟩

end LiveSketch
