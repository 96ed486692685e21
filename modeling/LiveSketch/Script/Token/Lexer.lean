import LiveSketch.Number.Decimal
import LiveSketch.Script.Token

/-!
# Reading words

From source text to the sequence of its words.

## Main definitions

* `Lexer.State` — the characters still to read, and where they start.
* `Lexer.next` — the next word.
* `lexemes` — all words of a text, ending with `Token.eof` or a fault.

## Implementation notes

Every word uses up at least one character, so the number of characters bounds the number of words.
A text with values in it is resumed when the block of a value closes: `State.open` counts, for every
text that is interrupted by a value, the braces that are still to be closed.
-/

namespace LiveSketch
namespace Lexer

/-- The characters still to read, where they start, and what the words before them leave behind. -/
structure State where
  rest : List Char
  place : Place := {}
  /-- Whether a sign would belong to a number. -/
  signAllowed : Bool := true
  /-- Braces to be closed, for each text that is interrupted by a value, innermost first. -/
  unclosed : List Nat := []
  /-- Whether the text of a template goes on here. -/
  resumes : Bool := false
deriving Inhabited

/-- The state after taking some characters from the front. -/
def State.skip (s : State) (count : Nat) : State :=
  { s with rest := s.rest.drop count, place := s.place.afterAll (s.rest.take count) }

/-! ### Blanks and comments -/

/-- Whether a character separates words. -/
def isBlank (c : Char) : Bool :=
  c.isWhitespace || [0x0B, 0x0C, 0x85, 0xA0, 0x1680, 0x2028, 0x2029, 0x202F, 0x205F, 0x3000].contains
    c.toNat || (0x2000 ≤ c.toNat && c.toNat ≤ 0x200A)

/-- How many characters a block comment takes after its opening; comments nest. A comment that is
not closed takes everything. -/
def commentLength : Nat → List Char → Nat
  | _, [] => 0
  | depth, '/' :: '*' :: rest => 2 + commentLength (depth + 1) rest
  | depth, '*' :: '/' :: rest =>
    match depth with
    | 0 => 2
    | depth + 1 => 2 + commentLength depth rest
  | depth, _ :: rest => 1 + commentLength depth rest

/-- How many characters of blanks and comments are in front. -/
def blankLength : Nat → List Char → Nat
  | 0, _ => 0
  | fuel + 1, cs =>
    match cs with
    | '/' :: '/' :: rest =>
      let n := 2 + (rest.takeWhile (· ≠ '\n')).length
      n + blankLength fuel (cs.drop n)
    | '/' :: '*' :: rest =>
      let n := 2 + commentLength 0 rest
      n + blankLength fuel (cs.drop n)
    | c :: rest => if isBlank c then 1 + blankLength fuel rest else 0
    | [] => 0

/-! ### Text -/

/-- How the reading of a text ends: what it holds, how many characters it took, and whether it was
closed, interrupted by a value, or at fault. -/
inductive TextEnd where
  | closed (content : List Char) (length : Nat)
  | interrupted (content : List Char) (length : Nat)
  | broken (why : LexFault) (length : Nat)

/-- The value of a hexadecimal digit. -/
def hexDigit? (c : Char) : Option Nat :=
  if c.isDigit then some (c.toNat - 48)
  else if 'a' ≤ c ∧ c ≤ 'f' then some (c.toNat - 87)
  else if 'A' ≤ c ∧ c ≤ 'F' then some (c.toNat - 55)
  else none

/-- The value of a sequence of hexadecimal digits. -/
def hexValue? (cs : List Char) : Option Nat :=
  cs.foldl (fun n c => do pure (16 * (← n) + (← hexDigit? c))) (some 0)

/-- The number of digits of a numeric escape. -/
def escapeDigits (c : Char) : Nat := if c = 'x' then 2 else if c = 'u' then 4 else 8

/-- The character of a numeric escape, or the part of it up to the first wrong character. -/
def numericEscape (kind : Char) (cs : List Char) : Except (List Char) Char :=
  let count := escapeDigits kind
  let digits := cs.take count
  let good := digits.takeWhile fun c => (hexDigit? c).isSome
  if good.length < count then .error ('\\' :: kind :: cs.take (good.length + 1))
  else
    match hexValue? digits with
    | some n => if n.isValidChar then .ok (Char.ofNat n) else .error ('\\' :: kind :: digits)
    | none => .error ('\\' :: kind :: digits)

/-- Reads a text in quotes, after the opening quote. A doubled quote stands for itself. -/
def quoted (quote : Char) : Nat → List Char → List Char → Nat → TextEnd
  | 0, _, _, taken => .broken .openText taken
  | fuel + 1, content, cs, taken =>
    match cs with
    | [] => .broken .openText taken
    | '\\' :: c :: rest =>
      if c = 't' then quoted quote fuel ('\t' :: content) rest (taken + 2)
      else if c = 'n' then quoted quote fuel ('\n' :: content) rest (taken + 2)
      else if c = 'r' then quoted quote fuel ('\r' :: content) rest (taken + 2)
      else if c = '\\' ∨ c = quote then quoted quote fuel (c :: content) rest (taken + 2)
      else if c = '\n' then
        let indent := (rest.takeWhile fun c => c ≠ '\n' ∧ isBlank c).length
        quoted quote fuel content (rest.drop indent) (taken + 2 + indent)
      else if c = 'x' ∨ c = 'u' ∨ c = 'U' then
        match numericEscape c rest with
        | .ok d =>
          quoted quote fuel (d :: content) (rest.drop (escapeDigits c)) (taken + 2 + escapeDigits c)
        | .error seen => .broken (.badEscape (String.ofList seen)) (taken + seen.length)
      else .broken (.badEscape (String.ofList ['\\', c])) (taken + 2)
    | '\n' :: _ => .broken .openText taken
    | c :: rest =>
      if c = quote then
        match rest with
        | d :: more =>
          if d = quote then quoted quote fuel (quote :: content) more (taken + 2)
          else .closed content.reverse (taken + 1)
        | [] => .closed content.reverse (taken + 1)
      else if c = '\r' ∧ rest.head? = some '\n' then quoted quote fuel content rest (taken + 1)
      else quoted quote fuel (c :: content) rest (taken + 1)

/-- Reads the text of a template up to its end or to the next value. -/
def template : List Char → List Char → Nat → TextEnd
  | _, [], taken => .broken .openText taken
  | content, '$' :: '\x7b' :: _, taken => .interrupted content.reverse (taken + 1)
  | content, '\x60' :: '\x60' :: rest, taken => template ('\x60' :: content) rest (taken + 2)
  | content, '\x60' :: _, taken => .closed content.reverse (taken + 1)
  | content, '\r' :: '\n' :: rest, taken => template ('\n' :: content) rest (taken + 2)
  | content, c :: rest, taken => template (c :: content) rest (taken + 1)

/-! ### Numbers -/

/-- The base that a letter after a leading zero stands for. -/
def radix? : List Char → Option Nat
  | '0' :: c :: _ =>
    if c = 'x' ∨ c = 'X' then some 16
    else if c = 'o' ∨ c = 'O' then some 8
    else if c = 'b' ∨ c = 'B' then some 2
    else none
  | _ => none

/-- Whether an integer is a 64-bit one. -/
def isInt64 (n : Int) : Bool := decide (-(2 ^ 63) ≤ n ∧ n < 2 ^ 63)

/-- The value of digits in a base. -/
def valueIn (base : Nat) (cs : List Char) : Nat :=
  cs.foldl (fun n c => base * n + (hexDigit? c).getD 0) 0

/-- The 64-bit integer with a bit pattern. -/
def ofPattern (n : Nat) : Int := if n < 2 ^ 63 then n else (n : Int) - 2 ^ 64

/-- A number in a base other than ten. Decimal digits too large for the base belong to the number and
make it a bad one. -/
def basedNumber (negative : Bool) (base : Nat) (cs : List Char) : Token × Nat :=
  let belongs (c : Char) : Bool := c == '_' || (hexDigit? c).any fun n => decide (n < max base 10)
  let body := (cs.drop 2).takeWhile belongs
  let digits := body.filter (· ≠ '_')
  let n := valueIn base digits
  let proper := !digits.isEmpty && digits.all fun c => (hexDigit? c).any fun n => decide (n < base)
  let token :=
    if !proper || decide (2 ^ 64 ≤ n) then Token.fault (.badNumber (String.ofList digits))
    else Token.int (if negative then -ofPattern n else ofPattern n)
  (token, 2 + body.length)

/-- How many characters of fraction follow the whole part of a number. A point belongs to the number
only if something follows that is neither a name nor another point. -/
def fractionLength : List Char → Nat
  | '.' :: rest =>
    match rest with
    | [] => 0
    | c :: _ =>
      if c.isDigit then 1 + (rest.takeWhile fun c => c.isDigit || c == '_').length
      else if c == '.' || isNameStart c then 0
      else 1
  | _ => 0

/-- How many characters of exponent are in front. -/
def exponentLength : List Char → Nat
  | 'e' :: c :: rest =>
    let digits (cs : List Char) : Nat := (cs.takeWhile fun c => c.isDigit || c == '_').length
    if c.isDigit then 2 + digits rest
    else if c == '+' || c == '-' then 2 + digits rest
    else 0
  | _ => 0

/-- A decimal number and its length: an integer if it can be one. -/
def decimalNumber (negative : Bool) (cs : List Char) : Token × Nat :=
  let whole := (cs.takeWhile fun c => c.isDigit || c == '_').length
  let fraction := fractionLength (cs.drop whole)
  let exponent := exponentLength (cs.drop (whole + fraction))
  let length := whole + fraction + exponent
  let body := String.ofList ((cs.take length).filter (· ≠ '_'))
  let signed := if negative then "-" ++ body else body
  let n : Int := Decimal.digitsValue ((cs.take whole).filter (· ≠ '_'))
  let n := if negative then -n else n
  let token :=
    if fraction = 0 ∧ exponent = 0 ∧ isInt64 n then Token.int n
    else
      match Decimal.read .double signed with
      | some x => Token.float x.toFloat
      | none => .fault (.badNumber signed)
  (token, length)

/-- A number and its length, without the sign. -/
def number (negative : Bool) (cs : List Char) : Token × Nat :=
  match radix? cs with
  | some base => basedNumber negative base cs
  | none => decimalNumber negative cs

/-! ### Names and marks -/

/-- The word that a sequence of name characters is. -/
def wordToken (s : String) : Token :=
  if s = "_" then .mark s
  else if Token.keywords.contains s then .mark s
  else if Reserved.holds s then .reserved s
  else if isProperName s then .name s
  else .fault (.badName s)

/-- Advice about symbols of other languages. -/
def foreignAdvice : List (String × String) :=
  [("===", "'===' is not a valid operator. This is not JavaScript! Should it be '=='?"),
   ("!==", "'!==' is not a valid operator. This is not JavaScript! Should it be '!='?"),
   ("->", "'->' is not a valid symbol. This is not C or C++!"),
   ("<-", "'<-' is not a valid symbol. This is not Go! Should it be '<='?"),
   (":=", "':=' is not a valid assignment operator. This is not Go or Pascal! Should it be simply '='?"),
   (":;", "':;' is not a valid symbol. Should it be '::'?"),
   ("::<", "'::<>' is not a valid symbol. This is not Rust! Should it be '::'?"),
   ("(*", "'(* .. *)' is not a valid comment format. This is not Pascal! Should it be '/* .. */'?"),
   ("*)", "'(* .. *)' is not a valid comment format. This is not Pascal! Should it be '/* .. */'?"),
   ("#", "'#' is not a valid symbol. Should it be '#\x7b'?")]

/-- The word that a mark is. -/
def markToken (s : String) : Token :=
  match foreignAdvice.find? (fun entry => entry.1 = s) with
  | some (_, advice) => .fault (.foreignSymbol s advice)
  | none => if Reserved.symbols.contains s then .reserved s else .mark s

/-- Whether `!in` is in front, as an operator. -/
def isNotIn : List Char → Bool
  | '!' :: 'i' :: 'n' :: rest => !(rest.head?.any isNamePart)
  | _ => false

/-- The mark in front. -/
def mark? (cs : List Char) : Option String :=
  if isNotIn cs then some "!in"
  else Token.marks.find? fun m => m.toList.isPrefixOf cs

/-! ### Words -/

/-- What the braces still to be closed are after a word, and whether a template goes on after it. -/
def trackBraces (token : Token) (unclosed : List Nat) : List Nat × Bool :=
  match token, unclosed with
  | .piece _, depths => (0 :: depths, false)
  | .mark "\x7b", depth :: depths => ((depth + 1) :: depths, false)
  | .mark "#\x7b", depth :: depths => ((depth + 1) :: depths, false)
  | .mark "\x7d", depth :: depths => if depth ≤ 1 then (depths, true) else ((depth - 1) :: depths, false)
  | _, depths => (depths, false)

/-- The state after a word that took some characters. -/
def State.afterToken (s : State) (token : Token) (length : Nat) : State :=
  let (unclosed, resumes) := trackBraces token s.unclosed
  { s.skip length with signAllowed := token.allowsSign, unclosed, resumes }

/-- A word that took some characters. -/
def emit (s : State) (token : Token) (length : Nat) (place : Option Place) : Lexeme × State :=
  (⟨token, place⟩, s.afterToken token length)

/-- A text with its quotes around it. -/
def textToken (s : State) (ending : TextEnd) (opening : Nat) (place : Option Place) :
    Lexeme × State :=
  match ending with
  | .closed content length => emit s (.text (String.ofList content)) (opening + length) place
  | .interrupted content length =>
    emit s (.piece (String.ofList content)) (opening + length) place
  | .broken why length =>
    let place := match why with
      | .badEscape _ => some (s.place.afterAll (s.rest.take (opening + length - 1)))
      | _ => place
    emit s (.fault why) (opening + length) place

/-- A character in quotes. -/
def charToken (s : State) (ending : TextEnd) : Lexeme × State :=
  match ending with
  | .closed [c] length => emit s (.char c) (1 + length) (some s.place)
  | .closed content length =>
    emit s (.fault (.badCharacter (String.ofList content))) (1 + length) (some s.place)
  | ending => textToken s ending 1 (some s.place)

/-- The word at the front, when a word begins there. -/
def word (s : State) : Lexeme × State :=
  let here := some s.place
  match s.rest with
  | [] => emit s .eof 0 here
  | '\x22' :: rest => textToken s (quoted '\x22' (rest.length + 1) [] rest 0) 1 here
  | '\'' :: rest => charToken s (quoted '\'' (rest.length + 1) [] rest 0)
  | '\x60' :: '\r' :: '\n' :: rest => textToken s (template [] rest 0) 3 here
  | '\x60' :: '\n' :: rest => textToken s (template [] rest 0) 2 here
  | '\x60' :: rest => textToken s (template [] rest 0) 1 here
  | c :: rest =>
    if c.isDigit then
      let (token, length) := number false s.rest
      emit s token length here
    else if c == '-' && s.signAllowed && rest.head?.any Char.isDigit then
      let (token, length) := number true rest
      emit s token (1 + length) here
    else if isNameStart c then
      let name := s.rest.takeWhile isNamePart
      emit s (wordToken (String.ofList name)) name.length here
    else
      match mark? s.rest with
      | some m => emit s (markToken m) m.length here
      | none => emit s (.fault (.unexpected (String.singleton c))) 1 here

/-- The next word. A template that goes on is read before anything else. -/
def next (s : State) : Lexeme × State :=
  if s.resumes then
    textToken s (template [] s.rest 0) 0 (if s.rest.isEmpty then none else some s.place)
  else word (s.skip (blankLength (s.rest.length + 1) s.rest))

/-- At most `fuel` words. -/
def run : Nat → State → List Lexeme
  | 0, _ => []
  | fuel + 1, s =>
    let (lexeme, s) := next s
    match lexeme.token with
    | .eof => [lexeme]
    | .fault _ => [lexeme]
    | _ => lexeme :: run fuel s

end Lexer

/-- The words of a source text. The last one is the end of the text or a fault. -/
def lexemes (source : String) : List Lexeme :=
  Lexer.run (2 * source.length + 2) { rest := source.toList }

end LiveSketch
