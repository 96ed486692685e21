import LiveSketch.Yaml.Fault

/-!
# Reading YAML text

A place in a text together with what follows it, and the classes of characters that the notation
tells apart.

## Main definitions

* `Cursor` — the characters still to be read, and where they start.
* `Cursor.ofText` — the start of a text, provided it has no forbidden character.
* `Cursor.takeWhile`, `Cursor.advance` — moving within a line.
* `Cursor.takeBreak` — moving over a line break.

## Implementation notes

A carriage return with a line feed is one break. Line feeds, carriage returns and next-line
characters all read as a line feed; the line and paragraph separators stand for themselves. A byte
order mark in front of the text is not part of it.
-/

namespace LiveSketch
namespace Yaml

/-- Whether a character is a space or a tab. -/
def isBlank (c : Char) : Bool := c == ' ' || c == '\t'

/-- Whether a character ends a line. -/
def isBreak (c : Char) : Bool :=
  c == '\r' || c == '\n' || c == '\x85' || c == '\u2028' || c == '\u2029'

/-- Whether a character may be part of a name. -/
def isName (c : Char) : Bool :=
  ('a' ≤ c && c ≤ 'z') || ('A' ≤ c && c ≤ 'Z') || ('0' ≤ c && c ≤ '9') || c == '_' || c == '-'

/-- Whether a character is a decimal digit. -/
def isDecimal (c : Char) : Bool := '0' ≤ c && c ≤ '9'

/-- The value of a hexadecimal digit. -/
def hexValue? (c : Char) : Option Nat :=
  if isDecimal c then some (c.toNat - 48)
  else if 'a' ≤ c ∧ c ≤ 'f' then some (c.toNat - 87)
  else if 'A' ≤ c ∧ c ≤ 'F' then some (c.toNat - 55)
  else none

/-- The byte order mark. -/
def orderMark : Char := '\uFEFF'

/-- Whether a character may occur in a text. -/
def isAllowed (c : Char) : Bool :=
  let n := c.toNat
  n == 0x09 || n == 0x0A || n == 0x0D || (0x20 ≤ n && n ≤ 0x7E) || n == 0x85 ||
    (0xA0 ≤ n && n ≤ 0xD7FF) || (0xE000 ≤ n && n ≤ 0xFFFD) || 0x10000 ≤ n

/-- The characters of a text from some place on. -/
structure Cursor where
  rest : List Char
  mark : Mark := {}
deriving Inhabited

namespace Cursor

/-- The byte offset of the first character that may not occur. -/
def forbidden? : List Char → Nat → Option Nat
  | [], _ => none
  | c :: rest, offset =>
    if isAllowed c then forbidden? rest (offset + c.utf8Size) else some offset

/-- The start of a text. -/
def ofText (text : String) : Except Fault Cursor :=
  let (cs, offset) := match text.toList with
    | c :: rest => if c = orderMark then (rest, c.utf8Size) else (c :: rest, 0)
    | [] => ([], 0)
  match forbidden? cs offset with
  | some offset => .error (.unreadable offset)
  | none => .ok ⟨cs, {}⟩

/-- The next character. -/
def head? (c : Cursor) : Option Char := c.rest.head?

/-- The character `k` places on. -/
def peek? (c : Cursor) (k : Nat) : Option Char := c.rest[k]?

/-- Whether the next character is a given one. -/
def startsWith (c : Cursor) (x : Char) : Bool := c.head? == some x

/-- Whether the character `k` places on is a blank, a line break, or the end of the text. -/
def isGapAt (c : Cursor) (k : Nat) : Bool :=
  match c.peek? k with
  | some x => isBlank x || isBreak x
  | none => true

/-- Whether the line ends here. -/
def isLineEnd (c : Cursor) : Bool :=
  match c.head? with
  | some x => isBreak x
  | none => true

/-- Moves over `n` characters of a line. -/
def advance (c : Cursor) (n : Nat) : Cursor :=
  ⟨c.rest.drop n, { c.mark with index := c.mark.index + n, column := c.mark.column + n }⟩

/-- Moves over the longest run of characters of a class that holds no line breaks. -/
def takeWhile (p : Char → Bool) (c : Cursor) : List Char × Cursor :=
  let taken := c.rest.takeWhile p
  (taken, c.advance taken.length)

/-- Moves over blanks. -/
def skipBlanks (c : Cursor) : Cursor := (c.takeWhile isBlank).2

/-- Moves over a comment, if there is one. -/
def skipComment (c : Cursor) : Cursor :=
  if c.startsWith '#' then (c.takeWhile fun x => !isBreak x).2 else c

/-- The start of the line that follows a break of `n` characters. -/
def nextLine (c : Cursor) (n : Nat) : Cursor :=
  ⟨c.rest.drop n, ⟨c.mark.index + n, c.mark.line + 1, 0⟩⟩

/-- Moves over a line break and gives the text it stands for: none if there is no break. -/
def takeBreak (c : Cursor) : List Char × Cursor :=
  match c.rest with
  | '\r' :: '\n' :: _ => (['\n'], c.nextLine 2)
  | x :: _ =>
    if !isBreak x then ([], c)
    else if x = '\u2028' ∨ x = '\u2029' then ([x], c.nextLine 1)
    else (['\n'], c.nextLine 1)
  | [] => ([], c)

/-- Whether the line starts with a document indicator made of three times `x`. -/
def isDocumentIndicator (c : Cursor) (x : Char) : Bool :=
  c.mark.column == 0 && c.peek? 0 == some x && c.peek? 1 == some x && c.peek? 2 == some x &&
    c.isGapAt 3

/-- Whether the line starts with a document indicator. -/
def isAtDocumentIndicator (c : Cursor) : Bool :=
  c.isDocumentIndicator '-' || c.isDocumentIndicator '.'

/-- A fault at the cursor, in something that started at `start`. -/
def fault (c : Cursor) (problem : Problem) (activity : Activity) (start : Mark) : Fault :=
  .malformed problem c.mark (some (activity, start))

/-- A fault at the cursor. -/
def faultAlone (c : Cursor) (problem : Problem) : Fault := .malformed problem c.mark none

end Cursor

end Yaml
end LiveSketch
