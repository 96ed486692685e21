import LiveSketch.Yaml.Cursor
import LiveSketch.Yaml.Token

/-!
# Scalars in YAML text

Plain, quoted and block scalars, read from a cursor.

## Main definitions

* `Gap` — the blanks and line breaks between two words of a scalar, and the text they stand for.
* `PlainScalar.scan`, `QuotedScalar.scan`, `BlockScalar.scan` — the three notations.

## Implementation notes

**Folding.** A gap without a line break stands for itself. A single line feed stands for a space; of
several, the first is dropped. Blanks around line breaks are dropped.

**Bounds.** Every round of a loop moves the cursor forward, so the length of the rest of the text
bounds the number of rounds.
-/

namespace LiveSketch
namespace Yaml

/-- Blanks and line breaks between two words: the blanks before any break, the first break, and the
breaks after it. -/
structure Gap where
  broken : Bool := false
  blanks : List Char := []
  first : List Char := []
  more : List Char := []
deriving Inhabited

namespace Gap

/-- The text a gap stands for. -/
def folded (g : Gap) : List Char :=
  if !g.broken then g.blanks
  else if g.first = ['\n'] then (if g.more.isEmpty then [' '] else g.more)
  else g.first ++ g.more

/-- Reads on over blanks and line breaks. A tab to the left of column `margin` that follows a line
break is a fault; the cursor is where it stands. -/
def scan (margin : Nat) : Nat → Cursor → Gap → Except Cursor (Gap × Cursor)
  | 0, c, g => .ok (g, c)
  | fuel + 1, c, g =>
    match c.head? with
    | none => .ok (g, c)
    | some x =>
      if isBlank x then
        if g.broken && decide (c.mark.column < margin) && x == '\t' then .error c
        else if g.broken then scan margin fuel (c.advance 1) g
        else scan margin fuel (c.advance 1) { g with blanks := g.blanks ++ [x] }
      else if isBreak x then
        let (text, c) := c.takeBreak
        if g.broken then scan margin fuel c { g with more := g.more ++ text }
        else scan margin fuel c { g with broken := true, blanks := [], first := text }
      else .ok (g, c)

end Gap

/-! ### Plain scalars -/

namespace PlainScalar

/-- Characters with a meaning of their own inside of brackets. -/
def isBracketSyntax (c : Char) : Bool :=
  c == ',' || c == '[' || c == ']' || c == '\x7b' || c == '\x7d'

/-- The length of the word at the start of a text, or the place of a colon in it that cannot be
there. -/
def wordLength (inFlow : Bool) : List Char → Except Nat Nat
  | [] => .ok 0
  | c :: rest =>
    let gapAfter := match rest with
      | x :: _ => isBlank x || isBreak x
      | [] => true
    let clash := match rest with
      | x :: _ => isBracketSyntax x || x == '?'
      | [] => false
    if isBlank c || isBreak c then .ok 0
    else if inFlow && c == ':' && clash then .error 0
    else if (c == ':' && gapAfter) || (inFlow && isBracketSyntax c) then .ok 0
    else
      match wordLength inFlow rest with
      | .ok n => .ok (n + 1)
      | .error n => .error (n + 1)

/-- A plain scalar that has been read: its text, where its last word ends, and whether a line break
follows it. -/
structure Result where
  text : String
  stop : Mark
  broken : Bool

/-- Reads words and the gaps between them. Outside of brackets a line that starts to the left of
column `margin` ends the scalar. -/
def words (inFlow : Bool) (margin : Nat) (start : Mark) :
    Nat → Cursor → Gap → List Char → Mark → Except Fault (Result × Cursor)
  | 0, c, g, text, stop => .ok (⟨String.ofList text, stop, g.broken⟩, c)
  | fuel + 1, c, g, text, stop =>
    if c.isAtDocumentIndicator || c.startsWith '#' then
      .ok (⟨String.ofList text, stop, g.broken⟩, c)
    else
      match wordLength inFlow c.rest with
      | .error n => .error ((c.advance n).fault .unexpectedColon .plainScalar start)
      | .ok n =>
        let (g, text, stop) :=
          if n = 0 then (g, text, stop)
          else (({} : Gap), text ++ g.folded ++ c.rest.take n, (c.advance n).mark)
        let c := c.advance n
        match c.head? with
        | none => .ok (⟨String.ofList text, stop, g.broken⟩, c)
        | some x =>
          if !(isBlank x || isBreak x) then .ok (⟨String.ofList text, stop, g.broken⟩, c)
          else
            match Gap.scan margin (c.rest.length + 1) c g with
            | .error c => .error (c.fault .tabInIndentation .plainScalar start)
            | .ok (g, c) =>
              if !inFlow && decide (c.mark.column < margin) then
                .ok (⟨String.ofList text, stop, g.broken⟩, c)
              else words inFlow margin start fuel c g text stop

/-- Reads a plain scalar. -/
def scan (inFlow : Bool) (margin : Nat) (c : Cursor) : Except Fault (Result × Cursor) :=
  words inFlow margin c.mark (c.rest.length + 1) c {} [] c.mark

end PlainScalar

/-! ### Quoted scalars -/

namespace QuotedScalar

/-- What the character after a backslash stands for. -/
inductive Escape where
  /-- A character. -/
  | char (c : Char)
  /-- A character written with that many hexadecimal digits. -/
  | code (digits : Nat)

/-- The escapes. -/
def escape? : Char → Option Escape
  | '0' => some (.char '\x00')
  | 'a' => some (.char '\x07')
  | 'b' => some (.char '\x08')
  | 't' => some (.char '\t')
  | '\t' => some (.char '\t')
  | 'n' => some (.char '\n')
  | 'v' => some (.char '\x0b')
  | 'f' => some (.char '\x0c')
  | 'r' => some (.char '\r')
  | 'e' => some (.char '\x1b')
  | ' ' => some (.char ' ')
  | '\x22' => some (.char '\x22')
  | '/' => some (.char '/')
  | '\\' => some (.char '\\')
  | 'N' => some (.char '\x85')
  | '_' => some (.char '\xa0')
  | 'L' => some (.char '\u2028')
  | 'P' => some (.char '\u2029')
  | 'x' => some (.code 2)
  | 'u' => some (.code 4)
  | 'U' => some (.code 8)
  | _ => none

/-- The number that the first `n` characters of a text write in hexadecimal. -/
def hexNumber? : Nat → List Char → Nat → Option Nat
  | 0, _, value => some value
  | _ + 1, [], _ => none
  | n + 1, c :: rest, value =>
    match hexValue? c with
    | some d => hexNumber? n rest (value * 16 + d)
    | none => none

/-- Reads an escape; the cursor is on the backslash. -/
def scanEscape (start : Mark) (c : Cursor) : Except Fault (Char × Cursor) :=
  match (c.peek? 1).bind escape? with
  | none => .error (c.fault .unknownEscape .quotedEscape start)
  | some (.char x) => .ok (x, c.advance 2)
  | some (.code digits) =>
    let c := c.advance 2
    match hexNumber? digits c.rest 0 with
    | none => .error (c.fault .hexDigitsMissing .quotedEscape start)
    | some value =>
      if (0xD800 ≤ value ∧ value ≤ 0xDFFF) ∨ 0x10FFFF < value then
        .error (c.fault .invalidCodePoint .quotedEscape start)
      else .ok (Char.ofNat value, c.advance digits)

/-- Whether the cursor is on a backslash at the end of a line. -/
def isAtEscapedBreak (c : Cursor) : Bool :=
  c.startsWith '\\' &&
    match c.peek? 1 with
    | some x => isBreak x
    | none => false

/-- Reads a word: characters up to a blank, a line break or the closing quote. The gap that follows
starts out broken if the word ends in an escaped line break. -/
def word (quote : Char) (start : Mark) :
    Nat → Cursor → List Char → Except Fault (List Char × Gap × Cursor)
  | 0, c, text => .ok (text, {}, c)
  | fuel + 1, c, text =>
    match c.head? with
    | none => .ok (text, {}, c)
    | some x =>
      if isBlank x || isBreak x then .ok (text, {}, c)
      else if quote == '\x27' && x == quote && c.peek? 1 == some quote then
        word quote start fuel (c.advance 2) (text ++ [quote])
      else if x = quote then .ok (text, {}, c)
      else if quote == '\x22' && isAtEscapedBreak c then
        .ok (text, { broken := true }, (c.advance 1).takeBreak.2)
      else if quote == '\x22' && x == '\\' then
        match scanEscape start c with
        | .error e => .error e
        | .ok (x, c) => word quote start fuel c (text ++ [x])
      else word quote start fuel (c.advance 1) (text ++ [x])

/-- Reads words and gaps up to the closing quote. -/
def words (quote : Char) (start : Mark) :
    Nat → Cursor → List Char → Except Fault (String × Cursor)
  | 0, c, _ => .error (c.fault .endInside .quotedScalar start)
  | fuel + 1, c, text =>
    if c.isAtDocumentIndicator then
      .error (c.fault .documentIndicatorInside .quotedScalar start)
    else if c.head?.isNone then .error (c.fault .endInside .quotedScalar start)
    else
      match word quote start (c.rest.length + 1) c text with
      | .error e => .error e
      | .ok (text, g, c) =>
        if c.head? = some quote then .ok (String.ofList text, c.advance 1)
        else
          match Gap.scan 0 (c.rest.length + 1) c g with
          | .error c => .error (c.fault .tabInIndentation .quotedScalar start)
          | .ok (g, c) => words quote start fuel c (text ++ g.folded)

/-- Reads a quoted scalar; the cursor is on the opening quote. -/
def scan (quote : Char) (c : Cursor) : Except Fault (String × Cursor) :=
  words quote c.mark (c.rest.length + 1) (c.advance 1) []

end QuotedScalar

/-! ### Block scalars -/

namespace BlockScalar

/-- What becomes of the line breaks at the end. -/
inductive Chomp where
  | strip
  | clip
  | keep
deriving DecidableEq, Inhabited

/-- The indicators of a block scalar: what becomes of its last breaks, and how far it is indented if
that is given. -/
structure Header where
  chomp : Chomp := .clip
  increment : Option Nat := none

/-- The chomping indicator at the cursor. -/
def chomp? (c : Cursor) : Option Chomp :=
  match c.head? with
  | some '+' => some .keep
  | some '-' => some .strip
  | _ => none

/-- Reads an indentation indicator, if there is one. -/
def scanIncrement (start : Mark) (c : Cursor) : Except Fault (Option Nat × Cursor) :=
  match c.head? with
  | some x =>
    if !isDecimal x then .ok (none, c)
    else if x = '0' then .error (c.fault .zeroIndentation .blockScalar start)
    else .ok (some (x.toNat - 48), c.advance 1)
  | none => .ok (none, c)

/-- Reads the two indicators, in either order. -/
def scanHeader (start : Mark) (c : Cursor) : Except Fault (Header × Cursor) :=
  match chomp? c with
  | some chomp =>
    match scanIncrement start (c.advance 1) with
    | .error e => .error e
    | .ok (increment, c) => .ok (⟨chomp, increment⟩, c)
  | none =>
    match scanIncrement start c with
    | .error e => .error e
    | .ok (none, c) => .ok ({}, c)
    | .ok (some n, c) =>
      match chomp? c with
      | some chomp => .ok (⟨chomp, some n⟩, c.advance 1)
      | none => .ok (⟨.clip, some n⟩, c)

/-- The number of spaces at the start of a text, at most `limit` of them if there is one. -/
def leadingSpaces (limit : Option Nat) (cs : List Char) : Nat :=
  let n := (cs.takeWhile (· == ' ')).length
  match limit with
  | some limit => min n limit
  | none => n

/-- Empty lines, and the indentation in front of the next line. -/
structure Breaks where
  text : List Char := []
  /-- The widest indentation seen. -/
  widest : Nat := 0
  /-- Where the last of the lines ends. -/
  stop : Mark

/-- Reads empty lines. An indentation that is not known yet is `none`. -/
def scanBreaks (start : Mark) (indent : Option Nat) :
    Nat → Cursor → Breaks → Except Fault (Breaks × Cursor)
  | 0, c, b => .ok (b, c)
  | fuel + 1, c, b =>
    let c := c.advance (leadingSpaces (indent.map (· - c.mark.column)) c.rest)
    let b := { b with widest := max b.widest c.mark.column }
    let inMargin := match indent with
      | some n => decide (c.mark.column < n)
      | none => true
    if inMargin && c.startsWith '\t' then
      .error (c.fault .tabInsteadOfSpace .blockScalar start)
    else
      match c.takeBreak with
      | ([], _) => .ok (b, c)
      | (text, c) => scanBreaks start indent fuel c { b with text := b.text ++ text, stop := c.mark }

/-- The state between two lines: the text so far, the break that ended the last line, the empty
lines after it, and whether that line started with a blank. -/
structure Progress where
  text : List Char := []
  lastBreak : List Char := []
  breaks : Breaks
  blankBefore : Bool := false

/-- Reads the lines that are indented to `indent`. -/
def lines (literal : Bool) (start : Mark) (indent : Nat) :
    Nat → Cursor → Progress → Except Fault (Progress × Cursor)
  | 0, c, p => .ok (p, c)
  | fuel + 1, c, p =>
    match c.head? with
    | none => .ok (p, c)
    | some x =>
      if c.mark.column ≠ indent then .ok (p, c)
      else
        let blankHere := isBlank x
        let folds := !literal && p.lastBreak == ['\n'] && !p.blankBefore && !blankHere
        let between :=
          if folds then (if p.breaks.text.isEmpty then [' '] else [])
          else p.lastBreak
        let (line, c) := c.takeWhile fun x => !isBreak x
        let (lastBreak, c) := c.takeBreak
        match scanBreaks start (some indent) (c.rest.length + 1) c ⟨[], 0, c.mark⟩ with
        | .error e => .error e
        | .ok (breaks, c) =>
          lines literal start indent fuel c
            ⟨p.text ++ between ++ p.breaks.text ++ line, lastBreak, breaks, blankHere⟩

/-- The text of a scalar whose lines have been read. -/
def Progress.chomped (p : Progress) (chomp : Chomp) : List Char :=
  match chomp with
  | .strip => p.text
  | .clip => p.text ++ p.lastBreak
  | .keep => p.text ++ p.lastBreak ++ p.breaks.text

/-- Reads a block scalar; the cursor is on its indicator, and `outer` is the column its parent is
indented to, or `-1`. Gives the text and where it ends. -/
def scan (literal : Bool) (outer : Int) (c : Cursor) : Except Fault (String × Mark × Cursor) :=
  let start := c.mark
  match scanHeader start (c.advance 1) with
  | .error e => .error e
  | .ok (header, c) =>
    let c := c.skipBlanks.skipComment
    if !c.isLineEnd then .error (c.fault .lineEndMissing .blockScalar start)
    else
      let c := c.takeBreak.2
      let given := header.increment.map fun n => outer.toNat + n
      match scanBreaks start given (c.rest.length + 1) c ⟨[], 0, c.mark⟩ with
      | .error e => .error e
      | .ok (breaks, c) =>
        let indent := given.getD (max (max breaks.widest (outer + 1).toNat) 1)
        match lines literal start indent (c.rest.length + 1) c { breaks } with
        | .error e => .error e
        | .ok (p, c) => .ok (String.ofList (p.chomped header.chomp), p.breaks.stop, c)

end BlockScalar

end Yaml
end LiveSketch
