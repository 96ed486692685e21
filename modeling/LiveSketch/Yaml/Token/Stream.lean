import LiveSketch.Yaml.Token.Name
import LiveSketch.Yaml.Token.Scalar

/-!
# The stream of YAML tokens

Cuts a text into tokens, one at a time.

## Main definitions

* `TokenStream` — the text still to be read, and the tokens that have been read but not used.
* `TokenStream.peek`, `TokenStream.drop` — the next token.

## Implementation notes

**Keys.** Whether a node is a key shows only at the colon behind it. A node that may turn out to be
a key is remembered as a *candidate*, one for every level of brackets; the colon then puts the key
token in front of it. A candidate has to stay on one line and within 1024 characters. A node that
stands exactly at the indentation of a block can only be a key, and it is a fault if its colon does
not come.

**Reading ahead.** No more is read than it takes to know the next token: faults further on come up
only when they are reached.

**Indentation.** Outside of brackets a deeper column opens a block and a shallower one closes blocks.
-/

namespace LiveSketch
namespace Yaml

/-- A node that may turn out to be a key. `number` counts the tokens in front of it. -/
structure KeyCandidate where
  required : Bool
  number : Nat
  mark : Mark
deriving Inhabited

/-- A text that is being cut into tokens. -/
structure TokenStream where
  cursor : Cursor
  /-- Whether the first token has been made. -/
  opened : Bool := false
  /-- Whether a node that starts here may be a key. -/
  keyAllowed : Bool := false
  /-- The candidate of every level of brackets, the innermost first. -/
  candidates : List (Option KeyCandidate) := []
  /-- The column of the current block; `-1` outside of all blocks. -/
  indent : Int := -1
  /-- The columns of the blocks around it, the innermost first. -/
  outer : List Int := []
  /-- The tokens read but not used. -/
  queue : List Lexeme := []
  /-- The number of tokens used. -/
  used : Nat := 0
deriving Inhabited

namespace TokenStream

/-- The start of a text. -/
def ofText (text : String) : Except Fault TokenStream := (Cursor.ofText text).map fun c => ⟨c, false,
  false, [], -1, [], [], 0⟩

/-- Whether the cursor is inside of brackets. -/
def inFlow (s : TokenStream) : Bool := decide (1 < s.candidates.length)

/-- The place of the cursor. -/
def mark (s : TokenStream) : Mark := s.cursor.mark

/-- Adds a token at the end of the queue. -/
def push (s : TokenStream) (token : Token) (start stop : Mark) : TokenStream :=
  { s with queue := s.queue ++ [⟨token, start, stop⟩] }

/-- Adds a token in front of the one with a given number. -/
def insertAt (s : TokenStream) (number : Nat) (token : Token) (mark : Mark) : TokenStream :=
  { s with queue := s.queue.take (number - s.used) ++
      ⟨token, mark, mark⟩ :: s.queue.drop (number - s.used) }

/-! ### Candidates for keys -/

/-- The candidate of the innermost level. -/
def candidate? (s : TokenStream) : Option KeyCandidate := s.candidates.head?.join

/-- Replaces the candidate of the innermost level. -/
def setCandidate (s : TokenStream) (k : Option KeyCandidate) : TokenStream :=
  { s with candidates := k :: s.candidates.tail }

/-- The fault of a key without a colon. -/
def colonMissing (s : TokenStream) (k : KeyCandidate) : Fault :=
  s.cursor.fault .colonMissing .simpleKey k.mark

/-- The longest text of a key, in characters. -/
def maxKeyLength : Nat := 1024

/-- Whether the cursor is too far from a candidate for it to be a key. -/
def isStale (s : TokenStream) (k : KeyCandidate) : Bool :=
  decide (k.mark.line < s.mark.line ∨ k.mark.index + maxKeyLength < s.mark.index)

/-- Drops the candidates that the cursor has left behind. -/
def dropStale (s : TokenStream) : Except Fault TokenStream :=
  -- the outermost level reports first
  match (s.candidates.reverse.filterMap id).find? fun k => s.isStale k && k.required with
  | some k => .error (s.colonMissing k)
  | none => .ok { s with candidates := s.candidates.map fun k => k.filter fun k => !s.isStale k }

/-- Drops the candidate of the innermost level. -/
def dropCandidate (s : TokenStream) : Except Fault TokenStream :=
  match s.candidate? with
  | some k => if k.required then .error (s.colonMissing k) else .ok (s.setCandidate none)
  | none => .ok s

/-- Makes the node at the cursor a candidate, if it may be one. -/
def saveCandidate (s : TokenStream) : Except Fault TokenStream :=
  if s.keyAllowed then
    let required := !s.inFlow && s.indent == (s.mark.column : Int)
    s.dropCandidate.map fun s =>
      s.setCandidate (some ⟨required, s.used + s.queue.length, s.mark⟩)
  else .ok s

/-! ### Indentation -/

/-- Opens a block at a column that is deeper than the current one. The token goes in front of the one
with the given number, or to the end. -/
def openBlock (s : TokenStream) (column : Nat) (number : Option Nat) (token : Token) (mark : Mark) :
    TokenStream :=
  if s.inFlow || decide ((column : Int) ≤ s.indent) then s
  else
    let s := { s with outer := s.indent :: s.outer, indent := column }
    match number with
    | some number => s.insertAt number token mark
    | none => s.push token mark mark

/-- Closes blocks until the current one starts at `column` or to the left of it. -/
def closeBlocks (column : Int) : List Int → TokenStream → TokenStream
  | [], s => s
  | indent :: outer, s =>
    if s.indent ≤ column then s
    else closeBlocks column outer { s.push .blockEnd s.mark s.mark with indent, outer }

/-- Closes the blocks that a token at `column` is not part of. -/
def closeTo (s : TokenStream) (column : Int) : TokenStream :=
  if s.inFlow then s else closeBlocks column s.outer s

/-! ### Tokens -/

/-- Moves over `n` characters and adds the token they form. -/
def take (s : TokenStream) (n : Nat) (token : Token) : TokenStream :=
  let cursor := s.cursor.advance n
  { s.push token s.mark cursor.mark with cursor }

/-- Moves over blanks, comments and line breaks. A tab counts as a blank only where no key may
start. -/
def skipGap : Nat → TokenStream → TokenStream
  | 0, s => s
  | fuel + 1, s =>
    let c := if s.mark.column = 0 ∧ s.cursor.startsWith orderMark then s.cursor.advance 1
      else s.cursor
    let tabs := s.inFlow || !s.keyAllowed
    let c := (c.takeWhile fun x => x == ' ' || (tabs && x == '\t')).2.skipComment
    match c.takeBreak with
    | ([], _) => { s with cursor := c }
    | (_, c) => skipGap fuel { s with cursor := c, keyAllowed := s.keyAllowed || !s.inFlow }

/-- The first token. -/
def fetchStart (s : TokenStream) : TokenStream :=
  { s.push .streamStart s.mark s.mark with opened := true, keyAllowed := true, candidates := [none] }

/-- The last token. It starts a line of its own. -/
def fetchEnd (s : TokenStream) : Except Fault TokenStream :=
  let s := if s.mark.column = 0 then s else { s with cursor := s.cursor.nextLine 0 }
  (s.closeTo (-1)).dropCandidate.map fun s =>
    { s with keyAllowed := false }.push .streamEnd s.mark s.mark

/-- A directive. -/
def fetchDirective (s : TokenStream) : Except Fault TokenStream :=
  match (s.closeTo (-1)).dropCandidate with
  | .error e => .error e
  | .ok s =>
    (Directive.scan s.cursor).map fun (lexeme, cursor) =>
      { s.push lexeme.token lexeme.start lexeme.stop with cursor, keyAllowed := false }

/-- The start or the end of a document. -/
def fetchIndicator (s : TokenStream) (token : Token) : Except Fault TokenStream :=
  (s.closeTo (-1)).dropCandidate.map fun s => { s.take 3 token with keyAllowed := false }

/-- An opening bracket. -/
def fetchOpening (s : TokenStream) (token : Token) : Except Fault TokenStream :=
  s.saveCandidate.map fun s =>
    { s.take 1 token with keyAllowed := true, candidates := none :: s.candidates }

/-- A closing bracket. -/
def fetchClosing (s : TokenStream) (token : Token) : Except Fault TokenStream :=
  s.dropCandidate.map fun s =>
    { s.take 1 token with
      keyAllowed := false
      candidates := if s.inFlow then s.candidates.tail else s.candidates }

/-- A comma. -/
def fetchFlowEntry (s : TokenStream) : Except Fault TokenStream :=
  s.dropCandidate.map fun s => { s.take 1 .flowEntry with keyAllowed := true }

/-- The dash of an entry. -/
def fetchBlockEntry (s : TokenStream) : Except Fault TokenStream :=
  if !s.inFlow && !s.keyAllowed then .error (s.cursor.faultAlone .entriesNotAllowed)
  else
    (s.openBlock s.mark.column none .blockSequenceStart s.mark).dropCandidate.map fun s =>
      { s.take 1 .blockEntry with keyAllowed := true }

/-- The question mark in front of a key. -/
def fetchKey (s : TokenStream) : Except Fault TokenStream :=
  if !s.inFlow && !s.keyAllowed then .error (s.cursor.faultAlone .keysNotAllowed)
  else
    (s.openBlock s.mark.column none .blockMappingStart s.mark).dropCandidate.map fun s =>
      { s.take 1 .key with keyAllowed := !s.inFlow }

/-- The colon in front of a value. -/
def fetchValue (s : TokenStream) : Except Fault TokenStream :=
  match s.candidate? with
  | some k =>
    let s := (s.insertAt k.number .key k.mark).openBlock k.mark.column (some k.number)
      .blockMappingStart k.mark
    .ok { (s.setCandidate none).take 1 .value with keyAllowed := false }
  | none =>
    if !s.inFlow && !s.keyAllowed then .error (s.cursor.faultAlone .valuesNotAllowed)
    else
      let s := s.openBlock s.mark.column none .blockMappingStart s.mark
      .ok { s.take 1 .value with keyAllowed := !s.inFlow }

/-- An anchor or a reference. -/
def fetchAnchor (s : TokenStream) (activity : Activity) (token : String → Token) :
    Except Fault TokenStream :=
  match s.saveCandidate with
  | .error e => .error e
  | .ok s =>
    (Anchor.scan activity s.cursor).map fun (name, cursor) =>
      { s.push (token name) s.mark cursor.mark with cursor, keyAllowed := false }

/-- A tag. -/
def fetchTag (s : TokenStream) : Except Fault TokenStream :=
  match s.saveCandidate with
  | .error e => .error e
  | .ok s =>
    (Tag.scan s.inFlow s.cursor).map fun ((handle, rest), cursor) =>
      { s.push (.tag handle rest) s.mark cursor.mark with cursor, keyAllowed := false }

/-- A block scalar. -/
def fetchBlockScalar (s : TokenStream) (literal : Bool) : Except Fault TokenStream :=
  match s.dropCandidate with
  | .error e => .error e
  | .ok s =>
    (BlockScalar.scan literal s.indent s.cursor).map fun (text, stop, cursor) =>
      { s.push (.scalar text .block) s.mark stop with cursor, keyAllowed := true }

/-- A quoted scalar. -/
def fetchQuotedScalar (s : TokenStream) (quote : Char) : Except Fault TokenStream :=
  match s.saveCandidate with
  | .error e => .error e
  | .ok s =>
    (QuotedScalar.scan quote s.cursor).map fun (text, cursor) =>
      { s.push (.scalar text .quoted) s.mark cursor.mark with cursor, keyAllowed := false }

/-- A plain scalar. A key may follow on the next line. -/
def fetchPlainScalar (s : TokenStream) : Except Fault TokenStream :=
  match s.saveCandidate with
  | .error e => .error e
  | .ok s =>
    (PlainScalar.scan s.inFlow (s.indent + 1).toNat s.cursor).map fun (result, cursor) =>
      { s.push (.scalar result.text .plain) s.mark result.stop with
        cursor, keyAllowed := result.broken }

/-- Characters that start something else than a plain scalar. -/
def isIndicator (c : Char) : Bool :=
  ['-', '?', ':', ',', '[', ']', '\x7b', '\x7d', '#', '&', '*', '!', '|', '>', '\x27', '\x22', '%',
    '@', '\x60'].contains c

/-- Whether a plain scalar starts at the cursor, on the character `x`. -/
def startsPlain (s : TokenStream) (x : Char) : Bool :=
  !(isBlank x || isBreak x || isIndicator x) ||
    (x == '-' && !(s.cursor.peek? 1).any isBlank) ||
    (!s.inFlow && (x == '?' || x == ':') && !s.cursor.isGapAt 1)

/-- The token that starts on the character `x` at the cursor. -/
def fetchAt (s : TokenStream) (x : Char) : Except Fault TokenStream :=
  let spaced := s.cursor.isGapAt 1
  if s.mark.column = 0 ∧ x = '%' then s.fetchDirective
  else if s.cursor.isDocumentIndicator '-' then s.fetchIndicator .documentStart
  else if s.cursor.isDocumentIndicator '.' then s.fetchIndicator .documentEnd
  else if x = '[' then s.fetchOpening .flowSequenceStart
  else if x = '\x7b' then s.fetchOpening .flowMappingStart
  else if x = ']' then s.fetchClosing .flowSequenceEnd
  else if x = '\x7d' then s.fetchClosing .flowMappingEnd
  else if x = ',' then s.fetchFlowEntry
  else if x == '-' && spaced then s.fetchBlockEntry
  else if x == '?' && (s.inFlow || spaced) then s.fetchKey
  else if x == ':' && (s.inFlow || spaced) then s.fetchValue
  else if x = '*' then s.fetchAnchor .reference .reference
  else if x = '&' then s.fetchAnchor .anchor .anchor
  else if x = '!' then s.fetchTag
  else if x == '|' && !s.inFlow then s.fetchBlockScalar true
  else if x == '>' && !s.inFlow then s.fetchBlockScalar false
  else if x = '\x27' ∨ x = '\x22' then s.fetchQuotedScalar x
  else if s.startsPlain x then s.fetchPlainScalar
  else .error (s.cursor.fault .strayCharacter .nextToken s.mark)

/-- Reads the next token, and whatever comes with it. -/
def fetch (s : TokenStream) : Except Fault TokenStream :=
  if !s.opened then .ok s.fetchStart
  else
    match (skipGap (s.cursor.rest.length + 1) s).dropStale with
    | .error e => .error e
    | .ok s =>
      let s := s.closeTo s.mark.column
      match s.cursor.head? with
      | none => s.fetchEnd
      | some x => s.fetchAt x

/-- Whether more has to be read to know the next token: there is none, or it may turn out to be a
key. -/
def needsMore (s : TokenStream) : Bool :=
  s.queue.isEmpty || s.candidates.any fun k => k.any fun k => k.number == s.used

/-- Reads tokens until the next one is known. -/
def fill : Nat → TokenStream → Except Fault TokenStream
  | 0, s => .ok s
  | fuel + 1, s =>
    match (if s.queue.isEmpty then .ok s else s.dropStale) with
    | .error e => .error e
    | .ok s =>
      if s.needsMore then
        match s.fetch with
        | .error e => .error e
        | .ok s => fill fuel s
      else .ok s

/-- The next token, which stays in the stream. -/
def peek (s : TokenStream) : Except Fault (Lexeme × TokenStream) :=
  match fill (s.cursor.rest.length + 3) s with
  | .error e => .error e
  | .ok s =>
    match s.queue with
    | lexeme :: _ => .ok (lexeme, s)
    | [] => .error .endOfStream

/-- The stream without its next token. -/
def drop (s : TokenStream) : TokenStream := { s with queue := s.queue.tail, used := s.used + 1 }

end TokenStream

end Yaml
end LiveSketch
