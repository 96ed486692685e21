import LiveSketch.Yaml.Token.Stream

/-!
# Events of YAML text

The structure of a text as a flat sequence: where documents and collections start and end, and the
scalars in between.

## Main definitions

* `Event` — one such piece.
* `EventStream` — a text that is being taken apart: its tokens, what is expected next, and what is
  expected once the current construct has ended.
* `EventStream.next` — the next event.

## Implementation notes

The grammar needs one token of lookahead. `Expect` lists its positions; the positions to come back to
form a stack. A construct that is left out reads as an empty plain scalar at the place where it would
have been.
-/

namespace LiveSketch
namespace Yaml

/-- A piece of the structure of a text. -/
inductive Event where
  | streamStart
  | streamEnd
  | documentStart
  | documentEnd
  | reference (name : String)
  | scalar (anchor tag : Option String) (text : String) (style : ScalarStyle)
  | sequenceStart (anchor tag : Option String)
  | sequenceEnd
  | mappingStart (anchor tag : Option String)
  | mappingEnd
deriving DecidableEq, Inhabited

/-- A position in the grammar. -/
inductive Expect where
  | streamStart
  /-- A document; only the first may come without its indicator. -/
  | document (isFirst : Bool)
  | documentContent
  | documentEnd
  | blockNode
  | blockSequenceEntry (isFirst : Bool)
  | indentlessEntry
  | blockMappingKey (isFirst : Bool)
  | blockMappingValue
  | flowSequenceEntry (isFirst : Bool)
  /-- The key of a pair that stands in a sequence without braces. -/
  | pairKey
  | pairValue
  | pairEnd
  | flowMappingKey (isFirst : Bool)
  | flowMappingValue (isEmpty : Bool)
  | nothing
deriving DecidableEq, Inhabited

/-- A text that is being taken apart into events. -/
structure EventStream where
  tokens : TokenStream
  expect : Expect := .streamStart
  /-- The positions to come back to, the innermost first. -/
  pending : List Expect := []
  /-- Where the collections around the current place start, the innermost first. -/
  starts : List Mark := []
  /-- What the tag handles of the current document stand for. -/
  tagRules : List (String × String) := []
deriving Inhabited

namespace EventStream

/-- The start of a text. -/
def ofText (text : String) : Except Fault EventStream :=
  (TokenStream.ofText text).map fun tokens => { tokens }

/-- An event with its place, and the stream behind it. -/
abbrev Step := Except Fault ((Event × Mark) × EventStream)

/-- The next token, which stays in the stream. -/
def peek (s : EventStream) : Except Fault (Lexeme × EventStream) :=
  s.tokens.peek.map fun (lexeme, tokens) => (lexeme, { s with tokens })

/-- The stream without its next token. -/
def drop (s : EventStream) : EventStream := { s with tokens := s.tokens.drop }

/-- The stream at another position. -/
def at_ (s : EventStream) (expect : Expect) : EventStream := { s with expect }

/-- The stream with a position to come back to. -/
def andThen (s : EventStream) (expect : Expect) : EventStream :=
  { s with pending := expect :: s.pending }

/-- The stream back at the innermost pending position. -/
def back (s : EventStream) : EventStream :=
  { s with expect := s.pending.headD .nothing, pending := s.pending.tail }

/-- The stream back outside of the innermost collection. -/
def leave (s : EventStream) : EventStream := { s.back with starts := s.starts.tail }

/-- A collection starts at the next token, which is used up. -/
def enter (s : EventStream) (mark : Mark) : EventStream := { s.drop with starts := mark :: s.starts }

/-- An empty scalar at a place. -/
def empty (s : EventStream) (mark : Mark) : Step := .ok ((.scalar none none "" .plain, mark), s)

/-- An event at a place. -/
def emit (s : EventStream) (event : Event) (mark : Mark) : Step := .ok ((event, mark), s)

/-- A fault at a token, in the innermost collection. -/
def faultIn (s : EventStream) (activity : Activity) (problem : Problem) (lexeme : Lexeme) : Fault :=
  .malformed problem lexeme.start (some (activity, s.starts.headD {}))

/-! ### Nodes -/

/-- Anchor and tag in front of a node, and the place where they start. -/
structure Properties where
  anchor : Option String := none
  tag : Option (String × String × Mark) := none
  start : Option Mark := none

/-- Reads an anchor, if there is one. -/
def takeAnchor (p : Properties) (s : EventStream) : Except Fault (Properties × EventStream) :=
  match s.peek with
  | .error e => .error e
  | .ok (lexeme, s) =>
    match lexeme.token with
    | .anchor name =>
      .ok ({ p with anchor := some name, start := p.start.or (some lexeme.start) }, s.drop)
    | _ => .ok (p, s)

/-- Reads a tag, if there is one. -/
def takeTag (p : Properties) (s : EventStream) : Except Fault (Properties × EventStream) :=
  match s.peek with
  | .error e => .error e
  | .ok (lexeme, s) =>
    match lexeme.token with
    | .tag handle rest =>
      .ok ({ p with
        tag := some (handle, rest, lexeme.start), start := p.start.or (some lexeme.start) }, s.drop)
    | _ => .ok (p, s)

/-- Reads an anchor and a tag, in either order. -/
def takeProperties (s : EventStream) : Except Fault (Properties × EventStream) :=
  match takeAnchor {} s with
  | .error e => .error e
  | .ok (p, s) =>
    match takeTag p s with
    | .error e => .error e
    | .ok (p, s) =>
      if p.anchor.isNone && p.tag.isSome then takeAnchor p s else .ok (p, s)

/-- What a tag stands for. -/
def resolveTag (s : EventStream) (p : Properties) (start : Mark) :
    Except Fault (Option String) :=
  match p.tag with
  | none => .ok none
  | some (handle, rest, mark) =>
    if handle = "" then .ok (some rest)
    else
      match s.tagRules.lookup handle with
      | some stem => .ok (some (stem ++ rest))
      | none => .error (.malformed .tagHandleUnknown mark (some (.node, start)))

/-- A node that is not a reference, behind its properties. -/
def nodeContent (isBlock indentless : Bool) (p : Properties) (tag : Option String)
    (lexeme : Lexeme) (start : Mark) (s : EventStream) : Step :=
  match lexeme.token with
  | .scalar text style =>
    let tag := if tag = some "!" then none else tag
    s.back.drop.emit (.scalar p.anchor tag text style) start
  | .flowSequenceStart =>
    (s.at_ (.flowSequenceEntry true)).emit (.sequenceStart p.anchor tag) start
  | .flowMappingStart => (s.at_ (.flowMappingKey true)).emit (.mappingStart p.anchor tag) start
  | token =>
    if indentless && token == .blockEntry then
      (s.at_ .indentlessEntry).emit (.sequenceStart p.anchor tag) start
    else if isBlock && token == .blockSequenceStart then
      (s.at_ (.blockSequenceEntry true)).emit (.sequenceStart p.anchor tag) start
    else if isBlock && token == .blockMappingStart then
      (s.at_ (.blockMappingKey true)).emit (.mappingStart p.anchor tag) start
    else if p.anchor.isSome || tag.isSome then
      s.back.emit (.scalar p.anchor tag "" .plain) start
    else
      .error (.malformed .nodeMissing lexeme.start
        (some (if isBlock then .blockNode else .flowNode, start)))

/-- A node. Outside of brackets it may be a block; `indentless` allows the entries of a sequence to
stand at the indentation of the mapping around it. -/
def node (isBlock indentless : Bool) (s : EventStream) : Step :=
  match s.peek with
  | .error e => .error e
  | .ok (first, s) =>
    match first.token with
    | .reference name => s.back.drop.emit (.reference name) first.start
    | _ =>
      match takeProperties s with
      | .error e => .error e
      | .ok (p, s) =>
        match s.peek with
        | .error e => .error e
        | .ok (lexeme, s) =>
          let start := p.start.getD lexeme.start
          match resolveTag s p start with
          | .error e => .error e
          | .ok tag => nodeContent isBlock indentless p tag lexeme start s

/-! ### Documents -/

/-- The directives in front of a document. -/
structure Directives where
  version : Option (Nat × Nat) := none
  tagRules : List (String × String) := []

/-- The tag handles that every document knows. -/
def standardTagRules : List (String × String) := [("!", "!"), ("!!", "tag:yaml.org,2002:")]

/-- Reads directives. -/
def takeDirectives : Nat → Directives → EventStream → Except Fault (Directives × EventStream)
  | 0, d, s => .ok (d, s)
  | fuel + 1, d, s =>
    match s.peek with
    | .error e => .error e
    | .ok (lexeme, s) =>
      match lexeme.token with
      | .version major minor =>
        if d.version.isSome then .error (.malformed .versionRepeated lexeme.start none)
        else if major ≠ 1 ∨ (minor ≠ 1 ∧ minor ≠ 2) then
          .error (.malformed .versionUnsupported lexeme.start none)
        else takeDirectives fuel { d with version := some (major, minor) } s.drop
      | .tagRule handle stem =>
        if (d.tagRules.lookup handle).isSome then
          .error (.malformed .tagDirectiveRepeated lexeme.start none)
        else takeDirectives fuel { d with tagRules := d.tagRules ++ [(handle, stem)] } s.drop
      | _ => .ok (d, s)

/-- Reads the indicators of documents that have ended. -/
def skipDocumentEnds : Nat → EventStream → Except Fault EventStream
  | 0, s => .ok s
  | fuel + 1, s =>
    match s.peek with
    | .error e => .error e
    | .ok (lexeme, s) =>
      if lexeme.token = .documentEnd then skipDocumentEnds fuel s.drop else .ok s

/-- Bounds the number of tokens still to come. -/
def bound (s : EventStream) : Nat := s.tokens.cursor.rest.length + s.tokens.queue.length + 1

/-- A document with an indicator, or the end of the stream. -/
def explicitDocument (lexeme : Lexeme) (s : EventStream) : Step :=
  if lexeme.token = .streamEnd then (s.at_ .nothing).drop.emit .streamEnd lexeme.start
  else
    match takeDirectives s.bound {} s with
    | .error e => .error e
    | .ok (d, s) =>
      match s.peek with
      | .error e => .error e
      | .ok (indicator, s) =>
        if indicator.token ≠ .documentStart then
          .error (.malformed .documentStartMissing indicator.start none)
        else
          ({ s with tagRules := d.tagRules ++ standardTagRules }.andThen .documentEnd |>.at_
            .documentContent).drop.emit .documentStart lexeme.start

/-- Whether a token starts a document with an indicator, or ends the stream. -/
def startsExplicitly : Token → Bool
  | .version _ _ => true
  | .tagRule _ _ => true
  | .documentStart => true
  | .streamEnd => true
  | _ => false

/-- A document. -/
def document (isFirst : Bool) (s : EventStream) : Step :=
  match (if isFirst then .ok s else skipDocumentEnds s.bound s) with
  | .error e => .error e
  | .ok s =>
    match s.peek with
    | .error e => .error e
    | .ok (lexeme, s) =>
      if isFirst && !startsExplicitly lexeme.token then
        ({ s with tagRules := standardTagRules }.andThen .documentEnd |>.at_ .blockNode).emit
          .documentStart lexeme.start
      else explicitDocument lexeme s

/-- What follows the indicator of a document. -/
def documentContent (s : EventStream) : Step :=
  match s.peek with
  | .error e => .error e
  | .ok (lexeme, s) =>
    if startsExplicitly lexeme.token || lexeme.token == .documentEnd then
      s.back.empty lexeme.start
    else node true false s

/-- The end of a document. -/
def documentEnd (s : EventStream) : Step :=
  match s.peek with
  | .error e => .error e
  | .ok (lexeme, s) =>
    let s := if lexeme.token = .documentEnd then s.drop else s
    (s.at_ (.document false)).emit .documentEnd lexeme.start

/-! ### Block collections -/

/-- An entry of a block: a node, unless the next token is one of `ends`. -/
def entryOrEmpty (ends : List Token) (next : Expect) (mark : Mark) (indentless : Bool)
    (s : EventStream) : Step :=
  match s.peek with
  | .error e => .error e
  | .ok (lexeme, s) =>
    if ends.contains lexeme.token then (s.at_ next).empty mark
    else node true indentless (s.andThen next)

/-- An entry of a block sequence, or its end. -/
def blockSequenceEntry (s : EventStream) : Step :=
  match s.peek with
  | .error e => .error e
  | .ok (lexeme, s) =>
    match lexeme.token with
    | .blockEntry =>
      entryOrEmpty [.blockEntry, .blockEnd] (.blockSequenceEntry false) lexeme.stop false s.drop
    | .blockEnd => s.leave.drop.emit .sequenceEnd lexeme.start
    | _ => .error (s.faultIn .blockCollection .dashMissing lexeme)

/-- An entry of a sequence that is not indented, or its end. -/
def indentlessEntry (s : EventStream) : Step :=
  match s.peek with
  | .error e => .error e
  | .ok (lexeme, s) =>
    match lexeme.token with
    | .blockEntry =>
      entryOrEmpty [.blockEntry, .key, .value, .blockEnd] .indentlessEntry lexeme.stop false s.drop
    | _ => s.back.emit .sequenceEnd lexeme.start

/-- A key of a block mapping, or its end. -/
def blockMappingKey (s : EventStream) : Step :=
  match s.peek with
  | .error e => .error e
  | .ok (lexeme, s) =>
    match lexeme.token with
    | .key =>
      entryOrEmpty [.key, .value, .blockEnd] .blockMappingValue lexeme.stop true s.drop
    | .blockEnd => s.leave.drop.emit .mappingEnd lexeme.start
    | _ => .error (s.faultIn .blockMapping .keyMissing lexeme)

/-- A value of a block mapping. -/
def blockMappingValue (s : EventStream) : Step :=
  match s.peek with
  | .error e => .error e
  | .ok (lexeme, s) =>
    match lexeme.token with
    | .value =>
      entryOrEmpty [.key, .value, .blockEnd] (.blockMappingKey false) lexeme.stop true s.drop
    | _ => (s.at_ (.blockMappingKey false)).empty lexeme.start

/-! ### Collections in brackets -/

/-- Reads the comma in front of every entry but the first. -/
def separator (isFirst : Bool) (close : Token) (activity : Activity) (problem : Problem)
    (s : EventStream) : Except Fault (Lexeme × EventStream) :=
  match s.peek with
  | .error e => .error e
  | .ok (lexeme, s) =>
    if isFirst || lexeme.token == close then .ok (lexeme, s)
    else if lexeme.token = .flowEntry then s.drop.peek
    else .error (s.faultIn activity problem lexeme)

/-- An entry of a sequence in brackets, or its end. -/
def flowSequenceEntry (isFirst : Bool) (s : EventStream) : Step :=
  match s.separator isFirst .flowSequenceEnd .flowSequence .sequenceSeparatorMissing with
  | .error e => .error e
  | .ok (lexeme, s) =>
    match lexeme.token with
    | .key => (s.at_ .pairKey).drop.emit (.mappingStart none none) lexeme.start
    | .flowSequenceEnd => s.leave.drop.emit .sequenceEnd lexeme.start
    | _ => node false false (s.andThen (.flowSequenceEntry false))

/-- The key of a pair in a sequence. The token in place of a missing key is used up. -/
def pairKey (s : EventStream) : Step :=
  match s.peek with
  | .error e => .error e
  | .ok (lexeme, s) =>
    if [Token.value, .flowEntry, .flowSequenceEnd].contains lexeme.token then
      (s.at_ .pairValue).drop.empty lexeme.stop
    else node false false (s.andThen .pairValue)

/-- A value in brackets: a node, unless the next token is one of `ends`. -/
def flowValue (ends : List Token) (next : Expect) (s : EventStream) : Step :=
  match s.peek with
  | .error e => .error e
  | .ok (lexeme, s) =>
    match lexeme.token with
    | .value =>
      match s.drop.peek with
      | .error e => .error e
      | .ok (lexeme, s) =>
        if ends.contains lexeme.token then (s.at_ next).empty lexeme.start
        else node false false (s.andThen next)
    | _ => (s.at_ next).empty lexeme.start

/-- The end of a pair in a sequence. -/
def pairEnd (s : EventStream) : Step :=
  match s.peek with
  | .error e => .error e
  | .ok (lexeme, s) => (s.at_ (.flowSequenceEntry false)).emit .mappingEnd lexeme.start

/-- A key of a mapping in braces, or its end. -/
def flowMappingKey (isFirst : Bool) (s : EventStream) : Step :=
  match s.separator isFirst .flowMappingEnd .flowMapping .mappingSeparatorMissing with
  | .error e => .error e
  | .ok (lexeme, s) =>
    match lexeme.token with
    | .key =>
      match s.drop.peek with
      | .error e => .error e
      | .ok (lexeme, s) =>
        if [Token.value, .flowEntry, .flowMappingEnd].contains lexeme.token then
          (s.at_ (.flowMappingValue false)).empty lexeme.start
        else node false false (s.andThen (.flowMappingValue false))
    | .flowMappingEnd => s.leave.drop.emit .mappingEnd lexeme.start
    | _ => node false false (s.andThen (.flowMappingValue true))

/-- The value of a key in braces; `isEmpty` if it has none. -/
def flowMappingValue (isEmpty : Bool) (s : EventStream) : Step :=
  if isEmpty then
    match s.peek with
    | .error e => .error e
    | .ok (lexeme, s) => (s.at_ (.flowMappingKey false)).empty lexeme.start
  else flowValue [.flowEntry, .flowMappingEnd] (.flowMappingKey false) s

/-! ### All positions -/

/-- Moves past the token that opens a collection. -/
def opening (s : EventStream) (entry : EventStream → Step) : Step :=
  match s.peek with
  | .error e => .error e
  | .ok (lexeme, s) => entry (s.enter lexeme.start)

/-- The start of the stream. -/
def streamStart (s : EventStream) : Step :=
  match s.peek with
  | .error e => .error e
  | .ok (lexeme, s) => (s.at_ (.document true)).drop.emit .streamStart lexeme.start

/-- The next event. -/
def next (s : EventStream) : Step :=
  match s.expect with
  | .streamStart => s.streamStart
  | .document isFirst => s.document isFirst
  | .documentContent => s.documentContent
  | .documentEnd => s.documentEnd
  | .blockNode => node true false s
  | .blockSequenceEntry true => s.opening blockSequenceEntry
  | .blockSequenceEntry false => s.blockSequenceEntry
  | .indentlessEntry => s.indentlessEntry
  | .blockMappingKey true => s.opening blockMappingKey
  | .blockMappingKey false => s.blockMappingKey
  | .blockMappingValue => s.blockMappingValue
  | .flowSequenceEntry true => s.opening (flowSequenceEntry true)
  | .flowSequenceEntry false => s.flowSequenceEntry false
  | .pairKey => s.pairKey
  | .pairValue => s.flowValue [.flowEntry, .flowSequenceEnd] .pairEnd
  | .pairEnd => s.pairEnd
  | .flowMappingKey true => s.opening (flowMappingKey true)
  | .flowMappingKey false => s.flowMappingKey false
  | .flowMappingValue isEmpty => s.flowMappingValue isEmpty
  | .nothing => s.emit .streamEnd s.tokens.mark

end EventStream

end Yaml
end LiveSketch
