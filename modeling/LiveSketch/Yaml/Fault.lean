/-!
# Faults in YAML text

Where a YAML text stops making sense, and how that is reported.

## Main definitions

* `Mark` — a place in the text.
* `Problem`, `Activity` — what is wrong, and what was being read.
* `Fault`, `Fault.message` — a reason for rejecting a text.

## Implementation notes

A place at the very start of the text is never shown. The place of the surrounding construct is
shown only if it differs from that of the problem.
-/

namespace LiveSketch
namespace Yaml

/-- A place in a text, counted from zero. `index` counts characters. -/
structure Mark where
  index : Nat := 0
  line : Nat := 0
  column : Nat := 0
deriving DecidableEq, Inhabited

/-- Whether a place is the start of the text. -/
def Mark.isStart (m : Mark) : Bool := m.line == 0 && m.column == 0

/-- A place as it is shown, counted from one. -/
def Mark.shown (m : Mark) : String := s!"line {m.line + 1} column {m.column + 1}"

/-- ` at ` and the place, unless it is the start of the text. -/
def Mark.suffix (m : Mark) : String := if m.isStart then "" else " at " ++ m.shown

/-- What is wrong with the form of a text. -/
inductive Problem where
  | controlCharacter
  | strayCharacter
  | colonMissing
  | entriesNotAllowed
  | keysNotAllowed
  | valuesNotAllowed
  | documentIndicatorInside
  | endInside
  | unknownEscape
  | hexDigitsMissing
  | invalidCodePoint
  | unexpectedColon
  | tabInIndentation
  | tabInsteadOfSpace
  | zeroIndentation
  | lineEndMissing
  | nameCharacterMissing
  | directiveNameMissing
  | directiveNameInvalid
  | directiveUnknown
  | versionDotMissing
  | versionTooLong
  | versionMissing
  | whitespaceMissing
  | whitespaceOrBreakMissing
  | tagEndMissing
  | bangMissing
  | uriMissing
  | octetMissing
  | leadingOctetInvalid
  | trailingOctetInvalid
  | streamStartMissing
  | documentStartMissing
  | nodeMissing
  | dashMissing
  | keyMissing
  | sequenceSeparatorMissing
  | mappingSeparatorMissing
  | tagHandleUnknown
  | versionRepeated
  | versionUnsupported
  | tagDirectiveRepeated
deriving DecidableEq, Inhabited

namespace Problem

/-- The text of a problem. -/
def text : Problem → String
  | controlCharacter => "control characters are not allowed"
  | strayCharacter => "found character that cannot start any token"
  | colonMissing => "could not find expected ':'"
  | entriesNotAllowed => "block sequence entries are not allowed in this context"
  | keysNotAllowed => "mapping keys are not allowed in this context"
  | valuesNotAllowed => "mapping values are not allowed in this context"
  | documentIndicatorInside => "found unexpected document indicator"
  | endInside => "found unexpected end of stream"
  | unknownEscape => "found unknown escape character"
  | hexDigitsMissing => "did not find expected hexdecimal number"
  | invalidCodePoint => "found invalid Unicode character escape code"
  | unexpectedColon => "found unexpected ':'"
  | tabInIndentation => "found a tab character that violates indentation"
  | tabInsteadOfSpace => "found a tab character where an indentation space is expected"
  | zeroIndentation => "found an indentation indicator equal to 0"
  | lineEndMissing => "did not find expected comment or line break"
  | nameCharacterMissing => "did not find expected alphabetic or numeric character"
  | directiveNameMissing => "could not find expected directive name"
  | directiveNameInvalid => "found unexpected non-alphabetical character"
  | directiveUnknown => "found unknown directive name"
  | versionDotMissing => "did not find expected digit or '.' character"
  | versionTooLong => "found extremely long version number"
  | versionMissing => "did not find expected version number"
  | whitespaceMissing => "did not find expected whitespace"
  | whitespaceOrBreakMissing => "did not find expected whitespace or line break"
  | tagEndMissing => "did not find the expected '>'"
  | bangMissing => "did not find expected '!'"
  | uriMissing => "did not find expected tag URI"
  | octetMissing => "did not find URI escaped octet"
  | leadingOctetInvalid => "found an incorrect leading UTF-8 octet"
  | trailingOctetInvalid => "found an incorrect trailing UTF-8 octet"
  | streamStartMissing => "did not find expected <stream-start>"
  | documentStartMissing => "did not find expected <document start>"
  | nodeMissing => "did not find expected node content"
  | dashMissing => "did not find expected '-' indicator"
  | keyMissing => "did not find expected key"
  | sequenceSeparatorMissing => "did not find expected ',' or ']'"
  | mappingSeparatorMissing => "did not find expected ',' or '\x7d'"
  | tagHandleUnknown => "found undefined tag handle"
  | versionRepeated => "found duplicate %YAML directive"
  | versionUnsupported => "found incompatible YAML document"
  | tagDirectiveRepeated => "found duplicate %TAG directive"

end Problem

/-- What was being read when a problem came up. -/
inductive Activity where
  | nextToken
  | simpleKey
  | directive
  | versionDirective
  | tagDirectiveScan
  | tagDirectiveHandle
  | tagDirectiveBang
  | tagDirective
  | anchor
  | reference
  | tagScan
  | tag
  | blockScalar
  | quotedScalar
  | quotedEscape
  | plainScalar
  | node
  | blockNode
  | flowNode
  | blockCollection
  | blockMapping
  | flowSequence
  | flowMapping
deriving DecidableEq, Inhabited

namespace Activity

/-- The text of an activity. -/
def text : Activity → String
  | nextToken => "while scanning for the next token"
  | simpleKey => "while scanning a simple key"
  | directive => "while scanning a directive"
  | versionDirective => "while scanning a %YAML directive"
  | tagDirectiveScan => "while scanning a %TAG directive"
  | tagDirectiveHandle => "while scanning a tag directive"
  | tagDirectiveBang => "while parsing a tag directive"
  | tagDirective => "while parsing a %TAG directive"
  | anchor => "while scanning an anchor"
  | reference => "while scanning an alias"
  | tagScan => "while scanning a tag"
  | tag => "while parsing a tag"
  | blockScalar => "while scanning a block scalar"
  | quotedScalar => "while scanning a quoted scalar"
  | quotedEscape => "while parsing a quoted scalar"
  | plainScalar => "while scanning a plain scalar"
  | node => "while parsing a node"
  | blockNode => "while parsing a block node"
  | flowNode => "while parsing a flow node"
  | blockCollection => "while parsing a block collection"
  | blockMapping => "while parsing a block mapping"
  | flowSequence => "while parsing a flow sequence"
  | flowMapping => "while parsing a flow mapping"

end Activity

/-- Why a text is not accepted. -/
inductive Fault where
  /-- A character that no YAML text may contain, at a byte offset. -/
  | unreadable (offset : Nat)
  /-- The text breaks the rules of the notation. -/
  | malformed (problem : Problem) (mark : Mark) (context : Option (Activity × Mark))
  /-- A reference to a node that has no such name. -/
  | unknownAnchor (mark : Mark)
  /-- A second document. -/
  | severalDocuments
  | endOfStream
  /-- Collections nested too deeply. -/
  | tooDeep (mark : Mark)
  /-- References followed too often. -/
  | tooManyReferences
  /-- A well-formed node that has no meaning here, with the path that leads to it. -/
  | meaningless (text : String) (path : String) (mark : Mark)
deriving DecidableEq, Inhabited

namespace Fault

/-- The path of the outermost node. -/
def rootPath : String := "."

/-- The text shown for a fault. -/
def message : Fault → String
  | unreadable offset =>
    Problem.controlCharacter.text ++ (if offset = 0 then "" else s!" at position {offset}")
  | malformed problem mark none => problem.text ++ mark.suffix
  | malformed problem mark (some (activity, start)) =>
    problem.text ++ mark.suffix ++ ", " ++ activity.text ++
      (if start.line = mark.line ∧ start.column = mark.column then "" else start.suffix)
  | unknownAnchor mark => "unknown anchor" ++ mark.suffix
  | severalDocuments =>
    "deserializing from YAML containing more than one document is not supported"
  | endOfStream => "EOF while parsing a value"
  | tooDeep mark => "recursion limit exceeded" ++ mark.suffix
  | tooManyReferences => "repetition limit exceeded"
  | meaningless text path mark =>
    (if path = rootPath then text else path ++ ": " ++ text) ++ mark.suffix

end Fault

end Yaml
end LiveSketch
