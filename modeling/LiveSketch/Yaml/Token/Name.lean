import LiveSketch.Text.Utf8
import LiveSketch.Yaml.Cursor
import LiveSketch.Yaml.Token

/-!
# Names in YAML text

Anchors, references, tags and directives, read from a cursor.

## Main definitions

* `Anchor.scan` — the name of an anchor or a reference.
* `Tag.scan` — a tag, as a handle and the rest.
* `Directive.scan` — a directive line.

## Implementation notes

A tag without a handle of its own has the handle `!`; a lone `!` and a tag in angle brackets have an
empty handle. Bytes of a tag can be written by number; such bytes have to form whole characters.
-/

namespace LiveSketch
namespace Yaml

/-! ### Anchors -/

namespace Anchor

/-- Whether an anchor may end in front of a character. -/
def mayEndAt (c : Cursor) : Bool :=
  c.isGapAt 0 ||
    match c.head? with
    | some x => x == '?' || x == ':' || x == ',' || x == ']' || x == '\x7d' || x == '%' ||
        x == '@' || x == '\x60'
    | none => true

/-- Reads a name; the cursor is on the indicator in front of it. -/
def scan (activity : Activity) (c : Cursor) : Except Fault (String × Cursor) :=
  let (name, stop) := (c.advance 1).takeWhile isName
  if name.isEmpty || !mayEndAt stop then
    .error (stop.fault .nameCharacterMissing activity c.mark)
  else .ok (String.ofList name, stop)

end Anchor

/-! ### Tags -/

namespace Tag

/-- Whether a tag stands in a directive, which is what its faults mention. -/
inductive Place where
  | directive
  | node
deriving DecidableEq

/-- The activity to mention while a handle is read. -/
def Place.scanning : Place → Activity
  | .directive => .tagDirectiveHandle
  | .node => .tagScan

/-- The activity to mention while a tag is read. -/
def Place.reading : Place → Activity
  | .directive => .tagDirective
  | .node => .tag

/-- Whether a character may be part of a tag. Inside of angle brackets and directives some more
may. -/
def isPart (wide : Bool) (c : Char) : Bool :=
  isName c || [';', '/', '?', ':', '@', '&', '=', '+', '$', '.', '%', '!', '~', '*', '\x27', '(',
    ')'].contains c || (wide && [',', '[', ']'].contains c)

/-- The number of bytes of a character that starts with a byte. -/
def width? (n : Nat) : Option Nat :=
  if n < 0x80 then some 1
  else if n / 32 = 6 then some 2
  else if n / 16 = 14 then some 3
  else if n / 8 = 30 then some 4
  else none

/-- The byte written at the cursor as a percent sign and two digits. -/
def octet? (c : Cursor) : Option Nat :=
  match c.peek? 0, (c.peek? 1).bind hexValue?, (c.peek? 2).bind hexValue? with
  | some '%', some high, some low => some (high * 16 + low)
  | _, _, _ => none

/-- Reads `n` bytes that continue a character. -/
def scanContinuation (place : Place) (start : Mark) :
    Nat → Cursor → List UInt8 → Except Fault (List UInt8 × Cursor)
  | 0, c, bytes => .ok (bytes, c)
  | n + 1, c, bytes =>
    match octet? c with
    | none => .error (c.fault .octetMissing place.reading start)
    | some b =>
      if b / 64 ≠ 2 then .error (c.fault .trailingOctetInvalid place.reading start)
      else scanContinuation place start n (c.advance 3) (bytes ++ [b.toUInt8])

/-- Reads a character written byte by byte. -/
def scanOctets (place : Place) (start : Mark) (c : Cursor) :
    Except Fault (List UInt8 × Cursor) :=
  match octet? c with
  | none => .error (c.fault .octetMissing place.reading start)
  | some b =>
    match width? b with
    | none => .error (c.fault .leadingOctetInvalid place.reading start)
    | some n => scanContinuation place start (n - 1) (c.advance 3) [b.toUInt8]

/-- Reads the characters of a tag, as bytes. -/
def scanParts (place : Place) (wide : Bool) (start : Mark) :
    Nat → Cursor → List UInt8 → Except Fault (List UInt8 × Cursor)
  | 0, c, bytes => .ok (bytes, c)
  | fuel + 1, c, bytes =>
    match c.head? with
    | none => .ok (bytes, c)
    | some x =>
      if !isPart wide x then .ok (bytes, c)
      else if x = '%' then
        match scanOctets place start c with
        | .error e => .error e
        | .ok (more, c) => scanParts place wide start fuel c (bytes ++ more)
      else scanParts place wide start fuel (c.advance 1) (bytes ++ [x.toNat.toUInt8])

/-- The text of a tag's bytes. Bytes that are not text are dropped. -/
def textOf (bytes : List UInt8) : String := (Utf8.decode bytes).toOption.getD ""

/-- Reads the rest of a tag. `given` is what has been read of it as a handle; its exclamation mark
does not belong to the rest. -/
def scanRest (place : Place) (wide : Bool) (given : List Char) (start : Mark) (c : Cursor) :
    Except Fault (String × Cursor) :=
  match scanParts place wide start (c.rest.length + 1) c [] with
  | .error e => .error e
  | .ok (bytes, stop) =>
    if bytes.isEmpty && given.isEmpty then .error (stop.fault .uriMissing place.reading start)
    else .ok (String.ofList given.tail ++ textOf bytes, stop)

/-- Reads a handle: an exclamation mark, a name, and another exclamation mark if there is one. -/
def scanHandle (place : Place) (start : Mark) (c : Cursor) :
    Except Fault (List Char × Cursor) :=
  if !c.startsWith '!' then .error (c.fault .bangMissing place.scanning start)
  else
    let (name, c) := (c.advance 1).takeWhile isName
    if c.startsWith '!' then .ok ('!' :: name ++ ['!'], c.advance 1)
    else if place = .directive ∧ name ≠ [] then
      .error (c.fault .bangMissing .tagDirectiveBang start)
    else .ok ('!' :: name, c)

/-- Whether the text of a handle is one that ends in an exclamation mark of its own. -/
def isClosed (handle : List Char) : Bool := decide (1 < handle.length) && handle.getLast? == some '!'

/-- Reads a tag in front of a node: handle and rest. -/
def scanShort (c : Cursor) : Except Fault ((String × String) × Cursor) :=
  match scanHandle .node c.mark c with
  | .error e => .error e
  | .ok (handle, stop) =>
    if isClosed handle then
      match scanRest .node false [] c.mark stop with
      | .error e => .error e
      | .ok (rest, stop) => .ok ((String.ofList handle, rest), stop)
    else
      match scanRest .node false handle c.mark stop with
      | .error e => .error e
      | .ok (rest, stop) => .ok ((if rest = "" then ("", "!") else ("!", rest)), stop)

/-- Reads a tag in angle brackets. -/
def scanVerbatim (c : Cursor) : Except Fault ((String × String) × Cursor) :=
  match scanRest .node true [] c.mark (c.advance 2) with
  | .error e => .error e
  | .ok (rest, stop) =>
    if stop.startsWith '>' then .ok (("", rest), stop.advance 1)
    else .error (stop.fault .tagEndMissing .tagScan c.mark)

/-- Reads a tag; the cursor is on its exclamation mark. Inside of brackets it may end at a comma. -/
def scan (inFlow : Bool) (c : Cursor) : Except Fault ((String × String) × Cursor) :=
  match (if c.peek? 1 = some '<' then scanVerbatim c else scanShort c) with
  | .error e => .error e
  | .ok (tag, stop) =>
    if stop.isGapAt 0 || (inFlow && stop.startsWith ',') then .ok (tag, stop)
    else .error (stop.fault .whitespaceOrBreakMissing .tagScan c.mark)

end Tag

/-! ### Directives -/

namespace Directive

/-- The most digits of a version number. -/
def maxDigits : Nat := 9

/-- Reads a number of a version. -/
def scanNumber (start : Mark) (c : Cursor) : Except Fault (Nat × Cursor) :=
  let (ds, stop) := c.takeWhile isDecimal
  if maxDigits < ds.length then
    .error ((c.advance maxDigits).fault .versionTooLong .versionDirective start)
  else if ds.isEmpty then .error (stop.fault .versionMissing .versionDirective start)
  else .ok (ds.foldl (fun n d => 10 * n + (d.toNat - 48)) 0, stop)

/-- Reads a version. -/
def scanVersion (start : Mark) (c : Cursor) : Except Fault (Token × Cursor) :=
  match scanNumber start c.skipBlanks with
  | .error e => .error e
  | .ok (major, c) =>
    if !c.startsWith '.' then .error (c.fault .versionDotMissing .versionDirective start)
    else
      match scanNumber start (c.advance 1) with
      | .error e => .error e
      | .ok (minor, c) => .ok (.version major minor, c)

/-- Reads a tag handle and what it stands for. -/
def scanTagRule (start : Mark) (c : Cursor) : Except Fault (Token × Cursor) :=
  match Tag.scanHandle .directive start c.skipBlanks with
  | .error e => .error e
  | .ok (handle, c) =>
    if !c.head?.any isBlank then .error (c.fault .whitespaceMissing .tagDirectiveScan start)
    else
      match Tag.scanRest .directive true [] start c.skipBlanks with
      | .error e => .error e
      | .ok (stem, c) =>
        if c.isGapAt 0 then .ok (.tagRule (String.ofList handle) stem, c)
        else .error (c.fault .whitespaceOrBreakMissing .tagDirectiveScan start)

/-- Reads the name of a directive. -/
def scanName (start : Mark) (c : Cursor) : Except Fault (String × Cursor) :=
  let (name, stop) := c.takeWhile isName
  if name.isEmpty then .error (stop.fault .directiveNameMissing .directive start)
  else if !stop.isGapAt 0 then .error (stop.fault .directiveNameInvalid .directive start)
  else .ok (String.ofList name, stop)

/-- Reads the value of a directive with a given name. -/
def scanValue (name : String) (start : Mark) (c : Cursor) : Except Fault (Token × Cursor) :=
  if name = "YAML" then scanVersion start c
  else if name = "TAG" then scanTagRule start c
  else .error (c.fault .directiveUnknown .directive start)

/-- Reads a directive and the rest of its line; the cursor is on the percent sign. -/
def scan (c : Cursor) : Except Fault (Lexeme × Cursor) :=
  match scanName c.mark (c.advance 1) with
  | .error e => .error e
  | .ok (name, after) =>
    match scanValue name c.mark after with
    | .error e => .error e
    | .ok (token, after) =>
      let stop := after.skipBlanks.skipComment
      if stop.isLineEnd then .ok (⟨token, c.mark, after.mark⟩, stop.takeBreak.2)
      else .error (stop.fault .lineEndMissing .directive c.mark)

end Directive

end Yaml
end LiveSketch
