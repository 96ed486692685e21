import LiveSketch.Yaml.Event
import LiveSketch.Yaml.Node.Scalar

/-!
# YAML documents

Reads a text that holds one document.

## Main definitions

* `Document` — the pieces of one document, and where its references lead to.
* `Document.node` — the node they form.
* `Node.ofText` — the node of a text with one document.

## Implementation notes

**Order of faults.** A document ends where its text turns out to be malformed. The fault is kept, and
comes up only when the pieces in front of it have been used: a repeated key further up is reported
first.

**References.** A reference stands for the piece that carries its anchor. Anchors are numbered by the
names in use, so a name that is given twice shares its second number with the next new name.

**Bounds.** Collections can be nested 128 deep. References can be followed a hundred times as often as
there are pieces.
-/

namespace LiveSketch
namespace Yaml

/-- A piece of a document. -/
inductive Piece where
  /-- A reference to the anchor with a number. -/
  | reference (anchor : Nat)
  | scalar (tag : Option String) (text : String) (style : ScalarStyle)
  | sequenceStart (tag : Option String)
  | sequenceEnd
  | mappingStart (tag : Option String)
  | mappingEnd
  /-- Nothing at all: there is no document. -/
  | absent
deriving DecidableEq, Inhabited

/-- The pieces of a document, with their places. -/
structure Document where
  pieces : Array (Piece × Mark) := #[]
  /-- The fault at which the pieces end, if there is one. -/
  fault : Option Fault := none
  /-- The piece of every numbered anchor. Of two with one number the later one comes first. -/
  targets : List (Nat × Nat) := []
deriving Inhabited

namespace Document

/-! ### Collecting pieces -/

/-- A document that is being collected, with the numbers of its anchors. -/
structure Draft where
  document : Document := {}
  anchors : List (String × Nat) := []

/-- Adds a piece, which may carry an anchor. -/
def Draft.add (d : Draft) (anchor : Option String) (piece : Piece) (mark : Mark) : Draft :=
  let document := { d.document with pieces := d.document.pieces.push (piece, mark) }
  match anchor with
  | none => { d with document }
  | some name =>
    let number := d.anchors.length
    { document := { document with targets := (number, d.document.pieces.size) :: document.targets }
      anchors := (name, number) :: d.anchors.filter fun entry => entry.1 ≠ name }

/-- The document, ending at a fault. -/
def Draft.failed (d : Draft) (fault : Fault) : Document := { d.document with fault := some fault }

/-- Collects one document: nothing if the stream ends first, unless it is the first one. -/
def collect (isFirst : Bool) : Nat → EventStream → Draft → Option (Document × EventStream)
  | 0, s, d => some (d.failed .endOfStream, s)
  | fuel + 1, s, d =>
    match s.next with
    | .error fault => some (d.failed fault, s)
    | .ok ((event, mark), s) =>
      match event with
      | .streamStart => collect isFirst fuel s d
      | .documentStart => collect isFirst fuel s d
      | .documentEnd => some (d.document, s)
      | .streamEnd =>
        if !isFirst then none
        else if d.document.pieces.isEmpty then some ((d.add none .absent mark).document, s)
        else some (d.document, s)
      | .reference name =>
        match d.anchors.lookup name with
        | some number => collect isFirst fuel s (d.add none (.reference number) mark)
        | none => some (d.failed (.unknownAnchor mark), s)
      | .scalar anchor tag text style =>
        collect isFirst fuel s (d.add anchor (.scalar tag text style) mark)
      | .sequenceStart anchor tag =>
        collect isFirst fuel s (d.add anchor (.sequenceStart tag) mark)
      | .sequenceEnd => collect isFirst fuel s (d.add none .sequenceEnd mark)
      | .mappingStart anchor tag =>
        collect isFirst fuel s (d.add anchor (.mappingStart tag) mark)
      | .mappingEnd => collect isFirst fuel s (d.add none .mappingEnd mark)

/-! ### Forming nodes -/

/-- The deepest nesting of collections. -/
def maxDepth : Nat := 128

/-- A place in a document that is being read: the next piece, how often a reference has been
followed, how many collections may still be opened, and the path from the outermost node. -/
structure Reader where
  position : Nat := 0
  jumps : Nat := 0
  depth : Nat := maxDepth
  path : String := Fault.rootPath
deriving Inhabited

/-- The path with a dot behind it, for what follows. -/
def Reader.parentPath (r : Reader) : String :=
  if r.path = Fault.rootPath then "" else r.path ++ "."

/-- The path of an item of a sequence. -/
def Reader.itemPath (r : Reader) (index : Nat) : String := s!"{r.path}[{index}]"

/-- The path of the value of a key. -/
def Reader.valuePath (r : Reader) : Piece → String
  | .scalar _ text _ => r.parentPath ++ text
  | _ => r.parentPath ++ "?"

/-- The piece at a position, or the fault at which the document ends. -/
def piece (d : Document) (position : Nat) : Except Fault (Piece × Mark) :=
  match d.pieces[position]? with
  | some entry => .ok entry
  | none => .error (d.fault.getD .endOfStream)

/-- The local part of a tag, if it is a local one. -/
def localTag? (tag : Option String) : Option String :=
  tag.bind fun tag =>
    match tag.toList with
    | ['!'] => some "!"
    | '!' :: rest => some (String.ofList rest)
    | _ => none

/-- A node under its local tag. -/
def withTag (tag : Option String) (node : Node) : Node :=
  match localTag? tag with
  | some name => .tagged name node
  | none => node

/-- A scalar. -/
def scalarNode (tag : Option String) (text : String) (style : ScalarStyle) (path : String)
    (mark : Mark) : Except Fault Node :=
  match Node.ofScalar (if (localTag? tag).isSome then none else tag) text style with
  | .ok node => .ok (withTag tag node)
  | .error message => .error (.meaningless message path mark)

mutual

/-- The node at a place, and the place behind it. -/
def nodeAt (d : Document) : Nat → Reader → Except Fault (Node × Reader)
  | 0, _ => .error .tooManyReferences
  | fuel + 1, r =>
    match d.piece r.position with
    | .error e => .error e
    | .ok (piece, mark) =>
      let behind := { r with position := r.position + 1 }
      match piece with
      | .reference number =>
        if d.pieces.size * 100 < r.jumps + 1 then .error .tooManyReferences
        else
          match d.targets.lookup number with
          | none => .error .endOfStream
          | some target =>
            match nodeAt d fuel { r with position := target, jumps := r.jumps + 1 } with
            | .error e => .error e
            | .ok (node, after) => .ok (node, { behind with jumps := after.jumps })
      | .scalar tag text style =>
        (scalarNode tag text style r.path mark).map fun node => (node, behind)
      | .sequenceStart tag =>
        match r.depth with
        | 0 => .error (.tooDeep mark)
        | depth + 1 =>
          match itemsAt d fuel { behind with depth } 0 [] with
          | .error e => .error e
          | .ok (items, after) =>
            .ok (withTag tag (.sequence items), { after with depth := r.depth, path := r.path })
      | .mappingStart tag =>
        match r.depth with
        | 0 => .error (.tooDeep mark)
        | depth + 1 =>
          match entriesAt d mark fuel { behind with depth } [] with
          | .error e => .error e
          | .ok (entries, after) =>
            .ok (withTag tag (.mapping entries), { after with depth := r.depth, path := r.path })
      | .absent => .ok (.null, behind)
      | _ => .error .endOfStream

/-- The items of a sequence from a place on, and the place behind its end. -/
def itemsAt (d : Document) :
    Nat → Reader → Nat → List Node → Except Fault (List Node × Reader)
  | 0, _, _, _ => .error .tooManyReferences
  | fuel + 1, r, index, items =>
    match d.piece r.position with
    | .error e => .error e
    | .ok (.sequenceEnd, _) => .ok (items, { r with position := r.position + 1 })
    | .ok _ =>
      match nodeAt d fuel { r with path := r.itemPath index } with
      | .error e => .error e
      | .ok (node, after) =>
        itemsAt d fuel { after with path := r.path } (index + 1) (items ++ [node])

/-- The entries of a mapping from a place on, and the place behind its end. A repeated key is a fault
of the whole mapping. -/
def entriesAt (d : Document) (mark : Mark) :
    Nat → Reader → List (Node × Node) → Except Fault (List (Node × Node) × Reader)
  | 0, _, _ => .error .tooManyReferences
  | fuel + 1, r, entries =>
    match d.piece r.position with
    | .error e => .error e
    | .ok (.mappingEnd, _) => .ok (entries, { r with position := r.position + 1 })
    | .ok (keyPiece, _) =>
      match nodeAt d fuel r with
      | .error e => .error e
      | .ok (key, after) =>
        match Node.find? entries key with
        | some (earlier, _) => .error (.meaningless earlier.repeatedKey r.path mark)
        | none =>
          match nodeAt d fuel { after with path := r.valuePath keyPiece } with
          | .error e => .error e
          | .ok (value, after) =>
            entriesAt d mark fuel { after with path := r.path } (entries ++ [(key, value)])

end

/-- The node that the pieces form. -/
def node (d : Document) : Except Fault Node :=
  match nodeAt d ((maxDepth + 2) * (2 * d.pieces.size + 3)) {} with
  | .error e => .error e
  | .ok (node, _) =>
    match d.fault with
    | some fault => .error fault
    | none => .ok node

end Document

/-- The node of a text. A text without a document says nothing; one with several is not accepted. -/
def Node.ofText (text : String) : Except Fault Node :=
  match EventStream.ofText text with
  | .error e => .error e
  | .ok s =>
    let bound := 16 * (text.length + 4)
    match Document.collect true bound s {} with
    | none => .ok .null
    | some (document, s) =>
      match document.node with
      | .error e => .error e
      | .ok node =>
        match Document.collect false bound s {} with
        | none => .ok node
        | some _ => .error .severalDocuments

end Yaml
end LiveSketch
