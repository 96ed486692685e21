/-!
# Paths

File paths as they are written, and when two of them are the same path.

## Main definitions

* `Path` — a path, kept exactly as it was given.
* `Path.components`, `Path.same` — comparison by component.
* `Path.join`, `Path.parent` — building paths.

## Implementation notes

Repeated separators, a trailing separator and a `.` inside a path do not matter for comparison; a
leading `.` and every `..` do. The text itself is never normalised, because it is what messages
show.
-/

namespace LiveSketch

/-- A file path, as it was written. -/
structure Path where
  text : String
deriving DecidableEq, Inhabited

namespace Path

/-- Splits a text at slashes. -/
def splitSlash : List Char → List (List Char)
  | [] => [[]]
  | c :: rest =>
    match splitSlash rest with
    | [] => [[c]]
    | first :: more => if c = '/' then [] :: first :: more else (c :: first) :: more

/-- The pieces between slashes. -/
def pieces (p : Path) : List String := (splitSlash p.text.toList).map String.ofList

/-- Whether the path starts at the root. -/
def isAbsolute (p : Path) : Bool := p.text.toList.head? == some '/'

/-- The components that count for comparison, the root being one of its own. -/
def components (p : Path) : List String :=
  let named := p.pieces.filter fun piece => piece ≠ "" ∧ piece ≠ "."
  if p.isAbsolute then "/" :: named
  else if p.pieces.head? = some "." then "." :: named
  else named

/-- Whether two texts are the same path. -/
def same (p q : Path) : Bool := p.components == q.components

/-- `relative` taken from `base`. An absolute path stays what it is. -/
def join (base relative : Path) : Path :=
  if relative.isAbsolute then relative
  else if base.text = "" ∨ base.text.toList.getLast? = some '/' then
    ⟨base.text ++ relative.text⟩
  else ⟨base.text ++ "/" ++ relative.text⟩

/-- The path of the components given, starting at the root. -/
def ofRoot (names : List String) : Path := ⟨"/" ++ "/".intercalate names⟩

/-- The directory of a path given by its components, if it has one. -/
def parent (p : Path) : Option Path :=
  match p.components with
  | [] => none
  | ["/"] => none
  | "/" :: names => some (ofRoot names.dropLast)
  | names => some ⟨"/".intercalate names.dropLast⟩

/-- Whether a list of paths holds the path, compared by component. -/
def listed (paths : List Path) (p : Path) : Bool := paths.any fun q => q.same p

end Path

end LiveSketch
