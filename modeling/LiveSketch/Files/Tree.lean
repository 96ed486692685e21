import LiveSketch.Files.IoError
import LiveSketch.Files.Path
import LiveSketch.Text.Utf8

/-!
# The file tree

The files a session can see: directories, regular files with a modification time, and symbolic
links.

## Main definitions

* `FileTree` — nodes by absolute place.
* `FileTree.locate` — follow a path to the place it names.
* `FileTree.modified`, `FileTree.read`, `FileTree.readText`, `FileTree.canonical`,
  `FileTree.isFile`, `FileTree.doesExist` — questions about a path.
* `FileTree.place`, `FileTree.remove`, `FileTree.touch` — edits.

## Implementation notes

**Places.** A place is the list of names from the root, the innermost last. The working directory is
a field of the tree; relative paths start there.

**Links.** Following a path may pass through at most forty links, after which it fails. The inner
recursion decreases the names still to be followed, the outer one that budget.
-/

namespace LiveSketch

/-- An entry of the tree. Times are milliseconds since the epoch. -/
inductive FileNode where
  | directory (modified : Int)
  | file (content : List UInt8) (modified : Int)
  | link (target : Path)
deriving DecidableEq, Inhabited

/-- The files a session can see, by place, and the directory that relative paths start at. The root
and the working directory always exist. -/
structure FileTree where
  nodes : List (List String × FileNode) := []
  workingDirectory : List String := []
deriving Inhabited

namespace FileTree

/-- The node at a place. -/
def node? (t : FileTree) (place : List String) : Option FileNode :=
  match t.nodes.find? (fun entry => entry.1 = place) with
  | some (_, node) => some node
  | none =>
    if place.isEmpty || place.isPrefixOf t.workingDirectory then some (.directory 0) else none

/-- Links that one path may pass through. -/
def linkBudget : Nat := 40

/-- The longest name a file can have, in bytes. -/
def maxNameLength : Nat := 255

/-- Whether a path insists on naming a directory: it ends in a slash or in a `.` piece. -/
def wantsDirectory (p : Path) : Bool :=
  match p.pieces.getLast? with
  | some "" => true
  | some "." => true
  | _ => false

/-- The names to follow for a path. -/
def names (p : Path) : List String := p.pieces.filter fun piece => piece ≠ "" ∧ piece ≠ "."

/-- Follows names from the directory at `here` up to the first link, where `jump` goes on. A link at
the end is followed only if `followLast`. -/
def followNames (t : FileTree) (followLast : Bool)
    (jump : List String → List String → Except IoError (List String)) :
    List String → List String → Except IoError (List String)
  | here, [] => .ok here
  | here, name :: rest =>
    match t.node? here with
    | none => .error .notFound
    | some (.file _ _) => .error .notDirectory
    | some (.link _) => .error .notDirectory
    | some (.directory _) =>
      if name = ".." then followNames t followLast jump here.dropLast rest
      else if maxNameLength < name.utf8ByteSize then .error .nameTooLong
      else
        match t.node? (here ++ [name]) with
        | none => .error .notFound
        | some (.link target) =>
          if rest.isEmpty && !followLast then .ok (here ++ [name])
          else jump (if target.isAbsolute then [] else here) (names target ++ rest)
        | some _ => followNames t followLast jump (here ++ [name]) rest

/-- Follows names from the directory at `here` through at most as many links as the first argument
says. -/
def follow (t : FileTree) : Nat → List String → List String → Bool → Except IoError (List String)
  | 0, here, rest, followLast =>
    t.followNames followLast (fun _ _ => .error .tooManyLinks) here rest
  | links + 1, here, rest, followLast =>
    t.followNames followLast (fun here rest => follow t links here rest followLast) here rest

/-- The place a path names, links followed. -/
def locate (t : FileTree) (p : Path) : Except IoError (List String) :=
  if p.text = "" then .error .notFound
  else if p.text.toList.contains '\x00' then .error .zeroInPath
  else
    match t.follow linkBudget (if p.isAbsolute then [] else t.workingDirectory) (names p) true with
    | .error e => .error e
    | .ok place =>
      match t.node? place with
      | none => .error .notFound
      | some (.file _ _) => if wantsDirectory p then .error .notDirectory else .ok place
      | some _ => .ok place

/-- The node a path names. -/
def lookup (t : FileTree) (p : Path) : Except IoError FileNode :=
  match t.locate p with
  | .error e => .error e
  | .ok place =>
    match t.node? place with
    | some node => .ok node
    | none => .error .notFound

/-- When the file or directory was last modified. -/
def modified (t : FileTree) (p : Path) : Except IoError Int :=
  match t.lookup p with
  | .error e => .error e
  | .ok (.directory time) => .ok time
  | .ok (.file _ time) => .ok time
  | .ok (.link _) => .error .tooManyLinks

/-- The bytes of a file. -/
def read (t : FileTree) (p : Path) : Except IoError (List UInt8) :=
  match t.lookup p with
  | .error e => .error e
  | .ok (.directory _) => .error .isDirectory
  | .ok (.file content _) => .ok content
  | .ok (.link _) => .error .tooManyLinks

/-- The text of a file. -/
def readText (t : FileTree) (p : Path) : Except IoError String :=
  match t.read p with
  | .error e => .error e
  | .ok bytes =>
    match Utf8.decode bytes with
    | .ok text => .ok text
    | .error _ => .error .notText

/-- The absolute path, without links, of what a path names. -/
def canonical (t : FileTree) (p : Path) : Except IoError Path :=
  match t.locate p with
  | .error e => .error e
  | .ok place => .ok (.ofRoot place)

/-- Whether the path names a regular file. -/
def isFile (t : FileTree) (p : Path) : Bool :=
  match t.lookup p with
  | .ok (.file _ _) => true
  | _ => false

/-- Whether the path names anything. -/
def doesExist (t : FileTree) (p : Path) : Bool :=
  match t.lookup p with
  | .ok _ => true
  | .error _ => false

/-! ### Edits -/

/-- Earliest and latest time a file can carry, in milliseconds. -/
def timeRange : Int × Int := (-2147483648000, 15032385535000)

/-- The time a file gets when it is given `time`. -/
def clampTime (time : Int) : Int := max timeRange.1 (min timeRange.2 time)

/-- Sets the node at a place. -/
def setNode (t : FileTree) (place : List String) (node : FileNode) : FileTree :=
  { t with nodes := (place, node) :: t.nodes.filter fun entry => entry.1 ≠ place }

/-- Makes the missing directories on the way to a place, with the time `now`. -/
def makeParents (t : FileTree) (place : List String) (now : Int) : FileTree :=
  (List.range place.length).foldl (fun t k =>
    let above := place.take k
    if (t.node? above).isSome then t else t.setNode above (.directory now)) t

/-- The place a path would have, without looking at links. -/
def lexicalPlace (t : FileTree) (p : Path) : List String :=
  (names p).foldl (fun here name => if name = ".." then here.dropLast else here ++ [name])
    (if p.isAbsolute then [] else t.workingDirectory)

/-- The place a path is to be created at: the directory it names, links followed, and its last
name. -/
def creationPlace (t : FileTree) (p : Path) : List String :=
  let start := if p.isAbsolute then [] else t.workingDirectory
  match t.follow linkBudget start (names p).dropLast true, (names p).getLast? with
  | .ok directory, some last => directory ++ [last]
  | _, _ => t.lexicalPlace p

/-- Creates or replaces a node, and the directories above it. -/
def place (t : FileTree) (p : Path) (node : FileNode) (now : Int) : FileTree :=
  let target := t.creationPlace p
  (t.makeParents target now).setNode target node

/-- Removes what a path names and everything below it. A link is removed itself. -/
def remove (t : FileTree) (p : Path) : FileTree :=
  let start := if p.isAbsolute then [] else t.workingDirectory
  match t.follow linkBudget start (names p) false with
  | .error _ => t
  | .ok place => { t with nodes := t.nodes.filter fun entry => !place.isPrefixOf entry.1 }

/-- Gives a file or directory another modification time. -/
def touch (t : FileTree) (p : Path) (time : Int) : FileTree :=
  match t.locate p with
  | .error _ => t
  | .ok place =>
    match t.node? place with
    | some (.file content _) => t.setNode place (.file content (clampTime time))
    | some (.directory _) => t.setNode place (.directory (clampTime time))
    | _ => t

end FileTree

end LiveSketch
