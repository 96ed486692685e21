import LiveSketch.Files.Tree
import LiveSketch.Log

/-!
# The load path

Where included files are looked for: an ordered list of directories without repetitions.

## Main definitions

* `LoadPath` — the directories, in search order.
* `LoadPath.ofSources` — the search path from the environment, explicit directories and the default.
* `LoadPath.resolve` — find a file.

## Implementation notes

Directories are compared by component and kept as they were written. Explicit directories are put in
their canonical form first, and those that do not resolve are left out with a warning.
-/

namespace LiveSketch

/-- Directories searched for included files, in order. -/
structure LoadPath where
  entries : List Path := []
deriving DecidableEq, Inhabited

/-- What the program reads from its environment: variables, and the home directory of the account it
runs under. -/
structure Environment where
  entries : List (String × String) := []
  accountHome : Path := ⟨"/root"⟩
deriving Inhabited

/-- The value of a variable. -/
def Environment.get? (env : Environment) (name : String) : Option String :=
  (env.entries.find? fun entry => entry.1 = name).map (·.2)

namespace LoadPath

/-- The variable that holds directories to search first, separated by colons. -/
def variableName : String := "VIVO_PATH"

/-- Whether nothing is searched. -/
def isEmpty (l : LoadPath) : Bool := l.entries.isEmpty

/-- Whether a directory is searched. -/
def mentions (l : LoadPath) (path : Path) : Bool := Path.listed l.entries path

/-- Adds a directory at the end, unless it is already there. -/
def push (l : LoadPath) (path : Path) : LoadPath :=
  if l.mentions path then l else ⟨l.entries ++ [path]⟩

/-- Moves or inserts a directory at the front. -/
def unshift (l : LoadPath) (path : Path) : LoadPath :=
  ⟨path :: l.entries.filter fun entry => !entry.same path⟩

/-- The warning about a directory that does not resolve. -/
def ignoring (path : Path) (cause : IoError) : LogRecord :=
  ⟨.warn, .loading, s!"ignoring load path entry '{path.text}': {cause.message}"⟩

/-- Adds the canonical form of a directory at the end, or leaves it out with a warning. -/
def appendResolved (tree : FileTree) (l : LoadPath) (path : Path) : LoadPath × List LogRecord :=
  match tree.canonical path with
  | .ok resolved => (l.push resolved, [])
  | .error cause => (l, [ignoring path cause])

/-- Adds several explicit directories. -/
def appendAllResolved (tree : FileTree) : List Path → LoadPath → LoadPath × List LogRecord
  | [], l => (l, [])
  | path :: rest, l =>
    let (l, warnings) := appendResolved tree l path
    let (l, more) := appendAllResolved tree rest l
    (l, warnings ++ more)

/-- Splits a text at colons. -/
def splitColon : List Char → List (List Char)
  | [] => [[]]
  | c :: rest =>
    match splitColon rest with
    | [] => [[c]]
    | first :: more => if c = ':' then [] :: first :: more else (c :: first) :: more

/-- The directories named by a colon separated value; empty pieces name nothing. -/
def ofVariable (value : String) : List Path :=
  ((splitColon value.toList).filter fun piece => !piece.isEmpty).map fun piece =>
    ⟨String.ofList piece⟩

/-- The search path from, in this order, a colon separated value, explicit directories, and a
default directory; with the warnings about explicit directories that do not resolve. -/
def ofSources (tree : FileTree) (value : Option String) (explicit : List Path)
    (default : Option Path) : LoadPath × List LogRecord :=
  let named := ((value.map ofVariable).getD []).foldl push {}
  let (l, warnings) := appendAllResolved tree explicit named
  ((default.toList).foldl push l, warnings)

/-- `ofSources` with the value taken from the environment. -/
def ofEnvironment (tree : FileTree) (env : Environment) (explicit : List Path)
    (default : Option Path) : LoadPath × List LogRecord :=
  ofSources tree (env.get? variableName) explicit default

/-- Finds a file. An absolute path is itself if it exists; a relative one is looked for in every
directory in turn and has to be a regular file. -/
def resolve (tree : FileTree) (l : LoadPath) (relative : Path) : Option Path :=
  if relative.isAbsolute then (if tree.doesExist relative then some relative else none)
  else (l.entries.map fun entry => entry.join relative).find? tree.isFile

/-- The user's home directory. An empty variable does not name one. -/
def homeDirectory (env : Environment) : Path :=
  match env.get? "HOME" with
  | some text => if text = "" then env.accountHome else ⟨text⟩
  | none => env.accountHome

/-- The user's data directory. The variable for it counts only if it holds an absolute path. -/
def dataDirectory (env : Environment) : Path :=
  match (env.get? "XDG_DATA_HOME").filter fun text => Path.isAbsolute ⟨text⟩ with
  | some text => ⟨text⟩
  | none => (homeDirectory env).join ⟨".local/share"⟩

/-- Where shared libraries live unless the search path says otherwise. -/
def defaultDirectory (env : Environment) : Path :=
  ((dataDirectory env).join ⟨"vivo"⟩).join ⟨"lib"⟩

end LoadPath

end LiveSketch
