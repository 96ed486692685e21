import LiveSketch.Settings
import LiveSketch.Yaml.Document
import LiveSketch.Yaml.Merge

/-!
# Settings files

Reads settings from a YAML mapping.

## Main definitions

* `Settings.ofNode` — the settings a mapping describes.
* `Settings.ofText`, `Settings.load` — the settings in a text and in a file.
* `SettingsFault` — why there are none.

## Implementation notes

Entries are looked at in the order of the mapping, so the first one of the wrong kind is reported.
Entries that are not settings are passed over. A setting that is not mentioned keeps its default.
-/

namespace LiveSketch

/-- Why a text does not describe settings. -/
inductive SettingsFault where
  | malformed (fault : Yaml.Fault)
  /-- A merge key with a value that cannot be merged. -/
  | notMergeable
  /-- A node that does not fit; the text says why. -/
  | unfit (text : String)
deriving Inhabited

/-- The text shown for a fault. -/
def SettingsFault.message : SettingsFault → String
  | malformed fault => "failed to parse YAML: " ++ fault.message
  | notMergeable =>
    "failed to process merge keys: only mappings and arrays of mappings may be merged"
  | unfit text => "failed to decode settings: " ++ text

namespace Settings

open Yaml (Node)

/-- The largest value of a count. -/
def maxCount : Int := 4294967295

/-- A count, which is a natural number of 32 bits. -/
def countOf (node : Node) : Except String Nat :=
  match node.untagged with
  | .integer n => if 0 ≤ n ∧ n ≤ maxCount then .ok n.toNat else .error (node.wrongValue "u32")
  | _ => .error (node.wrongKind "u32")

/-- A rate. -/
def rateOf (node : Node) : Except String Binary :=
  match node.untagged with
  | .integer n => .ok (BinaryFormat.single.ofInt n)
  | .real x => .ok (BinaryFormat.single.convert x)
  | _ => .error (node.wrongKind "f32")

/-- A switch. -/
def switchOf (node : Node) : Except String Bool :=
  match node.untagged with
  | .bool b => .ok b
  | _ => .error (node.wrongKind "a boolean")

/-- A text. -/
def textOf (expected : String) (node : Node) : Except String String :=
  match node.untagged with
  | .text s => .ok s
  | _ => .error (node.wrongKind expected)

/-- A list of paths. -/
def pathsOf (node : Node) : Except String (List Path) :=
  match node.untagged with
  | .sequence items => items.mapM fun item => (textOf "path string" item).map Path.mk
  | _ => .error (node.wrongKind "a sequence")

/-- A title, or none. -/
def titleOf : Node → Except String (Option String)
  | .null => .ok none
  | node => (textOf "a string" node).map some

/-- The settings with one of them set. -/
def set (s : Settings) (name : String) (value : Node) : Except String Settings :=
  match name with
  | "width" => (countOf value).map fun width => { s with width }
  | "height" => (countOf value).map fun height => { s with height }
  | "fps" => (rateOf value).map fun fps => { s with fps }
  | "watch_interval" => (countOf value).map fun watchInterval => { s with watchInterval }
  | "verbose" => (switchOf value).map fun verbose => { s with verbose }
  | "load_paths" => (pathsOf value).map fun loadPaths => { s with loadPaths }
  | "default_load_path" => (switchOf value).map fun defaultLoadPath => { s with defaultLoadPath }
  | "title" => (titleOf value).map fun title => { s with title }
  | _ => .ok s

/-- The names of the settings. -/
def names : List String :=
  ["width", "height", "fps", "watch_interval", "verbose", "load_paths", "default_load_path", "title"]

/-- The settings with the entries of a mapping set. `seen` are the settings that already are. -/
def setAll : List (Node × Node) → List String → Settings → Except String Settings
  | [], _, s => .ok s
  | (key, value) :: rest, seen, s =>
    match textOf "field identifier" key with
    | .error e => .error e
    | .ok name =>
      if seen.contains name then .error s!"duplicate field \x60{name}\x60"
      else
        match s.set name value with
        | .error e => .error e
        | .ok s => setAll rest (if names.contains name then name :: seen else seen) s

/-- The settings a mapping describes. -/
def ofNode (node : Node) : Except String Settings :=
  match node.untagged with
  | .mapping entries => setAll entries [] {}
  | _ => .error (node.wrongKind "struct RuntimeConfig")

/-- The settings in a text. A text that says nothing stands for the defaults. -/
def ofText (text : String) : Except SettingsFault Settings :=
  match Node.ofText text with
  | .error fault => .error (.malformed fault)
  | .ok node =>
    if node.isNull then .ok {}
    else
      match node.merged with
      | none => .error .notMergeable
      | some node => (ofNode node).mapError .unfit

/-- The settings in a file, or what to say if there are none. -/
def load (tree : FileTree) (path : Path) : Except String Settings :=
  match tree.readText path with
  | .error cause => .error s!"failed to read config '{path.text}': {cause.message}"
  | .ok text =>
    (ofText text).mapError fun fault => s!"invalid config '{path.text}': {fault.message}"

/-- Whether a rate equals another one; what is not a number equals nothing. -/
def sameRate (x y : Binary) : Bool := x != .nan && y != .nan && ((x.isZero && y.isZero) || x == y)

/-- Whether settings equal others, paths being compared by component. -/
def same (s t : Settings) : Bool :=
  s.width == t.width && s.height == t.height && sameRate s.fps t.fps &&
    s.watchInterval == t.watchInterval && s.verbose == t.verbose &&
    s.loadPaths.map Path.components == t.loadPaths.map Path.components &&
    s.defaultLoadPath == t.defaultLoadPath && s.title == t.title

end Settings

end LiveSketch
