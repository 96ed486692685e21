import LiveSketch.Player

/-!
# The program

Reads the command line, the environment and the files they name, starts the player, and writes what
it says.

## Main definitions

* `Disk.survey` — the files that a command line names, as a file tree.
* `main` — the program.

## Implementation notes

Everything that decides anything is in `LiveSketch.Player`. Here the disk is only copied into a tree.
There is no window to run a session in, so a session that is ready ends with the line about it.
-/

namespace LiveSketch
namespace Disk

/-- The directories on the way to a path, outermost first, and the path itself. -/
def approaches (path : Path) : List Path :=
  (List.range path.pieces.length).map fun k => ⟨"/".intercalate (path.pieces.take (k + 1))⟩

/-- A time of the disk in milliseconds. -/
def milliseconds (time : IO.FS.SystemTime) : Int := time.sec * 1000 + time.nsec.toNat / 1000000

/-- A tree with what a path names on the disk, if it names anything. -/
def look (tree : FileTree) (path : Path) : IO FileTree := do
  try
    let real ← IO.FS.realPath path.text
    let info ← real.metadata
    let time := milliseconds info.modified
    let target : Path := ⟨real.toString⟩
    let node ←
      if info.type == .dir then pure (FileNode.directory time)
      else do
        let content ← IO.FS.readBinFile real
        pure (FileNode.file content.toList time)
    let tree := tree.place target node time
    let written := tree.lexicalPlace path
    return if written = FileTree.names target then tree else tree.setNode written (.link target)
  catch _ => return tree

/-- A tree with what paths name on the disk, and with the directories on the way to it. -/
def lookAll (tree : FileTree) (paths : List Path) : IO FileTree :=
  (paths.flatMap approaches).foldlM look tree

/-- The files that a command line names: the settings file, the directories to search, the sketch. -/
def survey (arguments : List String) : IO FileTree := do
  let here ← IO.currentDir
  let tree : FileTree := { workingDirectory := FileTree.names ⟨here.toString⟩ }
  match CommandLine.read arguments with
  | .error _ => return tree
  | .ok i =>
    let tree ← lookAll tree i.config.toList
    let directories := match i.settings tree with
      | .ok settings => settings.loadPaths
      | .error _ => []
    lookAll tree (directories ++ [i.script])

/-- The environment variables that the player reads. -/
def environment : IO Environment := do
  let names := [LoadPath.variableName, "HOME", "XDG_DATA_HOME", LogFilter.variableName, "TERM",
    "NO_COLOR"]
  let values ← names.mapM fun name => do
    let value ← IO.getEnv name
    return value.toList.map fun text => (name, text)
  return { entries := values.flatten }

end Disk

end LiveSketch

open LiveSketch in
/-- Starts the player with the arguments of the command line. -/
def main (arguments : List String) : IO UInt32 := do
  let tree ← Disk.survey arguments
  let env ← Disk.environment
  let started := Player.start arguments tree env
  IO.print started.stdout
  IO.eprint started.stderr
  match started.next with
  | .exit code => return code.toUInt32
  | .run _ _ =>
    IO.eprint (Player.windowFailure "no window system is available")
    return 1
