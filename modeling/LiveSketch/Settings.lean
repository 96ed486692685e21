import LiveSketch.FrameClock
import LiveSketch.LoadPath
import LiveSketch.Watcher

/-!
# Settings

What the user can configure.

## Main definitions

* `Settings` — every setting; the defaults are those of a run without a settings file.
* `Settings.searchPath` — the load path the settings lead to.
-/

namespace LiveSketch

/-- The runtime settings. -/
structure Settings where
  width : Nat := 500
  height : Nat := 500
  fps : Binary := BinaryFormat.single.ofInt 60
  /-- Frames between two checks of the watched files. -/
  watchInterval : Nat := Watcher.defaultInterval
  verbose : Bool := false
  loadPaths : List Path := []
  /-- Whether the user's library directory is searched. -/
  defaultLoadPath : Bool := true
  title : Option String := none
deriving Inhabited

/-- The directories searched for included files: those of the environment, the configured ones, and
the library directory unless it is switched off. -/
def Settings.searchPath (settings : Settings) (tree : FileTree) (env : Environment) :
    LoadPath × List LogRecord :=
  LoadPath.ofEnvironment tree env settings.loadPaths
    (if settings.defaultLoadPath then some (LoadPath.defaultDirectory env) else none)

end LiveSketch
