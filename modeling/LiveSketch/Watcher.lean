import LiveSketch.Fatal
import LiveSketch.Files.Tree

/-!
# Watching files

Noticing saved files by their modification times. The sketch and the files it includes are polled
every few frames; one time stamp, the newest seen so far, is shared by all of them.

## Main definitions

* `Watcher` — the watched files in order, the shared time stamp and the countdown.
* `Watcher.tick` — count down one frame.
* `Watcher.poll` — report the files newer than everything seen before.

## Implementation notes

Entry zero is the sketch. A poll walks the list in order and raises the time stamp as it goes, so a
file is reported only if it is newer than the time stamp and than every file before it.
-/

namespace LiveSketch

/-- A file that changed: its place in the watch list and its path. -/
structure WatchChange where
  index : Nat
  path : Path
deriving DecidableEq, Inhabited

/-- The watched files, the newest time seen, and the countdown to the next poll. -/
structure Watcher where
  files : List Path
  lastSeen : Int
  interval : Nat
  framesUntilCheck : Nat
deriving Inhabited

namespace Watcher

/-- Frames between two polls when nothing else is asked for. -/
def defaultInterval : Nat := 30

/-- A watcher without files that polls every `interval` frames; an interval of zero polls every
frame. -/
def every (interval : Nat) : Watcher where
  files := []
  lastSeen := 0
  interval := max interval 1
  framesUntilCheck := max interval 1

/-- The sketch itself. -/
def primary (w : Watcher) : Option Path := w.files.head?

/-- Whether a path is watched. -/
def watches (w : Watcher) (path : Path) : Bool := Path.listed w.files path

/-- Watches one more file. A path already watched keeps its place. -/
def register (w : Watcher) (path : Path) : Watcher :=
  if w.watches path then w else { w with files := w.files ++ [path] }

/-- Makes a path the first of the list, moving it there if it was already watched. -/
def registerPrimary (w : Watcher) (path : Path) : Watcher :=
  { w with files := path :: w.files.filter fun watched => !watched.same path }

/-- Raises the time stamp. -/
def seed (w : Watcher) (time : Int) : Watcher := { w with lastSeen := max w.lastSeen time }

/-- Counts down one frame; says whether it is time to poll, in which case the countdown starts
over. -/
def tick (w : Watcher) : Watcher × Bool :=
  if w.framesUntilCheck - 1 = 0 then ({ w with framesUntilCheck := w.interval }, true)
  else ({ w with framesUntilCheck := w.framesUntilCheck - 1 }, false)

/-- Walks a list of files from position `index` on: the raised time stamp, and the files newer than
everything before them, or the first file that cannot be looked at. -/
def scan (tree : FileTree) : List Path → Nat → Int → Int × Except FatalError (List WatchChange)
  | [], _, seen => (seen, .ok [])
  | path :: rest, index, seen =>
    match tree.modified path with
    | .error cause => (seen, .error (.watchedFileInaccessible path cause))
    | .ok time =>
      if seen < time then
        match scan tree rest (index + 1) time with
        | (seen, .ok changes) => (seen, .ok (⟨index, path⟩ :: changes))
        | (seen, .error e) => (seen, .error e)
      else scan tree rest (index + 1) seen

/-- Looks at every watched file in order and reports the changed ones. -/
def poll (w : Watcher) (tree : FileTree) : Watcher × Except FatalError (List WatchChange) :=
  let (seen, result) := scan tree w.files 0 w.lastSeen
  ({ w with lastSeen := seen }, result)

end Watcher

end LiveSketch
