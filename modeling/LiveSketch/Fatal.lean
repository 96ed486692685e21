import LiveSketch.Files.IoError
import LiveSketch.Files.Path

/-!
# Fatal conditions

Conditions the runtime cannot recover from. Script failures are not among them: they put the sketch
into its error state instead.

## Main definitions

* `FatalError` — the conditions.
* `FatalError.message`, `FatalError.hint`, `FatalError.exitCode` — how the program ends.
-/

namespace LiveSketch

/-- A condition that ends the program. -/
inductive FatalError where
  /-- The sketch cannot be read. -/
  | scriptInaccessible (path : Path) (cause : IoError)
  /-- A watched file cannot be looked at any more. -/
  | watchedFileInaccessible (path : Path) (cause : IoError)
  /-- There is nowhere to look for included files. -/
  | noLoadPath
deriving DecidableEq, Inhabited

namespace FatalError

/-- What went wrong. -/
def message : FatalError → String
  | scriptInaccessible path cause => s!"could not access script `{path.text}': {cause.message}"
  | watchedFileInaccessible path cause =>
    s!"could not access watched file `{path.text}': {cause.message}"
  | noLoadPath => "no load path set"

/-- The exit code of the program. -/
def exitCode : FatalError → Nat
  | scriptInaccessible _ _ => 1
  | watchedFileInaccessible _ _ => 1
  | noLoadPath => 2

/-- What the user can do about it. -/
def hint : FatalError → String
  | scriptInaccessible _ _ => "Check that the file exists and is readable"
  | watchedFileInaccessible _ _ => "A watched file was moved or deleted while running"
  | noLoadPath => "Set VIVO_PATH, pass -I, or allow the default library path"

/-- The last lines the program writes. -/
def farewell (e : FatalError) : String :=
  s!"FATAL ERROR: {e.message}. vivo must quit.\n  {e.hint}\n"

end FatalError

end LiveSketch
