import LiveSketch.Canvas
import LiveSketch.Hooks

/-!
# The board

What a sketch leaves behind for the runtime: drawing commands, the style that the next ones are
drawn in, and requests to be acted on once the script code has returned.

## Main definitions

* `DrawCommand`, `DrawCommand.apply` — a queued drawing command, and what it does to a canvas.
* `Style` — the colours that shapes are drawn in.
* `Requests` — hooks to register, files to include, and the verbosity.
* `Board` — all of it.

## Implementation notes

Drawing functions never touch a canvas. Everything a script asks for waits here, so code that fails
half way leaves a queue behind and no half-drawn frame.
-/

namespace LiveSketch

/-- A drawing command with its colours fixed. -/
inductive DrawCommand where
  | background (color : Rgba)
  | rect (region : Region) (color : Rgba)
  | circle (center : Point) (radius : Nat) (color : Rgba)
  | line (start stop : Point) (color : Rgba)
  | text (content : String) (topLeft : Point) (color : Rgba)
  | translate (offset : Point)
  | resize (width height : Nat)
  | title (label : String)
  | cursor (visible : Bool)
deriving DecidableEq, Inhabited

/-- What a command does to a canvas. -/
def DrawCommand.apply : DrawCommand → Canvas → Canvas
  | background color, c => c.clear color
  | rect region color, c => c.draw (.rect region) color
  | circle center radius color, c => c.draw (.circle center radius) color
  | line start stop color, c => c.draw (.line start stop) color
  | text content topLeft color, c => c.draw (.text content topLeft) color
  | translate offset, c => c.translate offset
  | resize width height, c => c.resize width height
  | title label, c => c.setTitle label
  | cursor visible, c => c.setCursor visible

/-- The colours that shapes are drawn in. -/
structure Style where
  fill : Rgba := .white
  stroke : Rgba := .black
deriving DecidableEq, Inhabited

/-- Before or after the entry point of a phase. -/
inductive HookKind where
  | pre
  | post
deriving DecidableEq, Inhabited

/-- The name of the kind in log records. -/
def HookKind.name : HookKind → String
  | pre => "Pre"
  | post => "Post"

/-- A function to be called around the entry point of a phase. -/
structure HookRequest where
  phase : Phase
  kind : HookKind
  name : String
deriving DecidableEq, Inhabited

/-- What a script asks the runtime for, oldest first. -/
structure Requests where
  hooks : List HookRequest := []
  includes : List String := []
  verbose : Option Bool := none
deriving DecidableEq, Inhabited

/-- What a sketch leaves behind for the runtime. -/
structure Board where
  /-- Commands that no canvas has seen yet, oldest first. -/
  commands : Array DrawCommand := #[]
  style : Style := {}
  requests : Requests := {}
deriving DecidableEq, Inhabited

namespace Board

/-- Queues a command. -/
def queue (b : Board) (command : DrawCommand) : Board :=
  { b with commands := b.commands.push command }

/-- Asks for a hook. -/
def requestHook (b : Board) (hook : HookRequest) : Board :=
  { b with requests := { b.requests with hooks := b.requests.hooks ++ [hook] } }

/-- Asks for a file. -/
def requestInclude (b : Board) (name : String) : Board :=
  { b with requests := { b.requests with includes := b.requests.includes ++ [name] } }

/-- Asks for a verbosity. Only the last request counts. -/
def requestVerbosity (b : Board) (verbose : Bool) : Board :=
  { b with requests := { b.requests with verbose := some verbose } }

/-- The requests, and the board without them. -/
def takeRequests (b : Board) : Requests × Board := (b.requests, { b with requests := {} })

/-- Draws the queued commands, and empties the queue. -/
def flush (b : Board) (canvas : Canvas) : Board × Canvas :=
  ({ b with commands := #[] }, b.commands.foldl (fun c command => command.apply c) canvas)

/-- Restores the style that every frame starts with. -/
def restyle (b : Board) : Board := { b with style := {} }

end Board

end LiveSketch
