/-!
# The console

Named text streams that scripts and the runtime write into and the host drains. A stream comes into
being with its first text and keeps its place in the order of streams from then on.

## Main definitions

* `Console` — the streams in order, and whether diagnostics are kept.
* `Console.write`, `Console.log` — add text, always or only while verbose.
* `Console.buffered`, `Console.drain` — look at a stream, or take what it holds.

## Implementation notes

Writing an empty text does nothing at all: in particular it does not create a stream.
-/

namespace LiveSketch

/-- The streams, in the order of their first text, and the verbosity. -/
structure Console where
  streams : List (String × String) := []
  verbose : Bool := false
deriving Inhabited

namespace Console

/-- The stream scripts print to. -/
def stdout : String := "stdout"

/-- The stream failures are reported on. -/
def stderr : String := "stderr"

/-- Appends `text` to the entry named `stream`, which is added at the end when it is missing. -/
def append (stream text : String) : List (String × String) → List (String × String)
  | [] => [(stream, text)]
  | (name, held) :: rest =>
    if name = stream then (name, held ++ text) :: rest else (name, held) :: append stream text rest

/-- Adds text to a stream. -/
def write (c : Console) (stream text : String) : Console :=
  if text = "" then c else { c with streams := append stream text c.streams }

/-- Adds diagnostic text to a stream, while the console is verbose. -/
def log (c : Console) (stream text : String) : Console :=
  if c.verbose then c.write stream text else c

/-- The text a stream holds; an unknown stream holds none. -/
def buffered (c : Console) (stream : String) : String :=
  match c.streams.find? (fun entry => entry.1 = stream) with
  | some (_, held) => held
  | none => ""

/-- Empties a stream, which stays listed. -/
def clear (c : Console) (stream : String) : Console :=
  { c with streams := c.streams.map fun (name, held) =>
      if name = stream then (name, "") else (name, held) }

/-- The text a stream holds, and the console with the stream emptied. -/
def drain (c : Console) (stream : String) : String × Console :=
  (c.buffered stream, c.clear stream)

/-- Reads a stream, emptying it when asked to. -/
def read (c : Console) (stream : String) (clearing : Bool) : String × Console :=
  if clearing then c.drain stream else (c.buffered stream, c)

/-- Switches verbosity. -/
def setVerbose (c : Console) (verbose : Bool) : Console := { c with verbose := verbose }

/-- The names of the streams, in the order of their first text. -/
def names (c : Console) : List String := c.streams.map (·.1)

end Console

end LiveSketch
