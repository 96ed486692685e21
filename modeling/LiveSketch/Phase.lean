/-!
# Phases

The four phases of a sketch's life that hooks can be attached to.

## Main definitions

* `Phase`, `Phase.name`, `Phase.parse` — the phases and their names.
* `Phase.sparesPosthooks` — whether posthooks still run after a failure in the phase.
-/

namespace LiveSketch

/-- A phase of a sketch's life. -/
inductive Phase where
  | setup
  | update
  | draw
  | exit
deriving DecidableEq, Inhabited

namespace Phase

/-- All phases, in the order in which they are looked up by name. -/
def all : List Phase := [setup, update, draw, exit]

/-- The name scripts use for a phase. -/
def name : Phase → String
  | setup => "setup"
  | update => "update"
  | draw => "draw"
  | exit => "exit"

/-- The phase of a given name; the error is the text shown for an unknown one. -/
def parse (text : String) : Except String Phase :=
  match all.find? (fun phase => phase.name = text) with
  | some phase => .ok phase
  | none => .error s!"unknown phase `{text}`"

/-- Whether posthooks run even after an earlier failure in the phase. The posthooks of drawing and
of exiting restore state, so each of them gets its chance. -/
def sparesPosthooks : Phase → Bool
  | setup => false
  | update => false
  | draw => true
  | exit => true

end Phase

end LiveSketch
