/-!
# Log records

What the runtime reports about its own work, for whoever watches the log.

## Main definitions

* `LogLevel`, `LogArea` — how important a record is, and which part of the runtime made it.
* `LogRecord`, `Log` — a record, and the records made so far.

## Implementation notes

Filters are matched against the *target* of a record, and the target is what a line of the log
shows. Every area has one fixed target.
-/

namespace LiveSketch

/-- How important a record is, most important first. -/
inductive LogLevel where
  | error
  | warn
  | info
  | debug
  | trace
deriving DecidableEq, Inhabited

namespace LogLevel

/-- The level's name in a log line. -/
def name : LogLevel → String
  | error => "ERROR"
  | warn => "WARN"
  | info => "INFO"
  | debug => "DEBUG"
  | trace => "TRACE"

/-- How many levels are at least as important. -/
def rank : LogLevel → Nat
  | error => 1
  | warn => 2
  | info => 3
  | debug => 4
  | trace => 5

/-- All levels. -/
def all : List LogLevel := [error, warn, info, debug, trace]

end LogLevel

/-- The part of the runtime that made a record. -/
inductive LogArea where
  | player
  | fatal
  | host
  | lifecycle
  | input
  | hooks
  | loading
  | recovery
  | script
deriving DecidableEq, Inhabited

/-- The target that an area's records carry. -/
def LogArea.target : LogArea → String
  | player => "vivo_player"
  | fatal => "vivo::core::fatal"
  | host => "vivo::runtime::app"
  | lifecycle => "vivo::interpreter"
  | input => "vivo::interpreter::input"
  | hooks => "vivo::interpreter::hooks"
  | loading => "vivo::interpreter::loader"
  | recovery => "vivo::interpreter::recovery"
  | script => "vivo::script::rhai_engine"

/-- One record of the log. -/
structure LogRecord where
  level : LogLevel
  area : LogArea
  text : String
deriving DecidableEq, Inhabited

/-- The records made so far, oldest first. -/
abbrev Log := Array LogRecord

/-- Adds a record. -/
def Log.add (log : Log) (level : LogLevel) (area : LogArea) (text : String) : Log :=
  log.push ⟨level, area, text⟩

end LiveSketch
