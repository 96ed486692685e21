import LiveSketch.LoadPath

/-!
# Showing the log

Which records the terminal shows, and how.

## Main definitions

* `LogThreshold` — the least important level that is still shown.
* `LogFilter` — thresholds by the start of a target.
* `LogFilter.ofSpec`, `LogFilter.ofEnvironment` — a filter from its text, and the one in force.
* `LogStyle.line` — a record as it is shown.

## Implementation notes

Of all rules whose name starts the target of a record, the one with the longest name decides; of two
with names of one length the later one does. A rule without a name applies to every target. A text
may follow the rules after a slash; only records that contain it are shown. Parts of a filter that
make no sense are left out with a warning.
-/

namespace LiveSketch

/-- The least important level that is shown; `none` shows nothing. -/
abbrev LogThreshold := Option LogLevel

/-- One rule of a filter: the start of the targets it is about, if it is not about all of them, and
what is shown of them. -/
structure LogRule where
  name : Option String
  threshold : LogThreshold
deriving DecidableEq, Inhabited

/-- What is shown of the log. -/
structure LogFilter where
  rules : List LogRule := []
  /-- A text that shown records contain. -/
  pattern : Option String := none
deriving Inhabited

namespace LogFilter

/-- The least important level: everything is shown. -/
def everything : LogThreshold := some .trace

/-- The text without the blanks around it. -/
def trimmed (text : String) : String :=
  String.ofList ((text.toList.dropWhile Char.isWhitespace).reverse.dropWhile
    Char.isWhitespace).reverse

/-- The threshold with a given name, in any case. -/
def threshold? (text : String) : Option LogThreshold :=
  let name := text.toList.map Char.toUpper
  if name = "OFF".toList then some none
  else (LogLevel.all.find? fun level => level.name.toList = name).map some

/-- Splits a text at a character. -/
def split (separator : Char) : List Char → List (List Char)
  | [] => [[]]
  | c :: rest =>
    match split separator rest with
    | [] => [[c]]
    | first :: more => if c = separator then [] :: first :: more else (c :: first) :: more

/-- The pieces of a text between the occurrences of a character. -/
def pieces (separator : Char) (text : String) : List String :=
  (split separator text.toList).map String.ofList

/-- The warning about a part that makes no sense. -/
def nonsense (part : String) : String := s!"invalid logging spec '{part}'"

/-- A rule from its text, or the warning about it. -/
def ruleOf (text : String) : Except String LogRule :=
  match pieces '=' text with
  | [name] =>
    match threshold? name with
    | some threshold => .ok ⟨none, threshold⟩
    | none => .ok ⟨some name, everything⟩
  | [name, level] =>
    let level := trimmed level
    if level = "" then .ok ⟨some name, everything⟩
    else
      match threshold? level with
      | some threshold => .ok ⟨some name, threshold⟩
      | none => .error (nonsense level)
  | _ => .error (nonsense text)

/-- Adds a rule, or replaces the one with the same name. -/
def add (filter : LogFilter) (rule : LogRule) : LogFilter :=
  if filter.rules.any fun r => r.name = rule.name then
    { filter with rules := filter.rules.map fun r => if r.name = rule.name then rule else r }
  else { filter with rules := filter.rules ++ [rule] }

/-- Adds the rules of a list of texts, with the warnings about those that make no sense. -/
def addAll (filter : LogFilter) (texts : List String) : LogFilter × List String :=
  texts.foldl (fun (filter, warnings) text =>
    match ruleOf text with
    | .ok rule => (filter.add rule, warnings)
    | .error warning => (filter, warnings ++ [warning])) (filter, [])

/-- A filter from its text, with warnings. -/
def ofSpec (text : String) : LogFilter × List String :=
  match pieces '/' text with
  | [] => ({}, [])
  | rules :: more =>
    if 1 < more.length then ({}, [nonsense text ++ " (too many '/'s)"])
    else
      let (filter, warnings) := addAll {}
        (((pieces ',' rules).map trimmed).filter fun part => part ≠ "")
      ({ filter with pattern := more.head? }, warnings)

/-- The filter of a user who did not ask for another one. -/
def standard : String := "vivo=info,vivo_player=info"

/-- Targets that are always shown from warnings up. -/
def quietTargets : List String := ["naga", "wgpu", "wgpu_core", "wgpu_hal"]

/-- The variable that holds a filter. -/
def variableName : String := "RUST_LOG"

/-- The filter in force, with warnings. -/
def ofEnvironment (env : Environment) : LogFilter × List String :=
  let (filter, warnings) := ofSpec ((env.get? variableName).getD standard)
  (quietTargets.foldl (fun filter name => filter.add ⟨some name, some .warn⟩) filter, warnings)

/-- How much of a target a rule is about: the length of its name, if that starts the target. -/
def reach? (target : String) (rule : LogRule) : Option Nat :=
  match rule.name with
  | none => some 0
  | some name =>
    if name.toList.isPrefixOf target.toList then some name.utf8ByteSize else none

/-- The rule that decides about a target. -/
def decisive? (filter : LogFilter) (target : String) : Option LogRule :=
  (filter.rules.foldl (fun (best : Option (LogRule × Nat)) rule =>
    match reach? target rule, best with
    | none, _ => best
    | some n, none => some (rule, n)
    | some n, some (_, m) => if m ≤ n then some (rule, n) else best) none).map (·.1)

/-- Whether a threshold lets a level through. -/
def passes (threshold : LogThreshold) (level : LogLevel) : Bool :=
  match threshold with
  | none => false
  | some least => decide (level.rank ≤ least.rank)

/-- Whether a text contains another one. -/
def containsText (text part : List Char) : Bool :=
  part.isPrefixOf text ||
    match text with
    | [] => false
    | _ :: rest => containsText rest part

/-- Whether a record is shown. -/
def shows (filter : LogFilter) (level : LogLevel) (target text : String) : Bool :=
  (match filter.decisive? target with
    | some rule => passes rule.threshold level
    | none => false) &&
  match filter.pattern with
  | some part => containsText text.toList part.toList
  | none => true

end LogFilter

/-- Whether lines are coloured. -/
inductive LogStyle where
  | plain
  | colored
deriving DecidableEq, Inhabited

namespace LogStyle

/-- Lines are coloured on a terminal that is named and able to show colours, unless the user objects. -/
def ofEnvironment (env : Environment) : LogStyle :=
  match env.get? "TERM" with
  | none => .plain
  | some name => if name = "dumb" ∨ (env.get? "NO_COLOR").isSome then .plain else .colored

/-- The number of a level's colour. -/
def colorCode : LogLevel → Nat
  | .error => 31
  | .warn => 33
  | .info => 32
  | .debug => 34
  | .trace => 36

/-- Removes a start from a text as often as it is there. -/
def dropRepeated (start : List Char) : Nat → List Char → List Char
  | 0, text => text
  | fuel + 1, text =>
    if start.isPrefixOf text then dropRepeated start fuel (text.drop start.length) else text

/-- The module shown for a record: its path without the name of the library. -/
def shownModule (path : Option String) : String :=
  match path with
  | none => "<unknown>"
  | some path => String.ofList (dropRepeated "vivo::".toList path.length path.toList)

/-- A record as it is shown. -/
def line (style : LogStyle) (level : LogLevel) (path : Option String) (text : String) : String :=
  let head := s!"[{level.name}][{shownModule path}]"
  match style with
  | .plain => s!"{head} {text}\n"
  | .colored => s!"\x1b[0m\x1b[{colorCode level}m{head}\x1b[0m {text}\n"

end LogStyle

/-- A filter and a style: what the terminal shows of the log. -/
structure LogView where
  filter : LogFilter
  style : LogStyle

namespace LogView

/-- The view the environment asks for, and what is written about parts of it that make no sense. -/
def ofEnvironment (env : Environment) : LogView × String :=
  let (filter, warnings) := LogFilter.ofEnvironment env
  (⟨filter, .ofEnvironment env⟩,
    String.join (warnings.map fun warning => s!"warning: {warning}, ignoring it\n"))

/-- What is shown of a record with a given target, made in a given module. -/
def render (view : LogView) (level : LogLevel) (target : String) (path : Option String)
    (text : String) : String :=
  if view.filter.shows level target text then view.style.line level path text else ""

/-- What is shown of the runtime's own records. -/
def showAll (view : LogView) (records : List LogRecord) : String :=
  String.join (records.map fun r => view.render r.level r.area.target (some r.area.target) r.text)

end LogView

end LiveSketch
