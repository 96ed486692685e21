import LiveSketch.Engine
import LiveSketch.Number.Decimal

/-!
# A directive engine

A script engine without a language: every line of a source text is one directive. It exercises the
lifecycle — entry points, hooks, dependencies, failures, drawing — and nothing else.

## Main definitions

* `Directive.Callable` — a callable that is noted, draws, and may fail.
* `Directive.read` — what a line asks for.
* `Directive.engine`, `Engine.idle` — the engine, and the engine that does nothing.

## Implementation notes

`define`, `raise`, `paint` and `shift` set an entry point; `prehook`, `posthook` and `preshift` add a
hook, and an exclamation mark makes it fail; `depend`, `verbose`, `formatter` and `fail` do what
their names say. A number that is missing, malformed or out of range is zero.
-/

namespace LiveSketch

/-- The engine that does nothing and has no callables. -/
def Engine.idle : Engine Unit Empty where
  evaluate _ _ _ _ stage ctx := (stage, ctx, .ok ())
  loadDependency _ _ stage ctx := (stage, ctx, .ok ())
  invoke handle := nomatch handle

namespace Directive

/-- What a callable draws. -/
inductive Drawing where
  | nothing
  | paint (color : Rgba)
  /-- One white pixel at the corner, after moving by an offset that stays. -/
  | shift (offset : Point)
  | preshift
deriving DecidableEq, Inhabited

/-- What a drawing does to a canvas. -/
def Drawing.apply (canvas : Canvas) : Drawing → Canvas
  | nothing => canvas
  | paint color => canvas.clear color
  | shift offset => (canvas.translate offset).draw (.rect ⟨0, 0, 1, 1⟩) .white
  | preshift => canvas.translate ⟨2, 1⟩

/-- How failures are worded for the overlay. -/
inductive Formatter where
  | plain
  | prefixed (text : String)
  | failing
deriving DecidableEq, Inhabited

/-- A callable: what it draws, and the text of the failure it ends in, if any. -/
structure Callable where
  name : String
  drawing : Drawing := .nothing
  boom : Option String := none
deriving DecidableEq, Inhabited

/-- What the engine keeps: a record of what it was asked, drawings that no canvas has seen, the
formatter, and the last facts about the frame. -/
structure State where
  record : Array String := #[]
  queue : Array Drawing := #[]
  formatter : Formatter := .plain
  env : FrameEnv := {}
deriving Inhabited

/-- Adds to the record. -/
def State.note (s : State) (text : String) : State := { s with record := s.record.push text }

/-! ### Reading lines -/

/-- Whether a character separates words. -/
def isBlank (c : Char) : Bool :=
  c.isWhitespace || c.toNat = 11 || c.toNat = 12 || c.toNat = 0x85 || c.toNat = 0xA0

/-- The text up to the first space, and the text after it. -/
def splitFirst (text : String) : String × String :=
  let cs := text.toList
  (String.ofList (cs.takeWhile (· ≠ ' ')), String.ofList ((cs.dropWhile (· ≠ ' ')).drop 1))

/-- The pieces of a text between separators. -/
def pieces (separates : Char → Bool) (text : String) : List String :=
  (text.toList.foldr (fun c (acc : List (List Char)) =>
    if separates c then [] :: acc
    else match acc with
      | first :: rest => (c :: first) :: rest
      | [] => [[c]]) [[]]).map String.ofList

/-- The words of a text. -/
def words (text : String) : List String := (pieces isBlank text).filter (· ≠ "")

/-- The lines of a text without the blanks around them; empty ones are left out. -/
def lines (text : String) : List String :=
  let trimmed (line : String) : String :=
    String.ofList ((line.toList.dropWhile isBlank).reverse.dropWhile isBlank).reverse
  ((pieces (· == '\n') text).map trimmed).filter (· ≠ "")

/-- A number in a range; anything else is zero. -/
def number (lo hi : Int) (text : String) : Int :=
  let (negative, digits) := Decimal.takeSign text.toList
  let size : Int := Decimal.digitsValue digits
  let n := if negative then -size else size
  if digits.isEmpty || !digits.all Decimal.isDigit || n < lo || hi < n then 0 else n

/-! ### Directives -/

/-- A failure to understand a line. -/
def misread (text : String) : Failure := ⟨"SyntaxError", text, []⟩

/-- What a line asks for. -/
inductive Request where
  | entry (entry : Entry) (callable : Callable)
  | hook (post : Bool) (phase : Phase) (callable : Callable)
  | depend (path : Path)
  | verbose (on : Bool)
  | formatter (formatter : Formatter)
deriving Inhabited

/-- A request for an entry point; its name is the first word. -/
def readEntry (rest : String) (drawing : Drawing) (fails : Bool) : Except Failure Request :=
  let name := (words rest).headD ""
  match Entry.ofName? name with
  | none => .error (misread s!"no entry point {name}")
  | some entry => .ok (.entry entry ⟨name, drawing, if fails then some s!"{name} boom" else none⟩)

/-- A request for a hook; its phase is the first word, and what follows is a label. -/
def readHook (word rest : String) (post : Bool) (drawing : Drawing) (fails : Bool) :
    Except Failure Request :=
  let (phaseName, label) := splitFirst rest
  match Phase.parse phaseName with
  | .error text => .error (misread text)
  | .ok phase =>
    let boom := if fails then some s!"{phaseName} hook boom {label}" else none
    .ok (.hook post phase ⟨s!"{word}:{rest}", drawing, boom⟩)

/-- What a line asks for. -/
def read (line : String) : Except Failure Request :=
  let (word, rest) := splitFirst line
  let argument (lo hi : Int) (k : Nat) : Int := number lo hi ((words rest).getD k "")
  let channel (k : Nat) : UInt8 := (argument 0 255 k).toNat.toUInt8
  let coordinate (k : Nat) : Int := argument (-(2 ^ 31)) (2 ^ 31 - 1) k
  match word with
  | "define" => readEntry rest .nothing false
  | "raise" => readEntry rest .nothing true
  | "paint" => readEntry rest (.paint (.solid (channel 1) (channel 2) (channel 3))) false
  | "shift" => readEntry rest (.shift ⟨coordinate 1, coordinate 2⟩) false
  | "prehook" => readHook word rest false .nothing false
  | "prehook!" => readHook word rest false .nothing true
  | "posthook" => readHook word rest true .nothing false
  | "posthook!" => readHook word rest true .nothing true
  | "preshift" => readHook word rest false .preshift false
  | "depend" => .ok (.depend ⟨rest⟩)
  | "verbose" => .ok (.verbose (rest = "on"))
  | "formatter" => .ok (.formatter (.prefixed rest))
  | "formatter!" => .ok (.formatter .failing)
  | "fail" => .error (misread rest)
  | word => .error (misread s!"unknown directive {word}")

/-- Does what a line asks for. `locate` gives the file that a path in a line stands for. -/
def Request.apply (locate : Path → Path) :
    Request → State × Context Callable → State × Context Callable
  | entry e callable, (s, ctx) => (s, { ctx with entries := ctx.entries.set e (some callable) })
  | hook false phase callable, (s, ctx) =>
    (s, { ctx with hooks := ctx.hooks.addPre phase callable })
  | hook true phase callable, (s, ctx) =>
    (s, { ctx with hooks := ctx.hooks.addPost phase callable })
  | depend path, (s, ctx) => (s, ctx.requestDependency (locate path))
  | verbose on, (s, ctx) => (s, { ctx with verbose := on })
  | formatter f, (s, ctx) => ({ s with formatter := f }, ctx)

/-- Does what lines ask for, up to the first one that fails. -/
def applyLines (locate : Path → Path) : List String → State × Context Callable →
    (State × Context Callable) × Except Failure Unit
  | [], pair => (pair, .ok ())
  | line :: rest, pair =>
    match read line with
    | .error failure => (pair, .error failure)
    | .ok request => applyLines locate rest (request.apply locate pair)

/-- An argument in the record. -/
def argumentText : Value → String
  | .unit => "()"
  | .bool b => if b then "true" else "false"
  | .int n => toString n
  | .float x => NumberStyle.diagnostic.render .double (.ofFloat x)
  | .str s => "\x27" ++ s ++ "\x27"

/-- Applies a source text. -/
def applyText (locate : Path → Path) (source : String) (state : State) (stage : Stage State)
    (ctx : Context Callable) : Stage State × Context Callable × Except Failure Unit :=
  let ((state, ctx), result) := applyLines locate (lines source) (state, ctx)
  ({ stage with engine := state }, ctx, result)

/-- The engine. `origin` names it in the backtraces of its failures, and `locate` gives the file that
a path in a line stands for. -/
def engine (origin : String) (locate : Path → Path) : Engine State Callable where
  evaluate source path reset _ stage ctx :=
    let state := stage.engine.note s!"evaluate {path.text} {reset}"
    applyText locate source { state with formatter := .plain } stage ctx.reset
  loadDependency path files stage ctx :=
    let source := match files.readText path with
      | .ok text => text
      | .error _ => ""
    applyText locate source (stage.engine.note s!"dependency {path.text}") stage ctx
  processError failure stage :=
    (stage, match stage.engine.formatter with
      | .plain => .ok failure.message
      | .prefixed text => .ok (text ++ failure.message)
      | .failing => .error ⟨"RuntimeError", "formatter boom", []⟩)
  sync env _ stage ctx := ({ stage with engine := { stage.engine with env } }, ctx)
  flush stage canvas :=
    ({ stage with engine := { stage.engine with queue := #[] } },
      stage.engine.queue.foldl Drawing.apply canvas)
  invoke callable args stage :=
    let arguments := ",".intercalate (args.map argumentText)
    let state := stage.engine.note s!"{callable.name}({arguments})"
    ({ stage with engine := { state with queue := state.queue.push callable.drawing } },
      match callable.boom with
      | none => .ok .unit
      | some text => .error ⟨"RuntimeError", text, [s!"{origin} in `{callable.name}`"]⟩)
  label := Callable.name

end Directive

end LiveSketch
