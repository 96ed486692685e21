import LiveSketch.Number.Decimal
import LiveSketch.Files.Path

/-!
# The command line

What the player can be asked to do, and what it answers to a command line that it does not
understand.

## Main definitions

* `Switch`, `Slot` — the options, and the places of a command line that take a value.
* `Invocation` — a command line that has been understood.
* `Misuse` — why one has not.
* `CommandLine.read` — the reading.

## Implementation notes

**Pending values.** A value is looked at when the next option or positional value comes up, or at the
end. An argument that is not an option at all is reported before that.

**Options.** A long option takes its value from behind an equals sign or from the next argument; a
short one also from the rest of its argument. After `--` everything is positional.
-/

namespace LiveSketch

/-- The options of the player. -/
inductive Switch where
  | searchDirectory
  | config
  | width
  | height
  | fps
  | watchInterval
  | verbose
  | noDefaultPath
  | help
  | version
deriving DecidableEq, Inhabited

namespace Switch

/-- All options, as they are listed. -/
def all : List Switch :=
  [searchDirectory, config, width, height, fps, watchInterval, verbose, noDefaultPath, help, version]

/-- The name behind two dashes. -/
def long : Switch → String
  | searchDirectory => "include"
  | config => "config"
  | width => "width"
  | height => "height"
  | fps => "fps"
  | watchInterval => "watch-interval"
  | verbose => "verbose"
  | noDefaultPath => "no-default-path"
  | help => "help"
  | version => "version"

/-- The letter behind one dash. -/
def short : Switch → Option Char
  | searchDirectory => some 'I'
  | config => some 'c'
  | verbose => some 'v'
  | help => some 'h'
  | version => some 'V'
  | _ => none

/-- What the value of an option is called, if it takes one. -/
def valueName : Switch → Option String
  | searchDirectory => some "INCLUDE"
  | config => some "CONFIG"
  | width => some "WIDTH"
  | height => some "HEIGHT"
  | fps => some "FPS"
  | watchInterval => some "WATCH_INTERVAL"
  | _ => none

/-- What an option does. -/
def about : Switch → String
  | searchDirectory => "Extra directories searched by \x60include\x60. May be repeated"
  | config => "YAML settings file; flags override its values"
  | width => ""
  | height => ""
  | fps => ""
  | watchInterval => "Frames between checks for changed files"
  | verbose => "Echo loader and error details to the console"
  | noDefaultPath => "Skip the per-user library directory"
  | help => "Print help"
  | version => "Print version"

/-- Whether an option takes a value. -/
def takesValue (s : Switch) : Bool := s.valueName.isSome

/-- An option as it is shown, with its value. -/
def shown (s : Switch) : String :=
  match s.valueName with
  | some name => s!"--{s.long} <{name}>"
  | none => s!"--{s.long}"

/-- The option with a long name. -/
def ofLong? (name : String) : Option Switch := all.find? fun s => s.long = name

/-- The option with a letter. -/
def ofShort? (letter : Char) : Option Switch := all.find? fun s => s.short = some letter

end Switch

/-- A place that takes a value: the sketch, or an option. -/
inductive Slot where
  | script
  | option (s : Switch)
deriving DecidableEq, Inhabited

/-- A place as it is shown. -/
def Slot.shown : Slot → String
  | script => "<SCRIPT>"
  | option s => s.shown

/-- What the player has been asked to do. -/
structure Invocation where
  script : Path := ⟨""⟩
  searchDirectories : List Path := []
  config : Option Path := none
  width : Option Nat := none
  height : Option Nat := none
  fps : Option Binary := none
  watchInterval : Option Nat := none
  verbose : Bool := false
  noDefaultPath : Bool := false
deriving Inhabited

/-- Why a command line is not understood. `used` are the options to show in the usage line. -/
inductive Misuse where
  /-- An argument that has no meaning here, an option it resembles, and whether it could be meant as a
  value. -/
  | unexpected (argument : String) (similar : Option Switch) (couldBeValue : Bool)
      (used : List Switch)
  | valueMissing (slot : Slot)
  | valueInvalid (value : String) (slot : Slot) (reason : String)
  | repeated (s : Switch)
  | valueUnwanted (value : String) (s : Switch) (used : List Switch)
  | scriptMissing (used : List Switch)
deriving DecidableEq, Inhabited

/-- Why reading a command line stops. -/
inductive ReadingStop where
  | help
  | version
  | misuse (cause : Misuse)
deriving DecidableEq, Inhabited

/-! ### Texts -/

namespace CommandLine

/-- The name of the program. -/
def program : String := "vivo-player"

/-- The version of the program. -/
def version : String := "0.1.0"

/-- Removes repetitions, keeping the first of each. -/
def distinct (ss : List Switch) : List Switch :=
  ss.foldl (fun seen s => if seen.contains s then seen else seen ++ [s]) []

/-- The usage line with all options, or only those in use. -/
def usage (used : Option (List Switch)) : String :=
  match used with
  | none => s!"Usage: {program} [OPTIONS] <SCRIPT>"
  | some used =>
    " ".intercalate (s!"Usage: {program}" :: (distinct used).map Switch.shown ++ [Slot.script.shown])

/-- The usage line that shows the options in use, if there are any. -/
def usageOf (used : List Switch) : String := usage (if used.isEmpty then none else some used)

/-- An option in the list of options. -/
def optionHead (s : Switch) : String :=
  (match s.short with
    | some letter => s!"-{letter}, "
    | none => "    ") ++ s.shown

/-- Fills a text up with spaces. -/
def padded (width : Nat) (text : String) : String :=
  text ++ String.ofList (List.replicate (width - text.length) ' ')

/-- The text of the help. -/
def helpText : String :=
  let heads := Switch.all.map optionHead
  let width := heads.foldl (fun n head => max n head.length) 0
  let options := (Switch.all.zip heads).map fun (s, head) => s!"  {padded width head}  {s.about}\n"
  s!"Runs a rhai sketch and reloads it whenever it is saved\n\n{usage none}\n\nArguments:\n" ++
    s!"  {Slot.script.shown}  The sketch to run\n\nOptions:\n{String.join options}"

/-- The text of the version. -/
def versionText : String := s!"{program} {version}\n"

end CommandLine

namespace Misuse

/-- What is wrong, with advice. -/
def explanation : Misuse → String
  | unexpected argument similar couldBeValue _ =>
    s!"unexpected argument '{argument}' found" ++
      (match similar with
        | some s => s!"\n\n  tip: a similar argument exists: '--{s.long}'"
        | none => "") ++
      (if couldBeValue then
        s!"\n\n  tip: to pass '{argument}' as a value, use '-- {argument}'" else "")
  | valueMissing slot => s!"a value is required for '{slot.shown}' but none was supplied"
  | valueInvalid value slot reason => s!"invalid value '{value}' for '{slot.shown}': {reason}"
  | repeated s => s!"the argument '{s.shown}' cannot be used multiple times"
  | valueUnwanted value s _ =>
    s!"unexpected value '{value}' for '{s.shown}' found; no more were expected"
  | scriptMissing _ =>
    s!"the following required arguments were not provided:\n  {Slot.script.shown}"

/-- The usage line that goes with it, if there is one. -/
def usage : Misuse → Option String
  | unexpected _ _ _ used => some (CommandLine.usageOf used)
  | valueMissing _ => none
  | valueInvalid _ _ _ => none
  | repeated _ => some (CommandLine.usageOf [])
  | valueUnwanted _ _ used => some (CommandLine.usageOf used)
  | scriptMissing used => some (CommandLine.usage (some used))

/-- The text shown for a command line that is not understood. -/
def message (m : Misuse) : String :=
  let usage := match m.usage with
    | some line => s!"\n\n{line}"
    | none => ""
  s!"error: {m.explanation}{usage}\n\nFor more information, try '--help'.\n"

end Misuse

/-! ### Values -/

namespace CommandLine

/-- The largest count. -/
def maxCount : Int := 4294967295

/-- Reads the digits of a number with a bound on its size. -/
def readDigits (bound : Nat) (overflow : String) : List Char → Nat → Except String Nat
  | [], n => .ok n
  | c :: rest, n =>
    if !Decimal.isDigit c then .error "invalid digit found in string"
    else
      let n := 10 * n + (c.toNat - 48)
      if bound < n then .error overflow else readDigits bound overflow rest n

/-- Reads an integer of 64 bits. -/
def readInteger (text : String) : Except String Int :=
  match text.toList with
  | [] => .error "cannot parse integer from empty string"
  | cs =>
    let (negative, digits) := Decimal.takeSign cs
    if digits.isEmpty then .error "invalid digit found in string"
    else if negative then
      (readDigits (2 ^ 63) "number too small to fit in target type" digits 0).map
        fun n => -(n : Int)
    else
      (readDigits (2 ^ 63 - 1) "number too large to fit in target type" digits 0).map (↑·)

/-- Reads a count. -/
def readCount (text : String) : Except String Nat :=
  match readInteger text with
  | .error reason => .error reason
  | .ok n =>
    if 0 ≤ n ∧ n ≤ maxCount then .ok n.toNat else .error s!"{n} is not in 0..={maxCount}"

/-- Reads a rate. -/
def readRate (text : String) : Except String Binary :=
  if text = "" then .error "cannot parse float from empty string"
  else
    match Decimal.read .single text with
    | some rate => .ok rate
    | none => .error "invalid float literal"

/-- How much two texts resemble each other, from 0 to 1: the share of characters that occur in both at
about the same place, and of those that do so in order. -/
def similarity (a b : List Char) : Float :=
  let reach := max a.length b.length / 2 - 1
  let (matched, taken) := a.zipIdx.foldl
    (fun ((matched, taken) : List Char × List Nat) (c, i) =>
      let near := b.zipIdx.find? fun (d, j) =>
        decide (i - reach ≤ j ∧ j ≤ i + reach) && c == d && !taken.contains j
      match near with
      | some (_, j) => (matched ++ [c], j :: taken)
      | none => (matched, taken)) ([], [])
  let other := (b.zipIdx.filter fun (_, j) => taken.contains j).map (·.1)
  let moved := ((matched.zip other).filter fun (c, d) => c ≠ d).length / 2
  let m := matched.length
  if m = 0 then 0
  else (m.toFloat / a.length.toFloat + m.toFloat / b.length.toFloat
    + (m - moved).toFloat / m.toFloat) / 3

/-- The option whose name resembles a text most, if any does. -/
def similar? (name : String) : Option Switch :=
  (Switch.all.foldl (fun (best : Option (Switch × Float)) s =>
    let score := similarity name.toList s.long.toList
    match best with
    | none => if 0.7 < score then some (s, score) else none
    | some (_, least) => if least ≤ score then some (s, score) else best) none).map (·.1)

/-! ### Reading -/

/-- A value that has been given but not looked at. -/
structure PendingValue where
  slot : Slot
  value : Option String
deriving Inhabited

/-- A command line that is being read. -/
structure Reading where
  invocation : Invocation := {}
  /-- The options that have been looked at. -/
  used : List Switch := []
  hasScript : Bool := false
  pending : Option PendingValue := none
  /-- Whether the next argument belongs to the pending option. -/
  expectsValue : Bool := false
  /-- Whether a positional value has been given. -/
  positional : Bool := false
  /-- Whether `--` has been given. -/
  trailing : Bool := false
deriving Inhabited

/-- The state behind an argument, or the reason to stop. -/
abbrev Read := Except ReadingStop Reading

/-- Stops at a misuse. -/
def misuse (cause : Misuse) : Read := .error (.misuse cause)

/-- Takes a value over, or stops at it. -/
def accept (slot : Slot) (text : String) (r : Reading)
    (result : Except String α) (store : Invocation → α → Invocation) : Read :=
  match result with
  | .ok a => .ok { r with invocation := store r.invocation a }
  | .error reason => misuse (.valueInvalid text slot reason)

/-- Takes a path over; an empty one is none. -/
def acceptPath (slot : Slot) (text : String) (r : Reading)
    (store : Invocation → Path → Invocation) : Read :=
  if text = "" then misuse (.valueMissing slot)
  else .ok { r with invocation := store r.invocation ⟨text⟩ }

/-- Takes the value of an option over. -/
def store (s : Switch) (text : String) (r : Reading) : Read :=
  match s with
  | .searchDirectory => acceptPath (.option s) text r fun i p =>
      { i with searchDirectories := i.searchDirectories ++ [p] }
  | .config => acceptPath (.option s) text r fun i p => { i with config := some p }
  | .width => accept (.option s) text r (readCount text) fun i n => { i with width := some n }
  | .height => accept (.option s) text r (readCount text) fun i n => { i with height := some n }
  | .fps => accept (.option s) text r (readRate text) fun i x => { i with fps := some x }
  | .watchInterval => accept (.option s) text r (readCount text) fun i n =>
      { i with watchInterval := some n }
  | _ => .ok r

/-- Looks at an option with its value. All but one may be given only once. -/
def setOption (s : Switch) (value : Option String) (r : Reading) : Read :=
  match value with
  | none => misuse (.valueMissing (.option s))
  | some text =>
    if s = .searchDirectory then
      store s text { r with used := if r.used.contains s then r.used else r.used ++ [s] }
    else if r.used.contains s then misuse (.repeated s)
    else store s text { r with used := r.used ++ [s] }

/-- Looks at the pending value. -/
def resolve (r : Reading) : Read :=
  match r.pending with
  | none => .ok r
  | some p =>
    let r := { r with pending := none }
    match p.slot with
    | .option s => setOption s p.value r
    | .script =>
      acceptPath .script (p.value.getD "") { r with hasScript := true } fun i path =>
        { i with script := path }

/-- Does what an option without a value asks for. -/
def switchOn (s : Switch) (r : Reading) : Read :=
  match resolve r with
  | .error stop => .error stop
  | .ok r =>
    match s with
    | .help => .error .help
    | .version => .error .version
    | _ =>
      if r.used.contains s then misuse (.repeated s)
      else
        .ok { r with
          used := r.used ++ [s]
          invocation := match s with
            | .verbose => { r.invocation with verbose := true }
            | .noDefaultPath => { r.invocation with noDefaultPath := true }
            | _ => r.invocation }

/-- Reads an option that takes a value, which may be attached to it. -/
def readOption (s : Switch) (attached : Option String) (r : Reading) : Read :=
  match resolve r with
  | .error stop => .error stop
  | .ok r =>
    match attached with
    | some text => setOption s (some text) { r with expectsValue := false }
    | none => .ok { r with pending := some ⟨.option s, none⟩, expectsValue := true }

/-- Reads an argument with two dashes: the name, and the value behind an equals sign. -/
def readLong (name : String) (value : Option String) (r : Reading) : Read :=
  match Switch.ofLong? name with
  | some s =>
    if s.takesValue then readOption s value r
    else
      match value with
      | some text => misuse (.valueUnwanted text s (r.used ++ [s]))
      | none => (switchOn s r).map fun r => { r with expectsValue := false }
  | none =>
    let suggestion := similar? name
    misuse (.unexpected ("--" ++ name) suggestion suggestion.isNone
      (r.used ++ suggestion.toList))

/-- The value attached to a letter: what follows it, without an equals sign. -/
def attachedValue : List Char → Option String
  | [] => none
  | '=' :: rest => some (String.ofList rest)
  | rest => some (String.ofList rest)

/-- Reads the letters behind one dash. -/
def readShort : List Char → Reading → Read
  | [], r => .ok { r with expectsValue := false }
  | letter :: rest, r =>
    match Switch.ofShort? letter with
    | none => misuse (.unexpected (String.ofList ['-', letter]) none true [])
    | some s =>
      if s.takesValue then readOption s (attachedValue rest) r
      else
        match switchOn s r with
        | .error stop => .error stop
        | .ok r => readShort rest r

/-- Reads a positional value. -/
def readPositional (argument : String) (r : Reading) : Read :=
  if r.positional then
    let looksLikeOption := decide (1 < argument.length) && argument.toList.head? == some '-'
    misuse (.unexpected argument none (!r.trailing && looksLikeOption) [])
  else
    (resolve r).map fun r =>
      { r with pending := some ⟨.script, some argument⟩, positional := true, expectsValue := false }

/-- The name and the value of a long option. -/
def splitEquals (cs : List Char) : String × Option String :=
  let name := cs.takeWhile (· ≠ '=')
  (String.ofList name, match cs.drop name.length with
    | _ :: value => some (String.ofList value)
    | [] => none)

/-- Reads one argument. -/
def readArgument (r : Reading) (argument : String) : Read :=
  if r.trailing then readPositional argument r
  else
    match argument.toList with
    | ['-', '-'] => .ok { r with trailing := true }
    | '-' :: '-' :: rest =>
      let (name, value) := splitEquals rest
      readLong name value r
    | '-' :: letter :: rest => readShort (letter :: rest) r
    | _ =>
      match r.expectsValue, r.pending with
      | true, some p => .ok { r with
          pending := some { p with value := some argument }, expectsValue := false }
      | _, _ => readPositional argument r

/-- Reads a command line. -/
def read (arguments : List String) : Except ReadingStop Invocation :=
  match arguments.foldlM readArgument ({} : Reading) with
  | .error stop => .error stop
  | .ok r =>
    match resolve r with
    | .error stop => .error stop
    | .ok r =>
      if r.hasScript then .ok r.invocation else .error (.misuse (.scriptMissing r.used))

end CommandLine

end LiveSketch
