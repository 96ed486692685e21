import LiveSketch.Phase

/-!
# Hooks

Ordered callables wrapped around the entry point of each phase. Plain values pass between the host
and a callable in both directions, and a callable that fails gives the description of an error.

## Main definitions

* `Value`, `Failure` — an argument or a result of a callable, and a raised error.
* `Hooks` — prehooks and posthooks of every phase, in registration order.
* `Hooks.invokePhase` — run a phase: prehooks, preparation, entry point, posthooks.
* `Hooks.invokePosthooks` — run the posthooks of a phase alone.

## Implementation notes

The callables, and the state they act on, are parameters: `call` runs one callable on a state and
says whether it failed. Every failure is returned in the order in which it happened, so the caller
sees exactly what was raised.
-/

namespace LiveSketch

/-- A value passed to or returned from a script callable. -/
inductive Value where
  | unit
  | bool (b : Bool)
  | int (n : Int)
  | float (x : Float)
  | str (s : String)
deriving Inhabited

/-- An error raised by script code. Its own text is the message; the backtrace lists the innermost
frame first. -/
structure Failure where
  className : String
  message : String
  backtrace : List String := []
deriving DecidableEq, Inhabited

/-- Hooks of every phase, in registration order. -/
structure Hooks (η : Type) where
  pre : Phase → List η := fun _ => []
  post : Phase → List η := fun _ => []

namespace Hooks

variable {η τ : Type}

instance : Inhabited (Hooks η) := ⟨{}⟩

/-- No hooks. -/
def empty : Hooks η := {}

/-- Adds a prehook after the ones its phase already has. -/
def addPre (h : Hooks η) (phase : Phase) (hook : η) : Hooks η :=
  { h with pre := fun p => if p = phase then h.pre p ++ [hook] else h.pre p }

/-- Adds a posthook after the ones its phase already has. -/
def addPost (h : Hooks η) (phase : Phase) (hook : η) : Hooks η :=
  { h with post := fun p => if p = phase then h.post p ++ [hook] else h.post p }

/-- The number of hooks of all phases together. -/
def size (h : Hooks η) : Nat :=
  Phase.all.foldl (fun total p => total + (h.pre p).length + (h.post p).length) 0

/-- Whether there are no hooks. -/
def isEmpty (h : Hooks η) : Bool := h.size == 0

/-- How a callable is run on a state. -/
abbrev Caller (η τ : Type) := η → List Value → τ → τ × Except Failure Value

/-- Runs callables without arguments, stopping after the first failure. -/
def runUntilFailure (call : Caller η τ) : List η → τ → τ × List Failure
  | [], t => (t, [])
  | hook :: rest, t =>
    match call hook [] t with
    | (t, .ok _) => runUntilFailure call rest t
    | (t, .error failure) => (t, [failure])

/-- Runs every callable without arguments and collects what they raise. -/
def runEach (call : Caller η τ) : List η → τ → τ × List Failure
  | [], t => (t, [])
  | hook :: rest, t =>
    match call hook [] t with
    | (t, .ok _) => runEach call rest t
    | (t, .error failure) =>
      let (t, failures) := runEach call rest t
      (t, failure :: failures)

/-- Runs the entry point, if there is one. `announce` is told first. -/
def runEntry (call : Caller η τ) (announce : η → τ → τ) (entry : Option η) (args : List Value)
    (t : τ) : τ × List Failure :=
  match entry with
  | none => (t, [])
  | some entry =>
    match call entry args (announce entry t) with
    | (t, .ok _) => (t, [])
    | (t, .error failure) => (t, [failure])

/-- Runs one phase: its prehooks up to the first failure, then `prepare` and the entry point unless
a prehook failed, then its posthooks. Posthooks are skipped after a failure and stop at one, unless
the phase spares them, in which case each one runs and reports on its own. -/
def invokePhase (h : Hooks η) (call : Caller η τ) (announce : η → τ → τ) (prepare : τ → τ)
    (phase : Phase) (entry : Option η) (args : List Value) (t : τ) : τ × List Failure :=
  let (t, raised) := runUntilFailure call (h.pre phase) t
  let (t, raised) :=
    if raised.isEmpty then runEntry call announce entry args (prepare t) else (t, raised)
  if phase.sparesPosthooks then
    let (t, more) := runEach call (h.post phase) t
    (t, raised ++ more)
  else if raised.isEmpty then
    runUntilFailure call (h.post phase) t
  else
    (t, raised)

/-- Runs every posthook of a phase and nothing else. -/
def invokePosthooks (h : Hooks η) (call : Caller η τ) (phase : Phase) (t : τ) :
    τ × List Failure :=
  runEach call (h.post phase) t

end Hooks

end LiveSketch
