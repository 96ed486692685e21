import LiveSketch.Proofs.Session.Operations

/-!
# What happens on screen

The events of a run that decide what a copy of the screen shows: overlays, frames that were drawn
without a failure, recoveries, and the copies themselves. A session keeps copies of the screen but
not the moments at which they were taken, so they are listed here.

## How the list is made

For each operation that can change the list there is a function with the same structure, which
adds events to a list and lets the operation itself compute every state on the way. Events are added
at the front, so the events before a copy are those behind it in the list.

## Main definitions

* `ScreenEvent`, `Film` — events, and lists of them, newest first.
* `Film.overlaid`, `Film.healed` — whether there was an overlay, or a recovery after one, since the
  last good frame.
* `Session.filmPerform`, `Session.film` — the events of a step, and of a run.
-/

namespace LiveSketch

/-- Something that happened on screen. -/
inductive ScreenEvent where
  /-- The error overlay was painted. -/
  | overlaid
  /-- The draw phase of a running sketch ended without a failure. -/
  | drawn
  /-- The session went from its error state to running. -/
  | recovered
  /-- The screen was copied as the last good frame, by a reload. -/
  | kept (image : Image)
  /-- The screen was copied as the backdrop of a failure. -/
  | frozen (image : Image)
deriving DecidableEq

/-- What happened on screen, newest first. -/
abbrev Film := List ScreenEvent

namespace Film

/-- Whether the overlay was painted since the last frame that was drawn without a failure. -/
def overlaid : Film → Bool
  | [] => false
  | .overlaid :: _ => true
  | .drawn :: _ => false
  | _ :: film => overlaid film

/-- Whether the session recovered since the last frame that was drawn without a failure, with the
overlay painted before. -/
def healed : Film → Bool
  | [] => false
  | .recovered :: film => overlaid film
  | .drawn :: _ => false
  | _ :: film => healed film

/-- The copy that the last reload made. -/
def lastKept : Film → Option Image
  | [] => none
  | .kept image :: _ => some image
  | _ :: film => lastKept film

/-- The last copy. -/
def lastCopy : Film → Option Image
  | [] => none
  | .kept image :: _ => some image
  | .frozen image :: _ => some image
  | _ :: film => lastCopy film

end Film

namespace Session

variable {σ η : Type}

/-! ### Failures and phases -/

/-- A failure freezes the screen of a running sketch. -/
def filmFail (s : Session σ η) (film : Film) : Film :=
  match s.status with
  | .running => .frozen s.canvas.captureFrame :: film
  | _ => film

def filmFailAll (e : Engine σ η) : List Failure → Session σ η → Film → Film
  | [], _, film => film
  | failure :: rest, s, film => filmFailAll e rest (s.fail e failure) (s.filmFail film)

def filmRunPhase (e : Engine σ η) (p : Phase) (s : Session σ η) (film : Film) : Film :=
  let (s, failures) := (s.sync e).phase e p id
  (s.flush e).filmFailAll e failures film

def filmSetup (e : Engine σ η) (s : Session σ η) (film : Film) : Film :=
  let s := { s with setupDone := true }
  match s.status with
  | .running => s.filmRunPhase e .setup film
  | _ => film

def filmUpdate (e : Engine σ η) (s : Session σ η) (film : Film) : Film :=
  match s.status with
  | .running =>
    match (s.sync e).applyDefaults e with
    | (s, some _) => s.filmFail film
    | (s, none) => s.filmRunPhase e .update film
  | _ => film

def filmExit (e : Engine σ η) (s : Session σ η) (film : Film) : Film :=
  let s := s.sync e
  let (s, failures) := match s.status with
    | .running => s.phase e .exit id
    | _ => s.context.hooks.invokePosthooks (call e) .exit s
  (s.flush e).filmFailAll e failures film

/-! ### Events -/

def filmDeliver (e : Engine σ η) (entry : Entry) (args : List Value) (s : Session σ η)
    (film : Film) : Film :=
  match s.status, s.context.entries.get entry with
  | .running, some handle =>
    let s := s.note .trace .input s!"event -> {e.label handle}"
    let (s, result) := (s.sync e).call e handle args
    let s := s.flush e
    match result with
    | .ok _ => film
    | .error _ => s.filmFail film
  | _, _ => film

def filmInput (e : Engine σ η) (event : InputEvent) (s : Session σ η) (film : Film) : Film :=
  let (s, entry, args) := s.delivery event
  s.filmDeliver e entry args film

/-! ### Frames -/

/-- A frame in error paints the overlay, if there is a snapshot. -/
def filmDrawError (s : Session σ η) (film : Film) : Film :=
  match s.error with
  | some _ => .overlaid :: film
  | none => film

def filmContinuePress (e : Engine σ η) (s : Session σ η) (film : Film) : Film :=
  match s.status, s.pointer.continuedPress with
  | .running, some (x, y, button) => s.filmDeliver e .mousePressed (pointerArgs x y button) film
  | _, _ => film

/-- A frame is good if its draw phase ends without a failure. A press that is delivered once more
comes after that. -/
def filmDrawRunning (e : Engine σ η) (s : Session σ η) (film : Film) : Film :=
  let (s, failures) := (s.sync e).phase e .draw (prepareFrame e)
  let film := s.filmFailAll e failures film
  let film := if failures.isEmpty then .drawn :: film else film
  let s := (s.failAll e failures).flush e
  { s with frameCount := s.frameCount + 1 }.filmContinuePress e film

def filmFrame (e : Engine σ η) (s : Session σ η) (film : Film) : Film :=
  match s.status with
  | .error => s.filmDrawError film
  | .running => s.filmDrawRunning e film
  | .noSketch => film

/-! ### Reloads -/

/-- A reload of a running sketch keeps the screen. -/
def filmKeepFrame (s : Session σ η) (film : Film) : Film :=
  match s.status with
  | .running => .kept s.canvas.captureFrame :: film
  | _ => film

def filmSucceed (e : Engine σ η) (forced : Bool) (s : Session σ η) (film : Film) : Film :=
  let film := match s.status with
    | .error => .recovered :: film
    | _ => film
  if forced && s.recovered.setupDone then s.recovered.filmSetup e film else film

def filmReloadFrom (e : Engine σ η) (path : Path) (forced : Bool) (s : Session σ η)
    (film : Film) : Film :=
  if s.status = .noSketch then film
  else
    let forced := forced || s.status = .error
    let film := s.filmKeepFrame film
    let s := s.keepFrame
    match s.files.read path with
    | .error _ => film
    | .ok bytes =>
      match s.evaluateBytes e path bytes forced with
      | (s, .ok ()) => s.filmSucceed e forced film
      | (_, .error _) => film

def filmReload (e : Engine σ η) (forced : Bool) (s : Session σ η) (film : Film) : Film :=
  match s.script with
  | none => film
  | some path => s.filmReloadFrom e path forced film

def filmRun (e : Engine σ η) (s : Session σ η) (film : Film) : Film :=
  match s.script with
  | none => film
  | some _ => s.started.filmReload e false film

def filmReloadChanged (e : Engine σ η) (path : Path) (s : Session σ η) (film : Film) : Film :=
  match e.loadDependency path s.files s.stage s.context with
  | (_, _, .ok ()) => film
  | (stage, context, .error _) => { s with stage, context }.filmFail film

def filmApplyChange (e : Engine σ η) (change : WatchChange) (s : Session σ η) (film : Film) : Film :=
  let s := s.announceChange change
  if change.index = 0 then s.filmReload e false film
  else
    (s.reloadChanged e change.path).filmReload e false (s.filmReloadChanged e change.path film)

def filmApplyChanges (e : Engine σ η) : List WatchChange → Session σ η → Film → Film
  | [], _, film => film
  | change :: rest, s, film =>
    let film := s.filmApplyChange e change film
    match s.applyChange e change with
    | (s, none) => filmApplyChanges e rest s film
    | (_, some _) => film

def filmCheckWatched (e : Engine σ η) (s : Session σ η) (film : Film) : Film :=
  match s.watcher.poll s.files with
  | (_, .error _) => film
  | (watcher, .ok changes) => { s with watcher }.filmApplyChanges e changes film

/-! ### Runs -/

def filmDraw (e : Engine σ η) (s : Session σ η) (film : Film) : Film :=
  let film := s.filmFrame e film
  let s := s.frame e
  let (watcher, due) := s.watcher.tick
  let s := { s with watcher }
  if due then s.filmCheckWatched e film else film

/-- What a step adds to what happened on screen. -/
def filmPerform (e : Engine σ η) (op : Operation) (s : Session σ η) (film : Film) : Film :=
  match op with
  | .run => s.filmRun e film
  | .setup => s.filmSetup e film
  | .update => s.filmUpdate e film
  | .draw => s.filmDraw e film
  | .exit => s.filmExit e film
  | .reload forced => s.filmReload e forced film
  | .reloadFrom path forced => s.filmReloadFrom e path forced film
  | .event event => s.filmInput e event film
  | .install _ | .load _ | .edit _ | .present _ | .drain _ => film

/-- What happened on screen after a run, given what happened before. -/
def film (e : Engine σ η) : List Operation → Session σ η → Film → Film
  | [], _, film => film
  | op :: rest, s, film => Session.film e rest (s.perform e op).1 (s.filmPerform e op film)

end Session

end LiveSketch
