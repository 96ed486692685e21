import LiveSketch.Proofs.Session.Operations

/-!
# Which phases a session runs

A session remembers that setup was asked for. It does not remember whether the setup phase ran, how
it ended, or whether the script's state was reset after it. This is listed here, in the order in
which it happens: every reset that an evaluation asks the engine for, and every phase that is run,
with whether one of its hooks or its entry point failed.

## How the list is made

For each operation that resets or runs a phase there is a function with the same structure, which
adds to a list and lets the operation itself compute every state on the way. A phase is one entry
even if nothing in it can be called. The posthooks of an exit outside of the running state are not a
phase.

## Main definitions

* `Milestone`, `Journal` — resets and phases, and lists of them, newest first.
* `Journal.setUp` — whether the script that runs now was set up.
* `Session.journalPerform`, `Session.journal` — what a step adds, and a run.
-/

namespace LiveSketch

/-- A reset of the script's state, or a phase that was run. -/
inductive Milestone where
  /-- A source text is about to be evaluated in an empty session. -/
  | reset
  /-- A phase was run; it was clean if nothing in it failed. -/
  | phase (phase : Phase) (clean : Bool)
deriving DecidableEq

/-- Resets and phases, newest first. -/
abbrev Journal := List Milestone

/-- Whether a setup phase was run without a failure since the last reset. -/
def Journal.setUp : Journal → Bool
  | [] => false
  | .reset :: _ => false
  | .phase .setup true :: _ => true
  | _ :: journal => setUp journal

namespace Session

variable {σ η : Type}

/-! ### Phases -/

def journalRunPhase (e : Engine σ η) (p : Phase) (s : Session σ η) (journal : Journal) : Journal :=
  .phase p ((s.sync e).phase e p id).2.isEmpty :: journal

def journalSetup (e : Engine σ η) (s : Session σ η) (journal : Journal) : Journal :=
  let s := { s with setupDone := true }
  match s.status with
  | .running => s.journalRunPhase e .setup journal
  | _ => journal

/-- The update phase is run unless the drawing defaults fail before it. -/
def journalUpdate (e : Engine σ η) (s : Session σ η) (journal : Journal) : Journal :=
  match s.status with
  | .running =>
    match (s.sync e).applyDefaults e with
    | (_, some _) => journal
    | (s, none) => s.journalRunPhase e .update journal
  | _ => journal

def journalExit (e : Engine σ η) (s : Session σ η) (journal : Journal) : Journal :=
  match s.status with
  | .running => .phase .exit ((s.sync e).phase e .exit id).2.isEmpty :: journal
  | _ => journal

def journalFrame (e : Engine σ η) (s : Session σ η) (journal : Journal) : Journal :=
  match s.status with
  | .running => .phase .draw ((s.sync e).phase e .draw (prepareFrame e)).2.isEmpty :: journal
  | _ => journal

/-! ### Reloads -/

/-- What is not text is not evaluated, so there is no reset either. -/
def journalEvaluate (path : Path) (bytes : List UInt8) (forced : Bool) (journal : Journal) :
    Journal :=
  match decodeSource path bytes with
  | .ok _ => if forced then .reset :: journal else journal
  | .error _ => journal

def journalSucceed (e : Engine σ η) (forced : Bool) (s : Session σ η) (journal : Journal) :
    Journal :=
  if forced && s.recovered.setupDone then s.recovered.journalSetup e journal else journal

def journalReloadFrom (e : Engine σ η) (path : Path) (forced : Bool) (s : Session σ η)
    (journal : Journal) : Journal :=
  if s.status = .noSketch then journal
  else
    let forced := forced || s.status = .error
    let s := s.keepFrame
    match s.files.read path with
    | .error _ => journal
    | .ok bytes =>
      let journal := journalEvaluate path bytes forced journal
      match s.evaluateBytes e path bytes forced with
      | (s, .ok ()) => s.journalSucceed e forced journal
      | (_, .error _) => journal

def journalReload (e : Engine σ η) (forced : Bool) (s : Session σ η) (journal : Journal) :
    Journal :=
  match s.script with
  | none => journal
  | some path => s.journalReloadFrom e path forced journal

def journalRun (e : Engine σ η) (s : Session σ η) (journal : Journal) : Journal :=
  match s.script with
  | none => journal
  | some _ => s.started.journalReload e false journal

def journalApplyChange (e : Engine σ η) (change : WatchChange) (s : Session σ η)
    (journal : Journal) : Journal :=
  let s := s.announceChange change
  let s := if change.index = 0 then s else s.reloadChanged e change.path
  s.journalReload e false journal

def journalApplyChanges (e : Engine σ η) : List WatchChange → Session σ η → Journal → Journal
  | [], _, journal => journal
  | change :: rest, s, journal =>
    let journal := s.journalApplyChange e change journal
    match s.applyChange e change with
    | (s, none) => journalApplyChanges e rest s journal
    | (_, some _) => journal

def journalCheckWatched (e : Engine σ η) (s : Session σ η) (journal : Journal) : Journal :=
  match s.watcher.poll s.files with
  | (_, .error _) => journal
  | (watcher, .ok changes) => { s with watcher }.journalApplyChanges e changes journal

/-! ### Runs -/

def journalDraw (e : Engine σ η) (s : Session σ η) (journal : Journal) : Journal :=
  let journal := s.journalFrame e journal
  let s := s.frame e
  let (watcher, due) := s.watcher.tick
  let s := { s with watcher }
  if due then s.journalCheckWatched e journal else journal

/-- The journal after a step. -/
def journalPerform (e : Engine σ η) (op : Operation) (s : Session σ η) (journal : Journal) :
    Journal :=
  match op with
  | .run => s.journalRun e journal
  | .setup => s.journalSetup e journal
  | .update => s.journalUpdate e journal
  | .draw => s.journalDraw e journal
  | .exit => s.journalExit e journal
  | .reload forced => s.journalReload e forced journal
  | .reloadFrom path forced => s.journalReloadFrom e path forced journal
  | .install _ | .load _ | .event _ | .edit _ | .present _ | .drain _ => journal

/-- The journal after a run, given the journal before. -/
def journal (e : Engine σ η) : List Operation → Session σ η → Journal → Journal
  | [], _, journal => journal
  | op :: rest, s, journal =>
    Session.journal e rest (s.perform e op).1 (s.journalPerform e op journal)

end Session

end LiveSketch
