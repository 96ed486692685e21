import LiveSketch.Session.Recovery

/-!
# Running phases

Setup, update and exit of a sketch: hooks around an entry point, with the engine told about the
frame before and its drawing applied after.

## Main definitions

* `Session.phase` — hooks and entry point of one phase.
* `Session.setup`, `Session.update`, `Session.exit` — the phases the host asks for.
-/

namespace LiveSketch
namespace Session

variable {σ η : Type}

/-- Notes that a phase's entry point is about to run. -/
def announce (e : Engine σ η) (phase : Phase) (handle : η) (s : Session σ η) : Session σ η :=
  s.note .trace .hooks s!"{phase.name} -> {e.label handle}"

/-- Hooks and entry point of a phase, with `prepare` between prehooks and entry point. -/
def phase (e : Engine σ η) (phase : Phase) (prepare : Session σ η → Session σ η)
    (s : Session σ η) : Session σ η × List Failure :=
  s.context.hooks.invokePhase (call e) (announce e phase) prepare phase
    (s.context.entries.get (.ofPhase phase)) [] s

/-- A whole phase without preparation: the failures put the session into its error state after the
drawing of the phase was applied. -/
def runPhase (e : Engine σ η) (p : Phase) (s : Session σ η) : Session σ η :=
  let (s, failures) := (s.sync e).phase e p id
  (s.flush e).failAll e failures

/-- Runs the setup phase. Once it was asked for, a forced reload that succeeds runs it again, since
the script's state was reset. -/
def setup (e : Engine σ η) (s : Session σ η) : Session σ η :=
  let s := { s with setupDone := true }
  match s.status with
  | .running => s.runPhase e .setup
  | _ => s

/-- Sets the drawing defaults, if there is something that does; a failure is returned. -/
def applyDefaults (e : Engine σ η) (s : Session σ η) : Session σ η × Option Failure :=
  match s.context.entries.get .defaults with
  | none => (s, none)
  | some handle =>
    match s.call e handle [] with
    | (s, .ok _) => (s, none)
    | (s, .error failure) => (s, some failure)

/-- Runs the update phase, drawing defaults first. -/
def update (e : Engine σ η) (s : Session σ η) : Session σ η :=
  match s.status with
  | .running =>
    match (s.sync e).applyDefaults e with
    | (s, some failure) => s.fail e failure
    | (s, none) => s.runPhase e .update
  | _ => s

/-- Runs the exit phase if the sketch is running; its posthooks run in any case. -/
def exit (e : Engine σ η) (s : Session σ η) : Session σ η :=
  let s := s.sync e
  let (s, failures) := match s.status with
    | .running => s.phase e .exit id
    | _ => s.context.hooks.invokePosthooks (call e) .exit s
  (s.flush e).failAll e failures

end Session

end LiveSketch
