import LiveSketch.Proofs.Session.Reloads

/-!
# What a session counts and what it was told

Three fields of a session are facts about the frame that scripts can ask for and cannot change: how
many frames were drawn, whether a key is down, and where the pointer is. Together they are the
tallies of a session.

The building blocks of phases and reloads leave the tallies alone, whatever the engine does in them.
So a step changes them in one of two ways. A draw counts its frame, if the sketch was running when
it began, and an event is recorded before anything is done about it.

## Main definitions

* `Tallies`, `Session.tallies` — the three fields.
* `InputEvent.record` — what an event makes of them.
* `Operation.tally` — what a step makes of them.

## Main results

* `Session.perform_tallies` — every step does just that.
-/

namespace LiveSketch

/-- What a session counts, and what the host told it. -/
structure Tallies where
  frameCount : UInt64
  keyHeld : Bool
  pointer : Pointer

/-- An event is recorded. -/
def InputEvent.record (event : InputEvent) (tallies : Tallies) : Tallies :=
  match event with
  | .keyPressed _ => { tallies with keyHeld := true }
  | .keyReleased _ => { tallies with keyHeld := false }
  | .mouseMoved x y => { tallies with pointer := tallies.pointer.moveTo x y }
  | .mouseDragged x y button => { tallies with pointer := tallies.pointer.dragTo x y button }
  | .mousePressed x y button => { tallies with pointer := tallies.pointer.press x y button }
  | .mouseReleased x y _ => { tallies with pointer := tallies.pointer.release x y }
  | .windowResized _ _ => tallies

/-- Events are recorded in any state, and frames are counted while the sketch is running. -/
def Operation.tally (op : Operation) (status : Status) (tallies : Tallies) : Tallies :=
  match op, status with
  | .event input, _ => input.record tallies
  | .draw, .running => { tallies with frameCount := tallies.frameCount + 1 }
  | _, _ => tallies

/-- The input that a step is. A new size of the window is an event and no input. -/
def Operation.input? : Operation → Option InputEvent
  | .event (.windowResized _ _) => none
  | .event input => some input
  | _ => none

namespace Session

variable {σ η : Type} {e : Engine σ η} {s : Session σ η}

/-- What a session counted so far, and what it was told last. -/
def tallies (s : Session σ η) : Tallies := ⟨s.frameCount, s.keyHeld, s.pointer⟩

/-- Phases leave the tallies alone. -/
theorem phased_tallies (e : Engine σ η) (tallies : Tallies) :
    Phased e fun s => s.tallies = tallies where
  note _ _ _ _ h := h
  sync _ h := h
  call _ _ _ h := h
  flush _ h := h
  fail s failure h := by
    rw [fail_eq]
    exact h
  canvas _ _ h := h
  setupDone _ h := h

/-- Reloads leave the tallies alone. -/
theorem reloaded_tallies (e : Engine σ η) (tallies : Tallies) :
    Reloaded e fun s => s.tallies = tallies where
  note _ _ _ _ h := h
  report _ _ _ h := h
  setup _ h := (phased_tallies e tallies).setup h
  fail := (phased_tallies e tallies).fail
  evaluate s source path forced h := by
    rw [evaluate_eq, adopt_eq]
    exact h
  loadDependency _ _ h := h
  enterError _ _ _ h := h
  status _ _ _ h := h
  lastGoodFrame _ _ h := h

/-- An event is recorded, whatever comes of it. -/
theorem input_tallies (e : Engine σ η) (event : InputEvent) (s : Session σ η) :
    (s.input e event).tallies = event.record s.tallies := by
  rw [input_eq]
  refine (phased_tallies e _).deliver _ _ ?_
  cases event <;> rfl

/-- A frame is counted if the sketch was running, whatever failed in it. -/
theorem frame_tallies (e : Engine σ η) (s : Session σ η) :
    (s.frame e).tallies = Operation.draw.tally s.status s.tallies := by
  rw [frame]
  cases hs : s.status with
  | error => exact (phased_tallies e _).drawError rfl
  | noSketch => rfl
  | running =>
    have hphase : (s.drawnPhase e).tallies = s.tallies := (phased_tallies e _).drawnPhase rfl
    show (s.drawRunning e).tallies = { s.tallies with frameCount := s.tallies.frameCount + 1 }
    rw [drawRunning_eq, ← hphase]
    exact (phased_tallies e _).continuePress rfl

/-- The poll after a frame changes no tally. -/
theorem draw_tallies (e : Engine σ η) (s : Session σ η) :
    (s.draw e).1.tallies = Operation.draw.tally s.status s.tallies :=
  (reloaded_tallies e _).poll (fun _ _ _ h => h) (frame_tallies e s)

/-- **What every step does to the tallies.** -/
theorem perform_tallies (e : Engine σ η) (op : Operation) (s : Session σ η) :
    (s.perform e op).1.tallies = op.tally s.status s.tallies := by
  cases op with
  | install loadPath =>
    rw [perform, installPath]
    split <;> rfl
  | load path =>
    rw [perform, load]
    split <;> rfl
  | run => exact (reloaded_tallies e _).run rfl
  | setup => exact (phased_tallies e _).setup rfl
  | update => exact (phased_tallies e _).update rfl
  | draw => exact draw_tallies e s
  | exit => exact (phased_tallies e _).exit rfl
  | reload forced => exact (reloaded_tallies e _).reload forced rfl
  | reloadFrom path forced => exact (reloaded_tallies e _).reloadFrom path forced rfl
  | event event => exact input_tallies e event s
  | edit _ | present _ | drain _ => rfl

/-- What is held and where the pointer is, is up to input alone. -/
theorem perform_told (e : Engine σ η) {op : Operation} (hop : op.input? = none)
    (s : Session σ η) :
    (s.perform e op).1.keyHeld = s.keyHeld ∧ (s.perform e op).1.pointer = s.pointer := by
  have hstep := perform_tallies e op s
  have htold : (op.tally s.status s.tallies).keyHeld = s.keyHeld ∧
      (op.tally s.status s.tallies).pointer = s.pointer := by
    cases op with
    | event event =>
      cases event with
      | windowResized _ _ => exact ⟨rfl, rfl⟩
      | _ => cases hop
    | draw => cases s.status <;> exact ⟨rfl, rfl⟩
    | _ => exact ⟨rfl, rfl⟩
  rwa [← hstep] at htold

end Session

end LiveSketch
