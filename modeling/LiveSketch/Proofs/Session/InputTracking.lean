import LiveSketch.Proofs.Session.Deliveries
import LiveSketch.Script.Engine
import LiveSketch.Script.SketchLanguage

/-!
# Input is tracked independently of the script

Where the pointer is, which button it was used with, and what is held down: a session keeps track of
this from the input it gets, and of nothing else. The script may fail, be replaced or not run at
all, and an event that reaches no entry point is tracked like any other. So two sessions with the
same input agree on it, however much they differ.

## The record

What is tracked is a function of the input so far, and it can be read off without following the run:
the position is the last that an event reported, the button is the last that was pressed or dragged,
and something is held if the last that happened to it was a press. Each part looks at its own
events, which is why press, drag, move and release change different parts.

## Main definitions

* `Pointer.recorded`, `InputEvent.heldKey` — what is read off the input.
* `Session.Tracks` — a session has the record of some events.

## Main results

* `Session.play_tracks` — a run tracks its input.
* `Session.input_tracked` — so two runs with the same input agree, and what they deliver from it.
-/

namespace LiveSketch

/-! ### Reading the input -/

namespace InputEvent

/-- Where the pointer is, if the event is about the pointer. -/
def position? : InputEvent → Option (Int × Int)
  | mouseMoved x y => some (x, y)
  | mouseDragged x y _ => some (x, y)
  | mousePressed x y _ => some (x, y)
  | mouseReleased x y _ => some (x, y)
  | keyPressed _ | keyReleased _ | windowResized _ _ => none

/-- The button that is used. One that is released is not. -/
def button? : InputEvent → Option MouseButton
  | mouseDragged _ _ button => some button
  | mousePressed _ _ button => some button
  | mouseMoved _ _ | mouseReleased _ _ _ | keyPressed _ | keyReleased _ | windowResized _ _ => none

/-- Whether a button is held from now on. -/
def holdsButton? : InputEvent → Option Bool
  | mousePressed _ _ _ => some true
  | mouseReleased _ _ _ => some false
  | mouseMoved _ _ | mouseDragged _ _ _ | keyPressed _ | keyReleased _ | windowResized _ _ => none

/-- Whether a key is held from now on. -/
def holdsKey? : InputEvent → Option Bool
  | keyPressed _ => some true
  | keyReleased _ => some false
  | mouseMoved _ _ | mouseDragged _ _ _ | mousePressed _ _ _ | mouseReleased _ _ _
  | windowResized _ _ => none

/-- What the last event that has a reading reads. -/
def latest {α : Type} (reading : InputEvent → Option α) (events : List InputEvent) : Option α :=
  (events.filterMap reading).getLast?

/-- Whether a key is held after some events. -/
def heldKey (events : List InputEvent) : Bool := (latest holdsKey? events).getD false

@[simp] theorem latest_concat {α : Type} (reading : InputEvent → Option α)
    (events : List InputEvent) (event : InputEvent) :
    latest reading (events ++ [event]) = (reading event).or (latest reading events) := by
  unfold latest
  cases hs : reading event <;> simp [List.filterMap_append, hs]

end InputEvent

open InputEvent

/-- The pointer after some events. -/
def Pointer.recorded (events : List InputEvent) : Pointer where
  x := ((latest position? events).getD (0, 0)).1
  y := ((latest position? events).getD (0, 0)).2
  button := latest button? events
  held := (latest holdsButton? events).getD false

/-- The input of a run, in order. -/
def Operation.inputs (ops : List Operation) : List InputEvent := ops.filterMap Operation.input?

/-- A button is held only after a press, which has it on record. -/
theorem Pointer.exists_button_of_held {events : List InputEvent}
    (h : (Pointer.recorded events).held = true) :
    ∃ button, (Pointer.recorded events).button = some button := by
  have hlast : latest holdsButton? events = some true := by
    cases hl : latest holdsButton? events with
    | none => simp [recorded, hl] at h
    | some held =>
      simp only [recorded, hl, Option.getD_some] at h
      rw [h]
  obtain ⟨event, hmem, hpress⟩ := List.mem_filterMap.mp (List.mem_of_getLast? hlast)
  have hused : ∃ button, event.button? = some button := by
    cases event with
    | mousePressed x y button => exact ⟨button, rfl⟩
    | _ => cases hpress
  obtain ⟨button, hbutton⟩ := hused
  have hne : events.filterMap button? ≠ [] :=
    List.ne_nil_of_mem (List.mem_filterMap.mpr ⟨event, hmem, hbutton⟩)
  exact ⟨_, List.getLast?_eq_some_getLast hne⟩

/-! ### Tracking -/

namespace Session

variable {σ η : Type} {e : Engine σ η} {s : Session σ η} {events : List InputEvent}

/-- A session has the record of some events. -/
structure Tracks (events : List InputEvent) (s : Session σ η) : Prop where
  keyHeld : s.keyHeld = heldKey events
  pointer : s.pointer = Pointer.recorded events

/-- An event is tracked before it is delivered. -/
theorem Tracks.input (h : Tracks events s) (e : Engine σ η) (event : InputEvent) :
    Tracks (events ++ [event]) (s.input e event) := by
  have htallies := input_tallies e event s
  constructor
  · have hkey := congrArg Tallies.keyHeld htallies
    refine hkey.trans ?_
    cases event <;> simp [InputEvent.record, tallies, h.keyHeld, heldKey, holdsKey?]
  · have hpointer := congrArg Tallies.pointer htallies
    refine hpointer.trans ?_
    cases event <;> simp [InputEvent.record, tallies, h.pointer, Pointer.recorded, position?,
      button?, holdsButton?, Pointer.moveTo, Pointer.dragTo, Pointer.press, Pointer.release]

/-- A step tracks the input that it is, if it is one. -/
theorem Tracks.perform (h : Tracks events s) (e : Engine σ η) (op : Operation) :
    Tracks (events ++ op.input?.toList) (s.perform e op).1 := by
  cases hop : op.input? with
  | none =>
    obtain ⟨hkey, hpointer⟩ := s.perform_told e hop
    rw [Option.toList_none, List.append_nil]
    exact ⟨hkey.trans h.keyHeld, hpointer.trans h.pointer⟩
  | some input =>
    have hevent : op = .event input := by
      cases op with
      | event event => cases event <;> cases hop <;> rfl
      | _ => cases hop
    rw [hevent, Option.toList_some]
    exact h.input e input

/-- **A run tracks its input**, and nothing else. -/
theorem play_tracks (h : Tracks events s) (e : Engine σ η) (ops : List Operation) :
    Tracks (events ++ Operation.inputs ops) (s.play e ops) := by
  induction ops generalizing s events with
  | nil => simpa [Operation.inputs, play] using h
  | cons op rest ih =>
    have hrest := ih (h.perform e op)
    rw [List.append_assoc] at hrest
    have hinputs : op.input?.toList ++ Operation.inputs rest = Operation.inputs (op :: rest) := by
      unfold Operation.inputs
      cases hop : op.input? <;> simp [hop]
    rwa [hinputs] at hrest

theorem tracks_fresh (engine : σ) (settings : Settings) (canvas : Canvas) (files : FileTree) :
    Tracks [] (fresh engine settings canvas files : Session σ η) := ⟨rfl, rfl⟩

/-! ### Runs with the same input -/

/-- **Input is tracked independently of the script.** Take two runs with the same input, whatever
their engines, sketches, settings and files are, and whatever else is asked for in between. They
agree on the pointer and on whether a key is held: both have the record that is read off the input.
No step but input changes it. In each run an event calls nothing unless the sketch is running, and
then its entry point, if there is one, once and with the arguments of the event; which one a key
that goes down is told to depends on the record. A draw that begins and whose phase ends while the
sketch is running tells `mouse_pressed` once, if it is there, with the position and the button on
record, if a button is held. Otherwise it tells nobody, and all its other calls are without
arguments. The ledger changes nothing about the run. -/
theorem input_tracked {σ τ η κ : Type} (e : Engine σ η) (e' : Engine τ κ) (engine : σ)
    (engine' : τ) (settings settings' : Settings) (canvas canvas' : Canvas)
    (files files' : FileTree) (ops ops' : List Operation)
    (hops : Operation.inputs ops = Operation.inputs ops') :
    let s : Session (σ × Ledger η) η :=
      (Session.fresh (engine, []) settings canvas files).play e.audited ops
    let s' : Session τ κ := (Session.fresh engine' settings' canvas' files').play e' ops'
    let keyHeld := heldKey (Operation.inputs ops)
    let pointer := Pointer.recorded (Operation.inputs ops)
    s.plain = (Session.fresh engine settings canvas files).play e ops ∧
      (s.pointer = pointer ∧ s'.pointer = pointer) ∧
      (s.keyHeld = keyHeld ∧ s'.keyHeld = keyHeld) ∧
      (∀ op, op.input? = none → (s.perform e.audited op).1.keyHeld = s.keyHeld ∧
        (s.perform e.audited op).1.pointer = s.pointer) ∧
      (∀ event, ∃ reports : Ledger η, (s.input e.audited event).record = reports ++ s.record ∧
        reports.calls = if s.status = .running then
          ((s.context.entries.get (event.entry keyHeld)).map (·, event.arguments)).toList
        else []) ∧
      let ended := s.drawnPhase e.audited
      let repeats := s.status = .running ∧ ended.status = .running ∧ pointer.held = true
      ∃ before press after : Ledger η,
        (s.draw e.audited).1.record = after ++ (press ++ (before ++ s.record)) ∧
          before.Bare ∧ after.Bare ∧ (¬ repeats → press.calls = []) ∧
          (repeats → ∃ button, pointer.button = some button ∧
            press.calls = ((ended.context.entries.get .mousePressed).map
              (·, pointerArgs pointer.x pointer.y button)).toList) := by
  intro s s' keyHeld pointer
  have hs : Tracks (Operation.inputs ops) s := play_tracks (tracks_fresh _ _ _ _) e.audited ops
  have hs' : Tracks (Operation.inputs ops) s' := by
    rw [hops]
    exact play_tracks (tracks_fresh _ _ _ _) e' ops'
  refine ⟨e.audited_play ops _, ⟨hs.pointer, hs'.pointer⟩, ⟨hs.keyHeld, hs'.keyHeld⟩,
    fun op hop => s.perform_told e.audited hop, fun event => ?_, ?_⟩
  · have hcalls := input_calls e event s
    rwa [hs.keyHeld] at hcalls
  · obtain ⟨before, press, after, hrecord, hbefore, hafter, hpress⟩ := draw_calls e s
    have hended : (s.drawnPhase e.audited).pointer = pointer :=
      (congrArg Tallies.pointer ((phased_tallies e.audited s.tallies).drawnPhase rfl)).trans
        hs.pointer
    refine ⟨before, press, after, hrecord, hbefore, hafter, fun hn => ?_, fun hr => ?_⟩
    · rw [hpress]
      split
      · next hrunning =>
        rw [← hended] at hn
        exact repeatedPress_of_not fun hr => hn ⟨hrunning, hr⟩
      · rfl
    · obtain ⟨hrunning, hstill, hheld⟩ := hr
      obtain ⟨button, hbutton⟩ : ∃ button, pointer.button = some button :=
        Pointer.exists_button_of_held hheld
      refine ⟨button, hbutton, ?_⟩
      rw [← hended] at hheld hbutton
      rw [hpress, if_pos hrunning, repeatedPress_of_held hstill hheld hbutton, hended]

/-- A button goes down and is dragged, in a sketch that wants to know and in a session without a
sketch. The next frame of the sketch tells it about the button, where it is by then. -/
theorem input_tracked_of_drag :
    let files : FileTree := .sketchbook "fn mouse_pressed(x, y, button) \x7b \x7d" 1000 "" 1000
    let e := scriptEngine sketchLanguage
    let input : List Operation :=
      [.event (.mousePressed 1 2 .left), .event (.mouseDragged 3 4 .left)]
    let ops : List Operation := [.install ⟨[⟨"/s"⟩]⟩, .load ⟨"/s/main"⟩, .run] ++ input
    let ops' : List Operation := input ++ [.draw]
    let s : Session (ScriptState sketchLanguage × Ledger ScriptHandle) ScriptHandle :=
      (Session.fresh (.empty {}, []) {} (.blank 1 1) files).play e.audited ops
    let s' : Session (ScriptState sketchLanguage) ScriptHandle :=
      (Session.fresh (.empty {}) {} (.blank 1 1) {}).play e ops'
    s.status = .running ∧ s'.status = .noSketch ∧ s.pointer = s'.pointer ∧
      ∃ before press after : Ledger ScriptHandle,
        (s.draw e.audited).1.record = after ++ (press ++ (before ++ s.record)) ∧
          press.calls = [(.function "mouse_pressed", [.int 3, .int 4, .str "left"])] := by
  intro files e input ops ops'
  have hops : Operation.inputs ops = Operation.inputs ops' := rfl
  have htracked := input_tracked e e (.empty {}) (.empty {}) {} {} (.blank 1 1) (.blank 1 1) files
    {} ops ops' hops
  have hrunning :
      let s : Session (ScriptState sketchLanguage × Ledger ScriptHandle) ScriptHandle :=
        (Session.fresh (.empty {}, []) {} (.blank 1 1) files).play e.audited ops
      let s' : Session (ScriptState sketchLanguage) ScriptHandle :=
        (Session.fresh (.empty {}) {} (.blank 1 1) {}).play e ops'
      s.status = .running ∧ s'.status = .noSketch ∧
        (s.drawnPhase e.audited).status = .running ∧
        (s.drawnPhase e.audited).context.entries.get .mousePressed =
          some (.function "mouse_pressed") := by
    decide +kernel
  -- what the sessions have gone through does not matter from here on
  generalize (Session.fresh (.empty {}, []) {} (.blank 1 1) files).play e.audited ops = s
    at htracked hrunning ⊢
  generalize (Session.fresh (.empty {}) {} (.blank 1 1) {}).play e ops' = s'
    at htracked hrunning ⊢
  obtain ⟨-, ⟨hs, hs'⟩, -, -, -, before, press, after, hrecord, -, -, -, hpress⟩ := htracked
  obtain ⟨hstatus, hother, hended, hentry⟩ := hrunning
  have hheld : (Pointer.recorded (Operation.inputs ops)).held = true := rfl
  obtain ⟨button, hbutton, hcalls⟩ := hpress ⟨hstatus, hended, hheld⟩
  refine ⟨hstatus, hother, hs.trans hs'.symm, before, press, after, hrecord, ?_⟩
  cases hbutton
  rw [hcalls, hentry]
  rfl

end Session

end LiveSketch
