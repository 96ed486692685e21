import LiveSketch.Host
import LiveSketch.Proofs.Console
import LiveSketch.Proofs.Session.Tallies
import LiveSketch.Script.Engine
import LiveSketch.Script.SketchLanguage

/-!
# The host and its session agree on the pointer

The host keeps its own copy of the pointer: where the cursor is, and the number of the button that
is held. It decides with it whether a movement is a drag, and of which button. The session keeps
another copy, which scripts see. Both are written on every event, each by code of its own, and a
number that is not one of a button would stop the program.

## Why they agree

The session records an event before anything can fail, and nothing else changes its record. So of a
window event only the two entries count, and they are made from the same position and the same
button. A frame, a start or a new size makes no entry on either side. The host's number of a button
always comes from a button that sketches understand, so looking it up gives that button again.

## Main definitions

* `HostEvent`, `Host.serve`, `Host.serveAll` — what can happen to a host, and runs of it.
* `HostEvent.Ignored` — events that the host does not pass on.
* `Host.Agrees` — the two copies of the pointer agree.
* `Host.Drained` — nothing is left that the host takes from its session.

## Main results

* `Host.Agrees.serve` — every event keeps the copies in agreement, and none stops the program.
* `Host.pointer_agrees` — so does every run.
-/

namespace LiveSketch

/-- Something that a host is told. -/
inductive HostEvent where
  | start
  | frame
  | cursorMoved (x y : Int)
  | mouseInput (pressed : Bool) (which : WindowButton)
  | resize (width height : Nat)

/-- Buttons that sketches do not understand, and sizes of windows without an area. -/
def HostEvent.Ignored : HostEvent → Prop
  | mouseInput _ which => which.index = none
  | resize width height => width = 0 ∨ height = 0
  | start | frame | cursorMoved _ _ => False

namespace Host

variable {σ η : Type} {e : Engine σ η} {h : Host σ η}

/-! ### Events -/

/-- Serves an event. The files are as they are when the event comes. -/
def serve (e : Engine σ η) (files : FileTree) (event : HostEvent) (h : Host σ η) :
    Except Abort (Host σ η × Option FatalError) :=
  let h := h.withSession fun s => { s with files }
  match event with
  | .start => .ok (h.start e)
  | .frame => .ok (h.frame e)
  | .cursorMoved x y => (h.cursorMoved e x y).map (·, none)
  | .mouseInput pressed which => (h.mouseInput e pressed which).map (·, none)
  | .resize width height => .ok (h.resize e width height, none)

/-- Serves events in order, whatever fatal conditions they report. -/
def serveAll (e : Engine σ η) : List (FileTree × HostEvent) → Host σ η → Except Abort (Host σ η)
  | [], h => .ok h
  | (files, event) :: rest, h =>
    match h.serve e files event with
    | .ok (h, _) => serveAll e rest h
    | .error abort => .error abort

/-! ### What is taken from the session -/

/-- Neither console output nor a window request is left. -/
structure Drained (h : Host σ η) : Prop where
  stdout : h.session.console.buffered Console.stdout = ""
  stderr : h.session.console.buffered Console.stderr = ""
  requests : h.session.canvas.requests = {}

theorem drained_afterScript (h : Host σ η) : h.afterScript.Drained where
  stdout := by
    show ((h.session.console.clear Console.stdout).clear Console.stderr).buffered _ = ""
    rw [Console.buffered_clear, if_neg (by decide), Console.buffered_clear, if_pos rfl]
  stderr := by
    show ((h.session.console.clear Console.stdout).clear Console.stderr).buffered _ = ""
    rw [Console.buffered_clear, if_pos rfl]
  requests := rfl

/-! ### Agreement -/

/-- A host's copy of a pointer: where the cursor is, and the number of the button that is held. -/
structure Copies (cursor : Int × Int) (heldButton : Option Int) (pointer : Pointer) : Prop where
  cursor : cursor = (pointer.x, pointer.y)
  held : heldButton.isSome = pointer.held
  button : ∀ index, heldButton = some index →
    ∃ button, MouseButton.ofIndex index = some button ∧ pointer.button = some button

namespace Copies

variable {cursor : Int × Int} {heldButton : Option Int} {pointer : Pointer} {x y : Int}

theorem move (hc : Copies cursor none pointer) : Copies (x, y) none (pointer.moveTo x y) where
  cursor := rfl
  held := hc.held
  button _ hb := by cases hb

theorem drag {index : Int} {button : MouseButton} (hc : Copies cursor (some index) pointer)
    (hi : MouseButton.ofIndex index = some button) :
    Copies (x, y) (some index) (pointer.dragTo x y button) where
  cursor := rfl
  held := hc.held
  button _ hb := by
    cases hb
    exact ⟨button, hi, rfl⟩

theorem press (pointer : Pointer) {index : Int} {button : MouseButton}
    (hi : MouseButton.ofIndex index = some button) :
    Copies (x, y) (some index) (pointer.press x y button) where
  cursor := rfl
  held := rfl
  button _ hb := by
    cases hb
    exact ⟨button, hi, rfl⟩

theorem release (pointer : Pointer) : Copies (x, y) none (pointer.release x y) where
  cursor := rfl
  held := rfl
  button _ hb := by cases hb

end Copies

/-- The host's copy of the pointer is that of its session. -/
def Agrees (h : Host σ η) : Prop := Copies h.cursor h.heldButton h.session.pointer

/-- Before any input the pointer is nowhere, on both sides. -/
theorem agrees_around {session : Session σ η} (hp : session.pointer = {}) (clock : FrameClock) :
    (Host.around session clock).Agrees := by
  show Copies (0, 0) none session.pointer
  rw [hp]
  exact ⟨rfl, rfl, nofun⟩

/-- The buttons that sketches understand are found by their number. -/
theorem exists_button {which : WindowButton} {index : Int} (hw : which.index = some index) :
    ∃ button, MouseButton.ofIndex index = some button := by
  cases which with
  | left | middle | right =>
    cases hw
    exact ⟨_, rfl⟩
  | back | forward | other _ => cases hw

/-! ### Steps -/

/-- An input event is entered on the side of the host and then told to the session. -/
def tell (e : Engine σ η) (event : InputEvent) (cursor : Int × Int) (heldButton : Option Int)
    (h : Host σ η) : Host σ η :=
  ({ h with cursor, heldButton }.withSession fun s => s.input e event).afterScript

/-- The session enters the event on its side, whatever the engine makes of it. -/
theorem agrees_tell {event : InputEvent} {cursor : Int × Int} {heldButton : Option Int}
    (hc : Copies cursor heldButton (event.record h.session.tallies).pointer) :
    (h.tell e event cursor heldButton).Agrees := by
  have hpointer : (h.session.input e event).pointer = (event.record h.session.tallies).pointer :=
    congrArg Tallies.pointer (Session.input_tallies e event h.session)
  show Copies cursor heldButton (h.session.input e event).pointer
  rwa [hpointer]

/-- A movement is told as a drag of the button that is held, if there is one. -/
theorem Agrees.cursorMoved (hh : h.Agrees) (e : Engine σ η) (x y : Int) :
    ∃ told, h.cursorMoved e x y = .ok told ∧ told.Agrees ∧ told.Drained := by
  have hcopies : Copies h.cursor h.heldButton h.session.pointer := hh
  cases hb : h.heldButton with
  | none =>
    rw [hb] at hcopies
    refine ⟨h.tell e (.mouseMoved x y) (x, y) none, ?_, agrees_tell hcopies.move,
      drained_afterScript _⟩
    simp only [Host.cursorMoved, hb]
    rfl
  | some index =>
    rw [hb] at hcopies
    obtain ⟨button, hindex, -⟩ := hcopies.button index rfl
    refine ⟨h.tell e (.mouseDragged x y button) (x, y) (some index), ?_,
      agrees_tell (hcopies.drag hindex), drained_afterScript _⟩
    simp only [Host.cursorMoved, hb, Host.button, hindex]
    rfl

/-- A button goes down or comes up where the cursor is, unless it is ignored. -/
theorem Agrees.mouseInput (hh : h.Agrees) (e : Engine σ η) (pressed : Bool)
    (which : WindowButton) : ∃ told, h.mouseInput e pressed which = .ok told ∧ told.Agrees ∧
      (which.index ≠ none → told.Drained) := by
  cases hw : which.index with
  | none =>
    refine ⟨h, ?_, hh, fun hn => absurd rfl hn⟩
    simp only [Host.mouseInput, hw]
  | some index =>
    obtain ⟨button, hindex⟩ := exists_button hw
    cases pressed with
    | true =>
      refine ⟨h.tell e (.mousePressed h.cursor.1 h.cursor.2 button) h.cursor (some index), ?_,
        agrees_tell (.press h.session.pointer hindex), fun _ => drained_afterScript _⟩
      simp only [Host.mouseInput, hw, Host.button, hindex]
      rfl
    | false =>
      refine ⟨h.tell e (.mouseReleased h.cursor.1 h.cursor.2 button) h.cursor none, ?_,
        agrees_tell (.release h.session.pointer), fun _ => drained_afterScript _⟩
      simp only [Host.mouseInput, hw, Host.button, hindex]
      rfl

/-- A new size is entered on neither side. -/
theorem Agrees.resize (hh : h.Agrees) (e : Engine σ η) (width height : Nat) :
    (h.resize e width height).Agrees ∧
      (¬(width = 0 ∨ height = 0) → (h.resize e width height).Drained) := by
  rw [Host.resize]
  split
  · next hignored => exact ⟨hh, fun hn => absurd hignored hn⟩
  · refine ⟨?_, fun _ => drained_afterScript _⟩
    have hcopies : Copies h.cursor h.heldButton h.session.pointer := hh
    let s := { h.session with canvas := h.session.canvas.setSize width height }
    have htold : ({ h with session := s }.tell e (.windowResized width height) h.cursor
        h.heldButton).Agrees := agrees_tell hcopies
    exact htold

/-- Neither is anything after which the session's pointer is the same. -/
theorem Agrees.congr (hh : h.Agrees) {session : Session σ η}
    (hp : session.pointer = h.session.pointer) : { h with session }.Agrees := by
  show Copies h.cursor h.heldButton session.pointer
  rw [hp]
  exact hh

theorem Agrees.start (hh : h.Agrees) (e : Engine σ η) :
    (h.start e).1.Agrees ∧ ((h.start e).2 = none → (h.start e).1.Drained) := by
  have hrun : (h.session.run e).1.pointer = h.session.pointer :=
    (h.session.perform_told e (show Operation.run.input? = none from rfl)).2
  rw [Host.start]
  rcases hran : h.session.run e with ⟨session, _ | fatal⟩
  · rw [hran] at hrun
    have hsetup : (session.setup e).pointer = session.pointer :=
      (session.perform_told e (show Operation.setup.input? = none from rfl)).2
    exact ⟨hh.congr (hsetup.trans hrun), fun _ => drained_afterScript _⟩
  · rw [hran] at hrun
    exact ⟨hh.congr hrun, nofun⟩

theorem Agrees.frame (hh : h.Agrees) (e : Engine σ η) :
    (h.frame e).1.Agrees ∧ ((h.frame e).2 = none → (h.frame e).1.Drained) := by
  have hupdate : (h.session.update e).pointer = h.session.pointer :=
    (h.session.perform_told e (show Operation.update.input? = none from rfl)).2
  have hdraw : ((h.session.update e).draw e).1.pointer = (h.session.update e).pointer :=
    ((h.session.update e).perform_told e (show Operation.draw.input? = none from rfl)).2
  rw [Host.frame]
  rcases hdrawn : (h.session.update e).draw e with ⟨session, _ | fatal⟩
  · rw [hdrawn] at hdraw
    exact ⟨hh.congr (hdraw.trans hupdate), fun _ => drained_afterScript _⟩
  · rw [hdrawn] at hdraw
    exact ⟨hh.congr (hdraw.trans hupdate), nofun⟩

/-! ### Runs -/

/-- **Every event is served, and the copies agree after it.** -/
theorem Agrees.serve (hh : h.Agrees) (e : Engine σ η) (files : FileTree) (event : HostEvent) :
    ∃ told fatal, h.serve e files event = .ok (told, fatal) ∧ told.Agrees ∧
      (fatal = none ∨ event = .start ∨ event = .frame) ∧
      (¬ event.Ignored → fatal = none → told.Drained) := by
  have hfiles : (h.withSession fun s => { s with files }).Agrees := hh
  unfold Host.serve
  cases event with
  | start =>
    obtain ⟨hagrees, hdrained⟩ := hfiles.start e
    exact ⟨_, _, rfl, hagrees, .inr (.inl rfl), fun _ => hdrained⟩
  | frame =>
    obtain ⟨hagrees, hdrained⟩ := hfiles.frame e
    exact ⟨_, _, rfl, hagrees, .inr (.inr rfl), fun _ => hdrained⟩
  | cursorMoved x y =>
    obtain ⟨told, htold, hagrees, hdrained⟩ := hfiles.cursorMoved e x y
    dsimp only
    rw [htold]
    exact ⟨told, none, rfl, hagrees, .inl rfl, fun _ _ => hdrained⟩
  | mouseInput pressed which =>
    obtain ⟨told, htold, hagrees, hdrained⟩ := hfiles.mouseInput e pressed which
    dsimp only
    rw [htold]
    exact ⟨told, none, rfl, hagrees, .inl rfl, fun hn _ => hdrained hn⟩
  | resize width height =>
    obtain ⟨hagrees, hdrained⟩ := hfiles.resize e width height
    exact ⟨_, _, rfl, hagrees, .inl rfl, fun hn _ => hdrained hn⟩

theorem Agrees.serveAll (hh : h.Agrees) (e : Engine σ η)
    (events : List (FileTree × HostEvent)) :
    ∃ told, h.serveAll e events = .ok told ∧ told.Agrees := by
  induction events generalizing h with
  | nil => exact ⟨h, rfl, hh⟩
  | cons served rest ih =>
    obtain ⟨files, event⟩ := served
    obtain ⟨told, fatal, htold, hagrees, -⟩ := hh.serve e files event
    rw [Host.serveAll, htold]
    exact ih hagrees

/-- **The host and its session agree on the pointer, and no event stops the program.** This is so
for every engine and every sequence of events that a new host is told around a session without
input, whatever fails in them, and whatever the files are by then. After each event the cursor is
where the pointer is, a button is held on one side exactly if it is held on the other, and the
number of the button that is held is one of the button that the session has on record. After each
event that the host does not ignore, both streams of the console are empty and no request for the
window is left. The one exception is a start or a frame that reports a fatal condition, with which
the program ends. -/
theorem pointer_agrees (e : Engine σ η) (session : Session σ η) (hp : session.pointer = {})
    (clock : FrameClock) (events : List (FileTree × HostEvent)) :
    ∃ h, (Host.around session clock).serveAll e events = .ok h ∧
      h.cursor = (h.session.pointer.x, h.session.pointer.y) ∧
      (h.heldButton.isSome ↔ h.session.pointer.held) ∧
      (∀ index, h.heldButton = some index → ∃ button, MouseButton.ofIndex index = some button ∧
        h.session.pointer.button = some button) ∧
      ∀ files event, ∃ told fatal, h.serve e files event = .ok (told, fatal) ∧
        (fatal = none ∨ event = .start ∨ event = .frame) ∧
        (¬ event.Ignored → fatal = none →
          told.session.console.buffered Console.stdout = "" ∧
          told.session.console.buffered Console.stderr = "" ∧
          told.session.canvas.requests = {}) := by
  obtain ⟨h, hserved, hagrees⟩ := (agrees_around hp clock).serveAll e events
  refine ⟨h, hserved, hagrees.cursor, by rw [hagrees.held], hagrees.button,
    fun files event => ?_⟩
  obtain ⟨told, fatal, htold, -, hfatal, hdrained⟩ := hagrees.serve e files event
  refine ⟨told, fatal, htold, hfatal, fun hn hf => ?_⟩
  obtain ⟨hout, herr, hrequests⟩ := hdrained hn hf
  exact ⟨hout, herr, hrequests⟩

/-- A sketch that fails when a button goes down. A second button goes down and the pointer moves,
which is a drag of that button on both sides, although the sketch is in error. -/
theorem pointer_agrees_after_failing_press :
    let files : FileTree :=
      .sketchbook "fn mouse_down(x, y, button) \x7b throw 1; \x7d" 1000 "" 1000
    let e := scriptEngine sketchLanguage
    let session : Session (ScriptState sketchLanguage) ScriptHandle :=
      (Session.fresh (.empty {}) {} (.blank 1 1) files).play e
        [.install ⟨[⟨"/s"⟩]⟩, .load ⟨"/s/main"⟩]
    let events : List (FileTree × HostEvent) :=
      [(files, .start), (files, .mouseInput true .left), (files, .mouseInput true .right),
        (files, .cursorMoved 3 4)]
    session.pointer = {} ∧
      ∃ h, (Host.around session (.start .nan 0)).serveAll e events = .ok h ∧
        h.session.status = .error ∧ h.cursor = (h.session.pointer.x, h.session.pointer.y) ∧
        h.session.pointer.held ∧ h.session.pointer.button = some .right := by
  intro files e session events
  have hp : session.pointer = {} := by decide +kernel
  obtain ⟨h, hserved, hcursor, hheld, hbutton, -⟩ :=
    pointer_agrees e session hp (.start .nan 0) events
  have hends : ((Host.around session (.start .nan 0)).serveAll e events).toOption.map
      (fun h => (h.session.status, h.heldButton)) = some (.error, some 2) := by decide +kernel
  rw [hserved] at hends
  obtain ⟨hstatus, hindex⟩ := Prod.mk.inj (Option.some.inj hends)
  obtain ⟨button, hfound, hrecorded⟩ := hbutton 2 hindex
  cases hfound
  exact ⟨hp, h, hserved, hstatus, hcursor, hheld.mp (by simp [hindex]), hrecorded⟩

end Host

end LiveSketch
