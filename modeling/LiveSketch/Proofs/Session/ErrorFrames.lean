import LiveSketch.Proofs.Script.Growth
import LiveSketch.Proofs.Script.Painting
import LiveSketch.Proofs.Session.Standing

/-!
# What a frame in error shows

A frame in error paints the overlay, tells the engine about the frame, sets the drawing defaults
and draws what waits. This can go wrong in two ways. The overlay is painted wherever the canvas was
moved to by the frame that failed, because nobody moves it back. And what is drawn on top of the
overlay is not only what the drawing defaults asked for, but everything that has waited since the
failure.

Both are made precise here: the frame is an equation in the canvas as it was found, the commands
that waited when the defaults were set, and those that the defaults added.

## Main definitions

* `Session.waiting` — the commands that wait in a session.

## Main results

* `Session.drawError_canvas` — the frame as an equation.
* `Session.error_frame_eq` — the frame in every error state that can be reached.
-/

namespace LiveSketch

/-- The overlay does not move the canvas. -/
theorem Snapshot.draw_offset (snapshot : Snapshot) (c : Canvas) :
    (snapshot.draw c).offset = c.offset := by
  unfold Snapshot.draw
  dsimp only
  cases snapshot.backdrop with
  | none => rfl
  | some image => rfl

open ScriptEngine

namespace Session

variable {L : Language}

/-- The commands that wait for a canvas in a session. -/
def waiting (s : Session (ScriptState L) ScriptHandle) : List DrawCommand :=
  s.stage.engine.board.waiting

variable {s : Session (ScriptState L) ScriptHandle}

theorem flush_canvas : (s.flush (scriptEngine L)).canvas = s.canvas.paint s.waiting ∧
    (s.flush (scriptEngine L)).waiting = [] := by
  have h : (scriptEngine L).flush s.stage s.canvas = ({ s.stage with
      engine := { s.stage.engine with board := (s.stage.engine.board.flush s.canvas).1 } },
      (s.stage.engine.board.flush s.canvas).2) := rfl
  unfold Session.flush
  rw [h, Board.flush_eq]
  exact ⟨rfl, rfl⟩

/-- Taking note of the frame takes no command back, and adds none unless there are requests for
files. -/
theorem sync_waiting (hL : L.Queues) : s.waiting <+: (s.sync (scriptEngine L)).waiting ∧
    (pending (s.stage, s.context) = [] → (s.sync (scriptEngine L)).waiting = s.waiting) :=
  ⟨(steady_waiting hL).sync s.frameEnv s.files (s.stage, s.context),
    fun hp => sync_waiting_of_none hp s.frameEnv s.files⟩

/-- The drawing defaults add commands behind those that wait, and draw nothing. -/
theorem applyDefaults_waiting (hL : L.Queues) :
    ∃ drawn, (s.applyDefaults (scriptEngine L)).1.waiting = s.waiting ++ drawn ∧
      (s.applyDefaults (scriptEngine L)).1.canvas = s.canvas := by
  unfold applyDefaults
  split
  · exact ⟨[], (List.append_nil _).symm, rfl⟩
  · next handle _ =>
    obtain ⟨drawn, hd⟩ := invoke_waiting hL handle [] s.stage
    have h : (s.call (scriptEngine L) handle []).1.waiting = s.waiting ++ drawn ∧
        (s.call (scriptEngine L) handle []).1.canvas = s.canvas := ⟨hd.symm, rfl⟩
    generalize s.call (scriptEngine L) handle [] = ran at h ⊢
    obtain ⟨t, failure | value⟩ := ran
    · exact ⟨drawn, h⟩
    · exact ⟨drawn, h⟩

/-- **A frame in error**: on top of the overlay comes what waited when the drawing defaults were
set, and then what they drew. -/
theorem drawError_canvas (hL : L.Queues) {snapshot : Snapshot} (he : s.error = some snapshot) :
    ∃ drawn, ((s.overlaid.sync (scriptEngine L)).applyDefaults (scriptEngine L)).1.waiting =
        (s.overlaid.sync (scriptEngine L)).waiting ++ drawn ∧
      (s.drawError (scriptEngine L)).canvas =
        (snapshot.draw s.canvas).paint ((s.overlaid.sync (scriptEngine L)).waiting ++ drawn) ∧
      (s.drawError (scriptEngine L)).waiting = [] := by
  have ho : s.overlaid = { s with canvas := snapshot.draw s.canvas } := by
    unfold overlaid
    rw [he]
  obtain ⟨drawn, hw, hc⟩ := applyDefaults_waiting hL (s := s.overlaid.sync (scriptEngine L))
  have hcanvas : ((s.overlaid.sync (scriptEngine L)).applyDefaults (scriptEngine L)).1.canvas =
      snapshot.draw s.canvas := by
    rw [hc, ho]
    rfl
  refine ⟨drawn, hw, ?_⟩
  rw [drawError_eq]
  rw [← hw, ← hcanvas]
  generalize (s.overlaid.sync (scriptEngine L)).applyDefaults (scriptEngine L) = ran
  obtain ⟨t, _ | failure⟩ := ran
  · exact flush_canvas
  · exact flush_canvas

/-- **What a frame in error shows**, in every error state that a session of sketches can reach.
There is a snapshot. The frame is its overlay, painted where the canvas was moved to before, and on
top of it the commands that waited when the drawing defaults were set, and last those that they
added. Those that waited begin with what waited before the frame, and are no more than that unless
there are requests for files. Nothing waits after the frame. So if nothing waited, the frame is the
overlay as it is on a canvas that was not moved, under the commands of the defaults, exactly when
the canvas was not moved. -/
theorem error_frame_eq (settings : Settings) (canvas : Canvas) (files : FileTree)
    (ops : List Operation) :
    let e := scriptEngine sketchLanguage
    let s := (Session.fresh (.empty {}) settings canvas files).play e ops
    let synced := s.overlaid.sync e
    s.status = .error → ∃ snapshot drawn, s.error = some snapshot ∧
      (synced.applyDefaults e).1.waiting = synced.waiting ++ drawn ∧
      (s.frame e).canvas = (snapshot.draw s.canvas).paint (synced.waiting ++ drawn) ∧
      (s.frame e).waiting = [] ∧
      s.waiting <+: synced.waiting ∧
      (s.stage.engine.board.requests.includes = [] → synced.waiting = s.waiting) ∧
      (synced.waiting = [] →
        ((s.frame e).canvas = (snapshot.draw s.canvas.resetFrame).paint drawn ↔
          s.canvas.offset = .zero)) := by
  intro e s synced hs
  obtain ⟨snapshot, he⟩ := Option.isSome_iff_exists.mp
    ((play_snapshot e (.empty {}) settings canvas files ops).mp hs)
  obtain ⟨drawn, hd, hcanvas, hrest⟩ := drawError_canvas sketchLanguage_queues he
  have hframe : s.frame e = s.drawError e := by
    unfold frame
    rw [hs]
  have ho : s.overlaid.waiting = s.waiting ∧ s.overlaid.context = s.context ∧
      s.overlaid.stage = s.stage := by
    unfold overlaid
    split <;> exact ⟨rfl, rfl, rfl⟩
  have hsync := sync_waiting sketchLanguage_queues (s := s.overlaid)
  rw [ho.1, ho.2.1, ho.2.2] at hsync
  rw [← hframe] at hcanvas hrest
  refine ⟨snapshot, drawn, he, hd, hcanvas, hrest, hsync.1, hsync.2, fun hw => ?_⟩
  rw [hcanvas, show synced.waiting = [] from hw, List.nil_append]
  constructor
  · intro heq
    have hoff := congrArg Canvas.offset heq
    simp only [Canvas.paint_offset, Snapshot.draw_offset] at hoff
    exact Point.add_right_cancel hoff
  · intro hzero
    have hreset : s.canvas.resetFrame = s.canvas := by
      unfold Canvas.resetFrame
      rw [← hzero]
    rw [hreset]

/-- A draw phase moves the canvas and then fails. The next frame shows the overlay, but not where it
belongs. -/
theorem error_frame_eq_when_moved :
    let e := scriptEngine sketchLanguage
    let s := (Session.fresh (.empty {}) {} (.blank 4 4)
      (.sketchbook "fn draw() \x7b translate(2, 1); throw 1; \x7d" 1000 "" 1000)).play e
        [.install ⟨[⟨"/s"⟩]⟩, .load ⟨"/s/main"⟩, .run, .draw]
    s.status = .error ∧ ∃ snapshot drawn, s.error = some snapshot ∧
      (s.frame e).canvas ≠ (snapshot.draw s.canvas.resetFrame).paint drawn := by
  intro e s
  have hs : s.status = .error ∧ (s.overlaid.sync e).waiting = [] ∧ s.canvas.offset ≠ .zero := by
    decide +kernel
  obtain ⟨snapshot, drawn, he, -, -, -, -, -, hiff⟩ := error_frame_eq {} (.blank 4 4) _ _ hs.1
  exact ⟨hs.1, snapshot, drawn, he, fun heq => hs.2.2 ((hiff hs.2.1).mp heq)⟩

end Session

end LiveSketch
