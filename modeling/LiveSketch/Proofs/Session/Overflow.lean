import LiveSketch.Proofs.Script.Painting
import LiveSketch.Proofs.Script.Ranges
import LiveSketch.Proofs.Session.DrawnInOrder

/-!
# When drawing overflows

Positions have 32 bits, and the process stops at a sum that does not fit. Each number that a sketch
passes is moved into this range before a command is queued, so no command is out of range on its
own. But moves add up from command to command, and a pixel is moved by all of them, so a sketch can
leave the range with commands that are in it. How many frames are drawn plays no part, because each
starts unmoved, and neither does how far a shape reaches before a move.

## Main results

* `scriptEngine_inRange`, `portfolioEngine_inRange` — no operation of the engine queues or draws a
  command that is out of range.
* `Session.drawing_overflows_iff` — what sketches can draw, and when that overflows.
-/

namespace LiveSketch

variable {L : Language}

open ScriptEngine

/-- **What waits in a session is in range**, whatever its engine is asked to do. -/
theorem scriptEngine_inRange (hL : L.KeepsRange) :
    (scriptEngine L).Keeps fun s => s.board.InRange where
  evaluate source origin resetting files stage ctx h := by
    have hstart : (evaluationStart origin resetting (stage, ctx)).1.engine.board.InRange := by
      refine (steady_inRange hL).mark origin _ ?_
      cases resetting with
      | true => exact nofun
      | false => exact h
    exact (steady_inRange hL).applySource files (includeDepth files) source origin _ hstart
  loadDependency path files stage ctx h :=
    (steady_inRange hL).loadFile files
      ((steady_inRange hL).applySource files (includeDepth files)) path _
      ((steady_inRange hL).mark path (stage, ctx) h)
  processError failure stage h := by
    show (processError failure stage).1.engine.board.InRange
    rw [processError]
    split
    · exact callFunction_inRange hL formatterName [.str failure.message] h
    · exact h
  sync env files stage ctx h := (steady_inRange hL).sync env files (stage, ctx) h
  flush stage canvas h := nofun
  invoke handle args stage h := by
    cases handle with
    | function name => exact callFunction_inRange hL name args h
    | defaults scripted =>
      cases scripted with
      | true => exact callFunction_inRange hL Entry.defaults.name args h
      | false => exact h

/-- A tally is no part of the board. -/
theorem Language.KeepsRange.tallied (hL : L.KeepsRange) : L.tallied.KeepsRange where
  run program table source scene vars ground := hL.run program table source scene vars.1 ground
  call name args table source scene vars object ground :=
    hL.call name args table source scene vars.1 object ground

/-- What waits is in range, and so is all that was drawn. -/
def Portfolio.InRange (state : ScriptState L.tallied × Portfolio) : Prop :=
  state.1.board.InRange ∧ ∀ command ∈ state.2.allDrawn, command.InRange

/-- Whatever is drawn was waiting before. -/
theorem portfolioEngine_inRange (hL : L.KeepsRange) :
    (portfolioEngine L).Keeps Portfolio.InRange where
  evaluate source origin resetting files stage ctx h := by
    refine ⟨(scriptEngine_inRange hL.tallied).evaluate source origin resetting files stage.plain ctx
      h.1, ?_⟩
    cases resetting with
    | true =>
      show ∀ command ∈ (stage.engine.2.close stage.engine.1).allDrawn, command.InRange
      rw [Portfolio.allDrawn_close]
      exact h.2
    | false => exact h.2
  loadDependency path files stage ctx h :=
    ⟨(scriptEngine_inRange hL.tallied).loadDependency path files stage.plain ctx h.1, h.2⟩
  processError failure stage h :=
    ⟨(scriptEngine_inRange hL.tallied).processError failure stage.plain h.1, h.2⟩
  sync env files stage ctx h :=
    ⟨(scriptEngine_inRange hL.tallied).sync env files stage.plain ctx h.1, h.2⟩
  flush stage canvas h := by
    refine ⟨(scriptEngine_inRange hL.tallied).flush stage.plain canvas h.1, ?_⟩
    show ∀ command ∈ (stage.engine.2.draw stage.engine.1.board.waiting).allDrawn, command.InRange
    rw [Portfolio.allDrawn_draw, List.forall_mem_append]
    exact ⟨h.2, h.1⟩
  invoke handle args stage h :=
    ⟨(scriptEngine_inRange hL.tallied).invoke handle args stage.plain h.1, h.2⟩

namespace Session

/-- **When drawing overflows.** Whatever operations are asked for in a session of sketches and
however the files are edited in between, all commands that are drawn in it and all that wait in it
are in the range of 32 bits. This does not keep drawing in the range. A frame is what is drawn
between two resets of the canvas. Any number of frames, of any commands, overflow exactly when there
is one of them in which a sum leaves the range: where the moves so far have taken the canvas, or
where a pixel, which is at a position in the range, is moved to by them. They do not overflow if
there is a `reach` such that the moves of no frame add up to more than it, whichever way they go,
and every pixel keeps away from the ends of the range by as much. Without moves they never do. -/
theorem drawing_overflows_iff (settings : Settings) (canvas : Canvas) (files : FileTree)
    (ops : List Operation) :
    let start : Session (ScriptState sketchLanguage.tallied × Portfolio) ScriptHandle :=
      .fresh (.empty {}, {}) settings canvas files
    let s := start.play (portfolioEngine sketchLanguage) ops
    s.plain.map ScriptState.untallied =
        (Session.fresh (.empty {}) settings canvas files).play (scriptEngine sketchLanguage) ops ∧
      (∀ command ∈ s.record.allDrawn ++ s.plain.waiting, command.InRange) ∧
      ∀ (c : Canvas) (frames : List (List DrawCommand)),
        ((c.paintFrames frames).overflowed = true ↔ c.overflowed = true ∨
          ∃ commands ∈ frames, ∃ sum ∈ runningSums .zero commands, sum.fits = false) ∧
        (∀ reach < 2 ^ 31, (∀ commands ∈ frames,
            wander commands ≤ reach ∧ ∀ command ∈ commands, command.Clears reach) →
          (c.paintFrames frames).overflowed = c.overflowed) ∧
        ((∀ commands ∈ frames, wander commands = 0) →
          (c.paintFrames frames).overflowed = c.overflowed) := by
  intro start s
  have hrange : Portfolio.InRange s.stage.engine :=
    play_invariant (I := fun s => Portfolio.InRange s.stage.engine)
      (fun op _ => (portfolioEngine_inRange sketchLanguage_keepsRange).perform op) ops
      ⟨nofun, nofun⟩
  refine ⟨untallied_play settings canvas files ops,
    List.forall_mem_append.mpr ⟨hrange.2, hrange.1⟩, fun c frames => ?_⟩
  refine ⟨Canvas.paintFrames_overflowed frames c,
    fun reach hreach => Canvas.paintFrames_overflowed_of_calm hreach, fun hstill => ?_⟩
  have hzero : 0 < 2 ^ 31 := by decide
  refine Canvas.paintFrames_overflowed_of_calm hzero fun commands hc => ?_
  exact ⟨Nat.le_of_eq (hstill commands hc), fun command _ => command.clears_zero⟩

/-- A sketch moves the canvas to the end of the range and by one more. Both moves are in range. It
does not happen to one that moves a square by three pixels, twice, nor to one that moves nothing,
though its shapes reach past the ends of the range. -/
theorem drawing_overflows_of_two_moves :
    let ops : List Operation := [.install ⟨[⟨"/s"⟩]⟩, .load ⟨"/s/main"⟩, .run, .draw]
    let files : FileTree := .sketchbook
      "fn draw() \x7b translate(2147483647, 0); translate(1, 0); \x7d" 1000 "" 1000
    let start : Session (ScriptState sketchLanguage.tallied × Portfolio) ScriptHandle :=
      .fresh (.empty {}, {}) {} (.blank 4 4) files
    let s := start.play (portfolioEngine sketchLanguage) ops
    let calm : List DrawCommand := [.translate ⟨3, 0⟩, .rect ⟨0, 0, 2, 2⟩ .white]
    let still : List DrawCommand :=
      [.rect ⟨2147483640, 0, 12, 1⟩ .white, .circle ⟨0, 0⟩ 2147483648 .white]
    s.record.allDrawn = [.translate ⟨2147483647, 0⟩, .translate ⟨1, 0⟩] ∧
      (∀ command ∈ s.record.allDrawn, command.InRange) ∧ s.canvas.overflowed = true ∧
      ((Canvas.blank 4 4).paintFrames [s.record.allDrawn]).overflowed = true ∧
      ((Canvas.blank 4 4).paintFrames [calm, calm]).overflowed = false ∧
      ((Canvas.blank 4 4).paintFrames [still]).overflowed = false := by
  intro ops files start s calm still
  have hdrawn : s.record.allDrawn = [.translate ⟨2147483647, 0⟩, .translate ⟨1, 0⟩] ∧
      s.canvas.overflowed = true := by decide +kernel
  obtain ⟨-, hrange, hframes⟩ := drawing_overflows_iff {} (.blank 4 4) files ops
  obtain ⟨hoverflows, -, -⟩ := hframes (.blank 4 4) [s.record.allDrawn]
  obtain ⟨-, hcalm, -⟩ := hframes (.blank 4 4) [calm, calm]
  obtain ⟨-, -, hstill⟩ := hframes (.blank 4 4) [still]
  refine ⟨hdrawn.1, (List.forall_mem_append.mp hrange).1, hdrawn.2, ?_, ?_, ?_⟩
  · rw [hoverflows, hdrawn.1]
    exact .inr ⟨_, List.mem_singleton_self _, ⟨2147483648, 0⟩, by decide, rfl⟩
  · refine (hcalm 3 (by decide) fun commands hc => ?_).trans rfl
    obtain rfl : commands = calm := by simpa using hc
    decide
  · refine (hstill fun commands hc => ?_).trans rfl
    obtain rfl : commands = still := by simpa using hc
    rfl

end Session
end LiveSketch
