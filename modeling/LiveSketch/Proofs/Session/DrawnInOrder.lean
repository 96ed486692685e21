import LiveSketch.Proofs.Script.Tally
import LiveSketch.Proofs.Session.EngineState
import LiveSketch.Proofs.Session.ErrorFrames

/-!
# Every command is drawn once, in order

Commands are queued by any kind of script code and drawn by whatever operation comes next to a place
where the queue is applied. Some operations end before they get there, some fail on the way, and a
reset replaces the queue. That no command is lost, repeated or moved by any of this is a property of
whole runs.

## The record

A run is cut into *chapters*, which end with the resets. For each chapter a portfolio records what
was queued, what was drawn, and what was left waiting when it ended. What is queued comes from the
tally of the language, so code is charged for its commands when it has run. What is drawn is entered
where a canvas is painted. The two meet in one equation, which says of the chapter that is open now
that all that was queued is what was drawn and what waits, in this order. Each operation of the
engine keeps it, so it survives whatever a session makes of them.

## Main definitions

* `Chapter`, `Portfolio` — what became of the commands between two resets, and of all of them.
* `portfolioEngine` — an engine that keeps a portfolio.
* `Portfolio.Complete` — nothing is missing.

## Main results

* `portfolioEngine_keeps` — no operation of the engine misses a command.
* `Session.drawn_in_order` — what is drawn in a run, and what is not.
-/

namespace LiveSketch

/-- What became of the commands between two resets. -/
structure Chapter where
  queued : List DrawCommand
  drawn : List DrawCommand
  /-- What was waiting when the reset came. -/
  left : List DrawCommand
deriving DecidableEq

/-- What became of the commands of a run. -/
structure Portfolio where
  /-- What happened before the last reset, oldest first. -/
  past : List Chapter := []
  /-- The commands that were drawn since. -/
  drawn : List DrawCommand := []
deriving DecidableEq

variable {L : Language}

namespace Portfolio

/-- Ends a chapter. -/
def close (p : Portfolio) (s : ScriptState L.tallied) : Portfolio where
  past := p.past ++ [⟨s.tally, p.drawn, s.board.waiting⟩]
  drawn := []

/-- Commands are drawn. -/
def draw (p : Portfolio) (commands : List DrawCommand) : Portfolio :=
  { p with drawn := p.drawn ++ commands }

/-- Everything that was drawn. -/
def allDrawn (p : Portfolio) : List DrawCommand := p.past.flatMap Chapter.drawn ++ p.drawn

theorem allDrawn_close (p : Portfolio) (s : ScriptState L.tallied) :
    (p.close s).allDrawn = p.allDrawn := by
  simp [allDrawn, close]

theorem allDrawn_draw (p : Portfolio) (commands : List DrawCommand) :
    (p.draw commands).allDrawn = p.allDrawn ++ commands :=
  (List.append_assoc _ _ _).symm

/-- Everything that was queued. -/
def allQueued (p : Portfolio) (s : ScriptState L.tallied) : List DrawCommand :=
  p.past.flatMap Chapter.queued ++ s.tally

/-- Nothing is missing: what was queued in a chapter was drawn, or was left at its end. -/
structure Complete (state : ScriptState L.tallied × Portfolio) : Prop where
  past : ∀ chapter ∈ state.2.past, chapter.queued = chapter.drawn ++ chapter.left
  present : state.1.tally = state.2.drawn ++ state.1.board.waiting

namespace Complete

variable {s t : ScriptState L.tallied} {p : Portfolio}

/-- Commands that are queued wait behind the others. -/
theorem accounted (h : Complete (s, p)) (hst : s.Accounted t) : Complete (t, p) where
  past := h.past
  present := by
    obtain ⟨more, hwaiting, htally⟩ := hst
    have hpresent : s.tally = p.drawn ++ s.board.waiting := h.present
    show t.tally = p.drawn ++ t.board.waiting
    rw [htally, hwaiting, hpresent, List.append_assoc]

/-- A reset begins a chapter in which nothing was queued or drawn. -/
theorem close (h : Complete (s, p)) (env : FrameEnv) :
    Complete (.empty (L := L.tallied) env, p.close s) where
  past chapter hc := by
    rcases List.mem_append.mp hc with hpast | hlast
    · exact h.past chapter hpast
    · obtain rfl := List.mem_singleton.mp hlast
      exact h.present
  present := rfl

/-- Drawing what waits leaves nothing waiting. -/
theorem draw (h : Complete (s, p)) :
    Complete ({ s with board := { s.board with commands := #[] } }, p.draw s.board.waiting) where
  past := h.past
  present := by
    have hpresent : s.tally = p.drawn ++ s.board.waiting := h.present
    show s.tally = (p.drawn ++ s.board.waiting) ++ []
    rw [hpresent, List.append_nil]

/-- What was drawn before the last reset was queued in this order. -/
theorem past_sublist {chapters : List Chapter}
    (h : ∀ chapter ∈ chapters, chapter.queued = chapter.drawn ++ chapter.left) :
    (chapters.flatMap Chapter.drawn).Sublist (chapters.flatMap Chapter.queued) := by
  induction chapters with
  | nil => exact .refl _
  | cons first rest ih =>
    rw [List.flatMap_cons, List.flatMap_cons, h first List.mem_cons_self]
    exact (List.sublist_append_left _ _).append (ih fun c hc => h c (List.mem_cons_of_mem first hc))

/-- What was drawn is some of what was queued, in the same order. -/
theorem sublist (h : Complete (s, p)) : p.allDrawn.Sublist (p.allQueued s) := by
  have hpresent : s.tally = p.drawn ++ s.board.waiting := h.present
  rw [allDrawn, allQueued, hpresent]
  exact (past_sublist h.past).append (List.sublist_append_left _ _)

end Complete

end Portfolio

/-- The engine of a language with a tally, with a portfolio. A chapter ends when the engine is asked
to reset the session, and what waits is drawn when a canvas is painted. -/
def portfolioEngine (L : Language) : Engine (ScriptState L.tallied × Portfolio) ScriptHandle :=
  let e := scriptEngine L.tallied
  { evaluate source origin resetting files stage ctx :=
      let portfolio := if resetting then stage.engine.2.close stage.engine.1 else stage.engine.2
      Prod.map (Stage.map (·, portfolio)) id
        (e.evaluate source origin resetting files stage.plain ctx)
    loadDependency path files stage ctx :=
      Prod.map (Stage.map (·, stage.engine.2)) id (e.loadDependency path files stage.plain ctx)
    processError failure stage :=
      Prod.map (Stage.map (·, stage.engine.2)) id (e.processError failure stage.plain)
    sync env files stage ctx :=
      Prod.map (Stage.map (·, stage.engine.2)) id (e.sync env files stage.plain ctx)
    flush stage canvas :=
      Prod.map (Stage.map (·, stage.engine.2.draw stage.engine.1.board.waiting)) id
        (e.flush stage.plain canvas)
    invoke handle args stage :=
      Prod.map (Stage.map (·, stage.engine.2)) id (e.invoke handle args stage.plain)
    label := e.label }

/-- Forgetting the portfolio commutes with everything the engine does. -/
theorem portfolioEngine_hom (L : Language) :
    (portfolioEngine L).Hom (scriptEngine L.tallied) Prod.fst where
  evaluate _ _ _ _ _ _ := rfl
  loadDependency _ _ _ _ := rfl
  processError _ _ := rfl
  sync _ _ _ _ := rfl
  flush _ _ := rfl
  invoke _ _ _ := rfl
  label := rfl

/-- **No operation of the engine misses a command.** -/
theorem portfolioEngine_keeps (hL : L.Queues) : (portfolioEngine L).Keeps Portfolio.Complete where
  evaluate source origin resetting files stage ctx h := by
    have hran := ScriptEngine.evaluate_accounted hL source origin resetting files
      (stage.plain, ctx)
    cases resetting with
    | true => exact (h.close stage.engine.1.env).accounted hran
    | false => exact h.accounted hran
  loadDependency path files stage ctx h :=
    h.accounted (ScriptEngine.loadDependency_accounted hL path files (stage.plain, ctx))
  processError failure stage h :=
    h.accounted (ScriptEngine.processError_accounted hL failure stage.plain)
  sync env files stage ctx h :=
    h.accounted ((ScriptEngine.steady_accounted hL).sync env files (stage.plain, ctx))
  flush _ _ h := h.draw
  invoke handle args stage h :=
    h.accounted (ScriptEngine.invoke_accounted hL handle args stage.plain)

namespace Session

/-- Tally and portfolio change nothing about a run. -/
theorem untallied_play (settings : Settings) (canvas : Canvas) (files : FileTree)
    (ops : List Operation) :
    let start : Session (ScriptState L.tallied × Portfolio) ScriptHandle :=
      .fresh (.empty {}, {}) settings canvas files
    (start.play (portfolioEngine L) ops).plain.map ScriptState.untallied =
      (Session.fresh (.empty {}) settings canvas files).play (scriptEngine L) ops := by
  intro start
  have hplain : (start.play (portfolioEngine L) ops).plain =
      start.plain.play (scriptEngine L.tallied) ops := ((portfolioEngine_hom L).play ops start).symm
  rw [hplain, ← (ScriptEngine.tallied_hom L).play]
  rfl

/-- **Every command is drawn once, in order.** Whatever operations are asked for and however the
files are edited in between, what script code queued between two resets is what was drawn in this
time followed by what was waiting when the second came, and what it has queued since the last is
what was drawn followed by what waits now. So nothing is drawn twice or out of order, and nothing is
left out for any other reason. What counts as drawn is what canvases are painted with, and the
record changes nothing about the run. -/
theorem drawn_in_order (settings : Settings) (canvas : Canvas) (files : FileTree)
    (ops : List Operation) :
    let e := portfolioEngine sketchLanguage
    let start : Session (ScriptState sketchLanguage.tallied × Portfolio) ScriptHandle :=
      .fresh (.empty {}, {}) settings canvas files
    let s := start.play e ops
    let script := s.plain.stage.engine
    s.plain.map ScriptState.untallied =
        (Session.fresh (.empty {}) settings canvas files).play (scriptEngine sketchLanguage) ops ∧
      (∀ stage canvas, ∃ painted,
        (e.flush stage canvas).2 = canvas.paint painted ∧
          (e.flush stage canvas).1.engine.2 = stage.engine.2.draw painted) ∧
      (∀ chapter ∈ s.record.past, chapter.queued = chapter.drawn ++ chapter.left) ∧
      script.tally = s.record.drawn ++ script.board.waiting ∧
      s.record.allDrawn.Sublist (s.record.allQueued script) := by
  intro e start s script
  have hstart : Portfolio.Complete start.stage.engine := ⟨nofun, rfl⟩
  have h : Portfolio.Complete s.stage.engine :=
    play_invariant (I := fun s => Portfolio.Complete s.stage.engine)
      (fun op _ => (portfolioEngine_keeps sketchLanguage_queues).perform op) ops hstart
  refine ⟨untallied_play settings canvas files ops, ?_, h.past, h.present, h.sublist⟩
  intro stage canvas
  refine ⟨stage.engine.1.board.waiting, ?_, rfl⟩
  exact congrArg Prod.snd (Board.flush_eq stage.engine.1.board canvas)

end Session

end LiveSketch
