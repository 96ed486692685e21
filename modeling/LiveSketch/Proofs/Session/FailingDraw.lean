import LiveSketch.Proofs.Session.ErrorFrames
import LiveSketch.Proofs.Session.NoRemains
import LiveSketch.Proofs.Session.PhaseOrder
import LiveSketch.Proofs.Session.Tallies

/-!
# The frame behind a failing draw

A draw phase that fails leaves the last whole frame on screen. What counts as that frame is settled
by the moment at which the canvas is copied: after the phase, when its failures are handled, but
before the commands that wait then are drawn. Commands reach the canvas at two moments, between the
prehooks and the entry point, and after the failures are handled. So the prehooks of a frame are on
the copy if they all succeeded, and the entry point and the posthooks never are.

## How a draw is followed

The course of a phase falls into three parts, the prehooks, the entry point with what prepares for
it, and the posthooks. Callables change nothing but the stage, so in the first and the last part the
canvas stays as it was. The second part is empty if a prehook failed, and otherwise begins with the
preparation, which is the only step that draws. Sessions keep a ledger of the answers of their
engine, so it can be seen that nothing is called after the phase.

## Main definitions

* `Session.Acted` — a session in which callables were run.
* `Session.Drawing` — the draw phase of a frame in three parts.
* `Audit` — sessions of sketches that keep a ledger.

## Main results

* `Session.failAll_of_running` — failures show the last of them, over the canvas as it was.
* `Session.Drawing.ended_canvas` — the canvas when the phase has ended.
* `Session.draw_freezes` — a frame of a running sketch, with failures and without.
-/

namespace LiveSketch

/-! ### Courses without preparations -/

namespace Course

variable {η : Type} {hooks : List η} {course : Course η}

/-- No step of a course prepares for the entry point. -/
def Unprepared (course : Course η) : Prop := ∀ step ∈ course, step ≠ .prepared

theorem UntilFailure.unprepared (h : UntilFailure hooks course) : course.Unprepared := by
  induction h with
  | none => exact nofun
  | failed hook rest failure => simp [Unprepared]
  | passed hook value _ ih => simpa [Unprepared] using ih

theorem Each.unprepared (h : Each hooks course) : course.Unprepared := by
  induction h with
  | none => exact nofun
  | called hook answer _ ih => simpa [Unprepared] using ih

/-- An entry point is prepared for first, and only once. -/
theorem Enters.prepared {args : List Value} {entry : Option η} (h : Enters args entry course) :
    ∃ rest : Course η, course = .prepared :: rest ∧ rest.Unprepared := by
  cases h with
  | without => exact ⟨[], rfl, nofun⟩
  | entered handle answer => exact ⟨_, rfl, by simp [Unprepared]⟩

end Course

namespace Session

open Course

variable {σ η : Type} {e : Engine σ η} {s t u v : Session σ η}

/-! ### Callables -/

/-- A session in which callables were run: nothing but the stage has changed. -/
def Acted (t u : Session σ η) : Prop := u = { t with stage := u.stage }

namespace Acted

theorem refl (t : Session σ η) : Acted t t := rfl

theorem trans (h : Acted t u) (h' : Acted u v) : Acted t v := by
  unfold Acted at h h' ⊢
  rw [h', h]

theorem canvas (h : Acted t u) : u.canvas = t.canvas := by
  rw [h]

theorem status (h : Acted t u) : u.status = t.status := by
  rw [h]

end Acted

theorem acted_of_leads {p : Phase} {prepare : Session σ η → Session σ η} {course : Course η}
    (hc : course.Unprepared) (h : Leads (call e) (announce e p) prepare course t u) :
    Acted t u := by
  induction course generalizing t with
  | nil =>
    obtain rfl : t = u := h
    exact .refl t
  | cons step rest ih =>
    have hrest : Unprepared rest := fun step hm => hc step (List.mem_cons_of_mem _ hm)
    cases step with
    | called handle args answer =>
      have hcalled : Acted t (t.call e handle args).1 := rfl
      exact hcalled.trans (ih hrest h.2)
    | prepared => exact absurd rfl (hc _ List.mem_cons_self)
    | announced handle =>
      have hannounced : Acted t (t.announce e p handle) := rfl
      exact hannounced.trans (ih hrest h)

/-! ### The draw phase in three parts -/

/-- The draw phase of a frame: its course in three parts, where each of them leads, and that this is
what the phase does. -/
structure Drawing (e : Engine σ η) (s : Session σ η) where
  before : Course η
  middle : Course η
  after : Course η
  prehooked : Session σ η
  entered : Session σ η
  ended : Session σ η
  inOrder : InOrder (s.sync e).context.hooks .draw ((s.sync e).context.entries.get .draw) []
    before middle after
  prehooks : Leads (call e) (announce e .draw) (prepareFrame e) before (s.sync e) prehooked
  entry : Leads (call e) (announce e .draw) (prepareFrame e) middle prehooked entered
  posthooks : Leads (call e) (announce e .draw) (prepareFrame e) after entered ended
  outcome : (s.sync e).phase e .draw (prepareFrame e) =
    (ended, raised (before ++ middle ++ after))

namespace Drawing

/-- The whole course. -/
def course (d : Drawing e s) : Course η := d.before ++ d.middle ++ d.after

/-- The failures of the phase, in order. -/
def raised (d : Drawing e s) : List Failure := Course.raised d.course

/-- **Every frame has a draw phase in three parts.** -/
theorem nonempty (e : Engine σ η) (s : Session σ η) : Nonempty (Drawing e s) := by
  obtain ⟨before, middle, after, horder, hleads, hraised⟩ :=
    (s.sync e).context.hooks.invokePhase_inOrder (call e) (announce e .draw) (prepareFrame e) .draw
      ((s.sync e).context.entries.get .draw) [] (s.sync e)
  obtain ⟨entered, hmiddle, hafter⟩ := leads_append.mp hleads
  obtain ⟨prehooked, hbefore, hmiddle⟩ := leads_append.mp hmiddle
  exact ⟨⟨before, middle, after, prehooked, entered, _, horder, hbefore, hmiddle, hafter,
    Prod.ext rfl hraised⟩⟩

variable (d : Drawing e s)

theorem leads : Leads (call e) (announce e .draw) (prepareFrame e) d.course (s.sync e) d.ended :=
  leads_append.mpr ⟨d.entered, leads_append.mpr ⟨d.prehooked, d.prehooks, d.entry⟩, d.posthooks⟩

theorem prehooked_acted : Acted (s.sync e) d.prehooked :=
  acted_of_leads d.inOrder.prehooks.unprepared d.prehooks

theorem entered_acted (h : d.before.raised = []) : Acted (d.prehooked.prepareFrame e) d.entered := by
  obtain ⟨rest, hmiddle, hrest⟩ := (d.inOrder.entered h).prepared
  have hentry := d.entry
  rw [hmiddle] at hentry
  exact acted_of_leads hrest hentry

/-- Without its prehooks a frame is not entered. -/
theorem entered_of_raised (h : d.before.raised ≠ []) : d.entered = d.prehooked := by
  have hentry := d.entry
  rw [d.inOrder.barred h] at hentry
  exact hentry.symm

theorem ended_acted : Acted d.entered d.ended :=
  acted_of_leads (d.inOrder.spared (.inl rfl)).unprepared d.posthooks

/-- The canvas at the end of the phase is the one that the preparation left, or the one that was
found if a prehook failed. -/
theorem ended_canvas :
    (d.before.raised = [] → d.ended.canvas = (d.prehooked.prepareFrame e).canvas) ∧
      (d.before.raised ≠ [] → d.ended.canvas = s.canvas) := by
  constructor
  · intro h
    rw [d.ended_acted.canvas, (d.entered_acted h).canvas]
  · intro h
    rw [d.ended_acted.canvas, d.entered_of_raised h, d.prehooked_acted.canvas]
    rfl

/-- Failures are handled after the phase. -/
theorem ended_status : d.ended.status = s.status := by
  have hentered : d.entered.status = d.prehooked.status := by
    by_cases h : d.before.raised = []
    · exact (d.entered_acted h).status
    · rw [d.entered_of_raised h]
  rw [d.ended_acted.status, hentered, d.prehooked_acted.status]
  rfl

theorem drawnPhase_eq : s.drawnPhase e = (d.ended.failAll e d.raised).flush e := by
  unfold drawnPhase
  rw [d.outcome]
  rfl

end Drawing

/-! ### Failures -/

/-- In the error state the image behind the overlay stays, and the last failure is shown. -/
theorem failAll_of_error {failures : List Failure} {snapshot : Snapshot} {image : Image}
    (hs : s.status = .error) (he : s.error = some snapshot)
    (hb : snapshot.backdrop = some image) :
    (s.failAll e failures).status = .error ∧ ∃ shown, (s.failAll e failures).error = some shown ∧
      shown.backdrop = some image ∧ shown.failure = failures.getLast?.getD snapshot.failure := by
  induction failures generalizing s snapshot with
  | nil => exact ⟨hs, snapshot, he, hb, rfl⟩
  | cons failure rest ih =>
    have hfail : s.fail e failure = s.enterError e failure none := by
      unfold fail
      rw [hs]
    have hkept : s.keptBackdrop = some image := by
      rw [keptBackdrop, he, Option.bind_some, hb, Option.some_or]
    -- the failure that is the last of the rest or, if there is none, this one
    rw [failAll, List.foldl_cons, ← failAll, hfail, List.getLast?_cons, Option.getD_some]
    exact @ih (s.enterError e failure none) _ rfl rfl hkept

/-- **Failures of a running sketch** show the last of them, over the canvas as it is when they are
handled. -/
theorem failAll_of_running {failures : List Failure} (hs : s.status = .running)
    (hf : failures ≠ []) :
    (s.failAll e failures).status = .error ∧ ∃ shown, (s.failAll e failures).error = some shown ∧
      shown.backdrop = some s.canvas.captureFrame ∧ failures.getLast? = some shown.failure := by
  cases failures with
  | nil => exact absurd rfl hf
  | cons failure rest =>
    have hfail : s.fail e failure = s.enterError e failure (some s.canvas.captureFrame) := by
      unfold fail
      rw [hs]
    obtain ⟨hstatus, shown, hshown, himage, hlast⟩ :=
      @failAll_of_error _ _ e (s.enterError e failure (some s.canvas.captureFrame)) rest _ _
        rfl rfl rfl
    rw [failAll, List.foldl_cons, ← failAll, hfail, List.getLast?_cons]
    exact ⟨hstatus, shown, hshown, himage, congrArg some hlast.symm⟩

/-! ### Frames -/

/-- A frame whose phase failed ends in the error state, and no press follows it. -/
theorem drawRunning_of_raised (d : Drawing e s) (hs : s.status = .running) (hr : d.raised ≠ []) :
    s.drawRunning e = { s.drawnPhase e with frameCount := s.frameCount + 1 } := by
  have hcount : (s.drawnPhase e).frameCount = s.frameCount :=
    congrArg Tallies.frameCount ((phased_tallies e s.tallies).drawnPhase rfl)
  have hstatus : (s.drawnPhase e).status = .error := by
    rw [d.drawnPhase_eq]
    exact (failAll_of_running (d.ended_status.trans hs) hr).1
  rw [drawRunning_eq, hcount]
  unfold continuePress
  rw [hstatus]

/-- A frame calls what is on the course of its phase, up to the press of a held button. -/
theorem drawnPhase_calls {s : Session (σ × Ledger η) η} (d : Drawing e.audited s) :
    ∃ reports : Ledger η, (s.drawnPhase e.audited).record = reports ++ s.record ∧
      reports.calls = d.course.calls := by
  have hprepare : ∀ t : Session (σ × Ledger η) η,
      (t.prepareFrame e.audited).record = t.record := fun _ => rfl
  obtain ⟨reports, hrecord, hcalls⟩ := calls_of_leads hprepare d.leads
  obtain ⟨handled, hhandled, hsilent⟩ := failAll_calls d.raised d.ended
  refine ⟨handled ++ reports, ?_, ?_⟩
  · rw [d.drawnPhase_eq]
    calc ((d.ended.failAll e.audited d.raised).flush e.audited).record
        = handled ++ d.ended.record := hhandled
      _ = handled ++ (reports ++ s.record) := congrArg (handled ++ ·) hrecord
      _ = handled ++ reports ++ s.record := (List.append_assoc _ _ _).symm
  · rw [Ledger.calls_append, hcalls, hsilent, List.append_nil]

end Session

/-! ### Commands -/

/-- Sessions of sketches that keep a ledger. -/
abbrev Audit (L : Language) := Session (ScriptState L × Ledger ScriptHandle) ScriptHandle

open ScriptEngine

namespace Session

open Course

variable {L : Language} {s t u : Audit L}

theorem audited_flush_canvas (s : Audit L) :
    (s.flush (scriptEngine L).audited).canvas = s.canvas.paint s.plain.waiting ∧
      (s.flush (scriptEngine L).audited).plain.waiting = [] := by
  have hplain : (s.flush (scriptEngine L).audited).plain = s.plain.flush (scriptEngine L) :=
    ((scriptEngine L).audited_hom.flush_map s).symm
  have hflush := flush_canvas (s := s.plain)
  rw [← hplain] at hflush
  exact hflush

/-- Callables take no command back. -/
theorem waiting_of_leads (hL : L.Queues) {p : Phase} {prepare : Audit L → Audit L}
    {course : Course ScriptHandle} (hc : course.Unprepared)
    (h : Leads (call (scriptEngine L).audited) (announce (scriptEngine L).audited p) prepare course
      t u) : t.plain.waiting <+: u.plain.waiting := by
  induction course generalizing t with
  | nil =>
    obtain rfl : t = u := h
    exact List.prefix_rfl
  | cons step rest ih =>
    have hrest : Unprepared rest := fun step hm => hc step (List.mem_cons_of_mem _ hm)
    cases step with
    | called handle args answer =>
      exact (invoke_waiting hL handle args t.plain.stage).trans (ih hrest h.2)
    | prepared => exact absurd rfl (hc _ List.mem_cons_self)
    | announced handle =>
      exact ih (t := t.announce (scriptEngine L).audited p handle) hrest h

/-! ### The canvas of a frame -/

namespace Drawing

variable (d : Drawing (scriptEngine L).audited s)

/-- The preparation draws what waits, and then moves the canvas back. -/
theorem prepared_canvas : (d.prehooked.prepareFrame (scriptEngine L).audited).canvas =
    (s.canvas.paint d.prehooked.plain.waiting).resetFrame := by
  have hflush := (audited_flush_canvas d.prehooked).1
  rw [d.prehooked_acted.canvas] at hflush
  exact congrArg Canvas.resetFrame hflush

/-- **A frame that fails** counts, calls nothing more, and shows the last failure over the canvas
without the commands of the entry point and of the posthooks. -/
theorem frozen (hs : s.status = .running) (hr : d.raised ≠ []) :
    let drawn := s.drawRunning (scriptEngine L).audited
    drawn.status = .error ∧ drawn.frameCount = s.frameCount + 1 ∧
      (∃ reports : Ledger ScriptHandle, drawn.record = reports ++ s.record ∧
        reports.calls = d.course.calls) ∧
      ∃ snapshot, drawn.error = some snapshot ∧ d.raised.getLast? = some snapshot.failure ∧
        (d.before.raised = [] → snapshot.backdrop =
          some (s.canvas.paint d.prehooked.plain.waiting).captureFrame) ∧
        (d.before.raised ≠ [] → snapshot.backdrop = some s.canvas.captureFrame) := by
  intro drawn
  have hdrawn : drawn = { s.drawnPhase (scriptEngine L).audited with
      frameCount := s.frameCount + 1 } := drawRunning_of_raised d hs hr
  obtain ⟨hstatus, snapshot, hshown, himage, hlast⟩ :=
    failAll_of_running (e := (scriptEngine L).audited) (d.ended_status.trans hs) hr
  have hcalls := drawnPhase_calls d
  -- the commands drawn after the failures do not reach the snapshot
  rw [d.drawnPhase_eq] at hdrawn hcalls
  rw [hdrawn]
  refine ⟨hstatus, rfl, hcalls, snapshot, hshown, hlast, fun hb => ?_, fun hb => ?_⟩
  · rw [himage, d.ended_canvas.1 hb, d.prepared_canvas]
    rfl
  · rw [himage, d.ended_canvas.2 hb]

/-- **A frame that does not fail** draws in two goes, with the canvas moved back in between. -/
theorem unbroken (hr : d.raised = []) : (s.drawnPhase (scriptEngine L).audited).canvas =
    ((s.canvas.paint d.prehooked.plain.waiting).resetFrame).paint d.ended.plain.waiting := by
  have hall : Course.raised (d.before ++ d.middle ++ d.after) = [] := hr
  rw [raised_append, raised_append, List.append_eq_nil_iff, List.append_eq_nil_iff] at hall
  have hdrawn : s.drawnPhase (scriptEngine L).audited =
      d.ended.flush (scriptEngine L).audited := by
    rw [d.drawnPhase_eq, hr]
    rfl
  rw [hdrawn, (audited_flush_canvas d.ended).1, d.ended_canvas.1 hall.1.1, d.prepared_canvas]

end Drawing

/-- A running sketch that can be reached has no request for a file. -/
theorem pending_of_running (settings : Settings) (canvas : Canvas) (files : FileTree)
    (ops : List Operation) :
    let s := (fresh (.empty {}) settings canvas files).play (scriptEngine sketchLanguage) ops
    s.status = .running → pending (s.stage, s.context) = [] := by
  intro s hs
  let r := (Chronicle.start settings canvas files).play (chronicler sketchLanguage) ops
  have hplain : r.plain = s := (running_complete settings canvas files ops).1
  have hr : Intact r := play_invariant (intact_perform sketchLanguage_discreet) ops
    (.inr ⟨rfl, fun a ha => by cases ha⟩)
  rw [← hplain] at hs ⊢
  exact (hr.resolve_left (by simp [show r.status = _ from hs])).settled

/-- **A failing draw freezes the frame before it.** Every frame has a draw phase in three parts. If
something fails in that of a running sketch, the sketch is in error afterwards, the frame counts, and
nothing is called but what is on the course of the phase, so the press of a held button is not
delivered again. The snapshot shows the last failure. Behind it is the canvas as it was before the
commands of the entry point and the posthooks: with those of the prehooks if all of them succeeded,
and without if one failed. If nothing fails, the commands of the prehooks are drawn where the canvas
was moved to before, and those of the entry point, with those of the posthooks after them, on a
canvas that is not moved. Commands that waited when the phase began count among those of the
prehooks; in every session that can be reached there are none, if none waited before the draw. The
ledger changes nothing about the frame. -/
theorem draw_freezes (s : Audit sketchLanguage) (settings : Settings) (canvas : Canvas)
    (files : FileTree) (ops : List Operation) :
    let e := scriptEngine sketchLanguage
    let drawn := s.drawRunning e.audited
    let reached := (fresh (.empty {}) settings canvas files).play e ops
    (s.status = .running → drawn.plain = s.plain.drawRunning e ∧ ∃ d : Drawing e.audited s,
      (s.sync e.audited).plain.waiting <+: d.prehooked.plain.waiting ∧
      (d.prehooked.prepareFrame e.audited).plain.waiting = [] ∧
      d.entered.plain.waiting <+: d.ended.plain.waiting ∧
      (d.raised ≠ [] → drawn.status = .error ∧ drawn.frameCount = s.frameCount + 1 ∧
        (∃ reports : Ledger ScriptHandle, drawn.record = reports ++ s.record ∧
          reports.calls = d.course.calls) ∧
        ∃ snapshot, drawn.error = some snapshot ∧ d.raised.getLast? = some snapshot.failure ∧
          (d.before.raised = [] → snapshot.backdrop =
            some (s.canvas.paint d.prehooked.plain.waiting).captureFrame) ∧
          (d.before.raised ≠ [] → snapshot.backdrop = some s.canvas.captureFrame)) ∧
      (d.raised = [] → (s.drawnPhase e.audited).canvas =
        ((s.canvas.paint d.prehooked.plain.waiting).resetFrame).paint d.ended.plain.waiting)) ∧
      (reached.status = .running → reached.waiting = [] → (reached.sync e).waiting = []) := by
  dsimp only
  constructor
  · intro hs
    obtain ⟨d⟩ := Drawing.nonempty (scriptEngine sketchLanguage).audited s
    exact ⟨((scriptEngine sketchLanguage).audited_hom.drawRunning_map s).symm, d,
      waiting_of_leads sketchLanguage_queues d.inOrder.prehooks.unprepared d.prehooks,
      (audited_flush_canvas d.prehooked).2,
      waiting_of_leads sketchLanguage_queues (d.inOrder.spared (.inl rfl)).unprepared d.posthooks,
      d.frozen hs, d.unbroken⟩
  · intro hs hw
    rw [(sync_waiting sketchLanguage_queues).2 (pending_of_running settings canvas files ops hs)]
    exact hw

/-- A prehook draws, and the entry point draws over it and fails, while a button is held. -/
theorem draw_freezes_after_prehook :
    let e := scriptEngine sketchLanguage
    let files := FileTree.sketchbook ("prehook(\"draw\", \"p\"); fn p() \x7b rect(0, 0, 1, 1); \x7d" ++
      "fn draw() \x7b background(9, 9, 9); throw 1; \x7d") 0 "" 0
    let ops : List Operation :=
      [.install ⟨[⟨"/s"⟩]⟩, .load ⟨"/s/main"⟩, .run, .event (.mousePressed 0 0 .left)]
    let start : Audit sketchLanguage := .fresh (.empty {}, []) {} (.blank 2 1) files
    let s := start.play e.audited ops
    let drawn := s.drawRunning e.audited
    (((fresh (.empty {}) {} (.blank 2 1) files).play e ops).sync e).waiting = [] ∧
      drawn.status = .error ∧ drawn.frameCount = s.frameCount + 1 ∧
      ∃ snapshot, drawn.error = some snapshot ∧ snapshot.backdrop =
        some (s.canvas.paint [.rect ⟨0, 0, 1, 1⟩ .white]).captureFrame := by
  intro e files ops start s drawn
  obtain ⟨hs, hnone, hhooks, hok, hwaiting, hfails⟩ : s.status = .running ∧
      s.plain.waiting = [] ∧
      (s.sync e.audited).context.hooks.pre .draw = [.function "p"] ∧
      ((s.sync e.audited).call e.audited (.function "p") []).2.isOk ∧
      ((s.sync e.audited).call e.audited (.function "p") []).1.plain.waiting =
        [.rect ⟨0, 0, 1, 1⟩ .white] ∧
      ((s.sync e.audited).phase e.audited .draw (prepareFrame e.audited)).2 ≠ [] := by
    decide +kernel
  have hplain : s.plain = (fresh (.empty {}) {} (.blank 2 1) files).play e ops :=
    e.audited_play ops start
  have h := draw_freezes s {} (.blank 2 1) files ops
  refine ⟨h.2 (hplain ▸ hs) (hplain ▸ hnone), ?_⟩
  obtain ⟨-, d, -, -, -, hfrozen, -⟩ := h.1 hs
  clear_value s
  have hr : d.raised ≠ [] := fun hr => hfails ((congrArg Prod.snd d.outcome).trans hr)
  obtain ⟨hstatus, hcount, -, snapshot, hshown, -, himage, -⟩ := hfrozen hr
  refine ⟨hstatus, hcount, snapshot, hshown, ?_⟩
  have hbefore := d.inOrder.prehooks
  have hleads := d.prehooks
  rw [hhooks] at hbefore
  generalize d.before = before at hbefore hleads himage
  cases hbefore with
  | failed _ _ failure =>
    rw [hleads.1] at hok
    cases hok
  | passed _ value hrest =>
    cases hrest
    have hprehooked : ((s.sync e.audited).call e.audited (.function "p") []).1 = d.prehooked :=
      hleads.2
    rw [himage rfl, ← hprehooked, hwaiting]

end Session
end LiveSketch
