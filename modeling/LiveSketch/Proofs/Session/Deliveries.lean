import LiveSketch.Proofs.Session.PhaseOrder
import LiveSketch.Proofs.Session.Tallies

/-!
# What is delivered, and when

An event is delivered to one entry point at most, and with its own arguments. All other calls, those
of phases and of reloads, have no arguments at all. In a ledger this tells them apart: since some
point in a run a session called *barely* what needs no arguments, or it delivered an event.

A draw makes one delivery of its own. While a button is held, its press is delivered once more after
the draw phase, and the calls before and after it are without arguments.

## Main definitions

* `InputEvent.entry`, `InputEvent.arguments` — what an event is delivered to, and with.
* `Ledger.Bare` — no call has arguments.
* `Session.Barely` — since a ledger there were only such calls.

## Main results

* `Session.input_calls` — what an event delivers.
* `Session.reloaded_barely` — reloads deliver nothing.
* `Session.draw_calls` — what a draw delivers.
-/

namespace LiveSketch

namespace InputEvent

/-- The entry point of an event. A key that goes down while one is held is a repeat. -/
def entry (keyHeld : Bool) : InputEvent → Entry
  | keyPressed _ => if keyHeld then .keyPressed else .keyDown
  | keyReleased _ => .keyUp
  | mouseMoved _ _ => .mouseMoved
  | mouseDragged _ _ _ => .mouseDragged
  | mousePressed _ _ _ => .mouseDown
  | mouseReleased _ _ _ => .mouseUp
  | windowResized _ _ => .windowResized

/-- What the entry point is told. -/
def arguments : InputEvent → List Value
  | keyPressed key => [.str key]
  | keyReleased key => [.str key]
  | mouseMoved x y => [.int x, .int y]
  | mouseDragged x y button => [.int x, .int y, .str button.name]
  | mousePressed x y button => [.int x, .int y, .str button.name]
  | mouseReleased x y button => [.int x, .int y, .str button.name]
  | windowResized width height => [.int width, .int height]

end InputEvent

namespace Session

variable {σ η : Type}

/-! ### Events -/

theorem delivery_entry (event : InputEvent) (s : Session σ η) :
    (s.delivery event).2 = (event.entry s.keyHeld, event.arguments) := by
  cases event <;> rfl

/-- An entry point is called once with the arguments of its event, if there is one and the sketch
is running. -/
theorem deliver_calls (e : Engine σ η) (entry : Entry) (args : List Value)
    (s : Session (σ × Ledger η) η) : ∃ reports : Ledger η,
      (s.deliver e.audited entry args).record = reports ++ s.record ∧ reports.calls =
        if s.status = .running then ((s.context.entries.get entry).map (·, args)).toList
        else [] := by
  rw [deliver]
  split
  · next handle hrunning hentry =>
    rw [if_pos hrunning, hentry]
    let t := (s.note .trace .input s!"event -> {e.label handle}").sync e.audited
    let called : Report η := .called handle args (t.call e.audited handle args).2
    let u := (t.call e.audited handle args).1.flush e.audited
    have hcalled : u.record = [called] ++ s.record := call_record handle args
    dsimp only
    split
    · exact ⟨[called], hcalled, rfl⟩
    · next failure _ =>
      obtain ⟨backdrop, hfail⟩ := exists_fail_eq_enterError e.audited failure u
      obtain ⟨answer, hworded, -⟩ := enterError_record e u failure backdrop
      rw [← hfail, hcalled] at hworded
      exact ⟨[.worded failure answer, called], hworded, rfl⟩
  · next hnone =>
    refine ⟨[], rfl, ?_⟩
    split
    · next hrunning =>
      cases hentry : s.context.entries.get entry with
      | none => rfl
      | some handle => exact absurd hentry (hnone handle hrunning)
    · rfl

/-- **An event calls its entry point and nothing else**, and only while the sketch is running. -/
theorem input_calls (e : Engine σ η) (event : InputEvent) (s : Session (σ × Ledger η) η) :
    ∃ reports : Ledger η, (s.input e.audited event).record = reports ++ s.record ∧
      reports.calls = if s.status = .running then
        ((s.context.entries.get (event.entry s.keyHeld)).map (·, event.arguments)).toList
      else [] := by
  have hcalls := deliver_calls e (s.delivery event).2.1 (s.delivery event).2.2
    (s.delivery event).1
  rw [delivery_entry] at hcalls
  rw [input_eq, delivery_entry]
  cases event <;> exact hcalls

end Session

/-! ### Calls without arguments -/

/-- No call has arguments. -/
def Ledger.Bare {η : Type} (ledger : Ledger η) : Prop := ∀ call ∈ ledger.calls, call.2 = []

namespace Course

variable {η : Type} {h : Hooks η} {phase : Phase} {entry : Option η}
  {before middle after : Course η}

theorem UntilFailure.bare {hooks : List η} {course : Course η} (h : UntilFailure hooks course) :
    ∀ call ∈ course.calls, call.2 = [] := by
  induction h with
  | none => simp [calls]
  | failed hook rest failure => simp [calls, PhaseStep.call?]
  | passed hook value _ ih => simpa [calls, PhaseStep.call?] using ih

/-- A phase whose entry point gets no arguments makes no call with arguments. -/
theorem InOrder.bare (ho : InOrder h phase entry [] before middle after) :
    ∀ call ∈ (before ++ middle ++ after).calls, call.2 = [] := by
  have hmiddle : ∀ call ∈ middle.calls, call.2 = [] := by
    by_cases hraised : raised before = []
    · cases ho.entered hraised <;> simp [calls, PhaseStep.call?]
    · simp [ho.barred hraised, calls]
  have hafter : ∀ call ∈ after.calls, call.2 = [] := by
    by_cases hspared : phase = .draw ∨ phase = .exit
    · simp [(ho.spared hspared).calls]
    · have hphase : phase = .setup ∨ phase = .update := by cases phase <;> simp at hspared ⊢
      by_cases hraised : raised (before ++ middle) = []
      · exact (ho.posthooks hphase hraised).bare
      · simp [ho.skipped hphase hraised, calls]
  simp only [calls_append, List.forall_mem_append]
  exact ⟨⟨ho.prehooks.bare, hmiddle⟩, hafter⟩

end Course

namespace Session

variable {σ η : Type} {e : Engine σ η} {s t : Session (σ × Ledger η) η} {base : Ledger η}

/-- Since a ledger there were only calls without arguments. -/
def Barely (base : Ledger η) (s : Session (σ × Ledger η) η) : Prop :=
  ∃ reports : Ledger η, s.record = reports ++ base ∧ reports.Bare

namespace Barely

theorem of_silent {reports : Ledger η} (hr : s.record = reports ++ base)
    (hc : reports.calls = []) : Barely base s :=
  ⟨reports, hr, by simp [Ledger.Bare, hc]⟩

theorem refl (s : Session (σ × Ledger η) η) : Barely s.record s :=
  of_silent (List.nil_append s.record).symm rfl

theorem trans (h : Barely base s) (h' : Barely s.record t) : Barely base t := by
  obtain ⟨reports, hs, hreports⟩ := h
  obtain ⟨more, ht, hmore⟩ := h'
  refine ⟨more ++ reports, by rw [ht, hs, List.append_assoc], ?_⟩
  simp only [Ledger.Bare, Ledger.calls_append, List.forall_mem_append]
  exact ⟨hreports, hmore⟩

/-- Something else is entered. -/
theorem report (h : Barely base s) (report : Report η) (ht : t.record = report :: s.record)
    (hr : ∀ call, report.call? = some call → call.2 = []) : Barely base t := by
  refine h.trans ⟨[report], ht, ?_⟩
  simpa [Ledger.Bare, Ledger.calls] using fun a b => hr (a, b)

end Barely

/-- Phases give no arguments to what they call. -/
theorem phase_barely (e : Engine σ η) (p : Phase)
    {prepare : Session (σ × Ledger η) η → Session (σ × Ledger η) η}
    (hp : ∀ t, (prepare t).record = t.record) (s : Session (σ × Ledger η) η) :
    Barely s.record (s.phase e.audited p prepare).1 := by
  obtain ⟨before, middle, after, horder, hleads, -⟩ := s.context.hooks.invokePhase_inOrder
    (call e.audited) (announce e.audited p) prepare p (s.context.entries.get (.ofPhase p)) [] s
  obtain ⟨reports, hrecord, hcalls⟩ := calls_of_leads hp hleads
  refine ⟨reports, hrecord, ?_⟩
  rw [Ledger.Bare, hcalls]
  exact horder.bare

theorem failAll_barely (e : Engine σ η) (failures : List Failure) (s : Session (σ × Ledger η) η) :
    Barely s.record (s.failAll e.audited failures) := by
  obtain ⟨reports, hrecord, hcalls⟩ := failAll_calls failures s
  exact .of_silent hrecord hcalls

theorem runPhase_barely (e : Engine σ η) (p : Phase) (s : Session (σ × Ledger η) η) :
    Barely s.record (s.runPhase e.audited p) := by
  have hprepare : ∀ t : Session (σ × Ledger η) η, (id t).record = t.record := fun _ => rfl
  have hphase := phase_barely e p hprepare (s.sync e.audited)
  rw [runPhase]
  generalize (s.sync e.audited).phase e.audited p id = ran at hphase ⊢
  exact hphase.trans (failAll_barely e ran.2 (ran.1.flush e.audited))

theorem setup_barely (e : Engine σ η) (s : Session (σ × Ledger η) η) :
    Barely s.record (s.setup e.audited) := by
  rw [setup]
  dsimp only
  split
  · exact runPhase_barely e .setup { s with setupDone := true }
  · exact .refl s

theorem enterError_barely (e : Engine σ η) (failure : Failure) (backdrop : Option Image)
    (s : Session (σ × Ledger η) η) :
    Barely s.record (s.enterError e.audited failure backdrop) := by
  obtain ⟨answer, hworded, -⟩ := enterError_record e s failure backdrop
  exact (Barely.refl s).report _ hworded (by simp [Report.call?])

/-- Reloads give no arguments to what they call. -/
theorem reloaded_barely (e : Engine σ η) (base : Ledger η) : Reloaded e.audited (Barely base) where
  note _ _ _ _ h := h
  report _ _ _ h := h
  setup s h := h.trans (setup_barely e s)
  fail s failure h := by
    obtain ⟨backdrop, hfail⟩ := exists_fail_eq_enterError e.audited failure s
    rw [hfail]
    exact h.trans (enterError_barely e failure backdrop s)
  evaluate s source path forced h :=
    h.report _ (evaluate_record source path forced) (by simp [Report.call?])
  loadDependency s path h :=
    h.report (.loaded path (e.audited.loadDependency path s.files s.stage s.context).2.2) rfl
      (by simp [Report.call?])
  enterError s failure backdrop h := h.trans (enterError_barely e failure backdrop s)
  status _ _ _ h := h
  lastGoodFrame _ _ h := h

/-! ### Draws -/

/-- A frame in error gives no arguments to what it calls. -/
theorem drawError_barely (e : Engine σ η) (s : Session (σ × Ledger η) η) :
    Barely s.record (s.drawError e.audited) := by
  obtain ⟨overlay, hrecord, rfl | ⟨handle, answer, rfl, -⟩⟩ := drawError_record e s
  · exact .of_silent hrecord rfl
  · exact (Barely.refl s).report _ hrecord (by simp [Report.call?])

/-- Neither does a frame of a running sketch, up to the press of a held button. -/
theorem drawnPhase_barely (e : Engine σ η) (s : Session (σ × Ledger η) η) :
    Barely s.record (s.drawnPhase e.audited) := by
  have hprepare : ∀ t : Session (σ × Ledger η) η,
      (t.prepareFrame e.audited).record = t.record := fun _ => rfl
  have hphase := phase_barely e .draw hprepare (s.sync e.audited)
  rw [drawnPhase]
  generalize (s.sync e.audited).phase e.audited .draw (prepareFrame e.audited) = ran at hphase ⊢
  exact hphase.trans (failAll_barely e ran.2 ran.1)

/-- What is called when the press of a held button is delivered once more. -/
def repeatedPress (s : Session σ η) : List (η × List Value) :=
  match s.status, s.pointer.continuedPress with
  | .running, some (x, y, button) =>
    ((s.context.entries.get .mousePressed).map (·, pointerArgs x y button)).toList
  | _, _ => []

/-- While the sketch is running and a button is held, it is the entry point for that. -/
theorem repeatedPress_of_held {s : Session σ η} {button : MouseButton}
    (hs : s.status = .running) (hh : s.pointer.held = true)
    (hb : s.pointer.button = some button) : s.repeatedPress =
      ((s.context.entries.get .mousePressed).map
        (·, pointerArgs s.pointer.x s.pointer.y button)).toList := by
  simp only [repeatedPress, Pointer.continuedPress, hs, hh, hb]

/-- Otherwise it is nothing. -/
theorem repeatedPress_of_not {s : Session σ η}
    (h : ¬(s.status = .running ∧ s.pointer.held = true)) : s.repeatedPress = [] := by
  rw [repeatedPress]
  split
  · next x y button hrunning hpress =>
    have hheld : s.pointer.held = true := by
      cases hh : s.pointer.held <;> simp [Pointer.continuedPress, hh] at hpress ⊢
    exact absurd ⟨hrunning, hheld⟩ h
  · rfl

theorem continuePress_calls (e : Engine σ η) (s : Session (σ × Ledger η) η) :
    ∃ press : Ledger η, (s.continuePress e.audited).record = press ++ s.record ∧
      press.calls = s.repeatedPress := by
  unfold continuePress repeatedPress
  cases hs : s.status with
  | running =>
    cases s.pointer.continuedPress with
    | none => exact ⟨[], rfl, rfl⟩
    | some press =>
      obtain ⟨x, y, button⟩ := press
      have hcalls := deliver_calls e .mousePressed (pointerArgs x y button) s
      rwa [if_pos hs] at hcalls
  | noSketch | error => exact ⟨[], rfl, rfl⟩

/-- A frame of a running sketch presses a held button again after its phase. -/
theorem drawRunning_calls (e : Engine σ η) (s : Session (σ × Ledger η) η) :
    ∃ before press : Ledger η,
      (s.drawRunning e.audited).record = press ++ (before ++ s.record) ∧ before.Bare ∧
        press.calls = (s.drawnPhase e.audited).repeatedPress := by
  have hbarely := drawnPhase_barely e s
  rw [drawRunning_eq]
  generalize s.drawnPhase e.audited = ended at hbarely ⊢
  obtain ⟨before, hbefore, hbare⟩ := hbarely
  obtain ⟨press, hpress, hcalls⟩ := continuePress_calls e
    { ended with frameCount := ended.frameCount + 1 }
  exact ⟨before, press, hpress.trans (congrArg (press ++ ·) hbefore), hbare, hcalls⟩

theorem frame_calls (e : Engine σ η) (s : Session (σ × Ledger η) η) :
    ∃ before press : Ledger η,
      (s.frame e.audited).record = press ++ (before ++ s.record) ∧ before.Bare ∧
        press.calls = if s.status = .running then (s.drawnPhase e.audited).repeatedPress
          else [] := by
  rw [frame]
  cases hs : s.status with
  | noSketch =>
    obtain ⟨before, hrecord, hbare⟩ := Barely.refl s
    exact ⟨before, [], hrecord, hbare, rfl⟩
  | error =>
    obtain ⟨before, hrecord, hbare⟩ := drawError_barely e s
    exact ⟨before, [], hrecord, hbare, rfl⟩
  | running => exact drawRunning_calls e s

/-- **A draw delivers one event at most**, the press of a held button, if the sketch is running when
it begins and when its phase has ended. All its other calls are without arguments. -/
theorem draw_calls (e : Engine σ η) (s : Session (σ × Ledger η) η) :
    ∃ before press after : Ledger η,
      (s.draw e.audited).1.record = after ++ (press ++ (before ++ s.record)) ∧
        before.Bare ∧ after.Bare ∧
        press.calls = if s.status = .running then (s.drawnPhase e.audited).repeatedPress
          else [] := by
  obtain ⟨before, press, hrecord, hbefore, hpress⟩ := frame_calls e s
  obtain ⟨after, hdrawn, hafter⟩ :=
    (reloaded_barely e _).poll (fun _ _ _ h => h) (.refl (s.frame e.audited))
  refine ⟨before, press, after, ?_, hbefore, hafter, hpress⟩
  rw [hdrawn, hrecord]

end Session

end LiveSketch
