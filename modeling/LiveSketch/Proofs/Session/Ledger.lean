import LiveSketch.Proofs.Session.Observed

/-!
# The ledger of an engine

A session learns from its engine whether things went well: an evaluation, a dependency or a call
succeeds or fails. None of these answers is part of any state. To speak about them, an engine is run
together with a ledger, in which every answer is entered when it is given.

The ledger is kept beside the engine's state, as the record of an observer is, and forgetting it is
again a map that commutes with every operation. So the run with a ledger is the run itself.

## Main definitions

* `Report`, `Ledger` — an answer of an engine, and all of them, newest first.
* `Ledger.raised` — the failures among the answers.
* `Ledger.status` — the status that the answers lead to.
* `Ledger.Answered` — every failure that was put into words was an answer before.
* `Engine.audited` — an engine that keeps a ledger.

## Main results

* `Engine.audited_play` — a run with a ledger is the run itself.
-/

namespace LiveSketch

variable {σ η : Type}

/-- An answer that an engine gave. -/
inductive Report (η : Type) where
  /-- A source text was evaluated, with a reset or without. -/
  | evaluated (origin : Path) (reset : Bool) (answer : Except Failure Unit)
  /-- A changed dependency was loaded. -/
  | loaded (path : Path) (answer : Except Failure Unit)
  /-- A callable was run. -/
  | called (handle : η) (args : List Value) (answer : Except Failure Value)
  /-- A failure was put into words, which the session asks for when it handles one. -/
  | worded (failure : Failure) (answer : Except Failure String)

namespace Report

/-- What an evaluation, a dependency or a call failed with. -/
def failures : Report η → List Failure
  | evaluated _ _ answer => Failure.ofAnswer answer
  | loaded _ answer => Failure.ofAnswer answer
  | called _ _ answer => Failure.ofAnswer answer
  | worded _ _ => []

/-- The status after an answer. A successful evaluation makes the sketch run, a failure that is
handled puts it into error, and nothing else matters. -/
def after : Report η → Status → Status
  | evaluated _ _ (.ok ()), _ => .running
  | worded _ _, _ => .error
  | _, status => status

end Report

/-- The answers that an engine gave, newest first. -/
abbrev Ledger (η : Type) := List (Report η)

namespace Ledger

/-- What evaluations, dependencies and calls failed with. -/
def raised (ledger : Ledger η) : List Failure := ledger.flatMap Report.failures

/-- The status that the answers lead to from an earlier one. -/
def status (ledger : Ledger η) (start : Status) : Status := ledger.foldr Report.after start

/-- Every failure that was put into words was an answer before, or has another origin. -/
def Answered (other : Failure → Prop) : Ledger η → Prop
  | [] => True
  | .worded failure _ :: earlier => (failure ∈ raised earlier ∨ other failure) ∧
      Answered other earlier
  | _ :: earlier => Answered other earlier

@[simp] theorem raised_cons (report : Report η) (ledger : Ledger η) :
    raised (report :: ledger) = report.failures ++ raised ledger := rfl

@[simp] theorem status_cons (report : Report η) (ledger : Ledger η) (start : Status) :
    status (report :: ledger) start = report.after (status ledger start) := rfl

/-- No answer takes a session back to where there was no sketch. -/
theorem status_ne_noSketch (ledger : Ledger η) {start : Status} (h : start ≠ .noSketch) :
    ledger.status start ≠ .noSketch := by
  induction ledger with
  | nil => exact h
  | cons report earlier ih =>
    rw [status_cons]
    unfold Report.after
    split
    · exact nofun
    · exact nofun
    · exact ih

/-- Out of the error state leads a successful evaluation, and nothing else. -/
theorem exists_evaluated_of_status {ledger : Ledger η} (h : ledger.status .error ≠ .error) :
    ledger.status .error = .running ∧
      ∃ origin reset, .evaluated origin reset (.ok ()) ∈ ledger := by
  induction ledger with
  | nil => exact absurd rfl h
  | cons report earlier ih =>
    rw [status_cons] at h ⊢
    unfold Report.after at h ⊢
    split at h
    · next origin reset => exact ⟨rfl, origin, reset, List.mem_cons_self⟩
    · exact absurd rfl h
    · obtain ⟨hs, origin, reset, hm⟩ := ih h
      exact ⟨hs, origin, reset, List.mem_cons_of_mem _ hm⟩

/-- A running sketch is stopped by a failure that is handled, and by nothing else. -/
theorem exists_worded_of_status {ledger : Ledger η} (h : ledger.status .running ≠ .running) :
    ledger.status .running = .error ∧ ∃ failure answer, .worded failure answer ∈ ledger := by
  induction ledger with
  | nil => exact absurd rfl h
  | cons report earlier ih =>
    rw [status_cons] at h ⊢
    unfold Report.after at h ⊢
    split at h
    · exact absurd rfl h
    · next failure answer => exact ⟨rfl, failure, answer, List.mem_cons_self⟩
    · obtain ⟨hs, failure, answer, hm⟩ := ih h
      exact ⟨hs, failure, answer, List.mem_cons_of_mem _ hm⟩

/-- A failure that was put into words is one of the answers, if it has no other origin. -/
theorem Answered.of_worded {other : Failure → Prop} {ledger : Ledger η}
    (h : ledger.Answered other) {failure : Failure} {answer : Except Failure String}
    (hm : .worded failure answer ∈ ledger) : failure ∈ ledger.raised ∨ other failure := by
  induction ledger with
  | nil => cases hm
  | cons report earlier ih =>
    rw [raised_cons]
    obtain rfl | hm := List.mem_cons.mp hm
    · exact h.1.imp_left (List.mem_append_right _)
    · have he : Ledger.Answered other earlier := by
        cases report with
        | worded _ _ => exact h.2
        | evaluated _ _ _ | loaded _ _ | called _ _ _ => exact h
      exact (ih he hm).imp_left (List.mem_append_right _)

end Ledger

/-! ### Engines with a ledger -/

namespace Engine

/-- An engine that enters its answers into a ledger. -/
def audited (e : Engine σ η) : Engine (σ × Ledger η) η where
  evaluate source origin reset files stage ctx :=
    let ran := e.evaluate source origin reset files stage.plain ctx
    Prod.map (Stage.map (·, .evaluated origin reset ran.2.2 :: stage.engine.2)) id ran
  loadDependency path files stage ctx :=
    let ran := e.loadDependency path files stage.plain ctx
    Prod.map (Stage.map (·, .loaded path ran.2.2 :: stage.engine.2)) id ran
  processError failure stage :=
    let told := e.processError failure stage.plain
    Prod.map (Stage.map (·, .worded failure told.2 :: stage.engine.2)) id told
  sync env files stage ctx :=
    Prod.map (Stage.map (·, stage.engine.2)) id (e.sync env files stage.plain ctx)
  flush stage canvas :=
    Prod.map (Stage.map (·, stage.engine.2)) id (e.flush stage.plain canvas)
  invoke handle args stage :=
    let ran := e.invoke handle args stage.plain
    Prod.map (Stage.map (·, .called handle args ran.2 :: stage.engine.2)) id ran
  label := e.label

/-- Forgetting the ledger commutes with everything the engine does. -/
theorem audited_hom (e : Engine σ η) : e.audited.Hom e Prod.fst where
  evaluate _ _ _ _ _ _ := rfl
  loadDependency _ _ _ _ := rfl
  processError _ _ := rfl
  sync _ _ _ _ := rfl
  flush _ _ := rfl
  invoke _ _ _ := rfl
  label := rfl

/-- **A run with a ledger is the run itself.** -/
theorem audited_play (e : Engine σ η) (ops : List Operation) (s : Session (σ × Ledger η) η) :
    (s.play e.audited ops).plain = s.plain.play e ops :=
  ((audited_hom e).play ops s).symm

end Engine

/-! ### What a session enters -/

/-- The message of a failure: what was answered when it was put into words, or its own text if that
failed. -/
def Failure.wording (failure : Failure) : Except Failure String → String
  | .ok message => message
  | .error _ => failure.message

namespace Session

variable {e : Engine σ η} {s : Session (σ × Ledger η) η}

theorem call_record (handle : η) (args : List Value) :
    (s.call e.audited handle args).1.record =
      .called handle args (s.call e.audited handle args).2 :: s.record := rfl

/-- A failure is put into words once when it is handled, and the snapshot shows the outcome. -/
theorem enterError_record (e : Engine σ η) (s : Session (σ × Ledger η) η) (failure : Failure)
    (backdrop : Option Image) : ∃ answer,
      (s.enterError e.audited failure backdrop).record = .worded failure answer :: s.record ∧
        (s.enterError e.audited failure backdrop).error =
          some ⟨backdrop.or s.keptBackdrop, failure.wording answer, failure⟩ := by
  have hp : e.audited.processError failure s.stage =
      let told := e.processError failure s.stage.plain
      Prod.map (Stage.map (·, .worded failure told.2 :: s.record)) id told := rfl
  unfold enterError describeFailure
  rw [hp]
  generalize e.processError failure s.stage.plain = told
  obtain ⟨stage, again | message⟩ := told
  · exact ⟨.error again, rfl, rfl⟩
  · exact ⟨.ok message, rfl, rfl⟩

/-- A frame in error calls the drawing defaults, and nothing else. -/
theorem drawError_record (e : Engine σ η) (s : Session (σ × Ledger η) η) :
    ∃ overlay : Ledger η, (s.drawError e.audited).record = overlay ++ s.record ∧
      (overlay = [] ∨ ∃ handle answer, overlay = [.called handle [] answer] ∧
        (s.overlaid.sync e.audited).context.entries.get .defaults = some handle) := by
  have ho : (s.overlaid.sync e.audited).record = s.record := by
    rw [overlaid]
    split <;> rfl
  rw [drawError_eq, applyDefaults]
  cases hd : (s.overlaid.sync e.audited).context.entries.get .defaults with
  | none => exact ⟨[], ho, .inl rfl⟩
  | some handle =>
    have hc := call_record (e := e) (s := s.overlaid.sync e.audited) handle []
    rw [ho] at hc
    refine ⟨[.called handle [] ((s.overlaid.sync e.audited).call e.audited handle []).2], ?_,
      .inr ⟨handle, _, rfl, rfl⟩⟩
    dsimp only
    generalize (s.overlaid.sync e.audited).call e.audited handle [] = ran at hc ⊢
    rcases ran with ⟨t, failure | value⟩
    · exact hc
    · exact hc

theorem evaluate_record (source : String) (path : Path) (forced : Bool) :
    (s.evaluate e.audited source path forced).1.record =
      .evaluated path forced (s.evaluate e.audited source path forced).2 :: s.record := by
  rw [evaluate_eq]
  unfold record
  rw [adopt_engine]
  rfl

end Session

end LiveSketch
