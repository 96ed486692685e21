import LiveSketch.Proofs.Session.Ledger

/-!
# The order of a phase

A phase runs prehooks, prepares, runs its entry point and then posthooks, and a failure on the way
decides what is left out. The rules are easy to say and easy to get wrong: there can be any number
of hooks, every answer may depend on all that was run before, and there are two policies for
posthooks.

## Courses

What a phase does is written down as a *course*, one entry for each callable that is run, with its
answer. The rules of a phase are a predicate of courses, with one constructor for each thing that
can happen to the first hook of a list, and they say nothing about states. That a course is what
really happens is said apart from it: it *leads* from the state before the phase to the state after
it, each answer being the one that is given in the state where the callable is run. No other course
that obeys the rules leads anywhere from there, so the rules leave nothing open. States are
arbitrary, and may keep a record of what is run. The exit of a session is looked at with a ledger
for this reason.

## Main definitions

* `PhaseStep`, `Course` — one thing that a phase does, and all of them, oldest first.
* `Course.UntilFailure`, `Course.Each`, `Course.Enters` — the rules for hooks and the entry point.
* `Course.InOrder` — the rules of a phase.
* `Course.Leads` — what a course does to a state.

## Main results

* `Course.InOrder.unique` — the rules leave nothing open.
* `Hooks.invokePhase_inOrder` — every phase obeys its rules.
* `Session.exit_calls` — what an exit runs, in every state.
* `Hooks.phase_in_order` — all of it together.
-/

namespace LiveSketch

variable {σ η τ : Type}

/-- One thing that a phase does. -/
inductive PhaseStep (η : Type) where
  /-- A callable is run. -/
  | called (handle : η) (args : List Value) (answer : Except Failure Value)
  /-- Preparations are made for the entry point. -/
  | prepared
  /-- The entry point is announced. -/
  | announced (handle : η)

namespace PhaseStep

/-- What a step fails with. -/
def failures : PhaseStep η → List Failure
  | called _ _ answer => Failure.ofAnswer answer
  | prepared => []
  | announced _ => []

/-- The callable that a step runs, and its arguments. -/
def call? : PhaseStep η → Option (η × List Value)
  | called handle args _ => some (handle, args)
  | prepared => none
  | announced _ => none

end PhaseStep

/-- What a phase does, oldest first. -/
abbrev Course (η : Type) := List (PhaseStep η)

namespace Course

/-- The failures on the way, in order. -/
def raised (course : Course η) : List Failure := course.flatMap PhaseStep.failures

/-- The calls on the way, in order. -/
def calls (course : Course η) : List (η × List Value) := course.filterMap PhaseStep.call?

@[simp] theorem raised_append (course more : Course η) :
    raised (course ++ more) = raised course ++ raised more :=
  List.flatMap_append

@[simp] theorem calls_append (course more : Course η) :
    calls (course ++ more) = calls course ++ calls more :=
  List.filterMap_append

/-! ### The rules -/

/-- Callables are run in order and without arguments, up to and including the first that fails. -/
inductive UntilFailure : List η → Course η → Prop where
  | none : UntilFailure [] []
  | failed (hook : η) (rest : List η) (failure : Failure) :
    UntilFailure (hook :: rest) [.called hook [] (.error failure)]
  | passed (hook : η) (value : Value) {rest : List η} {course : Course η} :
    UntilFailure rest course → UntilFailure (hook :: rest) (.called hook [] (.ok value) :: course)

/-- Callables are run in order and without arguments, all of them. -/
inductive Each : List η → Course η → Prop where
  | none : Each [] []
  | called (hook : η) (answer : Except Failure Value) {rest : List η} {course : Course η} :
    Each rest course → Each (hook :: rest) (.called hook [] answer :: course)

/-- Preparations are made once, and the entry point is run after them, if there is one. -/
inductive Enters (args : List Value) : Option η → Course η → Prop where
  | without : Enters args none [.prepared]
  | entered (handle : η) (answer : Except Failure Value) :
    Enters args (some handle) [.prepared, .announced handle, .called handle args answer]

/-- The rules of a phase, for what comes before its entry point, around it, and after it. -/
structure InOrder (h : Hooks η) (phase : Phase) (entry : Option η) (args : List Value)
    (before middle after : Course η) : Prop where
  prehooks : UntilFailure (h.pre phase) before
  entered : raised before = [] → Enters args entry middle
  barred : raised before ≠ [] → middle = []
  /-- The posthooks of drawing and exiting are run in any case, and all of them. -/
  spared : phase = .draw ∨ phase = .exit → Each (h.post phase) after
  /-- Those of setup and update are run if nothing has failed, and stop at a failure. -/
  posthooks : phase = .setup ∨ phase = .update → raised (before ++ middle) = [] →
    UntilFailure (h.post phase) after
  skipped : phase = .setup ∨ phase = .update → raised (before ++ middle) ≠ [] → after = []

/-- Hooks that are all run are called once each, in order and without arguments. -/
theorem Each.calls {hooks : List η} {course : Course η} (h : Each hooks course) :
    course.calls = hooks.map fun hook => (hook, []) := by
  induction h with
  | none => rfl
  | called hook answer _ ih => exact congrArg ((hook, []) :: ·) ih

/-! ### What a course does -/

section

variable (call : Hooks.Caller η τ) (announce : η → τ → τ) (prepare : τ → τ)

/-- A course leads from one state to another if its steps do, one after the other, and every answer
is the one that is given where the callable is run. -/
def Leads : Course η → τ → τ → Prop
  | [], t, u => t = u
  | .called handle args answer :: rest, t, u =>
    (call handle args t).2 = answer ∧ Leads rest (call handle args t).1 u
  | .prepared :: rest, t, u => Leads rest (prepare t) u
  | .announced handle :: rest, t, u => Leads rest (announce handle t) u

end

section

variable {call : Hooks.Caller η τ} {announce : η → τ → τ} {prepare : τ → τ} {t u v : τ}

theorem leads_append {course more : Course η} :
    Leads call announce prepare (course ++ more) t v ↔
      ∃ u, Leads call announce prepare course t u ∧ Leads call announce prepare more u v := by
  induction course generalizing t with
  | nil => simp [Leads]
  | cons step rest ih =>
    cases step with
    | called handle args answer => simp [Leads, ih, and_assoc]
    | prepared => simp [Leads, ih]
    | announced handle => simp [Leads, ih]

/-- Where a course leads is determined by where it starts. -/
theorem Leads.unique {course : Course η} (hu : Leads call announce prepare course t u)
    (hv : Leads call announce prepare course t v) : u = v := by
  induction course generalizing t with
  | nil => exact hu.symm.trans hv
  | cons step rest ih =>
    cases step with
    | called handle args answer => exact ih hu.2 hv.2
    | prepared => exact ih hu hv
    | announced handle => exact ih hu hv

/-! ### The rules leave nothing open

Of two courses that obey the same rule and lead away from the same state, the first answers agree,
so the rule goes on in the same way. -/

theorem UntilFailure.unique {hooks : List η} {course other : Course η}
    (h : UntilFailure hooks course) (ho : UntilFailure hooks other)
    (hu : Leads call announce prepare course t u) (hv : Leads call announce prepare other t v) :
    course = other := by
  induction h generalizing t other with
  | none => cases ho; rfl
  | failed hook rest failure =>
    cases ho with
    | failed _ _ again => rw [← hu.1, ← hv.1]
    | passed _ value _ => exact nomatch hu.1.symm.trans hv.1
  | passed hook value _ ih =>
    cases ho with
    | failed _ _ failure => exact nomatch hu.1.symm.trans hv.1
    | passed _ again ho => rw [← hu.1, ← hv.1, ih ho hu.2 hv.2]

theorem Each.unique {hooks : List η} {course other : Course η} (h : Each hooks course)
    (ho : Each hooks other) (hu : Leads call announce prepare course t u)
    (hv : Leads call announce prepare other t v) : course = other := by
  induction h generalizing t other with
  | none => cases ho; rfl
  | called hook answer _ ih =>
    cases ho with
    | called _ again ho => rw [← hu.1, ← hv.1, ih ho hu.2 hv.2]

theorem Enters.unique {args : List Value} {entry : Option η} {course other : Course η}
    (h : Enters args entry course) (ho : Enters args entry other)
    (hu : Leads call announce prepare course t u) (hv : Leads call announce prepare other t v) :
    course = other := by
  cases h with
  | without => cases ho; rfl
  | entered handle answer =>
    cases ho with
    | entered _ again => rw [← hu.1, ← hv.1]

/-- **The rules leave nothing open.** -/
theorem InOrder.unique {h : Hooks η} {phase : Phase} {entry : Option η} {args : List Value}
    {before middle after before' middle' after' : Course η}
    (hc : InOrder h phase entry args before middle after)
    (ho : InOrder h phase entry args before' middle' after')
    (hu : Leads call announce prepare (before ++ middle ++ after) t u)
    (hv : Leads call announce prepare (before' ++ middle' ++ after') t v) :
    before = before' ∧ middle = middle' ∧ after = after' := by
  obtain ⟨u₂, hu, huafter⟩ := leads_append.mp hu
  obtain ⟨u₁, hubefore, humiddle⟩ := leads_append.mp hu
  obtain ⟨v₂, hv, hvafter⟩ := leads_append.mp hv
  obtain ⟨v₁, hvbefore, hvmiddle⟩ := leads_append.mp hv
  obtain rfl : before = before' := hc.prehooks.unique ho.prehooks hubefore hvbefore
  obtain rfl : u₁ = v₁ := hubefore.unique hvbefore
  obtain rfl : middle = middle' := by
    by_cases hraised : raised before = []
    · exact (hc.entered hraised).unique (ho.entered hraised) humiddle hvmiddle
    · rw [hc.barred hraised, ho.barred hraised]
  obtain rfl : u₂ = v₂ := humiddle.unique hvmiddle
  refine ⟨rfl, rfl, ?_⟩
  have hsetup : phase = .setup ∨ phase = .update → after = after' := by
    intro hp
    by_cases hraised : raised (before ++ middle) = []
    · exact (hc.posthooks hp hraised).unique (ho.posthooks hp hraised) huafter hvafter
    · rw [hc.skipped hp hraised, ho.skipped hp hraised]
  cases phase with
  | setup => exact hsetup (.inl rfl)
  | update => exact hsetup (.inr rfl)
  | draw => exact (hc.spared (.inl rfl)).unique (ho.spared (.inl rfl)) huafter hvafter
  | exit => exact (hc.spared (.inr rfl)).unique (ho.spared (.inr rfl)) huafter hvafter

end

end Course

namespace Hooks

open Course

variable (call : Caller η τ) (announce : η → τ → τ) (prepare : τ → τ)

/-! ### Parts of a pipeline -/

/-- A part of a pipeline follows a rule: it takes a course that obeys it, to the state that it
returns, and it returns what was raised on the way. -/
def Follows (rule : Course η → Prop) (t : τ) (ran : τ × List Failure) : Prop :=
  ∃ course, rule course ∧ Leads call announce prepare course t ran.1 ∧ ran.2 = course.raised

theorem runUntilFailure_follows (hooks : List η) (t : τ) :
    Follows call announce prepare (UntilFailure hooks) t (runUntilFailure call hooks t) := by
  induction hooks generalizing t with
  | nil => exact ⟨[], .none, rfl, rfl⟩
  | cons hook rest ih =>
    rw [runUntilFailure]
    rcases hran : call hook [] t with ⟨u, failure | value⟩
    · refine ⟨_, .failed hook rest failure, ?_, rfl⟩
      simp [Leads, hran]
    · obtain ⟨course, hrule, hleads, hraised⟩ := ih u
      refine ⟨_, .passed hook value hrule, ?_, hraised⟩
      simpa [Leads, hran] using hleads

theorem runEach_follows (hooks : List η) (t : τ) :
    Follows call announce prepare (Each hooks) t (runEach call hooks t) := by
  induction hooks generalizing t with
  | nil => exact ⟨[], .none, rfl, rfl⟩
  | cons hook rest ih =>
    rw [runEach]
    rcases hran : call hook [] t with ⟨u, answer⟩
    obtain ⟨course, hrule, hleads, hraised⟩ := ih u
    have hcourse : Leads call announce prepare (.called hook [] answer :: course) t
        (runEach call rest u).1 := by
      simpa [Leads, hran] using hleads
    cases answer with
    | error failure => exact ⟨_, .called hook _ hrule, hcourse, congrArg (failure :: ·) hraised⟩
    | ok value => exact ⟨_, .called hook _ hrule, hcourse, hraised⟩

theorem runEntry_follows (entry : Option η) (args : List Value) (t : τ) :
    Follows call announce prepare (Enters args entry) t
      (runEntry call announce entry args (prepare t)) := by
  cases entry with
  | none => exact ⟨_, .without, rfl, rfl⟩
  | some handle =>
    rw [runEntry]
    rcases hran : call handle args (announce handle (prepare t)) with ⟨u, failure | value⟩
    · refine ⟨_, .entered handle (.error failure), ?_, rfl⟩
      simp [Leads, hran]
    · refine ⟨_, .entered handle (.ok value), ?_, rfl⟩
      simp [Leads, hran]

/-! ### Whole phases -/

variable {call} in
/-- What happens around the entry point, whether it is reached or not. -/
theorem exists_middle (entry : Option η) (args : List Value) {before : Course η} {t t₁ : τ}
    (hbefore : Leads call announce prepare before t t₁) :
    let ran := if (raised before).isEmpty then runEntry call announce entry args (prepare t₁)
      else (t₁, raised before)
    ∃ middle, (raised before = [] → Enters args entry middle) ∧
      (raised before ≠ [] → middle = []) ∧
      Leads call announce prepare (before ++ middle) t ran.1 ∧
      ran.2 = raised (before ++ middle) := by
  dsimp only
  by_cases hnone : raised before = []
  · obtain ⟨middle, hrule, hleads, hfailed⟩ :=
      runEntry_follows call announce prepare entry args t₁
    rw [if_pos (List.isEmpty_iff.mpr hnone)]
    refine ⟨middle, fun _ => hrule, fun hsome => absurd hnone hsome,
      leads_append.mpr ⟨t₁, hbefore, hleads⟩, ?_⟩
    rw [hfailed, raised_append, hnone, List.nil_append]
  · rw [if_neg fun he => hnone (List.isEmpty_iff.mp he)]
    exact ⟨[], fun he => absurd he hnone, fun _ => rfl, by simpa using hbefore, by simp⟩

variable {call} in
/-- What happens after the entry point, by the policy of the phase. -/
theorem exists_after (h : Hooks η) (phase : Phase) {course : Course η} {t t₂ : τ}
    (hcourse : Leads call announce prepare course t t₂) :
    let ran := if phase.sparesPosthooks then
        ((runEach call (h.post phase) t₂).1, raised course ++ (runEach call (h.post phase) t₂).2)
      else if (raised course).isEmpty then runUntilFailure call (h.post phase) t₂
      else (t₂, raised course)
    ∃ after, (phase = .draw ∨ phase = .exit → Each (h.post phase) after) ∧
      (phase = .setup ∨ phase = .update → raised course = [] →
        UntilFailure (h.post phase) after) ∧
      (phase = .setup ∨ phase = .update → raised course ≠ [] → after = []) ∧
      Leads call announce prepare (course ++ after) t ran.1 ∧ ran.2 = raised (course ++ after) := by
  dsimp only
  by_cases hpolicy : phase.sparesPosthooks = true
  · have hphase : ¬(phase = .setup ∨ phase = .update) := by
      rintro (rfl | rfl) <;> cases hpolicy
    obtain ⟨after, hrule, hleads, hmore⟩ :=
      runEach_follows call announce prepare (h.post phase) t₂
    rw [if_pos hpolicy]
    refine ⟨after, fun _ => hrule, fun hp => absurd hp hphase, fun hp => absurd hp hphase,
      leads_append.mpr ⟨t₂, hcourse, hleads⟩, ?_⟩
    rw [raised_append, ← hmore]
  · have hphase : ¬(phase = .draw ∨ phase = .exit) := by
      rintro (rfl | rfl) <;> exact hpolicy rfl
    rw [if_neg hpolicy]
    by_cases hnone : raised course = []
    · obtain ⟨after, hrule, hleads, hmore⟩ :=
        runUntilFailure_follows call announce prepare (h.post phase) t₂
      rw [if_pos (List.isEmpty_iff.mpr hnone)]
      refine ⟨after, fun hs => absurd hs hphase, fun _ _ => hrule,
        fun _ hsome => absurd hnone hsome, leads_append.mpr ⟨t₂, hcourse, hleads⟩, ?_⟩
      rw [raised_append, ← hmore, hnone, List.nil_append]
    · rw [if_neg fun he => hnone (List.isEmpty_iff.mp he)]
      exact ⟨[], fun hs => absurd hs hphase, fun _ he => absurd he hnone, fun _ _ => rfl,
        by simpa using hcourse, by simp⟩

/-- **Every phase obeys its rules.** What it returns are the failures on its course, in order. -/
theorem invokePhase_inOrder (h : Hooks η) (phase : Phase) (entry : Option η) (args : List Value)
    (t : τ) : ∃ before middle after, InOrder h phase entry args before middle after ∧
      Leads call announce prepare (before ++ middle ++ after) t
        (h.invokePhase call announce prepare phase entry args t).1 ∧
      (h.invokePhase call announce prepare phase entry args t).2 =
        raised (before ++ middle ++ after) := by
  obtain ⟨before, hpre, hbefore, hraised⟩ :=
    runUntilFailure_follows call announce prepare (h.pre phase) t
  rw [invokePhase]
  generalize runUntilFailure call (h.pre phase) t = ran at hbefore hraised ⊢
  rcases ran with ⟨t₁, failures⟩
  dsimp only at hbefore hraised ⊢
  subst hraised
  obtain ⟨middle, hentered, hbarred, hmiddle, hfailed⟩ :=
    exists_middle announce prepare entry args hbefore
  generalize (if (raised before).isEmpty then runEntry call announce entry args (prepare t₁)
    else (t₁, raised before)) = ran at hmiddle hfailed ⊢
  rcases ran with ⟨t₂, failures⟩
  dsimp only at hmiddle hfailed ⊢
  subst hfailed
  obtain ⟨after, hspared, hposthooks, hskipped, hleads, hall⟩ :=
    exists_after announce prepare h phase hmiddle
  exact ⟨before, middle, after, ⟨hpre, hentered, hbarred, hspared, hposthooks, hskipped⟩,
    hleads, hall⟩

end Hooks

/-! ### Exits -/

/-- The callable that an answer is of, and its arguments. -/
def Report.call? : Report η → Option (η × List Value)
  | called handle args _ => some (handle, args)
  | evaluated _ _ _ => none
  | loaded _ _ => none
  | worded _ _ => none

/-- The calls that are entered in a ledger, oldest first. -/
def Ledger.calls (ledger : Ledger η) : List (η × List Value) :=
  ledger.reverse.filterMap Report.call?

@[simp] theorem Ledger.calls_append (later earlier : Ledger η) :
    calls (later ++ earlier) = calls earlier ++ calls later := by
  simp [calls]

namespace Session

open Course

variable {e : Engine σ η}

/-- The calls of a course are entered into the ledger in their order. -/
theorem calls_of_leads {p : Phase} {prepare : Session (σ × Ledger η) η → Session (σ × Ledger η) η}
    (hp : ∀ t, (prepare t).record = t.record) {course : Course η} {t u : Session (σ × Ledger η) η}
    (h : Leads (call e.audited) (announce e.audited p) prepare course t u) :
    ∃ reports : Ledger η, u.record = reports ++ t.record ∧ reports.calls = course.calls := by
  induction course generalizing t with
  | nil =>
    obtain rfl : t = u := h
    exact ⟨[], rfl, rfl⟩
  | cons step rest ih =>
    cases step with
    | called handle args answer =>
      obtain ⟨rfl, h⟩ := h
      obtain ⟨reports, hrecord, hcalls⟩ := ih h
      refine ⟨reports ++ [.called handle args (t.call e.audited handle args).2], ?_, ?_⟩
      · rw [hrecord, call_record, List.append_assoc]
        rfl
      · rw [Ledger.calls_append, hcalls]
        rfl
    | prepared =>
      obtain ⟨reports, hrecord, hcalls⟩ := ih (t := prepare t) h
      exact ⟨reports, hrecord.trans (congrArg (reports ++ ·) (hp t)), hcalls⟩
    | announced handle => exact ih (t := t.announce e.audited p handle) h

/-- Handling failures calls nothing. -/
theorem failAll_calls (failures : List Failure) (t : Session (σ × Ledger η) η) :
    ∃ reports : Ledger η, (t.failAll e.audited failures).record = reports ++ t.record ∧
      reports.calls = [] := by
  induction failures generalizing t with
  | nil => exact ⟨[], rfl, rfl⟩
  | cons failure rest ih =>
    obtain ⟨reports, hrecord, hcalls⟩ := ih (t.fail e.audited failure)
    obtain ⟨backdrop, hfail⟩ := exists_fail_eq_enterError e.audited failure t
    obtain ⟨answer, hworded, -⟩ := enterError_record e t failure backdrop
    refine ⟨reports ++ [.worded failure answer], ?_, ?_⟩
    · rw [failAll, List.foldl_cons, ← failAll, hrecord, hfail, hworded, List.append_assoc]
      rfl
    · rw [Ledger.calls_append, hcalls]
      rfl

/-- While the sketch is running, an exit is a phase. -/
theorem exit_of_running {e : Engine σ η} {s : Session σ η} (hs : s.status = .running) :
    let ran := (s.sync e).phase e .exit id
    s.exit e = (ran.1.flush e).failAll e ran.2 := by
  have hsync : (s.sync e).status = .running := hs
  simp only [exit, hsync]

/-- Otherwise it is the posthooks alone. -/
theorem exit_of_not_running {e : Engine σ η} {s : Session σ η} (hs : s.status ≠ .running) :
    let ran := Hooks.runEach (call e) ((s.sync e).context.hooks.post .exit) (s.sync e)
    s.exit e = (ran.1.flush e).failAll e ran.2 := by
  have hsync : (s.sync e).status ≠ .running := hs
  simp only [exit, Hooks.invokePosthooks]

/-- An exit calls nothing after its hooks and its entry point. -/
theorem flush_failAll_calls {s : Session (σ × Ledger η) η} {reports : Ledger η}
    (ran : Session (σ × Ledger η) η × List Failure) (h : ran.1.record = reports ++ s.record) :
    ∃ more : Ledger η, ((ran.1.flush e.audited).failAll e.audited ran.2).record = more ++ s.record ∧
      more.calls = reports.calls := by
  obtain ⟨handled, hrecord, hcalls⟩ := failAll_calls ran.2 (ran.1.flush e.audited)
  refine ⟨handled ++ reports, ?_, ?_⟩
  · rw [hrecord, List.append_assoc, ← h]
    rfl
  · rw [Ledger.calls_append, hcalls, List.append_nil]

/-- The posthooks of an exit come last in its calls, once each, whatever the status. Before them
come the prehooks and the entry point while the sketch is running, and nothing otherwise. -/
theorem exit_calls (e : Engine σ η) (s : Session (σ × Ledger η) η) :
    let told := (s.sync e.audited).context
    ∃ (reports : Ledger η) (lead : List (η × List Value)),
      (s.exit e.audited).record = reports ++ s.record ∧
      reports.calls = lead ++ (told.hooks.post .exit).map (·, []) ∧
      (s.status ≠ .running → lead = []) ∧
      (s.status = .running → ∃ before middle after,
        InOrder told.hooks .exit (told.entries.get .exit) [] before middle after ∧
          lead = (before ++ middle).calls) := by
  intro told
  by_cases hs : s.status = .running
  · obtain ⟨before, middle, after, horder, hleads, -⟩ := told.hooks.invokePhase_inOrder
      (call e.audited) (announce e.audited .exit) id .exit (told.entries.get .exit) []
      (s.sync e.audited)
    obtain ⟨reports, hrecord, hcalls⟩ := calls_of_leads (fun _ => rfl) hleads
    obtain ⟨more, hexit, hmore⟩ := flush_failAll_calls (s := s) _ hrecord
    refine ⟨more, (before ++ middle).calls, ?_, ?_, fun hn => absurd hs hn,
      fun _ => ⟨before, middle, after, horder, rfl⟩⟩
    · rw [exit_of_running hs]
      exact hexit
    · rw [hmore, hcalls, calls_append, (horder.spared (.inr rfl)).calls]
  · obtain ⟨course, heach, hleads, -⟩ := Hooks.runEach_follows (call e.audited)
      (announce e.audited .exit) id (told.hooks.post .exit) (s.sync e.audited)
    obtain ⟨reports, hrecord, hcalls⟩ := calls_of_leads (fun _ => rfl) hleads
    obtain ⟨more, hexit, hmore⟩ := flush_failAll_calls (s := s) _ hrecord
    refine ⟨more, [], ?_, ?_, fun _ => rfl, fun hrun => absurd hrun hs⟩
    · rw [exit_of_not_running hs]
      exact hexit
    · rw [hmore, hcalls, heach.calls, List.nil_append]

end Session

open Course in
/-- **A phase runs in order, and an exit spares its posthooks.** Whatever the hooks, the entry point
and the callables, a phase takes one course and no other that obeys the rules: prehooks up to the
first failure; if there was none, preparations and the entry point; then posthooks, all of them for
drawing and exiting, and otherwise only as long as nothing fails. It returns the failures on its
course, in order. So an exit calls every exit posthook once in every state, after the prehooks and
the entry point if the sketch is running, and alone if it is not. The ledger changes nothing about
the exit. -/
theorem Hooks.phase_in_order (h : Hooks η) (call : Caller η τ) (announce : η → τ → τ)
    (prepare : τ → τ) (phase : Phase) (entry : Option η) (args : List Value) (t : τ)
    (e : Engine σ η) (s : Session (σ × Ledger η) η) :
    (∃ before middle after, InOrder h phase entry args before middle after ∧
      Leads call announce prepare (before ++ middle ++ after) t
        (h.invokePhase call announce prepare phase entry args t).1 ∧
      (h.invokePhase call announce prepare phase entry args t).2 =
        raised (before ++ middle ++ after) ∧
      ∀ before' middle' after' u, InOrder h phase entry args before' middle' after' →
        Leads call announce prepare (before' ++ middle' ++ after') t u →
          before' = before ∧ middle' = middle ∧ after' = after) ∧
      (s.exit e.audited).plain = s.plain.exit e ∧
      let told := (s.sync e.audited).context
      ∃ (reports : Ledger η) (lead : List (η × List Value)),
        (s.exit e.audited).record = reports ++ s.record ∧
        reports.calls = lead ++ (told.hooks.post .exit).map (·, []) ∧
        (s.status ≠ .running → lead = []) ∧
        (s.status = .running → ∃ before middle after,
          InOrder told.hooks .exit (told.entries.get .exit) [] before middle after ∧
            lead = (before ++ middle).calls) := by
  obtain ⟨before, middle, after, horder, hleads, hraised⟩ :=
    h.invokePhase_inOrder call announce prepare phase entry args t
  refine ⟨⟨before, middle, after, horder, hleads, hraised, ?_⟩, ?_, Session.exit_calls e s⟩
  · intro before' middle' after' u horder' hleads'
    exact horder'.unique horder hleads' hleads
  · exact (e.audited_hom.exit_map s).symm

end LiveSketch
