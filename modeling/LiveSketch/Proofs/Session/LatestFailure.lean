import LiveSketch.Proofs.Session.Standing

/-!
# The failure on screen

A session in error shows one failure over one image. The failure is the newest: each one that is
handled replaces the snapshot, with its own message. The image is the oldest: it was copied when the
sketch stopped running, and every later snapshot takes it over from the one before. So the two
halves of a snapshot follow different rules, although one assignment writes both.

## Where failures come from

In the error state failures still arrive: from posthooks later in the phase that failed, from exit
posthooks, from dependencies and from reloads. All of them are handled in the order in which the
engine answered, and each is put into words once. `Ledger.Settled` says so for the answers of one
step. The exception is the failure of the drawing defaults over the overlay, which is handled by
nobody; it belongs to the opening of a step and not to the rest of it.

## Main definitions

* `Ledger.lastHandled` — the failure that was handled last, with its message.
* `Ledger.Settled` — the failures were handled in order, each one once.
* `Ledger.Succeeds` — an evaluation succeeded.
* `Film.atStop` — the image that was copied when the sketch stopped running.

## Main results

* `Session.carried_shows` — the snapshot holds the last failure and the first image.
* `Session.carried_handles` — failures are settled, and the image stays.
* `Session.latest_failure_shown` — both, in every run.
-/

namespace LiveSketch

variable {σ η : Type} {e : Engine σ η}

/-! ### Answers and images -/

/-- An evaluation succeeded. -/
def Report.succeeded : Report η → Bool
  | .evaluated _ _ (.ok ()) => true
  | _ => false

namespace Ledger

/-- The failure that was handled last, and the message that it was given. -/
def lastHandled : Ledger η → Option (Failure × String)
  | [] => none
  | .worded failure answer :: _ => some (failure, failure.wording answer)
  | _ :: earlier => lastHandled earlier

/-- One of the evaluations succeeded. -/
def Succeeds (ledger : Ledger η) : Prop := ∃ origin reset, .evaluated origin reset (.ok ()) ∈ ledger

/-- The failures among the answers were handled in the order in which they came, each one once,
apart from those that are still due. The ones of another origin come when no others are due. -/
inductive Settled (other : Failure → Prop) : Ledger η → List Failure → Prop where
  | nil : Settled other [] []
  /-- An answer adds its failures to those that are due. -/
  | answer {earlier due} (report : Report η)
      (hn : ∀ failure answer, report ≠ .worded failure answer) (h : Settled other earlier due) :
      Settled other (report :: earlier) (due ++ report.failures)
  /-- The first of those that are due is put into words. -/
  | handle {earlier failure due} (answer : Except Failure String)
      (h : Settled other earlier (failure :: due)) :
      Settled other (.worded failure answer :: earlier) due
  /-- A failure of another origin is due. -/
  | stray {earlier failure} (ho : other failure) (h : Settled other earlier []) :
      Settled other earlier [failure]

theorem Succeeds.append_left {ledger : Ledger η} (h : ledger.Succeeds) (later : Ledger η) :
    Succeeds (later ++ ledger) := by
  obtain ⟨origin, reset, hm⟩ := h
  exact ⟨origin, reset, List.mem_append_right later hm⟩

theorem Succeeds.append_right {ledger : Ledger η} (h : ledger.Succeeds) (earlier : Ledger η) :
    Succeeds (ledger ++ earlier) := by
  obtain ⟨origin, reset, hm⟩ := h
  exact ⟨origin, reset, List.mem_append_left earlier hm⟩

end Ledger

namespace Film

/-- The image that was copied when the sketch stopped running, if nothing happened on screen since
then but overlays. -/
def atStop : Film → Option Image
  | .overlaid :: film => atStop film
  | .kept image :: _ => some image
  | .frozen image :: _ => some image
  | _ => none

/-- Without any copy there is no image. -/
theorem atStop_eq_none {film : Film} (h : film.lastCopy = none) : film.atStop = none := by
  induction film with
  | nil => rfl
  | cons event film ih =>
    cases event with
    | overlaid => exact ih h
    | kept _ | frozen _ => cases h
    | drawn | recovered => rfl

end Film

namespace Session

variable {other : Failure → Prop} {before film : Film} {s t u : Session (σ × Ledger η) η}
  {due : List Failure}

/-! ### The snapshot -/

/-- The snapshot holds the failure that was handled last, with its message, and the image that was
copied when the sketch stopped running. -/
structure Shows (film : Film) (s : Session (σ × Ledger η) η) : Prop where
  framed : Framed film s
  /-- In error, the last copy was made when the sketch stopped. -/
  stopped : s.status = .error → film.atStop = film.lastCopy
  handled : ∀ snapshot, s.error = some snapshot →
    Ledger.lastHandled s.record = some (snapshot.failure, snapshot.message)

namespace Shows

/-- Answers that are no wording leave the snapshot as it is. -/
theorem congr (h : Shows film s) (hs : SameScreen s t)
    (hr : Ledger.lastHandled t.record = Ledger.lastHandled s.record) : Shows film t where
  framed := h.framed.congr hs
  stopped ht := h.stopped (hs.status.symm.trans ht)
  handled snapshot ht := hr.trans (h.handled snapshot (hs.error.symm.trans ht))

/-- A failure that is handled is the last one. -/
theorem enterError {failure : Failure} {backdrop : Option Image}
    (hf : Framed film (s.enterError e.audited failure backdrop))
    (hs : film.atStop = film.lastCopy) :
    Shows film (s.enterError e.audited failure backdrop) where
  framed := hf
  stopped _ := hs
  handled snapshot hn := by
    obtain ⟨answer, hrecord, herror⟩ := enterError_record e s failure backdrop
    rw [herror] at hn
    cases hn
    rw [hrecord]
    rfl

theorem fail (h : Shows film s) (failure : Failure) :
    Shows (s.filmFail film) (s.fail e.audited failure) := by
  have hstop : (s.filmFail film).atStop = (s.filmFail film).lastCopy := by
    rw [filmFail]
    cases hs : s.status with
    | running => rfl
    | error => exact h.stopped hs
    | noSketch =>
      have hnone : film.lastCopy = none := h.framed.untouched hs
      exact (Film.atStop_eq_none hnone).trans hnone.symm
  have hf : Framed (s.filmFail film) (s.fail e.audited failure) := h.framed.fail failure
  obtain ⟨backdrop, heq⟩ := exists_fail_eq_enterError e.audited failure s
  rw [heq] at hf ⊢
  exact enterError hf hstop

/-- A running sketch has no snapshot. -/
theorem of_running (hf : Framed film s) (hs : s.status = .running) : Shows film s where
  framed := hf
  stopped he := by simp [hs] at he
  handled snapshot hn := by
    have hnone : s.error = none := hf.error_eq_none (by simp [hs])
    simp [hnone] at hn

end Shows

theorem recovered_record (s : Session (σ × Ledger η) η) : s.recovered.record = s.record := by
  rw [recovered]
  split <;> rfl

/-- **Every building block keeps the snapshot right.** -/
theorem carried_shows (e : Engine σ η) :
    Carried e.audited (fun _ => True) fun film s _ => Shows film s where
  congr h hs _ he := h.congr hs (congrArg (fun engine => Ledger.lastHandled engine.2) he)
  sync h := h.congr ⟨rfl, rfl, rfl⟩ rfl
  flush h := h.congr ⟨rfl, rfl, rfl⟩ rfl
  call _ _ h := h.congr ⟨rfl, rfl, rfl⟩ rfl
  fail h := h.fail _
  drawn hs h := .of_running h.framed.drawn hs
  kept hs h := .of_running (h.framed.keepFrame hs) (keepFrame_status.trans hs)
  loadDependency _ h := h.congr ⟨rfl, rfl, rfl⟩ rfl
  stray _ h := h
  unevaluated {_ s _} source path forced _ h := by
    refine h.congr (evaluate_sameScreen e.audited source path forced s) ?_
    rw [evaluate_record]
    rfl
  backdrop {film s failure} hs hkept h := by
    refine .enterError (h.framed.enterError failure (h.framed.evaluationBackdrop hkept)) ?_
    cases hst : s.status with
    | noSketch => exact absurd hst hs
    | error => exact h.stopped hst
    | running =>
      obtain ⟨image, earlier, rfl⟩ := hkept hst
      rfl
  evaluated source path forced hs hok h :=
    .of_running ((carried_framed e.audited).evaluated source path forced hs hok h.framed)
      (recovered_status _)

/-! ### Handling -/

/-- The failures that came up since a session are settled. If it was in error and no evaluation
succeeded, it still is, and the image has not changed. -/
def Handles (other : Failure → Prop) (before : Film) (s : Session (σ × Ledger η) η) (film : Film)
    (t : Session (σ × Ledger η) η) (due : List Failure) : Prop :=
  ∃ reports : Ledger η, t.record = reports ++ s.record ∧ reports.Settled other due ∧
    (s.status = .error → ¬ reports.Succeeds →
      t.status = .error ∧ film.atStop = before.atStop)

namespace Handles

theorem refl (film : Film) (s : Session (σ × Ledger η) η) : Handles other film s film s [] :=
  ⟨[], rfl, .nil, fun hs _ => ⟨hs, rfl⟩⟩

theorem congr (h : Handles other before s film t due) (hs : u.status = t.status)
    (hr : u.record = t.record) : Handles other before s film u due := by
  rw [Handles, hr, hs]
  exact h

/-- An answer adds its failures to those that are due. -/
theorem report (h : Handles other before s film t due) (hs : u.status = t.status)
    (entry : Report η) (hr : u.record = entry :: t.record)
    (hn : ∀ failure answer, entry ≠ .worded failure answer) :
    Handles other before s film u (due ++ entry.failures) := by
  obtain ⟨reports, hrecord, hsettled, hstays⟩ := h
  refine ⟨entry :: reports, by rw [hr, hrecord]; rfl, .answer entry hn hsettled, fun he hno => ?_⟩
  rw [hs]
  exact hstays he fun hyes => hno (hyes.append_left [entry])

/-- Whoever handles a failure puts it into words. -/
theorem enterError {failure : Failure} (h : Handles other before s film t (failure :: due))
    (backdrop : Option Image) {film' : Film}
    (hf : t.status = .error → film'.atStop = film.atStop) :
    Handles other before s film' (t.enterError e.audited failure backdrop) due := by
  obtain ⟨answer, hworded, -⟩ := enterError_record e t failure backdrop
  obtain ⟨reports, hrecord, hsettled, hstays⟩ := h
  refine ⟨.worded failure answer :: reports, by rw [hworded, hrecord]; rfl,
    .handle answer hsettled, fun he hno => ?_⟩
  obtain ⟨hstill, hsame⟩ := hstays he fun hyes => hno (hyes.append_left [_])
  exact ⟨rfl, (hf hstill).trans hsame⟩

/-- Only a running sketch is frozen. -/
theorem fail {failure : Failure} (h : Handles other before s film t (failure :: due)) :
    Handles other before s (t.filmFail film) (t.fail e.audited failure) due := by
  obtain ⟨backdrop, heq⟩ := exists_fail_eq_enterError e.audited failure t
  rw [heq]
  refine h.enterError backdrop fun hs => ?_
  rw [filmFail, hs]

/-- A session that was in error and is running was evaluated with success, and another image counts
from then on. -/
theorem of_running (h : Handles other before s film t due) (hs : t.status = .running)
    {film' : Film} : Handles other before s film' t due := by
  obtain ⟨reports, hrecord, hsettled, hstays⟩ := h
  refine ⟨reports, hrecord, hsettled, fun he hno => ?_⟩
  have hstill := (hstays he hno).1
  rw [hs] at hstill
  cases hstill

/-- An evaluation that succeeds ends what had to be kept. -/
theorem recovered (h : Handles other before s film t []) {origin : Path} {reset : Bool}
    (hr : u.record = .evaluated origin reset (.ok ()) :: t.record) {film' : Film} :
    Handles other before s film' u [] := by
  obtain ⟨reports, hrecord, hsettled, -⟩ := h
  refine ⟨.evaluated origin reset (.ok ()) :: reports, by rw [hr, hrecord]; rfl,
    .answer (.evaluated origin reset (.ok ())) (fun _ _ => nofun) hsettled, fun _ hno => ?_⟩
  exact absurd ⟨origin, reset, List.mem_cons_self⟩ hno

end Handles

/-- **Every building block settles failures in order.** -/
theorem carried_handles (e : Engine σ η) (other : Failure → Prop) (before : Film)
    (s : Session (σ × Ledger η) η) : Carried e.audited other (Handles other before s) where
  congr h hs _ he := h.congr hs.status (congrArg Prod.snd he)
  sync h := h.congr rfl rfl
  flush h := h.congr rfl rfl
  call {_ t _} handle args h :=
    h.report (u := (t.call e.audited handle args).1) rfl
      (.called handle args (t.call e.audited handle args).2) (call_record handle args)
      (by intros; simp)
  fail h := h.fail
  drawn hs h := h.of_running hs
  kept {film t} hs h := by
    have hk : t.keepFrame = { t with lastGoodFrame := some t.canvas.captureFrame } := by
      rw [keepFrame, hs]
    rw [hk]
    exact h.of_running hs
  loadDependency {_ t} path h :=
    let ran := e.audited.loadDependency path t.files t.stage t.context
    h.report (u := { t with stage := ran.1, context := ran.2.1 }) rfl (.loaded path ran.2.2) rfl
      (by intros; simp)
  stray ho h := by
    obtain ⟨reports, hrecord, hsettled, hstays⟩ := h
    exact ⟨reports, hrecord, .stray ho hsettled, hstays⟩
  unevaluated {_ t failure} source path forced hf h := by
    have hrecord := evaluate_record (e := e) (s := t) source path forced
    rw [hf] at hrecord
    exact h.report (evaluate_sameScreen e.audited source path forced t).status _ hrecord
      (by intros; simp)
  backdrop _ _ h := h.enterError _ fun _ => rfl
  evaluated {_ t} source path forced _ hok h := by
    have hrecord := evaluate_record (e := e) (s := t) source path forced
    rw [hok] at hrecord
    exact h.recovered ((recovered_record _).trans hrecord)

/-! ### Where steps open -/

theorem begun_error (s : Session σ η) (op : Operation) : (s.begun op).error = s.error := by
  rw [begun.eq_def]
  split
  · rw [started]
    split
    · split <;> rfl
    · rfl
  · rfl

/-- The opening of a step changes no snapshot, and the engine is asked for nothing but the drawing
defaults over an overlay. -/
theorem opened_record (e : Engine σ η) (s : Session (σ × Ledger η) η) (op : Operation) :
    (s.opened e.audited op).error = s.error ∧ ∃ overlay : Ledger η,
      (s.opened e.audited op).record = overlay ++ s.record ∧
        (overlay = [] ∨ op = .draw ∧ s.status = .error ∧
          ∃ handle answer, overlay = [.called handle [] answer]) := by
  cases op with
  | run => exact ⟨begun_error s .run, [], begun_record .run, .inl rfl⟩
  | draw =>
    rw [opened]
    cases hs : s.status with
    | error =>
      obtain ⟨overlay, hrecord, hcalled⟩ := drawError_record e s
      refine ⟨(drawError_sameScreen e.audited s).error, overlay, hrecord, ?_⟩
      obtain hnone | ⟨handle, answer, hone, -⟩ := hcalled
      · exact .inl hnone
      · exact .inr ⟨rfl, rfl, handle, answer, hone⟩
    | running | noSketch => exact ⟨rfl, [], rfl, .inl rfl⟩
  | install _ | load _ | setup | update | exit | reload _ | reloadFrom _ _ | event _ | edit _
  | present _ | drain _ => exact ⟨rfl, [], rfl, .inl rfl⟩

/-- A step opens in error exactly if the step before ended there. -/
theorem opened_status (e : Engine σ η) (s : Session σ η) (op : Operation) :
    (s.opened e op).status = .error ↔ s.status = .error := by
  cases op with
  | run =>
    show (s.begun .run).status = .error ↔ s.status = .error
    by_cases hs : s.status = .noSketch
    · rw [begun, started, hs]
      split
      · simp
      · simp [hs]
    · rw [begun_of_status hs]
  | draw =>
    rw [opened]
    split
    · rw [(drawError_sameScreen e s).status]
    · exact .rfl
  | install _ | load _ | setup | update | exit | reload _ | reloadFrom _ _ | event _ | edit _
  | present _ | drain _ => exact .rfl

/-- An overlay is no copy. -/
theorem filmOpened_copies (s : Session σ η) (film : Film) (op : Operation) :
    (s.filmOpened film op).atStop = film.atStop ∧
      (s.filmOpened film op).lastCopy = film.lastCopy := by
  cases op with
  | draw =>
    rw [filmOpened, filmDrawError]
    split
    · split <;> exact ⟨rfl, rfl⟩
    · exact ⟨rfl, rfl⟩
  | run | install _ | load _ | setup | update | exit | reload _ | reloadFrom _ _ | event _ | edit _
  | present _ | drain _ => exact ⟨rfl, rfl⟩

theorem Shows.opened (h : Shows film s) (op : Operation) :
    Shows (s.filmOpened film op) (s.opened e.audited op) where
  framed := h.framed.opened op
  stopped ho := by
    obtain ⟨hstop, hcopy⟩ := filmOpened_copies s film op
    rw [hstop, hcopy]
    exact h.stopped ((opened_status e.audited s op).mp ho)
  handled snapshot hn := by
    obtain ⟨herror, overlay, hrecord, hoverlay⟩ := opened_record e s op
    rw [herror] at hn
    rw [hrecord]
    obtain rfl | ⟨-, -, handle, answer, rfl⟩ := hoverlay
    · exact h.handled snapshot hn
    · exact h.handled snapshot hn

/-! ### Steps and runs -/

/-- In error there is a snapshot, over the image that was copied when the sketch stopped running. -/
theorem Shows.exists_snapshot (h : Shows film s) (hs : s.status = .error) :
    ∃ snapshot, s.error = some snapshot ∧ snapshot.backdrop = film.atStop := by
  obtain ⟨snapshot, hn⟩ := Option.isSome_iff_exists.mp (h.framed.error.mp hs)
  exact ⟨snapshot, hn, (h.framed.backdrop snapshot hn).trans (h.stopped hs).symm⟩

theorem Shows.perform (h : Shows film s) (op : Operation) :
    Shows (s.filmPerform e.audited op film) (s.perform e.audited op).1 :=
  (carried_shows e).perform film op (h.opened op) fun _ _ => trivial

theorem Shows.play (h : Shows film s) (ops : List Operation) :
    Shows (s.film e.audited ops film) (s.play e.audited ops) := by
  induction ops generalizing s film with
  | nil => exact h
  | cons op rest ih => exact ih (h.perform op)

/-- What comes up after the opening of a step is settled at its end. -/
theorem perform_handles (e : Engine σ η) (film : Film) (op : Operation)
    (s : Session (σ × Ledger η) η) : Handles (Undecodable s.files (s.target op))
      (s.filmOpened film op) (s.opened e.audited op) (s.filmPerform e.audited op film)
      (s.perform e.audited op).1 [] :=
  (carried_handles e _ _ _).perform film op (.refl _ _) fun _ hd => hd

/-- In error, a session keeps its image as long as no evaluation succeeds. -/
theorem play_atStop (e : Engine σ η) (film : Film) (ops : List Operation)
    (s : Session (σ × Ledger η) η) : ∃ reports : Ledger η,
      (s.play e.audited ops).record = reports ++ s.record ∧
        (s.status = .error → ¬ reports.Succeeds → (s.play e.audited ops).status = .error ∧
          (s.film e.audited ops film).atStop = film.atStop) := by
  induction ops generalizing s film with
  | nil => exact ⟨[], rfl, fun hs _ => ⟨hs, rfl⟩⟩
  | cons op rest ih =>
    obtain ⟨-, overlay, hopened, -⟩ := opened_record e s op
    obtain ⟨reports, hrecord, -, hstays⟩ := perform_handles e film op s
    obtain ⟨later, hlater, hrest⟩ := ih (s.filmPerform e.audited op film) (s.perform e.audited op).1
    refine ⟨later ++ (reports ++ overlay), ?_, fun hs hno => ?_⟩
    · rw [play, hlater, hrecord, hopened]
      simp only [List.append_assoc]
    · have hnow := hstays ((opened_status e.audited s op).mpr hs) fun hyes =>
        hno ((hyes.append_right overlay).append_left later)
      obtain ⟨hend, hsame⟩ := hrest hnow.1 fun hyes => hno (hyes.append_right _)
      exact ⟨hend, hsame.trans (hnow.2.trans (filmOpened_copies s film op).1)⟩

/-- **What is on screen in the error state.** Whatever engine it is, and whatever operations are
asked for in which order, the snapshot has the failure that was handled last, with the text that the
engine found for it or else its own, over the image that was copied when the sketch stopped running.
The failures of a step are handled in the order in which they come up, each one once: those that the
engine answers with, and those of a file that cannot be decoded. Only the opening of a step is
exempt. It changes no snapshot, and where it paints an overlay, no failure of the drawing defaults
is handled. As long as no evaluation succeeds, a session in error stays there, and its image with
it. The ledger changes nothing about the run. -/
theorem latest_failure_shown (e : Engine σ η) (engine : σ) (settings : Settings) (canvas : Canvas)
    (files : FileTree) (ops more : List Operation) :
    let start : Session (σ × Ledger η) η := .fresh (engine, []) settings canvas files
    let s := start.play e.audited ops
    let film := start.film e.audited ops []
    let t := s.play e.audited more
    s.plain = (Session.fresh engine settings canvas files).play e ops ∧
      (s.status = .error → ∃ snapshot, s.error = some snapshot ∧
        Ledger.lastHandled s.record = some (snapshot.failure, snapshot.message) ∧
        snapshot.backdrop = film.atStop) ∧
      (∀ op, ∃ reports overlay : Ledger η,
        let opening := s.opened e.audited op
        (s.perform e.audited op).1.record = reports ++ opening.record ∧
          reports.Settled (Undecodable s.files (s.target op)) [] ∧
          opening.record = overlay ++ s.record ∧ opening.error = s.error ∧
          (overlay = [] ∨ op = .draw ∧ s.status = .error ∧
            ∃ handle answer, overlay = [.called handle [] answer])) ∧
      ∃ reports : Ledger η, t.record = reports ++ s.record ∧
        (s.status = .error → ¬ reports.Succeeds → t.status = .error ∧
          t.error.map (·.backdrop) = s.error.map (·.backdrop)) := by
  intro start s film t
  have hstart : Shows [] start := ⟨framed_fresh _ _ _ _, nofun, nofun⟩
  have hs : Shows film s := hstart.play ops
  have ht : Shows (s.film e.audited more film) t := hs.play more
  refine ⟨e.audited_play ops start, fun he => ?_, fun op => ?_, ?_⟩
  · obtain ⟨snapshot, hn, hbackdrop⟩ := hs.exists_snapshot he
    exact ⟨snapshot, hn, hs.handled snapshot hn, hbackdrop⟩
  · obtain ⟨reports, hrecord, hsettled, -⟩ := perform_handles e film op s
    obtain ⟨herror, overlay, hopened, hoverlay⟩ := opened_record e s op
    exact ⟨reports, overlay, hrecord, hsettled, hopened, herror, hoverlay⟩
  · obtain ⟨reports, hrecord, hstays⟩ := play_atStop e film more s
    refine ⟨reports, hrecord, fun he hno => ?_⟩
    obtain ⟨hend, hsame⟩ := hstays he hno
    obtain ⟨first, hfirst, hbefore⟩ := hs.exists_snapshot he
    obtain ⟨last, hlast, hafter⟩ := ht.exists_snapshot hend
    refine ⟨hend, ?_⟩
    rw [hfirst, hlast, Option.map_some, Option.map_some, hbefore, hafter, hsame]

/-- A sketch that fails in its update phase is saved with another mistake and reloaded. The failure
on screen is the one of the reload, and the image is the one of the update. -/
theorem latest_failure_shown_after_second_mistake :
    let start : Session (ScriptState sketchLanguage × Ledger ScriptHandle) ScriptHandle :=
      .fresh (.empty {}, []) {} (.blank 1 1)
        (.sketchbook "fn update() \x7b throw 1; \x7d" 1000 "" 1000)
    let e := (scriptEngine sketchLanguage).audited
    let s := start.play e [.install ⟨[⟨"/s"⟩]⟩, .load ⟨"/s/main"⟩, .run, .update]
    let t := s.play e [.draw, .edit (.sketchbook "print(" 2000 "" 1000), .reload false, .draw]
    s.status = .error ∧ t.error.map (·.failure) ≠ s.error.map (·.failure) ∧
      t.error.map (·.backdrop) = s.error.map (·.backdrop) := by
  intro start e s t
  have hs : s.status = .error ∧ t.error.map (·.failure) ≠ s.error.map (·.failure) := by
    decide +kernel
  -- both ledgers have the one evaluation that succeeded when the sketch was started
  have hcount : t.record.countP Report.succeeded = s.record.countP Report.succeeded := by
    decide +kernel
  obtain ⟨-, -, -, reports, hrecord, hstays⟩ := latest_failure_shown (scriptEngine sketchLanguage)
    (.empty {}) {} (.blank 1 1) (.sketchbook "fn update() \x7b throw 1; \x7d" 1000 "" 1000)
    [.install ⟨[⟨"/s"⟩]⟩, .load ⟨"/s/main"⟩, .run, .update]
    [.draw, .edit (.sketchbook "print(" 2000 "" 1000), .reload false, .draw]
  have hnone : reports.countP Report.succeeded = 0 := by
    have hsum : t.record.countP Report.succeeded =
        reports.countP Report.succeeded + s.record.countP Report.succeeded :=
      (congrArg (List.countP Report.succeeded) hrecord).trans List.countP_append
    omega
  refine ⟨hs.1, hs.2, (hstays hs.1 ?_).2⟩
  rintro ⟨origin, reset, hm⟩
  exact List.countP_eq_zero.mp hnone _ hm rfl

end Session

end LiveSketch
