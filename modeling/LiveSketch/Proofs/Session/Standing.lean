import LiveSketch.Proofs.Session.FrozenFrames
import LiveSketch.Proofs.Session.Ledger
import LiveSketch.Proofs.Session.Surroundings

/-!
# Status, snapshot and answers

The status of a session, the snapshot that the overlay shows and the last good frame are fields of
their own, and one operation can write each of them several times: a draw can fail, be reloaded,
recover, and fail again in the setup that follows. The ledger of the engine brings order into this.
The status is at all times what the answers so far make of it, one answer after the other: running
after an evaluation that succeeded, in error after a failure that was handled.

## The invariant

`Trail` follows a session through one operation. Apart from the status it says where failures come
from: one that is handled was an answer of the engine earlier in the operation, or the file that is
reloaded cannot be decoded. Between being raised and being handled a failure is *due*, and the last
argument of `Trail` lists those, because a phase returns all its failures before the first is
handled.

## Main definitions

* `Session.Backed` — a sketch was loaded, and there is a frame to put behind an overlay.
* `Session.Trail` — the invariant.

## Main results

* `Session.perform_trail` — every step leaves a trail.
* `Session.status_in_step` — status, snapshot and answers, in every run.
-/

namespace LiveSketch

namespace Session

variable {σ η : Type} {e : Engine σ η}

/-- A sketch was loaded, and a frame was kept that an overlay can show. -/
structure Backed (s : Session σ η) : Prop where
  script : s.script.isSome
  kept : s.lastGoodFrame.isSome
  backdrop : ∀ snapshot, s.error = some snapshot → snapshot.backdrop.isSome

theorem Backed.congr {s t : Session σ η} (h : s.Backed) (hs : SameScreen s t)
    (hp : s.script.isSome → t.script.isSome) : t.Backed where
  script := hp h.script
  kept := hs.lastGoodFrame ▸ h.kept
  backdrop snapshot he := h.backdrop snapshot (hs.error ▸ he)

/-- What operations do to a session, and which failures are due. -/
structure Trail (other : Failure → Prop) (s t : Session (σ × Ledger η) η) (due : List Failure) :
    Prop where
  /-- What was entered into the ledger explains the status and the failures. -/
  ledger : ∃ reports : Ledger η, t.record = reports ++ s.record ∧
    t.status = reports.status s.status ∧ reports.Answered other ∧
    ∀ failure ∈ due, failure ∈ reports.raised ∨ other failure
  /-- There is a snapshot exactly in the error state. -/
  snapshot : (s.status = .error ↔ s.error.isSome) → (t.status = .error ↔ t.error.isSome)
  backed : s.Backed → t.Backed

namespace Trail

variable {other : Failure → Prop} {s t u : Session (σ × Ledger η) η} {due : List Failure}

theorem refl (s : Session (σ × Ledger η) η) : Trail other s s [] where
  ledger := ⟨[], rfl, rfl, trivial, nofun⟩
  snapshot := id
  backed := id

/-- Whatever changes nothing that the trail is about. -/
theorem congr (h : Trail other s t due) (hs : SameScreen t u)
    (hp : t.script.isSome → u.script.isSome) (hr : u.record = t.record) : Trail other s u due where
  ledger := by
    rw [hr, hs.status]
    exact h.ledger
  snapshot hi := by
    rw [hs.status, hs.error]
    exact h.snapshot hi
  backed hb := (h.backed hb).congr hs hp

/-- A failure of another origin is due. -/
theorem owe (h : Trail other s t due) {failure : Failure} (hf : other failure) :
    Trail other s t (failure :: due) where
  ledger := by
    obtain ⟨reports, hr, hs, ha, hd⟩ := h.ledger
    refine ⟨reports, hr, hs, ha, ?_⟩
    rintro raised (_ | ⟨_, hm⟩)
    · exact .inr hf
    · exact hd raised hm
  snapshot := h.snapshot
  backed := h.backed

/-- An answer that leaves the status alone adds its failures to those that are due. -/
theorem report (h : Trail other s t due) (hs : SameScreen t u)
    (hp : t.script.isSome → u.script.isSome) (entry : Report η) (hr : u.record = entry :: t.record)
    (hk : ∀ status, entry.after status = status)
    (hn : ∀ (earlier : Ledger η), earlier.Answered other →
      Ledger.Answered other (entry :: earlier)) :
    Trail other s u (due ++ entry.failures) where
  ledger := by
    obtain ⟨reports, ht, hst, ha, hd⟩ := h.ledger
    refine ⟨entry :: reports, by rw [hr, ht]; rfl, ?_, hn reports ha, ?_⟩
    · rw [hs.status, hst, Ledger.status_cons, hk]
    · intro failure hm
      rw [Ledger.raised_cons]
      obtain hm | hm := List.mem_append.mp hm
      · exact (hd failure hm).imp_left (List.mem_append_right _)
      · exact .inl (List.mem_append_left _ hm)
  snapshot hi := by
    rw [hs.status, hs.error]
    exact h.snapshot hi
  backed hb := (h.backed hb).congr hs hp

/-! ### Failures -/

/-- Handling a failure that is due. Whichever backdrop it brings, there is one behind the overlay if
a frame was kept. -/
theorem enterError {failure : Failure} (h : Trail other s t (failure :: due))
    (backdrop : Option Image) : Trail other s (t.enterError e.audited failure backdrop) due where
  ledger := by
    obtain ⟨answer, he, -⟩ := enterError_record e t failure backdrop
    obtain ⟨reports, hr, -, ha, hd⟩ := h.ledger
    refine ⟨.worded failure answer :: reports, by rw [he, hr]; rfl, rfl,
      ⟨hd failure List.mem_cons_self, ha⟩, fun raised hm => ?_⟩
    exact hd raised (List.mem_cons_of_mem _ hm)
  snapshot _ := by simp [Session.enterError]
  backed hb := by
    have ht := h.backed hb
    refine ⟨ht.script, ht.kept, fun snapshot hs => ?_⟩
    cases hs
    show (backdrop.or ((t.error.bind (·.backdrop)).or t.lastGoodFrame)).isSome
    simp [Option.isSome_or, ht.kept]

theorem fail {failure : Failure} (h : Trail other s t (failure :: due)) :
    Trail other s (t.fail e.audited failure) due := by
  obtain ⟨backdrop, hf⟩ := exists_fail_eq_enterError e.audited failure t
  rw [hf]
  exact h.enterError backdrop

/-! ### Answers -/

theorem call (h : Trail other s t due) (handle : η) (args : List Value) :
    Trail other s (t.call e.audited handle args).1
      (due ++ Failure.ofAnswer (t.call e.audited handle args).2) :=
  h.report (u := (t.call e.audited handle args).1) ⟨rfl, rfl, rfl⟩ id
    (.called handle args (t.call e.audited handle args).2) (call_record handle args)
    (fun _ => rfl) fun _ ha => ha

theorem loadDependency (h : Trail other s t []) (path : Path) :
    let ran := e.audited.loadDependency path t.files t.stage t.context
    Trail other s { t with stage := ran.1, context := ran.2.1 } (Failure.ofAnswer ran.2.2) := by
  intro ran
  exact h.report (u := { t with stage := ran.1, context := ran.2.1 }) ⟨rfl, rfl, rfl⟩ id
    (.loaded path ran.2.2) rfl (fun _ => rfl) fun _ ha => ha

theorem unevaluated (h : Trail other s t []) {failure : Failure} (source : String) (path : Path)
    (forced : Bool) (hf : (t.evaluate e.audited source path forced).2 = .error failure) :
    Trail other s (t.evaluate e.audited source path forced).1 [failure] := by
  have hrecord := evaluate_record (e := e) (s := t) source path forced
  rw [hf] at hrecord
  exact h.report (evaluate_sameScreen e.audited source path forced t)
    (fun hp => (evaluate_script e.audited source path forced t).symm ▸ hp) _ hrecord
    (fun _ => rfl) fun _ ha => ha

/-- After an evaluation that succeeded the session is running. -/
theorem recovered {entry : Report η} (h : Trail other s t []) (hs : SameScreen t u)
    (hp : t.script.isSome → u.script.isSome) (hr : u.record = entry :: t.record)
    (ha : ∀ status, entry.after status = .running)
    (hn : ∀ (earlier : Ledger η), earlier.Answered other →
      Ledger.Answered other (entry :: earlier)) : Trail other s u.recovered [] := by
  have hrec : u.recovered.status = .running ∧ u.recovered.error = none ∧
      u.recovered.script = u.script ∧ u.recovered.lastGoodFrame = u.lastGoodFrame ∧
      u.recovered.record = u.record := by
    unfold Session.recovered recover
    split <;> exact ⟨rfl, rfl, rfl, rfl, rfl⟩
  obtain ⟨hrun, hnone, hscript, hkept, hrecord⟩ := hrec
  refine ⟨?_, fun _ => by simp [hrun, hnone], fun hb => ?_⟩
  · obtain ⟨reports, ht, -, hans, -⟩ := h.ledger
    refine ⟨entry :: reports, by rw [hrecord, hr, ht]; rfl, ?_, hn reports hans, nofun⟩
    rw [hrun, Ledger.status_cons, ha]
  · have hu := (h.backed hb).congr hs hp
    exact ⟨hscript ▸ hu.script, hkept ▸ hu.kept, by simp [hnone]⟩

theorem keepFrame (h : Trail other s t []) : Trail other s t.keepFrame [] := by
  unfold Session.keepFrame
  split
  · refine ⟨h.ledger, h.snapshot, fun hb => ?_⟩
    exact ⟨(h.backed hb).script, rfl, (h.backed hb).backdrop⟩
  · exact h

/-- A failure of the drawing defaults over the overlay is not handled. -/
theorem drawError (h : Trail other s t []) : Trail other s (t.drawError e.audited) [] := by
  have hsame := drawError_sameScreen e.audited t
  have hscript : (t.drawError e.audited).script = t.script :=
    ((kept_surroundings t.files t.watcher t.script).drawError ⟨rfl, rfl, rfl⟩).2.2
  obtain ⟨overlay, hrecord, rfl | ⟨handle, answer, rfl, -⟩⟩ := drawError_record e t
  · exact h.congr hsame (hscript.symm ▸ id) hrecord
  · have hcalled := h.report hsame (hscript.symm ▸ id) (.called handle [] answer) hrecord
      (fun _ => rfl) fun _ ha => ha
    obtain ⟨reports, hr, hs, ha, -⟩ := hcalled.ledger
    exact ⟨⟨reports, hr, hs, ha, nofun⟩, hcalled.snapshot, hcalled.backed⟩

end Trail

/-- **Every building block leaves a trail.** -/
theorem carried_trail (e : Engine σ η) (other : Failure → Prop) (s : Session (σ × Ledger η) η) :
    Carried e.audited other fun _ t due => Trail other s t due where
  congr h hs hp he := h.congr hs hp (congrArg Prod.snd he)
  sync h := h.congr ⟨rfl, rfl, rfl⟩ id rfl
  flush h := h.congr ⟨rfl, rfl, rfl⟩ id rfl
  call handle args h := h.call handle args
  fail h := h.fail
  drawn _ h := h
  kept _ h := h.keepFrame
  loadDependency path h := h.loadDependency path
  stray hf h := h.owe hf
  unevaluated source path forced hf h := h.unevaluated source path forced hf
  backdrop _ _ h := h.enterError _
  evaluated {_ t} source path forced _ hok h := by
    have hrecord := evaluate_record (e := e) (s := t) source path forced
    rw [hok] at hrecord
    exact h.recovered (evaluate_sameScreen e.audited source path forced t)
      (fun hp => (evaluate_script e.audited source path forced t).symm ▸ hp) hrecord
      (fun _ => rfl) fun _ ha => ha

/-! ### Steps -/

theorem begun_of_status {s : Session σ η} (h : s.status ≠ .noSketch) (op : Operation) :
    s.begun op = s := by
  unfold begun started
  split
  · split
    · split
      · next hn => exact absurd hn h
      · rfl
    · rfl
  · rfl

/-- A session that is started holds a snapshot no more and no less than before. -/
theorem begun_snapshot {s : Session σ η} (h : s.status = .error ↔ s.error.isSome) (op : Operation) :
    (s.begun op).status = .error ↔ (s.begun op).error.isSome := by
  by_cases hs : s.status = .noSketch
  · unfold begun started
    rw [hs] at h ⊢
    split
    · split
      · simpa using h
      · simpa [hs] using h
    · simpa [hs] using h
  · rw [begun_of_status hs]
    exact h

variable {s : Session (σ × Ledger η) η}

theorem begun_record (op : Operation) : (s.begun op).record = s.record := by
  unfold begun started
  split
  · split
    · split <;> rfl
    · rfl
  · rfl

/-- **Every step leaves a trail.** -/
theorem perform_trail (e : Engine σ η) (op : Operation) (s : Session (σ × Ledger η) η) :
    Trail (Undecodable s.files (s.target op)) (s.begun op) (s.perform e.audited op).1 [] := by
  have h : Trail (Undecodable s.files (s.target op)) s s [] := .refl s
  have hopened :
      Trail (Undecodable s.files (s.target op)) (s.begun op) (s.opened e.audited op) [] := by
    cases op with
    | run => exact .refl _
    | draw =>
      rw [opened]
      split
      · exact h.drawError
      · exact h
    | install _ | load _ | setup | update | exit | reload _ | reloadFrom _ _ | event _ | edit _
    | present _ | drain _ => exact h
  exact (carried_trail e _ _).perform [] op hopened fun _ hd => hd

/-- So there is a snapshot exactly in the error state, step after step. -/
theorem perform_snapshot (op : Operation) (h : s.status = .error ↔ s.error.isSome) :
    (s.perform e.audited op).1.status = .error ↔ (s.perform e.audited op).1.error.isSome :=
  (perform_trail e op s).snapshot (begun_snapshot h op)

theorem perform_backed (op : Operation) (h : s.Backed) : (s.perform e.audited op).1.Backed := by
  refine (perform_trail e op s).backed ?_
  unfold begun started
  split
  · split
    · split
      · exact ⟨h.script, h.kept, h.backdrop⟩
      · exact h
    · exact h
  · exact h

/-! ### Runs -/

/-- Starting a loaded sketch keeps the frame on screen before anything can fail. -/
theorem run_backed (hs : s.status = .noSketch) (he : s.error = none) (hp : s.script.isSome) :
    (s.run e.audited).1.Backed := by
  obtain ⟨path, hp⟩ := Option.isSome_iff_exists.mp hp
  have hst : s.started = { s with status := .running } := by
    unfold started
    rw [hs]
  have hkeep : ∀ t : Session (σ × Ledger η) η, t.status = .running →
      t.keepFrame = { t with lastGoodFrame := some t.canvas.captureFrame } := by
    intro t ht
    unfold keepFrame
    rw [ht]
  -- the reload starts with a copy of the screen, so it may as well start after one
  have hagain : s.started.reloadFrom e.audited path false =
      s.started.keepFrame.reloadFrom e.audited path false := by
    unfold reloadFrom
    rw [keepFrame_status, hst, hkeep _ rfl, hkeep _ rfl]
    rfl
  have hrun : s.run e.audited = s.started.reloadFrom e.audited path false := by
    rw [run_eq, hp, hst]
    unfold reload
    rw [hp]
  have hb : s.started.keepFrame.Backed := by
    rw [hst, hkeep _ rfl]
    exact ⟨by simp [hp], rfl, by simp [he]⟩
  rw [hrun, hagain]
  have ht : Trail (fun _ => True) s.started.keepFrame s.started.keepFrame [] := .refl _
  have hreload := (carried_trail e (fun _ => True) s.started.keepFrame).reloadFrom [] ht path
    false fun _ _ _ _ => trivial
  exact hreload.backed hb

/-- A sketch that is loaded and started is backed, whatever comes of its evaluation. -/
theorem launch_backed (hs : s.status = .noSketch) (he : s.error = none) {loadPath : LoadPath}
    {path : Path} (hload : ((s.installPath loadPath).1.load path).2 = none) :
    (s.launch e.audited loadPath path).Backed := by
  have hi : (s.installPath loadPath).1.status = .noSketch ∧
      (s.installPath loadPath).1.error = none := by
    unfold installPath
    split <;> exact ⟨hs, he⟩
  rw [launch_eq]
  generalize (s.installPath loadPath).1 = t at hi hload ⊢
  unfold load at hload ⊢
  split at hload
  · cases hload
  · cases hload
  · exact run_backed hi.1 hi.2 rfl

/-- A session that is reached from a fresh one has a snapshot exactly in the error state. -/
theorem play_snapshot (e : Engine σ η) (engine : σ) (settings : Settings) (canvas : Canvas)
    (files : FileTree) (ops : List Operation) :
    let s := (Session.fresh engine settings canvas files).play e ops
    s.status = .error ↔ s.error.isSome := by
  let start : Session (σ × Ledger η) η := .fresh (engine, []) settings canvas files
  have hstart : start.status = .error ↔ start.error.isSome := by simp [start, fresh]
  have hplain : (start.play e.audited ops).plain =
      (Session.fresh engine settings canvas files).play e ops := e.audited_play ops start
  rw [← hplain]
  exact play_invariant (e := e.audited) (I := fun s => s.status = .error ↔ s.error.isSome)
    (fun op _ => perform_snapshot op) ops hstart

/-- **Status and snapshot stay in step.** Whatever engine it is, and whatever operations are asked
for in which order, there is a snapshot exactly in the error state, and every step moves the status
as the answers of the engine say, one after the other: an evaluation that succeeds makes the sketch
run, a failure that is handled puts it into error, and nothing else moves it. So there is no way
back to where there was no sketch; out of error leads an evaluation that succeeded; and a running
sketch is stopped only into error, and only in a step in which the engine answered with a failure or
the file to reload could not be decoded. Once a sketch was loaded and started, there is a script and
a backdrop in every error state. The ledger changes nothing about the run. -/
theorem status_in_step (e : Engine σ η) (engine : σ) (settings : Settings) (canvas : Canvas)
    (files : FileTree) (ops : List Operation) :
    let start : Session (σ × Ledger η) η := .fresh (engine, []) settings canvas files
    let s := start.play e.audited ops
    s.plain = (Session.fresh engine settings canvas files).play e ops ∧
      (s.status = .error ↔ s.error.isSome) ∧
      (∀ op, ∃ reports : Ledger η,
        let t := (s.perform e.audited op).1
        t.record = reports ++ s.record ∧ t.status = reports.status (s.begun op).status ∧
          reports.Answered (Undecodable s.files (s.target op)) ∧
          (s.status ≠ .noSketch → t.status ≠ .noSketch) ∧
          (s.status = .error → t.status ≠ .error →
            t.status = .running ∧ ∃ origin reset, .evaluated origin reset (.ok ()) ∈ reports) ∧
          (s.status = .running → t.status ≠ .running → t.status = .error ∧
            ∃ failure, failure ∈ reports.raised ∨
              Undecodable s.files (s.target op) failure)) ∧
      ∀ loadPath path rest, ops = .install loadPath :: .load path :: .run :: rest →
        ((start.installPath loadPath).1.load path).2 = none → s.status = .error →
          s.script.isSome ∧ ∃ snapshot, s.error = some snapshot ∧ snapshot.backdrop.isSome := by
  intro start s
  have hsnap : s.status = .error ↔ s.error.isSome :=
    play_snapshot e.audited (engine, []) settings canvas files ops
  refine ⟨e.audited_play ops start, hsnap, fun op => ?_, ?_⟩
  · obtain ⟨reports, hr, hs, ha, -⟩ := (perform_trail e op s).ledger
    rw [begun_record] at hr
    refine ⟨reports, hr, hs, ha, ?_, ?_, ?_⟩
    · intro hn
      rw [hs, begun_of_status hn]
      exact reports.status_ne_noSketch hn
    · intro he hne
      rw [hs, begun_of_status (by simp [he]), he] at hne ⊢
      exact Ledger.exists_evaluated_of_status hne
    · intro hrun hne
      rw [hs, begun_of_status (by simp [hrun]), hrun] at hne ⊢
      obtain ⟨herr, failure, answer, hm⟩ := Ledger.exists_worded_of_status hne
      exact ⟨herr, failure, ha.of_worded hm⟩
  · rintro loadPath path rest rfl hload herr
    have hb : s.Backed := play_invariant (e := e.audited) (fun op _ => perform_backed op) rest
      (launch_backed (e := e) rfl rfl hload)
    obtain ⟨snapshot, he⟩ := Option.isSome_iff_exists.mp (hsnap.mp herr)
    exact ⟨hb.script, snapshot, he, hb.backdrop snapshot he⟩

/-- A sketch that fails in its update phase and is then saved without the mistake: there is a
backdrop while it is in error, and an evaluation that succeeded when it is out of it. -/
theorem status_in_step_when_repaired :
    let start : Session (ScriptState sketchLanguage × Ledger ScriptHandle) ScriptHandle :=
      .fresh (.empty {}, []) {} (.blank 1 1)
        (.sketchbook "fn update() \x7b throw 1; \x7d" 1000 "" 1000)
    let e := (scriptEngine sketchLanguage).audited
    let s := start.play e [.install ⟨[⟨"/s"⟩]⟩, .load ⟨"/s/main"⟩, .run, .update,
      .edit (.sketchbook "print(1);" 2000 "" 1000)]
    (s.status = .error ∧ s.script.isSome ∧
      ∃ snapshot, s.error = some snapshot ∧ snapshot.backdrop.isSome) ∧
      ∃ origin reset,
        .evaluated origin reset (.ok ()) ∈ (s.perform e (.reload false)).1.record := by
  intro start e s
  have hs : s.status = .error ∧ (s.perform e (.reload false)).1.status ≠ .error := by
    decide +kernel
  have hload : ((start.installPath ⟨[⟨"/s"⟩]⟩).1.load ⟨"/s/main"⟩).2.isNone := by decide +kernel
  obtain ⟨-, -, hstep, hbacked⟩ := status_in_step (scriptEngine sketchLanguage) (.empty {}) {}
    (.blank 1 1) (.sketchbook "fn update() \x7b throw 1; \x7d" 1000 "" 1000)
    [.install ⟨[⟨"/s"⟩]⟩, .load ⟨"/s/main"⟩, .run, .update,
      .edit (.sketchbook "print(1);" 2000 "" 1000)]
  obtain ⟨reports, hr, -, -, -, hleft, -⟩ := hstep (.reload false)
  obtain ⟨-, origin, reset, hm⟩ := hleft hs.1 hs.2
  refine ⟨⟨hs.1, hbacked _ _ _ rfl (Option.isNone_iff_eq_none.mp hload) hs.1⟩, origin, reset, ?_⟩
  exact hr ▸ List.mem_append_left _ hm

end Session

end LiveSketch
