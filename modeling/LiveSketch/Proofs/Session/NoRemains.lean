import LiveSketch.Proofs.Session.Chronicle

/-!
# A running sketch holds no remains of a failed evaluation

Source that fails half way leaves its functions behind, and part of its hooks and includes. A
session forgets about all of it only when it evaluates with a reset, so what keeps a running sketch
free of such remains is that every way from a failed application back to running goes through one.

## The invariant

Outside of the error state, no request for a file is left over and every application since the last
reset was complete. Leftover requests belong to the invariant because taking note of a frame acts on
them: a file that is included then could fail without the session noticing. Only statements ask for
files, and statements that end well have their requests carried out, so a running session has none.

## Main definitions

* `Session.Intact` — the invariant.

## Main results

* `Session.intact_perform` — every step keeps it.
* `Session.running_complete` — it holds of every session of sketches.
-/

namespace LiveSketch

/-- Bytes that are decoded as the source of a script are the text of the file. -/
theorem readText_of_decodeSource {files : FileTree} {path : Path} {bytes : List UInt8}
    {source : String} (hr : files.read path = .ok bytes)
    (hd : decodeSource path bytes = .ok source) : files.readText path = .ok source := by
  unfold FileTree.readText decodeSource at *
  rw [hr]
  dsimp only
  split at hd
  · cases hd
    simp [*]
  · cases hd

open ScriptEngine

variable {L : Language}

namespace Session

/-- No request for a file is left over, and every application since the last reset was complete. -/
structure Clean (s : Chronicle L) : Prop where
  settled : pending s.bench = []
  complete : ∀ a ∈ s.record.sinceReset, a.ending = .complete

/-- The session is in error, or it is clean. -/
def Intact (s : Chronicle L) : Prop := s.status = .error ∨ Clean s

/-- Being clean is a matter of the engine alone. -/
theorem Clean.congr {s s' : Chronicle L} (h : Clean s)
    (he : s'.stage.engine = s.stage.engine) : Clean s' where
  settled := by
    rw [← h.settled]
    exact congrArg (fun engine => engine.1.board.requests.includes) he
  complete := by
    rw [record, he]
    exact h.complete

theorem Intact.congr {s s' : Chronicle L} (h : Intact s) (hs : s'.status = s.status)
    (he : s'.stage.engine = s.stage.engine) : Intact s' :=
  h.imp hs.trans fun hc => hc.congr he

/-- A step that adds nothing to the history keeps a session clean. -/
theorem Clean.of_progress {s s' : Chronicle L} {files : FileTree} {watched : List Path}
    (h : Clean s) (hs : s'.record = s.record ∧ Progress files watched s.bench [] s'.bench) :
    Clean s' where
  settled := hs.2.settled h.settled
  complete := by
    rw [hs.1]
    exact h.complete

theorem kept_clean (hL : L.Discreet) : Kept (chronicler L) (Clean (L := L)) := by
  have kept : ∀ s : Chronicle L, Clean s → Kept (chronicler L) fun s' =>
      s'.record = s.record ∧ Progress s.files [] s.bench [] s'.bench :=
    fun s h => kept_bench s.files [] hL h.settled s.record
  have start : ∀ s : Chronicle L, s.record = s.record ∧ Progress s.files [] s.bench [] s.bench :=
    fun s => ⟨rfl, .refl _⟩
  exact {
    note := fun s _ _ _ h => h.of_progress ((kept s h).note s _ _ _ (start s))
    sync := fun s h => h.of_progress ((kept s h).sync s (start s))
    call := fun _ _ s h => h.of_progress ((kept s h).call _ _ s (start s))
    flush := fun s h => h.of_progress ((kept s h).flush s (start s))
    fail := fun s _ h => h.of_progress ((kept s h).fail s _ (start s))
    canvas := fun _ _ h => h.congr rfl
    frameCount := fun _ _ h => h.congr rfl
    keyHeld := fun _ _ h => h.congr rfl
    pointer := fun _ _ h => h.congr rfl
    setupDone := fun _ h => h.congr rfl }

/-- Phases and events keep the invariant. -/
theorem kept_intact (hL : L.Discreet) : Kept (chronicler L) (Intact (L := L)) :=
  (kept_clean hL).orError

/-! ### Reloading -/

/-- An evaluation that succeeds leaves a clean session, if it is one with a reset whenever the
session was in error. -/
theorem evaluate_clean (hL : L.Discreet) {s : Chronicle L} (h : Intact s) {source : String}
    {path : Path} {forced : Bool} (hf : s.status = .error → forced = true)
    (hr : s.files.readText path = .ok source)
    (hok : (s.evaluate (chronicler L) source path forced).2 = .ok ()) :
    Clean (s.evaluate (chronicler L) source path forced).1 := by
  have h₀ : forced = false → Clean (s.sync (chronicler L)) := fun hn =>
    ((kept_intact hL).sync s h).resolve_left fun he => by simp [hf he] at hn
  obtain ⟨log, b, happ, hrec, heng, -, -⟩ := evaluate_applied [] hr hok
  refine ⟨?_, fun a ha => ?_⟩
  · have hp := happ.settled (pending_evaluationStart fun hn => (h₀ hn).settled)
    unfold pending at hp ⊢
    rwa [heng]
  · rw [hrec, History.sinceReset_extend] at ha
    obtain ha | ha := List.mem_append.mp ha
    · exact happ.complete a ha
    · cases forced with
      | false => exact (h₀ rfl).complete a ha
      | true => cases ha

theorem evaluateBytes_clean (hL : L.Discreet) {s : Chronicle L} (h : Intact s) {path : Path}
    {bytes : List UInt8} {forced : Bool} (hf : s.status = .error → forced = true)
    (hr : s.files.read path = .ok bytes)
    (hok : (s.evaluateBytes (chronicler L) path bytes forced).2 = .ok ()) :
    Clean (s.evaluateBytes (chronicler L) path bytes forced).1 := by
  unfold evaluateBytes at hok ⊢
  dsimp only at hok ⊢
  split at hok
  · next source hd =>
    have hi : Intact (s.announceReading path bytes.length forced) :=
      h.congr rfl rfl
    exact evaluate_clean hL hi hf (readText_of_decodeSource hr hd) hok
  · cases hok

theorem succeed_intact (hL : L.Discreet) {s : Chronicle L} (h : Clean s) (forced : Bool) :
    Intact (s.succeed (chronicler L) forced) := by
  have hr : Clean s.recovered := by
    unfold recovered
    split <;> exact h.congr rfl
  exact (kept_intact hL).succeed forced (.inr hr)

theorem reloadFrom_intact (hL : L.Discreet) {s : Chronicle L} (h : Intact s) (path : Path)
    (forced : Bool) : Intact (s.reloadFrom (chronicler L) path forced).1 := by
  unfold reloadFrom
  split
  · exact (kept_intact hL).note s _ _ _ h
  · have hk : Intact s.keepFrame := by
      unfold keepFrame
      split
      · exact h.congr rfl rfl
      · exact h
    dsimp only
    split
    · exact hk
    · next bytes hr =>
      have hf : s.keepFrame.status = .error → (forced || decide (s.status = .error)) = true :=
        fun he => by simp [s.keepFrame_status ▸ he]
      have hc := evaluateBytes_clean hL hk hf hr
      generalize s.keepFrame.evaluateBytes (chronicler L) path bytes _ = ran at hc ⊢
      obtain ⟨s', failure | _⟩ := ran
      · exact .inl rfl
      · exact succeed_intact hL (hc rfl) _

theorem reload_intact (hL : L.Discreet) {s : Chronicle L} (h : Intact s) (forced : Bool) :
    Intact (s.reload (chronicler L) forced).1 := by
  unfold reload
  split
  · exact (kept_intact hL).note s _ _ _ h
  · exact reloadFrom_intact hL h _ forced

theorem run_intact (hL : L.Discreet) {s : Chronicle L} (h : Intact s) :
    Intact (s.run (chronicler L)).1 := by
  unfold run
  split
  · exact (kept_intact hL).note s _ _ _ h
  · refine reload_intact hL ?_ false
    split
    · next hs => exact .inr ((h.resolve_left (by simp [hs])).congr rfl)
    · exact h

/-! ### Polls -/

theorem reloadChanged_intact {s : Chronicle L} (h : Intact s) (path : Path) :
    Intact (s.reloadChanged (chronicler L) path) := by
  obtain he | hok := reloadChanged_cases (chronicler L) path s
  · exact .inl he
  · obtain ⟨text, log, happ, hrec, hs⟩ := reloadChanged_applied [] hok
    refine h.imp (fun he => by rw [hs, he]) fun hc => ⟨?_, fun a ha => ?_⟩
    · exact happ.settled ((mark_pending path _).trans hc.settled)
    · rw [hrec, History.sinceReset_extend] at ha
      exact (List.mem_append.mp ha).elim (happ.complete a) (hc.complete a)

theorem applyChange_intact (hL : L.Discreet) {s : Chronicle L} (h : Intact s)
    (change : WatchChange) : Intact (s.applyChange (chronicler L) change).1 := by
  have ha : Intact (s.announceChange change) := h.congr rfl rfl
  rw [applyChange_eq]
  refine reload_intact hL ?_ false
  split
  · exact ha
  · exact reloadChanged_intact ha change.path

theorem applyChanges_intact (hL : L.Discreet) {s : Chronicle L} (h : Intact s)
    (changes : List WatchChange) : Intact (s.applyChanges (chronicler L) changes).1 := by
  induction changes generalizing s with
  | nil => exact h
  | cons change rest ih =>
    have hc := applyChange_intact hL h change
    unfold applyChanges
    generalize s.applyChange (chronicler L) change = ran at hc ⊢
    obtain ⟨s', _ | fatal⟩ := ran
    · exact ih hc
    · exact hc

theorem draw_intact (hL : L.Discreet) {s : Chronicle L} (h : Intact s) :
    Intact (s.draw (chronicler L)).1 := by
  have hw : ∀ {s : Chronicle L} watcher, Intact s → Intact { s with watcher } :=
    fun watcher h => h.congr rfl rfl
  have hf := hw (s.frame (chronicler L)).watcher.tick.1 ((kept_intact hL).frame h)
  rw [draw_eq]
  split
  · unfold checkWatched
    split
    · exact hw _ hf
    · exact applyChanges_intact hL (hw _ hf) _
  · exact hf

/-! ### Whole runs -/

/-- Every step keeps the invariant. -/
theorem intact_perform (hL : L.Discreet) (op : Operation) (s : Chronicle L) (h : Intact s) :
    Intact (s.perform (chronicler L) op).1 := by
  cases op with
  | install loadPath =>
    unfold perform installPath
    dsimp only
    split
    · exact h
    · exact h.congr rfl rfl
  | load path =>
    unfold perform load
    dsimp only
    split
    · exact h
    · exact h
    · exact h.congr rfl rfl
  | run => exact run_intact hL h
  | setup => exact (kept_intact hL).setup h
  | update => exact (kept_intact hL).update h
  | draw => exact draw_intact hL h
  | exit => exact (kept_intact hL).exit h
  | reload forced => exact reload_intact hL h forced
  | reloadFrom path forced => exact reloadFrom_intact hL h path forced
  | event event => exact (kept_intact hL).event event h
  | edit files => exact h.congr rfl rfl
  | present canvas => exact h.congr rfl rfl
  | drain stream => exact h.congr rfl rfl

/-- **A running sketch holds no remains of a failed evaluation.** Whatever operations are asked for
and however the files are edited in between, every source text that was applied since the last reset
was parsed, ran to its end, and had all its requests carried out. The history is kept beside the
engine and changes nothing about the run. -/
theorem running_complete (settings : Settings) (canvas : Canvas) (files : FileTree)
    (ops : List Operation) :
    let start : Chronicle sketchLanguage := .start settings canvas files
    let s := start.play (chronicler sketchLanguage) ops
    s.plain =
        (Session.fresh (.empty {}) settings canvas files).play (scriptEngine sketchLanguage) ops ∧
      (s.status = .running → ∀ a ∈ s.record.sinceReset, a.ending = .complete) := by
  refine ⟨Engine.observed_play _ _ ops _, fun hs => ?_⟩
  have h := play_invariant (intact_perform sketchLanguage_discreet) ops
    (s := Chronicle.start settings canvas files) (.inr ⟨rfl, fun a ha => by cases ha⟩)
  exact (h.resolve_left (by simp [hs])).complete

/-- A library is saved with a mistake and then without, and the sketch runs again with nothing left
of the mistake. -/
theorem running_complete_after_mistake :
    let s := (Chronicle.start {} (.blank 1 1)
      (.sketchbook "include(\"lib\");" 1000 "print(1);" 1000)).play (chronicler sketchLanguage)
        [.install ⟨[⟨"/s"⟩]⟩, .load ⟨"/s/main"⟩, .run,
          .edit (.sketchbook "include(\"lib\");" 1000 "print(" 2000), .reload true,
          .edit (.sketchbook "include(\"lib\");" 1000 "print(2);" 3000), .reload false]
    s.status = .running ∧ (∃ a ∈ s.record.applications, a.ending = .unparsed) ∧
      ∀ a ∈ s.record.sinceReset, a.ending = .complete := by
  intro s
  have hs : s.status = .running ∧ ∃ a ∈ s.record.applications, a.ending = .unparsed := by
    decide +kernel
  exact ⟨hs.1, hs.2, (running_complete _ _ _ _).2 hs.1⟩

end Session

end LiveSketch
