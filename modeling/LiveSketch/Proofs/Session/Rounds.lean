import LiveSketch.Proofs.Session.Chronicle
import LiveSketch.Proofs.Session.EngineState
import LiveSketch.Proofs.Session.Surroundings

/-!
# Which files a reload brings up to date

A file is up to date when the text that was evaluated last under its path is the text that it holds.
While nothing that is applied fails, a reload brings three kinds of files up to date: the sketch,
the changed file, and the files that are watched from then on because they were included for the
first time. Every other file stays as it was, since an evaluation only ever reads current texts.

## The contract

`Advance` says this of a step, and composes. It needs `Ready`, which every reload leaves behind: no
request is left over, and every file that was run is watched already or asked to be. Between a
changed dependency and the reload of the sketch that follows it, files are asked for that nobody
watches yet; these are listed by the second argument of `Ready`.

## Main definitions

* `Session.UpToDate`, `Session.Flawless` — what is evaluated, and that nothing applied failed.
* `Session.Ready`, `Session.Advance` — the invariant, and what a step does to files.

## Main results

* `Session.reload_round`, `Session.reloadChanged_round`, `Session.applyChanges_round` — reloads.
* `Session.draw_round` — a draw that polls.
-/

namespace LiveSketch

open ScriptEngine

variable {L : Language}

/-- A file with a text holds bytes that are decoded as this text. -/
theorem exists_read_of_readText {files : FileTree} {path : Path} {text : String}
    (h : files.readText path = .ok text) :
    ∃ bytes, files.read path = .ok bytes ∧ decodeSource path bytes = .ok text := by
  unfold FileTree.readText at h
  unfold decodeSource
  cases hr : files.read path with
  | error cause => simp [hr] at h
  | ok bytes =>
    refine ⟨bytes, rfl, ?_⟩
    cases hd : Utf8.decode bytes with
    | error offset => simp [hr, hd] at h
    | ok decoded => simpa [hr, hd] using h

namespace Watcher

/-- Registering adds nothing but what is asked for and not listed yet. -/
theorem mem_foldl_register {paths : List Path} {w : Watcher} {path : Path}
    (h : path ∈ (paths.foldl register w).files) :
    path ∈ w.files ∨ path ∈ paths ∧ ¬ Path.listed w.files path := by
  induction paths generalizing w with
  | nil => exact .inl h
  | cons first rest ih =>
    obtain h | ⟨hm, hn⟩ := ih (w := w.register first) h
    · unfold register at h
      split at h
      · exact .inl h
      · next hl =>
        obtain h | h := List.mem_append.mp h
        · exact .inl h
        · obtain rfl := List.mem_singleton.mp h
          exact .inr ⟨List.mem_cons_self, hl⟩
    · refine .inr ⟨List.mem_cons_of_mem first hm, fun hl => hn ?_⟩
      obtain ⟨more, hw⟩ := w.register_grows first
      rw [hw]
      simp [hl]

/-- Everything that was listed or is asked for is listed afterwards. -/
theorem listed_foldl_register {paths : List Path} {w : Watcher} {path : Path}
    (h : Path.listed w.files path ∨ Path.listed paths path) :
    Path.listed (paths.foldl register w).files path := by
  induction paths generalizing w with
  | nil => exact h.resolve_right (by simp [Path.listed])
  | cons first rest ih =>
    refine ih ?_
    obtain ⟨more, hw⟩ := w.register_grows first
    obtain h | h := h
    · exact .inl (by simp [hw, h])
    · obtain h | h := Bool.or_eq_true_iff.mp h
      · left
        unfold register
        split
        · next hl => exact Path.listed_of_same hl h
        · exact Path.listed_of_same (Path.listed_of_mem (List.mem_append_right _
            (List.mem_singleton_self first))) h
      · exact .inr h

end Watcher

/-- Applications are added to a history and never removed. -/
theorem keeps_application (a : Application) :
    (chronicler L).Keeps fun state => a ∈ state.2.applications where
  evaluate source origin reset files stage ctx h := by
    refine (History.applications_extend _ _) ▸ List.mem_append_right _ ?_
    cases reset <;> exact h
  loadDependency path files stage ctx h :=
    (History.applications_extend _ _) ▸ List.mem_append_right _ h
  processError _ _ h := h
  sync env files stage ctx h := (History.applications_extend _ _) ▸ List.mem_append_right _ h
  flush _ _ h := h
  invoke _ _ _ h := h

namespace Session

/-- The text that was evaluated last under a path is the text of the file. -/
def UpToDate (s : Chronicle L) (path : Path) : Prop := s.record.UpToDate s.files path

instance (s : Chronicle L) (path : Path) : Decidable (s.UpToDate path) :=
  inferInstanceAs (Decidable (History.UpToDate s.files s.record path))

/-- Nothing that was ever applied failed. -/
def Flawless (s : Chronicle L) : Prop := ∀ a ∈ s.record.applications, a.ending = .complete

instance (s : Chronicle L) : Decidable s.Flawless :=
  inferInstanceAs (Decidable (∀ a ∈ s.record.applications, a.ending = .complete))

theorem Flawless.earlier {s t : Chronicle L} (h : t.Flawless)
    (hk : ∀ {J}, (chronicler L).Keeps J → J s.stage.engine → J t.stage.engine) : s.Flawless :=
  fun a ha => h a (hk (keeps_application a) ha)

/-- A started sketch, the first of the watched files, without requests that are left over. Every
file that was run is watched or asked to be, and what is asked to be watched is up to date. -/
structure Ready (s : Chronicle L) (asked : List Application) : Prop where
  started : s.status ≠ .noSketch
  script : ∃ path, s.script = some path ∧ s.watcher.files.head? = some path
  settled : pending s.bench = []
  covered : Covered s.watcher.files s.bench asked
  asked : ∀ a ∈ asked, s.UpToDate a.origin
  readable : ∀ path ∈ s.watcher.files, ∃ text, s.files.readText path = .ok text

/-- A later session, in which all files are up to date that were before, or that are newly
watched. -/
structure Advance (s t : Chronicle L) : Prop where
  around : Around s t
  keeps : ∀ path, s.UpToDate path → t.UpToDate path
  added : ∀ path ∈ t.watcher.files, path ∉ s.watcher.files → t.UpToDate path

namespace Advance

variable {s t u : Chronicle L}

theorem trans (h : Advance s t) (h' : Advance t u) : Advance s u where
  around := h.around.trans h'.around
  keeps path hp := h'.keeps path (h.keeps path hp)
  added path hp hs := by
    by_cases ht : path ∈ t.watcher.files
    · exact h'.keeps path (h.added path ht hs)
    · exact h'.added path hp ht

/-- A step that evaluates nothing and watches nothing new. -/
theorem of_same (hr : t.record = s.record) (hf : t.files = s.files)
    (hw : t.watcher = s.watcher) (hs : t.script = s.script) : Advance s t where
  around := .of_eq hf hw hs
  keeps path h := by
    unfold UpToDate
    rwa [hr, hf]
  added path hp hn := absurd (hw ▸ hp) hn

theorem refl (s : Chronicle L) : Advance s s := of_same rfl rfl rfl rfl

end Advance

theorem kept_started {σ η : Type} {e : Engine σ η} : Kept e fun s => s.status ≠ .noSketch where
  note _ _ _ _ h := h
  sync _ h := h
  call _ _ _ h := h
  flush _ h := h
  fail s failure _ := by simp
  canvas _ _ h := h
  frameCount _ _ h := h
  keyHeld _ _ h := h
  pointer _ _ h := h
  setupDone _ h := h

namespace Ready

variable {s t : Chronicle L} {asked : List Application}

theorem exists_script (h : Ready s asked) :
    ∃ path, s.script = some path ∧ path ∈ s.watcher.files := by
  obtain ⟨path, hs, hp⟩ := h.script
  exact ⟨path, hs, List.mem_of_mem_head? hp⟩

/-- What the invariant depends on, the status apart. -/
theorem congr (h : Ready s asked) (ht : t.status ≠ .noSketch) (hf : t.files = s.files)
    (hs : t.script = s.script) (hw : t.watcher.files = s.watcher.files)
    (he : t.stage.engine = s.stage.engine) (hc : t.context = s.context) : Ready t asked where
  started := ht
  script := by
    rw [hs, hw]
    exact h.script
  settled := by
    rw [← h.settled]
    exact congrArg (fun engine => engine.1.board.requests.includes) he
  covered := by
    rw [hw]
    exact h.covered.congr (congrArg (fun engine => engine.1.included) he)
      (congrArg Context.dependencies hc)
  asked a ha := by
    unfold UpToDate record
    rw [he, hf]
    exact h.asked a ha
  readable := by
    rw [hw, hf]
    exact h.readable

/-- Phases and events keep a session ready, and bring no file out of date. -/
theorem of_kept (hL : L.Discreet) (h : Ready s asked)
    (hk : ∀ {I : Chronicle L → Prop}, Kept (chronicler L) I → I s → I t) :
    Ready t asked ∧ Advance s t := by
  obtain ⟨hf, hw, hs⟩ := hk (kept_surroundings s.files s.watcher s.script) ⟨rfl, rfl, rfl⟩
  obtain ⟨hr, hp⟩ := hk (kept_bench s.files s.watcher.files hL h.settled s.record) ⟨rfl, .refl _⟩
  have ha : Advance s t := .of_same hr hf hw hs
  refine ⟨?_, ha⟩
  exact {
    started := hk kept_started h.started
    script := by
      rw [hs, hw]
      exact h.script
    settled := hp.settled h.settled
    covered := hw ▸ hp.covers asked h.covered
    asked := fun a hm => ha.keeps _ (h.asked a hm)
    readable := by
      rw [hw, hf]
      exact h.readable }

end Ready

/-! ### Evaluation -/

/-- An evaluation that leaves nothing flawed behind succeeded. -/
theorem evaluate_ok {s : Chronicle L} {source : String} {path : Path} {forced : Bool}
    (h : (s.evaluate (chronicler L) source path forced).1.Flawless) :
    (s.evaluate (chronicler L) source path forced).2 = .ok () := by
  obtain ⟨ending, hm, hiff⟩ := recordSource_own s.files (includeDepth s.files) source path
    (evaluationStart path forced (s.sync (chronicler L)).bench)
  refine hiff.mp (h ⟨path, source, ending⟩ ?_)
  rw [evaluate_eq]
  unfold record
  rw [adopt_engine]
  exact (History.applications_extend _ _) ▸ List.mem_append_left _ hm

/-- So did the reload of a changed dependency that can be read. -/
theorem loadDependency_ok {s : Chronicle L} {path : Path} {text : String}
    (hr : s.files.readText path = .ok text)
    (h : (s.reloadChanged (chronicler L) path).Flawless) :
    ((chronicler L).loadDependency path s.files s.stage s.context).2.2 = .ok () := by
  obtain ⟨ending, hm, hiff⟩ := recordFile_own hr (mark path s.bench)
  have hload : ⟨path, text, ending⟩ ∈ ((chronicler L).loadDependency path s.files s.stage
      s.context).1.engine.2.applications :=
    (History.applications_extend _ _) ▸ List.mem_append_left _ hm
  refine hiff.mp (h ⟨path, text, ending⟩ ?_)
  unfold reloadChanged
  generalize (chronicler L).loadDependency path s.files s.stage s.context = ran at hload ⊢
  obtain ⟨stage, context, failure | _⟩ := ran
  · exact (keeps_application _).kept.fail _ failure hload
  · exact hload

theorem evaluateBytes_of_text {σ η : Type} {e : Engine σ η} {s : Session σ η} {path : Path}
    {bytes : List UInt8} {text : String} (hd : decodeSource path bytes = .ok text)
    (forced : Bool) : s.evaluateBytes e path bytes forced =
      (s.announceReading path bytes.length forced).evaluate e text path forced := by
  unfold evaluateBytes
  dsimp only
  rw [hd]

/-- A reload of a file with a text evaluates this text, and succeeds or fails with it. -/
theorem reloadFrom_of_text {σ η : Type} {e : Engine σ η} {s : Session σ η} {path : Path}
    {text : String} (hs : s.status ≠ .noSketch) (hr : s.files.readText path = .ok text)
    (forced : Bool) : ∃ size,
      let ran := (s.keepFrame.announceReading path size (forced || s.status = .error)).evaluate e
        text path (forced || s.status = .error)
      (ran.2 = .ok () →
        s.reloadFrom e path forced = (ran.1.succeed e (forced || s.status = .error), none)) ∧
      ∀ failure, ran.2 = .error failure →
        s.reloadFrom e path forced =
          (ran.1.enterError e failure ran.1.evaluationBackdrop, none) := by
  obtain ⟨bytes, hb, hd⟩ := exists_read_of_readText hr
  refine ⟨bytes.length, ?_⟩
  unfold reloadFrom
  rw [if_neg hs]
  dsimp only
  rw [keepFrame_files, hb]
  dsimp only
  rw [evaluateBytes_of_text hd]
  generalize Session.evaluate e text path _ _ = ran
  obtain ⟨t, failure | _⟩ := ran
  · refine ⟨nofun, fun found hf => ?_⟩
    cases hf
    rfl
  · exact ⟨fun _ => rfl, nofun⟩

/-- What evaluation starts from is covered as soon as the source text counts as applied. -/
theorem covered_evaluationStart {watched : List Path} {b : Bench L} {asked : List Application}
    (h : Covered watched b asked) {path : Path} (hp : path ∈ watched) (forced : Bool)
    (a : Application) : Covered watched (evaluationStart path forced b) (a :: asked) where
  included p hm := by
    have hd : (evaluationStart path forced b).2.dependencies = b.2.dependencies := by
      cases forced <;> rfl
    rw [hd]
    obtain hm | rfl := ScriptState.mem_markIncluded hm
    · cases forced with
      | false => exact h.included p hm
      | true => cases hm
    · exact .inl (Path.listed_of_mem hp)
  dependencies p hm := by
    have hd : p ∈ b.2.dependencies := by cases forced <;> exact hm
    exact (h.dependencies p hd).imp_right fun ⟨c, hc, ho⟩ => ⟨c, List.mem_cons_of_mem a hc, ho⟩

/-- **An evaluation brings the source text up to date, and the files that are newly watched.** -/
theorem evaluate_round (hL : L.Discreet) {s : Chronicle L} {asked : List Application}
    (h : s.Ready asked) {path : Path} {text : String} (hp : path ∈ s.watcher.files)
    (hr : s.files.readText path = .ok text) (forced : Bool)
    (hfl : (s.evaluate (chronicler L) text path forced).1.Flawless) :
    (s.evaluate (chronicler L) text path forced).1.Ready [] ∧
      s.Advance (s.evaluate (chronicler L) text path forced).1 ∧
      (s.evaluate (chronicler L) text path forced).1.UpToDate path := by
  obtain ⟨hs, has⟩ := h.of_kept hL fun hI => hI.sync s
  obtain ⟨log, b, happ, hrec, heng, hctx, hw⟩ :=
    evaluate_applied s.watcher.files hr (evaluate_ok hfl)
  have haround := (lasting_around (e := chronicler L) s).evaluate s text path forced (.refl s)
  have hstatus : (s.evaluate (chronicler L) text path forced).1.status = s.status := by
    rw [evaluate_eq, adopt_eq]
    rfl
  have hc := happ.covers (covered_evaluationStart hs.covered hp forced _)
  have hset := happ.settled (pending_evaluationStart fun _ => hs.settled)
  generalize (s.evaluate (chronicler L) text path forced).1 = t at *
  have hmem : ∀ a ∈ log, t.UpToDate a.origin := by
    intro a ha
    unfold UpToDate
    rw [hrec, haround.files]
    exact History.upToDate_of_mem happ.read ha _
  have hkeeps : ∀ p, s.UpToDate p → t.UpToDate p := by
    intro p hu
    have hu' : History.UpToDate s.files (if forced then .reset :: (s.sync (chronicler L)).record
        else (s.sync (chronicler L)).record) p := by
      cases forced <;> exact has.keeps p hu
    unfold UpToDate
    rw [hrec, haround.files]
    exact hu'.extend happ.read
  have hadded : ∀ p ∈ t.watcher.files, p ∉ s.watcher.files → t.UpToDate p := by
    intro p hm hn
    rw [hw] at hm
    obtain ⟨hd, hl⟩ := (Watcher.mem_foldl_register hm).resolve_left hn
    obtain ⟨a, ha, rfl⟩ := (hc.dependencies p hd).resolve_left hl
    obtain ha | ha := List.mem_append.mp ha
    · exact hmem a ha
    · exact hkeeps _ (h.asked a ha)
  refine ⟨?_, ⟨haround, hkeeps, hadded⟩, hmem _ happ.mem⟩
  exact {
    started := hstatus ▸ h.started
    script := by
      obtain ⟨q, hq, hhead⟩ := h.script
      obtain ⟨more, hmore⟩ := haround.watcher
      exact ⟨q, haround.script.trans hq, by simp [hmore, hhead]⟩
    settled := by
      unfold pending at hset ⊢
      rwa [heng]
    covered := {
      included := fun p hm => by
        rw [heng] at hm
        rw [hw]
        exact .inl (Watcher.listed_foldl_register (hc.included p hm))
      dependencies := fun p hm => by
        have hd : t.bench.2.dependencies = [] := congrArg Context.dependencies hctx
        rw [hd] at hm
        cases hm }
    asked := by simp
    readable := fun p hm => by
      by_cases hn : p ∈ s.watcher.files
      · rw [haround.files]
        exact h.readable p hn
      · obtain ⟨found, hf, -⟩ := hadded p hm hn
        exact ⟨found, hf⟩ }

/-! ### Reloads -/

/-- Going back to running, and setting up again, brings no file out of date. -/
theorem succeed_round (hL : L.Discreet) {s : Chronicle L} (h : s.Ready []) (forced : Bool) :
    (s.succeed (chronicler L) forced).Ready [] ∧ s.Advance (s.succeed (chronicler L) forced) := by
  have hr : s.recovered.Ready [] ∧ s.Advance s.recovered := by
    unfold recovered
    split
    · exact ⟨h.congr (by simp [recover]) rfl rfl rfl rfl rfl, .of_same rfl rfl rfl rfl⟩
    · exact ⟨h.congr (by simp [recover]) rfl rfl rfl rfl rfl, .of_same rfl rfl rfl rfl⟩
  rw [succeed_eq]
  split
  · obtain ⟨ht, ha⟩ := hr.1.of_kept hL fun hI => hI.setup
    exact ⟨ht, hr.2.trans ha⟩
  · exact hr

/-- **A reload brings the sketch up to date, and the files that are newly watched.** -/
theorem reload_round (hL : L.Discreet) {s : Chronicle L} {asked : List Application}
    (h : s.Ready asked) (hfl : (s.reload (chronicler L) false).1.Flawless) :
    (s.reload (chronicler L) false).2 = none ∧ (s.reload (chronicler L) false).1.Ready [] ∧
      s.Advance (s.reload (chronicler L) false).1 ∧
      ∀ path, s.script = some path → (s.reload (chronicler L) false).1.UpToDate path := by
  obtain ⟨path, hs, hp⟩ := h.exists_script
  obtain ⟨text, hr⟩ := h.readable path hp
  obtain ⟨size, hok, herror⟩ := reloadFrom_of_text (e := chronicler L) h.started hr false
  have hreload : s.reload (chronicler L) false = s.reloadFrom (chronicler L) path false := by
    unfold reload
    rw [hs]
  have hu : (s.keepFrame.announceReading path size (false || s.status = .error)).Ready asked ∧
      s.Advance (s.keepFrame.announceReading path size (false || s.status = .error)) := by
    unfold keepFrame
    split <;> exact ⟨h.congr h.started rfl rfl rfl rfl rfl, .of_same rfl rfl rfl rfl⟩
  generalize s.keepFrame.announceReading path size _ = u at hu hok herror
  obtain ⟨hu, hau⟩ := hu
  have hpu : path ∈ u.watcher.files := by
    obtain ⟨more, hmore⟩ := hau.around.watcher
    rw [hmore]
    exact List.mem_append_left more hp
  rw [hreload] at hfl ⊢
  cases hresult : (u.evaluate (chronicler L) text path (false || s.status = .error)).2 with
  | error failure =>
    rw [herror failure hresult] at hfl
    have hcontra := evaluate_ok (hfl.earlier fun hJ => hJ.enterError failure _)
    rw [hresult] at hcontra
    cases hcontra
  | ok _ =>
    rw [hok hresult] at hfl ⊢
    obtain ⟨ht, hat, hpt⟩ := evaluate_round hL hu hpu (hau.around.files ▸ hr) _
      (hfl.earlier fun hJ => hJ.lasting.reloaded.succeed _)
    obtain ⟨hsucc, hasucc⟩ := succeed_round hL ht (false || s.status = .error)
    refine ⟨rfl, hsucc, (hau.trans hat).trans hasucc, fun q hq => ?_⟩
    cases hs.symm.trans hq
    exact hasucc.keeps path hpt

/-- A changed dependency is brought up to date with the files it includes. These may wait to be
watched. -/
theorem reloadChanged_round {s : Chronicle L} (h : s.Ready []) {path : Path}
    (hp : path ∈ s.watcher.files) (hfl : (s.reloadChanged (chronicler L) path).Flawless) :
    (∃ asked, (s.reloadChanged (chronicler L) path).Ready asked) ∧
      s.Advance (s.reloadChanged (chronicler L) path) ∧
      (s.reloadChanged (chronicler L) path).UpToDate path := by
  obtain ⟨text, hr⟩ := h.readable path hp
  obtain ⟨text', log, happ, hrec, heq⟩ :=
    reloadChanged_applied s.watcher.files (loadDependency_ok hr hfl)
  have haround := (lasting_around (e := chronicler L) s).reloaded.reloadChanged path (.refl s)
  have hstatus : (s.reloadChanged (chronicler L) path).status = s.status := by rw [heq]
  have hw : (s.reloadChanged (chronicler L) path).watcher = s.watcher := by rw [heq]
  have hmark : Covered s.watcher.files (mark path s.bench) [⟨path, text', .complete⟩] := {
    included := fun p hm => by
      obtain hm | rfl := ScriptState.mem_markIncluded hm
      · exact h.covered.included p hm
      · exact .inl (Path.listed_of_mem hp)
    dependencies := fun p hm => .inl ((h.covered.dependencies p hm).resolve_right (by simp)) }
  have hc := happ.covers hmark
  have hset := happ.settled ((mark_pending path _).trans h.settled)
  generalize s.reloadChanged (chronicler L) path = t at *
  have hmem : ∀ a ∈ log, t.UpToDate a.origin := by
    intro a ha
    unfold UpToDate
    rw [hrec, haround.files]
    exact History.upToDate_of_mem happ.read ha _
  refine ⟨⟨log, ?_⟩, ⟨haround, fun p hu => ?_, fun p hm hn => ?_⟩, hmem _ happ.mem⟩
  · exact {
      started := hstatus ▸ h.started
      script := by
        rw [haround.script, hw]
        exact h.script
      settled := hset
      covered := by
        rw [hw]
        simpa using hc
      asked := hmem
      readable := by
        rw [haround.files, hw]
        exact h.readable }
  · unfold UpToDate
    rw [hrec, haround.files]
    exact hu.extend happ.read
  · exact absurd (hw ▸ hm) hn

/-- A change of a watched file, the sketch if its place is the first. -/
structure Reported (s : Chronicle L) (change : WatchChange) : Prop where
  watched : change.path ∈ s.watcher.files
  sketch : change.index = 0 → s.script = some change.path

theorem Reported.later {s t : Chronicle L} {change : WatchChange} (h : s.Reported change)
    (ha : Around s t) : t.Reported change where
  watched := by
    obtain ⟨more, hmore⟩ := ha.watcher
    rw [hmore]
    exact List.mem_append_left more h.watched
  sketch hi := ha.script.trans (h.sketch hi)

theorem applyChange_round (hL : L.Discreet) {s : Chronicle L} (h : s.Ready [])
    {change : WatchChange} (hc : s.Reported change)
    (hfl : (s.applyChange (chronicler L) change).1.Flawless) :
    (s.applyChange (chronicler L) change).2 = none ∧
      (s.applyChange (chronicler L) change).1.Ready [] ∧
      s.Advance (s.applyChange (chronicler L) change).1 ∧
      (s.applyChange (chronicler L) change).1.UpToDate change.path := by
  have ha : (s.announceChange change).Ready [] := h.congr h.started rfl rfl rfl rfl rfl
  have has : s.Advance (s.announceChange change) := .of_same rfl rfl rfl rfl
  rw [applyChange_eq] at hfl ⊢
  split at hfl
  · next hi =>
    rw [if_pos hi]
    obtain ⟨hn, hr, har, hs⟩ := reload_round hL ha hfl
    exact ⟨hn, hr, has.trans har, hs _ (hc.sketch hi)⟩
  · next hi =>
    rw [if_neg hi]
    obtain ⟨⟨asked, hm⟩, ham, hu⟩ :=
      reloadChanged_round ha hc.watched (hfl.earlier fun hJ => hJ.lasting.reloaded.reload false)
    obtain ⟨hn, hr, har, -⟩ := reload_round hL hm hfl
    exact ⟨hn, hr, (has.trans ham).trans har, har.keeps _ hu⟩

/-- **All reported changes are brought up to date**, and the reloads report no fatal condition. -/
theorem applyChanges_round (hL : L.Discreet) {changes : List WatchChange} {s : Chronicle L}
    (h : s.Ready []) (hc : ∀ change ∈ changes, s.Reported change)
    (hfl : (s.applyChanges (chronicler L) changes).1.Flawless) :
    (s.applyChanges (chronicler L) changes).2 = none ∧
      (s.applyChanges (chronicler L) changes).1.Ready [] ∧
      s.Advance (s.applyChanges (chronicler L) changes).1 ∧
      ∀ change ∈ changes, (s.applyChanges (chronicler L) changes).1.UpToDate change.path := by
  induction changes generalizing s with
  | nil => exact ⟨rfl, h, .refl s, by simp⟩
  | cons change rest ih =>
    have hone := applyChange_round hL h (hc change List.mem_cons_self)
    unfold applyChanges at hfl ⊢
    generalize s.applyChange (chronicler L) change = ran at hone hfl ⊢
    obtain ⟨t, _ | fatal⟩ := ran
    · obtain ⟨-, ht, hat, hu⟩ := hone (hfl.earlier fun hJ => hJ.lasting.reloaded.applyChanges rest)
      obtain ⟨hn, hr, har, hrest⟩ := ih ht
        (fun c hm => (hc c (List.mem_cons_of_mem change hm)).later hat.around) hfl
      exact ⟨hn, hr, hat.trans har, List.forall_mem_cons.mpr ⟨har.keeps _ hu, hrest⟩⟩
    · cases (hone hfl).1

/-! ### Draws -/

/-- A draw in which the watch list changes as a poll says, and all files that the poll reports are
brought up to date. -/
theorem draw_round (hL : L.Discreet) {s : Chronicle L} (h : s.Ready []) {mtime : Path → Int}
    (hm : ∀ path ∈ s.watcher.files, s.files.modified path = .ok (mtime path))
    (hd : s.watcher.tick.2 = true) (hfl : (s.draw (chronicler L)).1.Flawless) :
    (s.draw (chronicler L)).2 = none ∧ (s.draw (chronicler L)).1.Ready [] ∧
      { s with watcher := (s.watcher.tick.1.poll s.files).1 }.Advance (s.draw (chronicler L)).1 ∧
      ∀ change ∈ Watcher.records mtime s.watcher.files 0 s.watcher.lastSeen,
        (s.draw (chronicler L)).1.UpToDate change.path := by
  have hm' : ∀ path ∈ s.watcher.tick.1.files, s.files.modified path = .ok (mtime path) := by
    simpa using hm
  have hpoll := Watcher.poll_eq hm'
  rw [Watcher.tick_files, Watcher.tick_lastSeen] at hpoll
  have hp : s.polled = some (.ok (Watcher.records mtime s.watcher.files 0 s.watcher.lastSeen)) := by
    unfold polled
    rw [if_pos hd, hpoll]
  obtain ⟨hf, haf⟩ := h.of_kept hL fun hI => hI.frame
  obtain ⟨hff, hfw, hfs⟩ := frame_surroundings (chronicler L) s
  rw [draw_of_polled hp] at hfl ⊢
  have hwf : (s.watcher.tick.1.poll s.files).1.files = s.watcher.files := by simp [hpoll]
  generalize (s.watcher.tick.1.poll s.files).1 = w at hwf hfl ⊢
  have hu : { s.frame (chronicler L) with watcher := w }.Ready [] :=
    hf.congr hf.started rfl rfl (hwf.trans (congrArg Watcher.files hfw.symm)) rfl rfl
  have hau : { s with watcher := w }.Advance { s.frame (chronicler L) with watcher := w } := {
    around := .of_eq hff rfl hfs
    keeps := haf.keeps
    added := fun p hp hn => absurd hp hn }
  have hreported : ∀ change ∈ Watcher.records mtime s.watcher.files 0 s.watcher.lastSeen,
      { s.frame (chronicler L) with watcher := w }.Reported change := by
    intro change hc
    obtain ⟨before, after, hfiles, hi, -, -⟩ := Watcher.mem_records.mp hc
    refine ⟨by simp [hwf, hfiles], fun hz => ?_⟩
    obtain ⟨q, hq, hhead⟩ := h.script
    obtain rfl : before = [] := List.length_eq_zero_iff.mp (by omega)
    rw [hfiles] at hhead
    exact (hfs.trans hq).trans hhead.symm
  obtain ⟨hn, hr, har, hchanged⟩ := applyChanges_round hL hu hreported hfl
  exact ⟨hn, hr, hau.trans har, hchanged⟩

end Session

end LiveSketch
