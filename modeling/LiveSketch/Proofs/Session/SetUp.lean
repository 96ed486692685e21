import LiveSketch.Proofs.Session.FrozenFrames
import LiveSketch.Proofs.Session.Journal

/-!
# No frame on a sketch that was not set up

The host asks for setup once. After that the script's state is reset by every reload out of the
error state and by every forced one, and each reset takes away what setup has built. So such a
reload runs setup again, and a session that does not get through setup is in error.

## The invariant

`Equipped` ties the state of a session to its journal: setup was asked for, and while the sketch is
running, a setup phase was run without a failure since the last reset. In the middle of a forced
reload this is not so, between the evaluation and the setup that follows it. That setup restores it,
whatever the journal was before: if a hook or the entry point fails, the session is in error.

## Main definitions

* `Journal.PreparedSince` — every other phase since a point was run on a sketch that was set up.
* `Session.Equipped` — the invariant.

## Main results

* `Session.Equipped.of_setup` — setup establishes the invariant.
* `Session.Equipped.perform` — every step keeps it, the start of a sketch apart.
* `Session.setUp_while_running` — what this means for a whole run.
-/

namespace LiveSketch

namespace Journal

variable {base journal : Journal}

/-- Every phase other than setup that was run after `base` was run on a sketch that was set up. -/
def PreparedSince (base journal : Journal) : Prop :=
  ∀ (newer : Journal) (p : Phase) (clean : Bool) (older : Journal),
    journal = newer ++ .phase p clean :: older → base <:+ older → p ≠ .setup → older.setUp

/-- At first there is no such phase. -/
theorem preparedSince_of_length (h : journal.length ≤ base.length) :
    PreparedSince base journal := by
  rintro newer p clean older rfl hb -
  have := hb.length_le
  simp at h
  omega

theorem PreparedSince.cons (h : PreparedSince base journal) {milestone : Milestone}
    (hm : ∀ p clean, milestone = .phase p clean → p ≠ .setup → journal.setUp) :
    PreparedSince base (milestone :: journal) := by
  intro newer p clean older hj hb hp
  cases newer with
  | nil =>
    obtain ⟨rfl, rfl⟩ := List.cons.inj hj
    exact hm p clean rfl hp
  | cons first newer => exact h newer p clean older (List.cons.inj hj).2 hb hp

/-- A phase other than setup does not change whether a sketch is set up. -/
theorem setUp_phase {p : Phase} (hp : p ≠ .setup) (clean : Bool) :
    setUp (.phase p clean :: journal) = journal.setUp := by
  cases p with
  | setup => exact absurd rfl hp
  | update | draw | exit => rfl

end Journal

namespace Session

variable {σ η : Type} {e : Engine σ η} {base journal : Journal} {s t : Session σ η}

/-- After a failure the session is in error, whatever else fails. -/
theorem failAll_status {failures : List Failure} (h : failures ≠ []) :
    (s.failAll e failures).status = .error := by
  obtain ⟨earlier, last, rfl⟩ := (List.eq_nil_or_concat failures).resolve_left h
  unfold failAll
  rw [List.concat_eq_append, List.foldl_append]
  exact fail_status last

/-- Phases and events do not take back that setup was asked for, and do not start a sketch. -/
theorem kept_asked (q : Prop) :
    Kept e fun s => s.setupDone = true ∧ (s.status = .running → q) where
  note _ _ _ _ h := h
  sync _ h := h
  call _ _ _ h := h
  flush _ h := h
  fail s failure h := by
    rw [fail_eq]
    exact ⟨h.1, nofun⟩
  canvas _ _ h := h
  frameCount _ _ h := h
  keyHeld _ _ h := h
  pointer _ _ h := h
  setupDone _ h := ⟨rfl, h.2⟩

/-- What is true of a session and its journal once setup was asked for. -/
structure Equipped (base journal : Journal) (s : Session σ η) : Prop where
  asked : s.setupDone = true
  setUp : s.status = .running → journal.setUp
  prepared : Journal.PreparedSince base journal

namespace Equipped

theorem congr (h : Equipped base journal s) (hd : t.setupDone = s.setupDone)
    (hs : t.status = s.status) : Equipped base journal t where
  asked := hd.trans h.asked
  setUp ht := h.setUp (hs.symm.trans ht)
  prepared := h.prepared

/-- What phases and events keep, with nothing new in the journal. -/
theorem of_kept (h : Equipped base journal s)
    (hk : ∀ {q : Prop}, Kept e (fun s => s.setupDone = true ∧ (s.status = .running → q)) →
      s.setupDone = true ∧ (s.status = .running → q) →
        t.setupDone = true ∧ (t.status = .running → q)) : Equipped base journal t := by
  obtain ⟨hd, hs⟩ := hk (kept_asked (e := e) (journal.setUp = true)) ⟨h.asked, h.setUp⟩
  exact ⟨hd, hs, h.prepared⟩

/-- A phase of a running sketch is run on one that is set up. -/
theorem phase (h : Equipped base journal s) (hs : s.status = .running) {p : Phase} (hp : p ≠ .setup)
    (clean : Bool) : Equipped base (.phase p clean :: journal) s where
  asked := h.asked
  setUp ht := (Journal.setUp_phase hp clean).trans (h.setUp ht)
  prepared := h.prepared.cons fun _ _ _ _ => h.setUp hs

/-! ### Phases -/

/-- **Setup equips a session.** Either nothing in the phase fails, or the session is in error. -/
theorem of_setup (h : Journal.PreparedSince base journal) (s : Session σ η) :
    Equipped base (s.journalSetup e journal) (s.setup e) := by
  have hd : ({ s with setupDone := true } : Session σ η).setupDone = true := rfl
  unfold journalSetup Session.setup
  generalize ({ s with setupDone := true } : Session σ η) = u at hd ⊢
  dsimp only
  cases hu : u.status with
  | noSketch | error => exact ⟨hd, fun hr => by simp [hu] at hr, h⟩
  | running =>
    have hk := (kept_asked (e := e) True).runPhase .setup ⟨hd, fun _ => trivial⟩
    refine ⟨hk.1, fun hr => ?_, h.cons ?_⟩
    · unfold Session.runPhase at hr
      unfold journalRunPhase
      generalize (u.sync e).phase e .setup id = ran at hr ⊢
      obtain ⟨v, _ | ⟨failure, failures⟩⟩ := ran
      · rfl
      · exact absurd hr (by simp [failAll_status (List.cons_ne_nil failure failures)])
    · rintro p clean hm hp
      cases hm
      exact absurd rfl hp

theorem runPhase (h : Equipped base journal s) (hs : s.status = .running) {p : Phase}
    (hp : p ≠ .setup) : Equipped base (s.journalRunPhase e p journal) (s.runPhase e p) :=
  (h.phase hs hp _).of_kept (e := e) fun hk hi => hk.runPhase p hi

theorem update (h : Equipped base journal s) :
    Equipped base (s.journalUpdate e journal) (s.update e) := by
  have hd : Equipped base journal ((s.sync e).applyDefaults e).1 :=
    h.of_kept (e := e) fun hk hi => hk.applyDefaults (hk.sync s hi)
  have hsame : ((s.sync e).applyDefaults e).1.status = s.status :=
    (applyDefaults_sameScreen e (s.sync e)).status
  unfold journalUpdate Session.update
  cases hs : s.status with
  | noSketch | error => exact h
  | running =>
    dsimp only
    generalize (s.sync e).applyDefaults e = ran at hd hsame ⊢
    obtain ⟨u, _ | failure⟩ := ran
    · exact hd.runPhase (hsame.trans hs) (by decide)
    · exact hd.of_kept (e := e) fun hk hi => hk.fail u failure hi

theorem exit (h : Equipped base journal s) :
    Equipped base (s.journalExit e journal) (s.exit e) := by
  unfold journalExit
  cases hs : s.status with
  | noSketch | error => exact h.of_kept (e := e) fun hk hi => hk.exit hi
  | running => exact (h.phase hs (by decide) _).of_kept (e := e) fun hk hi => hk.exit hi

theorem frame (h : Equipped base journal s) :
    Equipped base (s.journalFrame e journal) (s.frame e) := by
  unfold journalFrame
  cases hs : s.status with
  | noSketch | error => exact h.of_kept (e := e) fun hk hi => hk.frame hi
  | running => exact (h.phase hs (by decide) _).of_kept (e := e) fun hk hi => hk.frame hi

/-! ### Reloads -/

/-- After an evaluation that succeeded, setup is run again if there was a reset. -/
theorem of_succeed (h : Journal.PreparedSince base journal) (hd : s.setupDone = true)
    {forced : Bool} (hs : forced = false → journal.setUp) :
    Equipped base (s.journalSucceed e forced journal) (s.succeed e forced) := by
  have hr : s.recovered.setupDone = true := by
    unfold recovered
    split <;> exact hd
  rw [succeed_eq]
  unfold journalSucceed
  rw [hr, Bool.and_true]
  cases forced with
  | true => exact of_setup h s.recovered
  | false => exact ⟨hr, fun _ => hs rfl, h⟩

theorem evaluateBytes_setupDone (path : Path) (bytes : List UInt8) (forced : Bool)
    (s : Session σ η) : (s.evaluateBytes e path bytes forced).1.setupDone = s.setupDone := by
  unfold evaluateBytes
  dsimp only
  split
  · rw [evaluate_eq, adopt_eq]
    rfl
  · rfl

theorem reloadFrom (h : Equipped base journal s) (path : Path) (forced : Bool) :
    Equipped base (s.journalReloadFrom e path forced journal) (s.reloadFrom e path forced).1 := by
  unfold Session.reloadFrom journalReloadFrom
  by_cases hn : s.status = .noSketch
  · rw [if_pos hn, if_pos hn]
    exact h.congr rfl rfl
  rw [if_neg hn, if_neg hn]
  have hk : Equipped base journal s.keepFrame := by
    refine h.congr ?_ keepFrame_status
    unfold keepFrame
    split <;> rfl
  -- without a reset the sketch is running, and set up already
  have hset : (forced || decide (s.status = .error)) = false → journal.setUp := by
    intro hf
    simp at hf
    cases hs : s.status with
    | noSketch => exact absurd hs hn
    | running => exact h.setUp hs
    | error => exact absurd hs hf.2
  dsimp only
  generalize (forced || decide (s.status = .error)) = reset at hset ⊢
  generalize s.keepFrame = u at hk ⊢
  cases u.files.read path with
  | error cause => exact hk
  | ok bytes =>
    have hj : Journal.PreparedSince base (journalEvaluate path bytes reset journal) ∧
        (reset = false → (journalEvaluate path bytes reset journal).setUp) := by
      unfold journalEvaluate
      cases decodeSource path bytes with
      | error failure => exact ⟨h.prepared, hset⟩
      | ok source =>
        cases reset with
        | false => exact ⟨h.prepared, hset⟩
        | true => exact ⟨h.prepared.cons nofun, nofun⟩
    have hd := (evaluateBytes_setupDone (e := e) path bytes reset u).trans hk.asked
    dsimp only
    generalize u.evaluateBytes e path bytes reset = ran at hd ⊢
    obtain ⟨t, failure | _⟩ := ran
    · exact ⟨hd, nofun, hj.1⟩
    · exact of_succeed hj.1 hd hj.2

theorem reload (h : Equipped base journal s) (forced : Bool) :
    Equipped base (s.journalReload e forced journal) (s.reload e forced).1 := by
  unfold Session.reload journalReload
  cases s.script with
  | none => exact h.congr rfl rfl
  | some path => exact h.reloadFrom path forced

theorem reloadChanged (h : Equipped base journal s) (path : Path) :
    Equipped base journal (s.reloadChanged e path) := by
  unfold Session.reloadChanged
  generalize e.loadDependency path s.files s.stage s.context = ran
  obtain ⟨stage, context, failure | _⟩ := ran
  · have hl : Equipped base journal { s with stage, context } := h.congr rfl rfl
    exact hl.of_kept (e := e) fun hk hi => hk.fail _ failure hi
  · exact h.congr rfl rfl

theorem applyChange (h : Equipped base journal s) (change : WatchChange) :
    Equipped base (s.journalApplyChange e change journal) (s.applyChange e change).1 := by
  have ha : Equipped base journal (s.announceChange change) := h.congr rfl rfl
  rw [applyChange_eq]
  refine Equipped.reload ?_ false
  split
  · exact ha
  · exact ha.reloadChanged change.path

theorem applyChanges (h : Equipped base journal s) (changes : List WatchChange) :
    Equipped base (s.journalApplyChanges e changes journal) (s.applyChanges e changes).1 := by
  induction changes generalizing s journal with
  | nil => exact h
  | cons change rest ih =>
    have hc := h.applyChange (e := e) change
    unfold Session.applyChanges journalApplyChanges
    generalize s.applyChange e change = ran at hc ⊢
    obtain ⟨t, _ | fatal⟩ := ran
    · exact ih hc
    · exact hc

theorem draw (h : Equipped base journal s) :
    Equipped base (s.journalDraw e journal) (s.draw e).1 := by
  have hf := h.frame (e := e)
  rw [draw_eq]
  unfold journalDraw
  generalize s.journalFrame e journal = j at hf ⊢
  generalize s.frame e = t at hf ⊢
  dsimp only
  split
  · unfold checkWatched journalCheckWatched
    dsimp only
    generalize t.watcher.tick.1.poll t.files = polled
    obtain ⟨watcher, fatal | changes⟩ := polled
    · exact hf.congr rfl rfl
    · have hw : Equipped base j { t with watcher } := hf.congr rfl rfl
      exact hw.applyChanges changes
  · exact hf.congr rfl rfl

/-! ### Steps -/

/-- **Every step keeps a session equipped**, apart from the start of a sketch, which makes a session
run that nothing was evaluated in. -/
theorem perform (h : Equipped base journal s) (op : Operation) (hop : op ≠ .run) :
    Equipped base (s.journalPerform e op journal) (s.perform e op).1 := by
  cases op with
  | install loadPath =>
    show Equipped base journal (s.installPath loadPath).1
    unfold installPath
    split
    · exact h
    · exact h.congr rfl rfl
  | load path =>
    show Equipped base journal (s.load path).1
    unfold load
    split
    · exact h
    · exact h
    · exact h.congr rfl rfl
  | run => exact absurd rfl hop
  | setup => exact of_setup h.prepared s
  | update => exact h.update
  | draw => exact h.draw
  | exit => exact h.exit
  | reload forced => exact h.reload forced
  | reloadFrom path forced => exact h.reloadFrom path forced
  | event event => exact h.of_kept (e := e) fun hk hi => hk.event event hi
  | edit files => exact h.congr rfl rfl
  | present canvas => exact h.congr rfl rfl
  | drain stream => exact h.congr rfl rfl

theorem play (h : Equipped base journal s) (ops : List Operation) (hops : .run ∉ ops) :
    Equipped base (s.journal e ops journal) (s.play e ops) := by
  induction ops generalizing s journal with
  | nil => exact h
  | cons op rest ih =>
    have hop : op ≠ .run := fun hr => hops (hr ▸ List.mem_cons_self)
    exact ih (h.perform op hop) fun hr => hops (List.mem_cons_of_mem op hr)

end Equipped

/-! ### Runs -/

theorem journal_append (ops more : List Operation) (s : Session σ η) (j : Journal) :
    s.journal e (ops ++ more) j = (s.play e ops).journal e more (s.journal e ops j) := by
  induction ops generalizing s j with
  | nil => rfl
  | cons op rest ih => exact ih _ _

/-- A reload without a reset runs no phase while the sketch is running. -/
theorem journalReloadFrom_of_running (hs : s.status = .running) (path : Path) :
    s.journalReloadFrom e path false journal = journal := by
  unfold journalReloadFrom
  rw [hs]
  dsimp only
  split
  · rfl
  · split
    · rfl
    · next bytes _ =>
      have hj : journalEvaluate path bytes false journal = journal := by
        unfold journalEvaluate
        split <;> rfl
      simp only [reduceCtorEq, decide_false, Bool.or_false, hj]
      split <;> rfl

/-- **No frame runs on a sketch that was not set up.** Whatever the engine is, and whatever happened
before the host asked for setup: as long as it starts no sketch afterwards, a setup phase was run
without a failure since the last reset whenever the sketch is running. So every other phase that is
run from then on, be it in the middle of a step, is run on a sketch that was set up. A reload
without a reset runs no setup while the sketch is running: it adds nothing to the journal. -/
theorem setUp_while_running (e : Engine σ η) (s : Session σ η) (before after : List Operation)
    (hafter : .run ∉ after) :
    let t := s.play e (before ++ .setup :: after)
    let journal := s.journal e (before ++ .setup :: after) []
    (t.status = .running → journal.setUp) ∧
      (∀ (newer : Journal) (p : Phase) (clean : Bool) (older : Journal),
        journal = newer ++ .phase p clean :: older →
          s.journal e (before ++ [.setup]) [] <:+ older → p ≠ .setup → older.setUp) ∧
      (t.status = .running → t.journalReload e false journal = journal ∧
        ∀ path, t.journalReloadFrom e path false journal = journal) := by
  intro t journal
  have hbase : s.journal e (before ++ [.setup]) [] =
      (s.play e before).journalSetup e (s.journal e before []) := journal_append ..
  have hfirst : Equipped (s.journal e (before ++ [.setup]) [])
      (s.journal e (before ++ [.setup]) []) ((s.play e before).setup e) := by
    rw [hbase]
    refine Equipped.of_setup (Journal.preparedSince_of_length ?_) _
    unfold journalSetup journalRunPhase
    dsimp only
    split <;> simp
  have hready : Equipped (s.journal e (before ++ [.setup]) []) journal t := by
    have h := hfirst.play (e := e) after hafter
    have ht : t = ((s.play e before).setup e).play e after := play_append ..
    have hj : journal = ((s.play e before).setup e).journal e after
        (s.journal e (before ++ [.setup]) []) := by
      rw [hbase]
      exact journal_append ..
    rw [ht, hj]
    exact h
  refine ⟨hready.setUp, hready.prepared, fun hs => ⟨?_, journalReloadFrom_of_running hs⟩⟩
  unfold journalReload
  split
  · rfl
  · exact journalReloadFrom_of_running hs _

/-- A sketch is set up, fails in its update phase, is repaired and recovers. -/
theorem setUp_while_running_again :
    let start : Session (ScriptState sketchLanguage) ScriptHandle :=
      .fresh (.empty {}) {} (.blank 1 1)
        (.sketchbook "fn update() { throw 1; }" 1000 "" 1000)
    let after := [.update, .edit (.sketchbook "print(1);" 2000 "" 1000), .reload false, .draw]
    let ops := [.install ⟨[⟨"/s"⟩]⟩, .load ⟨"/s/main"⟩, .run] ++ .setup :: after
    .run ∉ after ∧ (start.play (scriptEngine sketchLanguage) ops).status = .running ∧
      (start.journal (scriptEngine sketchLanguage) ops []).setUp := by
  intro start after ops
  have hafter : .run ∉ after := by simp [after]
  have hs : (start.play (scriptEngine sketchLanguage) ops).status = .running := by decide +kernel
  exact ⟨hafter, hs, (setUp_while_running (scriptEngine sketchLanguage) start
    [.install ⟨[⟨"/s"⟩]⟩, .load ⟨"/s/main"⟩, .run] after hafter).1 hs⟩

end Session

end LiveSketch
