import LiveSketch.Proofs.Script.Progress
import LiveSketch.Proofs.Session.Standing

/-!
# Before a sketch is started

Loading a sketch evaluates nothing, and neither does a reload before the start. But frames are drawn
from the beginning, and the watched files are polled whether there is a sketch running or not. When
a poll reports the sketch, the reload that follows is refused. When it reports another file, this
file is handed to the engine first, as a dependency, and only then the reload is refused. There is
such a file if two sketches were loaded, since the one that was loaded first stays on the watch
list.

## The invariant

A session is `Unstarted` as long as the engine was asked for nothing. Scripts that never ran have
left no requests and no hooks, so there is nothing to carry out when the engine takes note of a
frame, and there are no posthooks for an exit to run. Whatever is done to such a session short of
starting it leaves it like that, polls that report another file than the sketch apart; and these
leave an answer in the ledger, which stays there.

## Main definitions

* `Session.Unstarted` — the engine was asked for nothing, and there is nothing that it could run.
* `Session.FindsOnlySketch` — the next poll reports no other file than the sketch.

## Main results

* `Session.Unstarted.perform` — which steps leave a session untouched.
* `Session.before_run_iff` — which runs without a start evaluate nothing.
-/

namespace LiveSketch

/-- A poll reports files by their places on the watch list. -/
theorem Watcher.index_lt_of_scan {tree : FileTree} {paths : List Path} {index : Nat} {seen : Int}
    {changes : List WatchChange} (h : (scan tree paths index seen).2 = .ok changes)
    {change : WatchChange} (hc : change ∈ changes) : change.index < index + paths.length := by
  induction paths generalizing index seen changes with
  | nil =>
    cases h
    cases hc
  | cons path rest ih =>
    rw [scan] at h
    rw [List.length_cons]
    split at h
    · cases h
    · split at h
      · split at h
        · next later hscan =>
          cases h
          rcases List.mem_cons.mp hc with rfl | hc
          · dsimp only
            omega
          · have := ih (congrArg Prod.snd hscan) hc
            omega
        · cases h
      · have := ih h hc
        omega

variable {L : Language}

/-- Without requests, an engine that takes note of a frame does nothing else. -/
theorem ScriptEngine.sync_of_no_requests {b : ScriptEngine.Bench L}
    (h : b.1.engine.board.requests = {}) (env : FrameEnv) (files : FileTree) :
    (ScriptEngine.sync env files b).2 = b.2 ∧
      (ScriptEngine.sync env files b).1.engine.board.requests = {} := by
  have hp : pending (withState (fun s => { s with env }) b) = [] := by
    rw [pending, withState, h]
  have hhooks : (withState (fun s => { s with env }) b).1.engine.board.requests.hooks = [] := by
    rw [withState, h]
  have htaken : takeRequests (withState (fun s => { s with env }) b) =
      withState (fun s => { s with env, board := s.board.takeRequests.2 }) b := by
    rw [takeRequests, withState, h]
    rfl
  rw [ScriptEngine.sync, settle_eq, hp, htaken, hhooks]
  exact ⟨rfl, rfl⟩

/-- Loading a sketch. -/
def Operation.isLoad : Operation → Bool
  | .load _ => true
  | _ => false

namespace Session

/-- The next poll, if it comes with the next draw, reports no other file than the sketch. -/
def FindsOnlySketch {σ η : Type} (s : Session σ η) : Prop :=
  ∀ changes, s.polled = some (.ok changes) → ∀ change ∈ changes, change.index = 0

/-- A poll of a single file finds no other. -/
theorem FindsOnlySketch.of_length {σ η : Type} {s : Session σ η}
    (h : s.watcher.files.length ≤ 1) : s.FindsOnlySketch := by
  intro changes hp change hc
  rw [polled] at hp
  split at hp
  · have hscan := Option.some.inj hp
    have hlt := Watcher.index_lt_of_scan hscan hc
    rw [Watcher.tick_files] at hlt
    omega
  · cases hp

/-- The engine was asked for nothing so far, and has nothing to run. A number of files is watched at
most. -/
structure Unstarted (most : Nat) (s : Session (ScriptState L × Ledger ScriptHandle) ScriptHandle) :
    Prop where
  status : s.status = .noSketch
  record : s.record = []
  requests : s.stage.engine.1.board.requests = {}
  hooks : s.context.hooks = .empty
  watched : s.watcher.files.length ≤ most

variable {most : Nat} {s t : Session (ScriptState L × Ledger ScriptHandle) ScriptHandle}

namespace Unstarted

/-- Whatever changes nothing of it. -/
theorem congr (h : Unstarted most s) (hs : t.status = s.status)
    (he : t.stage.engine = s.stage.engine)
    (hh : t.context.hooks = s.context.hooks) (hw : t.watcher.files = s.watcher.files) :
    Unstarted most t where
  status := hs.trans h.status
  record := (congrArg Prod.snd he).trans h.record
  requests := by
    rw [he]
    exact h.requests
  hooks := hh.trans h.hooks
  watched := by
    rw [hw]
    exact h.watched

theorem sync (h : Unstarted most s) : Unstarted most (s.sync (scriptEngine L).audited) := by
  obtain ⟨hctx, hreq⟩ := ScriptEngine.sync_of_no_requests (b := (s.stage.plain, s.context))
    h.requests s.frameEnv s.files
  exact {
    status := h.status
    record := h.record
    requests := hreq
    hooks := (congrArg Context.hooks hctx).trans h.hooks
    watched := h.watched }

/-- An exit has no posthooks to run. -/
theorem exit (h : Unstarted most s) : Unstarted most (s.exit (scriptEngine L).audited) := by
  have hs := h.sync
  rw [Session.exit]
  generalize s.sync (scriptEngine L).audited = u at hs ⊢
  dsimp only
  rw [hs.status]
  dsimp only
  rw [Hooks.invokePosthooks, hs.hooks]
  exact ⟨hs.status, hs.record, hs.requests, hs.hooks, hs.watched⟩

/-- Events are tracked and not delivered. -/
theorem input (h : Unstarted most s) (event : InputEvent) :
    Unstarted most (s.input (scriptEngine L).audited event) := by
  have hd : Unstarted most (s.delivery event).1 := by
    cases event <;> exact h.congr rfl rfl rfl rfl
  rw [input_eq, deliver, hd.status]
  exact hd

/-- A reload is refused. -/
theorem reload (h : Unstarted most s) (forced : Bool) :
    ∃ t, s.reload (scriptEngine L).audited forced = (t, none) ∧ Unstarted most t := by
  rw [Session.reload]
  cases s.script with
  | none => exact ⟨_, rfl, h.congr rfl rfl rfl rfl⟩
  | some path =>
    dsimp only
    rw [reloadFrom, if_pos h.status]
    exact ⟨_, rfl, h.congr rfl rfl rfl rfl⟩

/-- So is everything that follows when a poll reports the sketch alone. -/
theorem applyChanges (h : Unstarted most s) {changes : List WatchChange}
    (hc : ∀ change ∈ changes, change.index = 0) :
    Unstarted most (s.applyChanges (scriptEngine L).audited changes).1 := by
  induction changes generalizing s with
  | nil => exact h
  | cons change rest ih =>
    have ha : Unstarted most (s.announceChange change) := h.congr rfl rfl rfl rfl
    obtain ⟨u, hu, hnext⟩ := ha.reload false
    rw [Session.applyChanges, applyChange_eq, if_pos (hc change List.mem_cons_self), hu]
    exact ih hnext fun c hm => hc c (List.mem_cons_of_mem change hm)

end Unstarted

/-! ### What is entered in the ledger stays there -/

theorem perform_record_ne_nil {σ η : Type} {e : Engine σ η} {s : Session (σ × Ledger η) η}
    (op : Operation) (h : s.record ≠ []) : (s.perform e.audited op).1.record ≠ [] := by
  obtain ⟨reports, hr, -⟩ := (perform_trail e op s).ledger
  rw [hr, begun_record]
  exact List.append_ne_nil_of_right_ne_nil reports h

theorem play_record_ne_nil {σ η : Type} {e : Engine σ η} {s : Session (σ × Ledger η) η}
    (ops : List Operation) (h : s.record ≠ []) : (s.play e.audited ops).record ≠ [] :=
  play_invariant (e := e.audited) (I := fun s => s.record ≠ [])
    (fun op _ => perform_record_ne_nil op) ops h

/-- What a trail says of the ledger, for a session in which it is not empty. -/
theorem Trail.record_ne_nil {σ η : Type} {other : Failure → Prop}
    {s t : Session (σ × Ledger η) η} {due : List Failure} (h : Trail other s t due)
    (hs : s.record ≠ []) : t.record ≠ [] := by
  obtain ⟨reports, hr, -⟩ := h.ledger
  rw [hr]
  exact List.append_ne_nil_of_right_ne_nil reports hs

/-- A changed file that is not the sketch is handed to the engine. -/
theorem applyChange_record_ne_nil {σ η : Type} {e : Engine σ η} {s : Session (σ × Ledger η) η}
    {change : WatchChange} (h : change.index ≠ 0) :
    (s.applyChange e.audited change).1.record ≠ [] := by
  have hloaded : ∀ t : Session (σ × Ledger η) η,
      (t.reloadChanged e.audited change.path).record ≠ [] := by
    intro t
    have ho : e.audited.loadDependency change.path t.files t.stage t.context =
      let ran := e.loadDependency change.path t.files t.stage.plain t.context
      Prod.map (Stage.map (·, .loaded change.path ran.2.2 :: t.record)) id ran := rfl
    rw [reloadChanged, ho]
    rcases e.loadDependency change.path t.files t.stage.plain t.context with
      ⟨stage, context, failure | _⟩
    · obtain ⟨backdrop, hfail⟩ := exists_fail_eq_enterError e.audited failure { t with
        stage := stage.map (·, .loaded change.path (.error failure) :: t.record), context }
      obtain ⟨answer, hworded, -⟩ := enterError_record e { t with
        stage := stage.map (·, .loaded change.path (.error failure) :: t.record), context }
        failure backdrop
      dsimp only [Prod.map, id]
      rw [hfail, hworded]
      exact List.cons_ne_nil _ _
    · exact List.cons_ne_nil _ _
  have htrail : ∀ t : Session (σ × Ledger η) η,
      Trail (fun _ => True) t (t.reload e.audited false).1 [] := fun t =>
    (carried_trail e _ t).reload [] (.refl t) false fun _ _ => trivial
  rw [applyChange_eq, if_neg h]
  exact (htrail _).record_ne_nil (hloaded _)

/-- So the ledger is not empty after a poll that reports such a file. -/
theorem Unstarted.applyChanges_record_ne_nil (h : Unstarted most s) {changes : List WatchChange}
    (hc : ∃ change ∈ changes, change.index ≠ 0) :
    (s.applyChanges (scriptEngine L).audited changes).1.record ≠ [] := by
  induction changes generalizing s with
  | nil => exact nomatch hc
  | cons change rest ih =>
    rw [Session.applyChanges]
    by_cases hi : change.index = 0
    · have ha : Unstarted most (s.announceChange change) := h.congr rfl rfl rfl rfl
      obtain ⟨u, hu, hnext⟩ := ha.reload false
      rw [applyChange_eq, if_pos hi, hu]
      obtain ⟨other, hm, ho⟩ := hc
      rcases List.mem_cons.mp hm with rfl | hm
      · exact absurd hi ho
      · exact ih hnext ⟨other, hm, ho⟩
    · have hne := applyChange_record_ne_nil (e := scriptEngine L) (s := s) hi
      generalize s.applyChange (scriptEngine L).audited change = ran at hne
      rcases ran with ⟨u, _ | fatal⟩
      · have htrail : Trail (fun _ => True) u
            (u.applyChanges (scriptEngine L).audited rest).1 [] :=
          (carried_trail _ _ u).applyChanges [] (.refl u) rest fun _ _ => trivial
        exact htrail.record_ne_nil hne
      · exact hne

/-! ### Steps -/

/-- A draw whose poll cannot look at a file ends there. -/
theorem draw_of_fatal {σ η : Type} {e : Engine σ η} {s : Session σ η} {fatal : FatalError}
    (h : s.polled = some (.error fatal)) :
    s.draw e = ({ s.frame e with watcher := (s.watcher.tick.1.poll s.files).1 }, some fatal) := by
  rw [polled] at h
  split at h
  · next hdue =>
    obtain ⟨hfiles, hwatcher, -⟩ := frame_surroundings e s
    have hp := Option.some.inj h
    rw [draw_eq, hwatcher, if_pos hdue, checkWatched]
    dsimp only
    rw [hfiles]
    generalize s.watcher.tick.1.poll s.files = found at hp ⊢
    rcases found with ⟨watcher, answer⟩
    subst hp
    rfl
  · cases h

/-- A draw polls the watched files, if it does, in a session that is otherwise as it was. -/
theorem Unstarted.draw (h : Unstarted most s) :
    (s.FindsOnlySketch → Unstarted most (s.draw (scriptEngine L).audited).1) ∧
      (¬ s.FindsOnlySketch → (s.draw (scriptEngine L).audited).1.record ≠ []) := by
  have hframe : s.frame (scriptEngine L).audited = s := by
    rw [frame, h.status]
  have hwatcher : ∀ watcher : Watcher, watcher.files = s.watcher.files →
      Unstarted most { s with watcher } := fun watcher hw => h.congr rfl rfl rfl hw
  rcases hp : s.polled with _ | fatal | changes
  · rw [draw_of_not_polled hp, hframe]
    refine ⟨fun _ => hwatcher _ (Watcher.tick_files _), fun hn => absurd ?_ hn⟩
    intro changes hc
    rw [hp] at hc
    cases hc
  · rw [draw_of_fatal hp, hframe]
    refine ⟨fun _ => hwatcher _ (Watcher.tick_files _), fun hn => absurd ?_ hn⟩
    intro changes hc
    rw [hp] at hc
    cases hc
  · rw [draw_of_polled hp, hframe]
    have hw := hwatcher (s.watcher.tick.1.poll s.files).1 (Watcher.tick_files _)
    refine ⟨fun hf => hw.applyChanges (hf changes hp), fun hn => ?_⟩
    have hall : ¬ ∀ change ∈ changes, change.index = 0 := by
      intro hall
      refine hn fun changes' hp' => ?_
      cases hp.symm.trans hp'
      exact hall
    obtain ⟨change, hc⟩ := Classical.not_forall.mp hall
    obtain ⟨hm, hi⟩ := Classical.not_imp.mp hc
    exact hw.applyChanges_record_ne_nil ⟨change, hm, hi⟩

/-- **What leaves a session untouched**: every step but a start, and draws that find no other file
than the sketch. -/
theorem Unstarted.perform (h : Unstarted most s) {op : Operation} (hrun : op ≠ .run)
    (hdraw : op = .draw → s.FindsOnlySketch) :
    Unstarted (most + if op.isLoad then 1 else 0) (s.perform (scriptEngine L).audited op).1 := by
  cases op with
  | install loadPath =>
    show Unstarted most (s.installPath loadPath).1
    rw [installPath]
    split
    · exact h
    · exact h.congr rfl rfl rfl rfl
  | load path =>
    have hone : ∀ (resolved : Path) (time : Int), ((s.watcher.registerPrimary resolved).seed
        time).files.length ≤ most + 1 := fun resolved time =>
      Nat.succ_le_succ (Nat.le_trans (List.length_filter_le _ _) h.watched)
    have hmore : Unstarted (most + 1) s :=
      ⟨h.status, h.record, h.requests, h.hooks, Nat.le_succ_of_le h.watched⟩
    show Unstarted (most + 1) (s.load path).1
    rw [load]
    split
    · exact hmore
    · exact hmore
    · exact ⟨h.status, h.record, h.requests, h.hooks, hone _ _⟩
  | run => exact absurd rfl hrun
  | setup =>
    have hd : Unstarted most { s with setupDone := true } := h.congr rfl rfl rfl rfl
    show Unstarted most (s.setup _)
    rw [setup]
    generalize { s with setupDone := true } = u at hd ⊢
    rw [hd.status]
    exact hd
  | update =>
    show Unstarted most (s.update _)
    rw [update, h.status]
    exact h
  | draw => exact h.draw.1 (hdraw rfl)
  | exit => exact h.exit
  | reload forced =>
    obtain ⟨t, ht, hu⟩ := h.reload forced
    show Unstarted most (s.reload _ forced).1
    rw [ht]
    exact hu
  | reloadFrom path forced =>
    show Unstarted most (s.reloadFrom _ path forced).1
    rw [reloadFrom, if_pos h.status]
    exact h.congr rfl rfl rfl rfl
  | event event => exact h.input event
  | edit files => exact h.congr rfl rfl rfl rfl
  | present canvas => exact h.congr rfl rfl rfl rfl
  | drain stream => exact h.congr rfl rfl rfl rfl

/-! ### Runs -/

/-- A run from an untouched session leaves it untouched exactly if no draw finds another file than
the sketch. -/
theorem Unstarted.play_iff (h : Unstarted most s) {ops : List Operation}
    (hrun : ∀ op ∈ ops, op ≠ .run) :
    let e := (scriptEngine L).audited
    ((s.play e ops).status = .noSketch ∧ (s.play e ops).record = []) ↔
      ∀ earlier later, ops = earlier ++ .draw :: later → (s.play e earlier).FindsOnlySketch := by
  intro e
  induction ops generalizing s most with
  | nil =>
    refine ⟨fun _ earlier later hops => ?_, fun _ => ⟨h.status, h.record⟩⟩
    cases earlier <;> cases hops
  | cons op rest ih =>
    have hrest : ∀ o ∈ rest, o ≠ .run := fun o ho => hrun o (List.mem_cons_of_mem op ho)
    by_cases hdraw : op = .draw → s.FindsOnlySketch
    · refine (ih (h.perform (hrun op List.mem_cons_self) hdraw) hrest).trans ?_
      constructor
      · intro hall earlier later hops
        cases earlier with
        | nil => exact hdraw (List.cons.inj hops).1
        | cons first earlier =>
          obtain ⟨rfl, htail⟩ := List.cons.inj hops
          exact hall earlier later htail
      · intro hall earlier later hops
        exact hall (op :: earlier) later (congrArg (op :: ·) hops)
    · obtain ⟨rfl, hfinds⟩ := Classical.not_imp.mp hdraw
      have hne : ((s.perform e .draw).1.play e rest).record ≠ [] :=
        play_record_ne_nil rest (h.draw.2 hfinds)
      exact ⟨fun hquiet => absurd hquiet.2 hne, fun hall => absurd (hall [] rest rfl) hfinds⟩

/-- With one sketch loaded at most, there is no other file to find. -/
theorem Unstarted.play_findsOnlySketch (h : Unstarted most s) {ops : List Operation}
    (hrun : ∀ op ∈ ops, op ≠ .run) (hone : most + ops.countP Operation.isLoad ≤ 1) :
    ∀ earlier later, ops = earlier ++ .draw :: later →
      (s.play (scriptEngine L).audited earlier).FindsOnlySketch := by
  induction ops generalizing s most with
  | nil =>
    intro earlier later hops
    cases earlier <;> cases hops
  | cons op rest ih =>
    have hs : s.FindsOnlySketch := .of_length (by have := h.watched; omega)
    have hnext := h.perform (hrun op List.mem_cons_self) fun _ => hs
    intro earlier later hops
    cases earlier with
    | nil => exact hs
    | cons first earlier =>
      obtain ⟨rfl, htail⟩ := List.cons.inj hops
      rw [List.countP_cons] at hone
      exact ih hnext (fun o ho => hrun o (List.mem_cons_of_mem op ho)) (by omega) earlier later
        htail

/-- **What is evaluated before a sketch is started.** Take any run without a start, from a new
session: whatever is loaded, drawn, reloaded and pressed in it, and however the files are edited.
The session stays without a sketch, and the engine is asked for no evaluation, no dependency, no
call and no wording, if and only if no draw finds a changed file other than the sketch. With at most
one sketch loaded there is none. The ledger changes nothing about the run. -/
theorem before_run_iff (L : Language) (settings : Settings) (canvas : Canvas) (files : FileTree)
    (ops : List Operation) (hrun : ∀ op ∈ ops, op ≠ .run) :
    let e := (scriptEngine L).audited
    let start : Session (ScriptState L × Ledger ScriptHandle) ScriptHandle :=
      .fresh (.empty {}, []) settings canvas files
    let s := start.play e ops
    s.plain = (Session.fresh (.empty {}) settings canvas files).play (scriptEngine L) ops ∧
      ((s.status = .noSketch ∧ s.record = []) ↔
        ∀ earlier later, ops = earlier ++ .draw :: later →
          (start.play e earlier).FindsOnlySketch) ∧
      (ops.countP Operation.isLoad ≤ 1 → s.status = .noSketch ∧ s.record = []) := by
  intro e start s
  have hstart : Unstarted 0 start := ⟨rfl, rfl, rfl, rfl, Nat.le_refl 0⟩
  have hiff := hstart.play_iff hrun
  refine ⟨(scriptEngine L).audited_play ops start, hiff, fun hone => hiff.mpr ?_⟩
  exact hstart.play_findsOnlySketch hrun (by omega)

/-- Two sketches are loaded, and the one that was loaded first is saved with a mistake: the next
draw puts a session into its error state that was never started. -/
theorem before_run_loaded_twice :
    let e := (scriptEngine sketchLanguage).audited
    let start : Session (ScriptState sketchLanguage × Ledger ScriptHandle) ScriptHandle :=
      .fresh (.empty {}, []) { watchInterval := 1 } (.blank 1 1)
        (.sketchbook "print(1);" 1000 "print(2);" 1000)
    let ops : List Operation := [.install ⟨[⟨"/s"⟩]⟩, .load ⟨"/s/lib"⟩, .load ⟨"/s/main"⟩,
      .edit (.sketchbook "print(1);" 1000 "throw 1;" 2000), .draw]
    (∀ op ∈ ops, op ≠ .run) ∧
      ¬ ((start.play e ops).status = .noSketch ∧ (start.play e ops).record = []) := by
  intro e start ops
  have hrun : ∀ op ∈ ops, op ≠ .run := by simp [ops]
  refine ⟨hrun, fun hquiet => ?_⟩
  have hfinds := (before_run_iff sketchLanguage { watchInterval := 1 } (.blank 1 1)
    (.sketchbook "print(1);" 1000 "print(2);" 1000) ops hrun).2.1.mp hquiet
    [.install ⟨[⟨"/s"⟩]⟩, .load ⟨"/s/lib"⟩, .load ⟨"/s/main"⟩,
      .edit (.sketchbook "print(1);" 1000 "throw 1;" 2000)] [] rfl
  have hpolled : (start.play e [.install ⟨[⟨"/s"⟩]⟩, .load ⟨"/s/lib"⟩, .load ⟨"/s/main"⟩,
      .edit (.sketchbook "print(1);" 1000 "throw 1;" 2000)]).polled =
      some (.ok [⟨1, ⟨"/s/lib"⟩⟩]) := by
    decide +kernel
  exact absurd (hfinds _ hpolled _ List.mem_cons_self) Nat.one_ne_zero

end Session

end LiveSketch
