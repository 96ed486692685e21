import LiveSketch.Proofs.Session.Observed
import LiveSketch.Proofs.Session.Surroundings
import LiveSketch.Script.Engine
import LiveSketch.Script.SketchLanguage

/-!
# Sessions in which nothing is saved

A session that was started and whose watched files nobody touches: when does it stay as quiet as its
files?

## The time stamp

Loading a sketch raises the time stamp to the time of the sketch, and starting it puts the files it
includes on the watch list without looking at their times. From then on the time stamp moves only in
polls. So an included file that is newer than the sketch is taken for a change by the first poll,
although nothing was saved, and a session stays quiet exactly when there is no such file. Files from
before the epoch count as old as the epoch, since this is where the time stamp starts.

## Main definitions

* `evaluations` — the observer that keeps a list of everything evaluated.
* `Launched` — a session that was given a search path, loaded a sketch and started it.
* `Operation.Quiet` — a step that saves no watched file and evaluates nothing by itself.

## Main results

* `Session.quiet_iff` — a launched session stays quiet exactly when no watched file is newer than
  the sketch was when it was loaded.
-/

namespace LiveSketch

variable {σ τ η : Type}

/-- The observer that keeps a list of everything evaluated, newest first. -/
def evaluations : Observer σ η (List Path) where
  evaluate _ origin _ _ _ _ record := origin :: record
  loadDependency path _ _ _ record := path :: record

/-- A session that was given a search path, loaded a sketch that had a certain time, and started it,
without a fatal condition. Files may be edited before the start. -/
inductive Launched (e : Engine σ η) : Int → Session σ η → Prop
  | intro {engine : σ} {settings : Settings} {canvas : Canvas} {files edited : FileTree}
      {loadPath : LoadPath} {path : Path} {time : Int} {s₁ s₂ s₃ : Session σ η}
      (installed : (Session.fresh engine settings canvas files).installPath loadPath = (s₁, none))
      (known : files.modified path = .ok time)
      (loaded : s₁.load path = (s₂, none))
      (started : { s₂ with files := edited }.run e = (s₃, none)) : Launched e time s₃

/-- A launch that meets no fatal condition. -/
theorem Launched.of_launch {e : Engine σ η} {engine : σ} {settings : Settings} {canvas : Canvas}
    {files : FileTree} {loadPath : LoadPath} {path : Path} {time : Int}
    (known : files.modified path = .ok time) {s₁ s₂ : Session σ η}
    (installed : (Session.fresh engine settings canvas files).installPath loadPath = (s₁, none))
    (loaded : s₁.load path = (s₂, none)) (started : (s₂.run e).2 = none) :
    Launched e time ((Session.fresh engine settings canvas files).launch e loadPath path) := by
  have hs : { s₂ with files := s₂.files }.run e = ((s₂.run e).1, none) := Prod.ext rfl started
  have hl : (Session.fresh engine settings canvas files).launch e loadPath path = (s₂.run e).1 := by
    rw [Session.launch_eq, installed, loaded]
  exact hl ▸ .intro installed known loaded hs

/-- A step in which no watched file is saved, and which asks for no evaluation itself. -/
def Operation.Quiet (watched : List Path) (mtime : Path → Int) : Operation → Prop
  | .setup | .update | .draw | .exit | .event _ | .present _ | .drain _ => True
  | .edit files => ∀ path ∈ watched, files.modified path = .ok (mtime path)
  | .install _ | .load _ | .run | .reload _ | .reloadFrom _ _ => False

/-- At the start the time stamp is the time of the sketch or the epoch, and the countdown to the
first poll has not run out. -/
theorem Launched.watcher {e : Engine σ η} {time : Int} {s : Session σ η} (h : Launched e time s) :
    s.watcher.lastSeen = max 0 time ∧ 0 < s.watcher.framesUntilCheck := by
  obtain @⟨engine, settings, canvas, files, edited, loadPath, path, _, s₁, s₂, _, hi, hk, hl,
    hs⟩ := h
  have ha := (Session.lasting_around (e := e) { s₂ with files := edited }).reloaded.run (.refl _)
  rw [hs] at ha
  obtain ⟨hf₁, hw₁⟩ := Session.installPath_surroundings hi
  obtain ⟨t, resolved, ht, -, -, hw₂, -⟩ := Session.load_surroundings hl
  have hw : s₂.watcher =
      ((Watcher.every settings.watchInterval).registerPrimary resolved).seed t := by
    rw [hw₂, hw₁]
    rfl
  have htime : t = time := by
    rw [hf₁] at ht
    exact Except.ok.inj (ht.symm.trans hk)
  rw [ha.watcher.lastSeen, ha.watcher.framesUntilCheck]
  change s₂.watcher.lastSeen = max 0 time ∧ 0 < s₂.watcher.framesUntilCheck
  rw [hw, htime]
  refine ⟨rfl, ?_⟩
  change 0 < max settings.watchInterval 1
  omega

namespace Session

variable {e : Engine σ η}

/-- Nothing was evaluated since a given moment, the watch list and the time stamp are what they were
then, and so are the times of the watched files. -/
structure Unmoved (watched : List Path) (mtime : Path → Int) (stamp : Int) (record : List Path)
    (s : Session (σ × List Path) η) : Prop where
  record : s.record = record
  files : s.watcher.files = watched
  lastSeen : s.watcher.lastSeen = stamp
  modified : ∀ path ∈ watched, s.files.modified path = .ok (mtime path)

variable {watched : List Path} {mtime : Path → Int} {stamp : Int} {r : List Path}
  {s t : Session (σ × List Path) η}

theorem Unmoved.of_kept (hs : Unmoved watched mtime stamp r s)
    (h : ∀ {I : Session (σ × List Path) η → Prop}, Kept (e.observed evaluations) I → I s → I t) :
    Unmoved watched mtime stamp r t := by
  obtain ⟨hf, hw, -⟩ := h (kept_surroundings s.files s.watcher s.script) ⟨rfl, rfl, rfl⟩
  exact {
    record := h (Engine.kept_record e (fun _ _ _ _ _ => rfl) r) hs.record
    files := hw ▸ hs.files
    lastSeen := hw ▸ hs.lastSeen
    modified := hf ▸ hs.modified }

/-- Counting down changes nothing of it. -/
theorem Unmoved.countdown (hs : Unmoved watched mtime stamp r s) {w : Watcher}
    (hf : w.files = watched) (hl : w.lastSeen = stamp) :
    Unmoved watched mtime stamp r { s with watcher := w } :=
  ⟨hs.record, hf, hl, hs.modified⟩

/-- What a poll finds: the records of the list. -/
theorem Unmoved.polled_eq (hs : Unmoved watched mtime stamp r s) (hd : s.watcher.tick.2 = true) :
    s.polled = some (.ok (Watcher.records mtime watched 0 stamp)) := by
  have hm : ∀ path ∈ s.watcher.tick.1.files, s.files.modified path = .ok (mtime path) := by
    simpa [hs.files] using hs.modified
  unfold polled
  rw [if_pos hd, Watcher.poll_eq hm]
  simp [hs.files, hs.lastSeen]

/-- While no watched file is newer than the time stamp, a draw finds nothing. -/
theorem Unmoved.polled_nothing (hs : Unmoved watched mtime stamp r s)
    (hold : ∀ path ∈ watched, mtime path ≤ stamp) :
    s.polled = none ∨ s.polled = some (.ok []) := by
  cases hd : s.watcher.tick.2 with
  | false => exact .inl (by simp [polled, hd])
  | true =>
    right
    rw [hs.polled_eq hd, Watcher.records_eq_nil.mpr hold]

theorem Unmoved.draw (hs : Unmoved watched mtime stamp r s)
    (hold : ∀ path ∈ watched, mtime path ≤ stamp) :
    Unmoved watched mtime stamp r (s.draw (e.observed evaluations)).1 := by
  have hf : Unmoved watched mtime stamp r (s.frame (e.observed evaluations)) :=
    hs.of_kept fun hI => hI.frame
  obtain hp | hp := hs.polled_nothing hold
  · rw [draw_of_not_polled hp]
    exact hf.countdown (by simp [hs.files]) (by simp [hs.lastSeen])
  · have hm : ∀ path ∈ s.watcher.tick.1.files, s.files.modified path = .ok (mtime path) := by
      simpa [hs.files] using hs.modified
    rw [draw_of_nothing hp, Watcher.poll_eq hm]
    refine hf.countdown (by simp [hs.files]) ?_
    dsimp only
    rw [Watcher.tick_files, Watcher.tick_lastSeen, hs.files, hs.lastSeen]
    exact Int.le_antisymm (Watcher.newest_le (Int.le_refl stamp) hold)
      (Watcher.seen_le_newest watched stamp)

/-- Quiet steps keep a session unmoved, while no watched file is newer than the time stamp. -/
theorem Unmoved.perform (hold : ∀ path ∈ watched, mtime path ≤ stamp) {op : Operation}
    (hq : op.Quiet watched mtime) (hs : Unmoved watched mtime stamp r s) :
    Unmoved watched mtime stamp r (s.perform (e.observed evaluations) op).1 := by
  cases op with
  | setup | update | exit | event _ => exact hs.of_kept fun hI => hI.aside trivial
  | draw => exact hs.draw hold
  | edit files => exact ⟨hs.record, hs.files, hs.lastSeen, hq⟩
  | present canvas => exact ⟨hs.record, hs.files, hs.lastSeen, hs.modified⟩
  | drain stream => exact ⟨hs.record, hs.files, hs.lastSeen, hs.modified⟩
  | install _ | load _ | run | reload _ | reloadFrom _ _ => exact hq.elim

theorem Unmoved.play (hold : ∀ path ∈ watched, mtime path ≤ stamp) {ops : List Operation}
    (hq : ∀ op ∈ ops, op.Quiet watched mtime) (hs : Unmoved watched mtime stamp r s) :
    Unmoved watched mtime stamp r (s.play (e.observed evaluations) ops) :=
  play_invariant_of_mem (fun op hop _ hs => hs.perform hold (hq op hop)) hs

/-- Draws up to the first poll only count down. -/
theorem play_draws {e : Engine τ η} {s : Session τ η} {n : Nat}
    (hn : n < s.watcher.framesUntilCheck) :
    (s.play e (List.replicate n .draw)).files = s.files ∧
      (s.play e (List.replicate n .draw)).watcher =
        { s.watcher with framesUntilCheck := s.watcher.framesUntilCheck - n } := by
  induction n generalizing s with
  | zero => exact ⟨rfl, rfl⟩
  | succ n ih =>
    obtain ⟨hf, hw, -⟩ := frame_surroundings e s
    have ht := Watcher.tick_counts (w := s.watcher) (by omega)
    have hp : s.polled = none := by simp [polled, ht]
    have hd : (s.perform e .draw).1 = { s.frame e with
        watcher := { s.watcher with framesUntilCheck := s.watcher.framesUntilCheck - 1 } } := by
      change (s.draw e).1 = _
      rw [draw_of_not_polled hp, ht]
    rw [List.replicate_succ]
    unfold Session.play
    rw [hd]
    obtain ⟨ihf, ihw⟩ := ih (s := { s.frame e with
      watcher := { s.watcher with framesUntilCheck := s.watcher.framesUntilCheck - 1 } })
      (by dsimp only; omega)
    rw [ihf, ihw]
    exact ⟨hf, by simp [Nat.sub_sub, Nat.add_comm]⟩

/-- Whatever is set up, updated, drawn, or pressed while the watched files keep their times, nothing
is evaluated and no poll reports a change. -/
def StaysQuiet (e : Engine σ η) (mtime : Path → Int) (s : Session (σ × List Path) η) : Prop :=
  ∀ ops : List Operation, (∀ op ∈ ops, op.Quiet s.watcher.files mtime) →
    (s.play (e.observed evaluations) ops).record = s.record ∧
      ((s.play (e.observed evaluations) ops).polled = none ∨
        (s.play (e.observed evaluations) ops).polled = some (.ok []))

/-- **A launched session stays quiet exactly when no watched file is newer than the sketch.** The
times of the watched files are what they were after the start; what decides is whether each of them
is at most the time that the sketch had when it was loaded, or the epoch. -/
theorem quiet_iff {time : Int} (h : Launched (e.observed evaluations) time s)
    (hm : ∀ path ∈ s.watcher.files, s.files.modified path = .ok (mtime path)) :
    s.StaysQuiet e mtime ↔ ∀ path ∈ s.watcher.files, mtime path ≤ max 0 time := by
  obtain ⟨hl, hc⟩ := h.watcher
  have hs : Unmoved s.watcher.files mtime (max 0 time) s.record s := ⟨rfl, rfl, hl, hm⟩
  constructor
  · intro hquiet
    -- The first poll comes with the draw after these, and finds the files as they were.
    obtain ⟨hf, hw⟩ := play_draws (e := e.observed evaluations) (s := s)
      (n := s.watcher.framesUntilCheck - 1) (by omega)
    obtain ⟨-, hp⟩ := hquiet (List.replicate (s.watcher.framesUntilCheck - 1) .draw)
      fun op ho => by rw [List.eq_of_mem_replicate ho]; trivial
    generalize s.play (e.observed evaluations)
      (List.replicate (s.watcher.framesUntilCheck - 1) .draw) = t at hf hw hp
    have ht : Unmoved s.watcher.files mtime (max 0 time) t.record t :=
      ⟨rfl, by rw [hw], by rw [hw, hl], by rw [hf]; exact hm⟩
    have hd : t.watcher.tick.2 = true := Watcher.tick_due (by rw [hw]; dsimp only; omega)
    rw [ht.polled_eq hd] at hp
    exact Watcher.records_eq_nil.mp (by simpa using hp)
  · intro hold ops hq
    have hu := hs.play (e := e) hold hq
    exact ⟨hu.record, hu.polled_nothing hold⟩

/-- A session of a sketch and a library that is newer. -/
def newerLibrary : Session (ScriptState sketchLanguage × List Path) ScriptHandle :=
  (Session.fresh (.empty {}, []) {} (.blank 1 1)
    (.sketchbook "include(\"lib\");" 1000 "print(1);" 2000)).launch
      ((scriptEngine sketchLanguage).observed evaluations) ⟨[⟨"/s"⟩]⟩ ⟨"/s/main"⟩

/-- This session does not stay quiet. -/
theorem newerLibrary_not_quiet : ¬ newerLibrary.StaysQuiet (scriptEngine sketchLanguage)
    fun path => if path = ⟨"/s/lib"⟩ then 2000 else 1000 := by
  have known : (FileTree.sketchbook "include(\"lib\");" 1000 "print(1);" 2000).modified
    ⟨"/s/main"⟩ = .ok 1000 := by decide +kernel
  have launched : Launched ((scriptEngine sketchLanguage).observed evaluations) 1000 newerLibrary :=
    .of_launch known (Prod.ext rfl (by decide +kernel)) (Prod.ext rfl (by decide +kernel))
      (by decide +kernel)
  have hm : ∀ path ∈ newerLibrary.watcher.files, newerLibrary.files.modified path =
      .ok (if path = ⟨"/s/lib"⟩ then 2000 else 1000) := by decide +kernel
  rw [quiet_iff launched hm]
  decide +kernel

end Session

end LiveSketch
