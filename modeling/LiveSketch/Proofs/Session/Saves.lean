import LiveSketch.Proofs.Session.Rounds

/-!
# Saves between polls

Watched files are saved one by one, each save with a time later than that of every watched file, and
now and then a draw polls. Which saves does the next poll notice?

## Masked files

A poll walks the watch list and raises the time stamp as it goes. So of two files that were saved
since the last poll, the one that was saved first is passed over if it stands later in the list: by
then the time stamp is that of the second save. It stays out of date until it is saved again, or the
session is reset. All other saves are noticed, and the files that they changed are up to date when
the draw returns.

## Main definitions

* `Standing` — how a file stands between its last save and the next poll.
* `SaveRun` — a session that is updated and drawn while watched files are saved.

## Main results

* `Session.current_launch` — a session that was started without a flaw is up to date.
* `Session.saves_evaluated` — after a draw that polls, every file that is not masked is up to date.
* `Session.masked_save_lost` — a masked file need not be.
-/

namespace LiveSketch

open ScriptEngine

variable {L : Language}

namespace FileTree

/-- The time of a file, zero if there is none. -/
def time (tree : FileTree) (path : Path) : Int :=
  match tree.modified path with
  | .ok time => time
  | .error _ => 0

/-- A file with a text has a time. -/
theorem modified_eq_time {tree : FileTree} {path : Path} {text : String}
    (h : tree.readText path = .ok text) : tree.modified path = .ok (tree.time path) := by
  unfold readText read at h
  unfold time modified
  cases hl : tree.lookup path with
  | error cause =>
    rw [hl] at h
    cases h
  | ok node =>
    cases node with
    | directory modified => rfl
    | file content modified => rfl
    | link target =>
      rw [hl] at h
      cases h

/-- One of the watched files gets a new text, and a time later than that of every watched file. The
other watched files stay as they are. -/
structure Saved (watched : List Path) (path : Path) (text : String) (time : Int)
    (tree tree' : FileTree) : Prop where
  newText : tree'.readText path = .ok text
  newTime : tree'.modified path = .ok time
  later : ∀ p ∈ watched, tree.time p < time
  others : ∀ p ∈ watched, p ≠ path →
    tree'.readText p = tree.readText p ∧ tree'.modified p = tree.modified p

end FileTree

namespace FileTree.Saved

variable {watched : List Path} {path p : Path} {text : String} {time : Int} {tree tree' : FileTree}
  (h : tree.Saved watched path text time tree')
include h

/-- Every watched file that could be read can be read afterwards. -/
theorem readable (hp : p ∈ watched) (hr : ∃ found, tree.readText p = .ok found) :
    ∃ found, tree'.readText p = .ok found := by
  by_cases he : p = path
  · exact ⟨text, he ▸ h.newText⟩
  · rwa [(h.others p hp he).1]

theorem time_self : tree'.time path = time := by
  unfold FileTree.time
  rw [h.newTime]

theorem time_other (hp : p ∈ watched) (hn : p ≠ path) : tree'.time p = tree.time p := by
  unfold FileTree.time
  rw [(h.others p hp hn).2]

end FileTree.Saved

/-- How a watched file stands between its last save and the next poll. -/
inductive Standing where
  /-- No save is left to be noticed. -/
  | seen
  /-- It was saved since the last poll. -/
  | due
  /-- After its last save, and before the poll that came next, a file was saved that stands before
  it in the watch list. -/
  | masked
deriving DecidableEq

namespace Standing

/-- How files stand when one of them has been saved. -/
def afterSave (watched : List Path) (saved : Path) (standing : Path → Standing) (path : Path) :
    Standing :=
  if path = saved then .due
  else if standing path = .due ∧ watched.idxOf saved < watched.idxOf path then .masked
  else standing path

/-- How files stand after a poll. -/
def afterPoll (standing : Path → Standing) (path : Path) : Standing :=
  if standing path = .due then .seen else standing path

end Standing

/-- A session later on, after saves of watched files, draws without a flaw, and phases and events in
any order. Every save is later than the time stamp was at the beginning, which is the time of some
watched file or the epoch. -/
inductive SaveRun (s₀ : Chronicle L) : Chronicle L → (Path → Standing) → Prop
  | start : SaveRun s₀ s₀ fun _ => .seen
  | save {s : Chronicle L} {standing : Path → Standing} {path : Path} {text : String} {time : Int}
      {files : FileTree} (before : SaveRun s₀ s standing) (watched : path ∈ s.watcher.files)
      (saved : s.files.Saved s.watcher.files path text time files)
      (stamp : s₀.watcher.lastSeen < time) :
      SaveRun s₀ { s with files } (Standing.afterSave s.watcher.files path standing)
  | aside {s : Chronicle L} {standing : Path → Standing} {op : Operation}
      (before : SaveRun s₀ s standing) (ha : op.Aside) :
      SaveRun s₀ (s.perform (chronicler L) op).1 standing
  | draw {s : Chronicle L} {standing : Path → Standing} (before : SaveRun s₀ s standing)
      (flawless : (s.draw (chronicler L)).1.Flawless) :
      SaveRun s₀ (s.draw (chronicler L)).1
        (if s.watcher.tick.2 then Standing.afterPoll standing else standing)

namespace Session

/-- A started session in which every watched file is up to date. -/
structure Current (s : Chronicle L) : Prop where
  ready : s.Ready []
  upToDate : ∀ path ∈ s.watcher.files, s.UpToDate path

/-- Launching is a reload of a session that is ready and watches the sketch alone. -/
theorem exists_ready_launch (settings : Settings) (canvas : Canvas) {files : FileTree}
    (loadPath : LoadPath) {path script : Path} {time : Int} {text : String}
    (hm : files.modified path = .ok time) (hc : files.canonical path = .ok script)
    (hr : files.readText script = .ok text) :
    ∃ u : Chronicle L, (Chronicle.start settings canvas files).launch (chronicler L) loadPath path =
        (u.reload (chronicler L) false).1 ∧ u.Ready [] ∧ u.files = files ∧
      u.script = some script ∧ u.watcher.files = [script] ∧ u.watcher.lastSeen = max 0 time := by
  obtain ⟨s, hs, hfiles, hwatcher, hstatus, hengine, hdeps⟩ : ∃ s : Chronicle L,
      ((Chronicle.start settings canvas files).installPath loadPath).1 = s ∧ s.files = files ∧
        s.watcher = .every settings.watchInterval ∧ s.status = .noSketch ∧
        s.stage.engine = (ScriptState.empty {}, []) ∧ s.context.dependencies = [] := by
    unfold installPath
    split <;> exact ⟨_, rfl, rfl, rfl, rfl, rfl, rfl⟩
  obtain ⟨t, ht, hfiles, hwatcher, hseen, hstatus, hengine, hdeps, hscript⟩ : ∃ t : Chronicle L,
      (s.load path).1 = t ∧ t.files = files ∧ t.watcher.files = [script] ∧
        t.watcher.lastSeen = max 0 time ∧ t.status = .noSketch ∧
        t.stage.engine = (ScriptState.empty {}, []) ∧ t.context.dependencies = [] ∧
        t.script = some script := by
    unfold load note
    rw [hfiles, hm, hc]
    dsimp only
    rw [hwatcher]
    exact ⟨_, rfl, rfl, rfl, rfl, hstatus, hengine, hdeps, rfl⟩
  have hrun : t.run (chronicler L) = { t with status := .running }.reload (chronicler L) false := by
    unfold run
    rw [hscript, hstatus]
  refine ⟨{ t with status := .running }, ?_, ?_, hfiles, hscript, hwatcher, hseen⟩
  · rw [← hrun, ← ht, ← hs, launch_eq]
  · exact {
      started := by simp
      script := ⟨script, hscript, by simp [hwatcher]⟩
      settled := congrArg (fun engine => engine.1.board.requests.includes) hengine
      covered := {
        included := fun p hp => by
          have hi : t.stage.engine.1.included = [] := by rw [hengine]; rfl
          exact absurd (hi ▸ hp) (by simp)
        dependencies := fun p hp => absurd (hdeps ▸ hp) (by simp) }
      asked := by simp
      readable := by simpa [hwatcher, hfiles] using ⟨text, hr⟩ }

/-- **A session that was started without a flaw is up to date**, whatever files it included. Its
time stamp is the time of the sketch, or the epoch. -/
theorem current_launch (hL : L.Discreet) {settings : Settings} {canvas : Canvas} {files : FileTree}
    {loadPath : LoadPath} {path script : Path} {time : Int} {text : String}
    (hm : files.modified path = .ok time) (hc : files.canonical path = .ok script)
    (hr : files.readText script = .ok text)
    (hfl : ((Chronicle.start settings canvas files).launch (chronicler L) loadPath path).Flawless) :
    ((Chronicle.start settings canvas files).launch (chronicler L) loadPath path).Current ∧
      ((Chronicle.start settings canvas files).launch (chronicler L) loadPath path).files = files ∧
      ((Chronicle.start settings canvas files).launch (chronicler L) loadPath
        path).watcher.lastSeen = max 0 time := by
  obtain ⟨u, hlaunch, hu, hfiles, hscript, hwatched, hseen⟩ :=
    exists_ready_launch settings canvas loadPath hm hc hr
  rw [hlaunch] at hfl ⊢
  obtain ⟨-, hready, ha, hp⟩ := reload_round hL hu hfl
  refine ⟨⟨hready, fun p hm => ?_⟩, ha.around.files.trans hfiles,
    ha.around.watcher.lastSeen.trans hseen⟩
  by_cases hn : p ∈ u.watcher.files
  · rw [hwatched, List.mem_singleton] at hn
    exact hn ▸ hp script hscript
  · exact ha.added p hm hn

/-- What is true in the course of a run with saves. -/
structure Tracked (s₀ s : Chronicle L) (standing : Path → Standing) : Prop where
  ready : s.Ready []
  /-- The time stamp is no later than it was, or than some watched file. -/
  stamp : ∀ bound, s₀.watcher.lastSeen ≤ bound →
    (∀ p ∈ s.watcher.files, s.files.time p ≤ bound) → s.watcher.lastSeen ≤ bound
  seen : ∀ p ∈ s.watcher.files, standing p = .seen → s.UpToDate p
  /-- A due file is later than the time stamp, and than every file that stands before it. -/
  due : ∀ p ∈ s.watcher.files, standing p = .due → s.watcher.lastSeen < s.files.time p ∧
    ∀ q ∈ s.watcher.files, s.watcher.files.idxOf q < s.watcher.files.idxOf p →
      s.files.time q < s.files.time p

namespace Tracked

variable {s₀ s t : Chronicle L} {standing : Path → Standing}

theorem start (h : s₀.Current) : Tracked s₀ s₀ fun _ => .seen where
  ready := h.ready
  stamp _ h _ := h
  seen p hp _ := h.upToDate p hp
  due _ _ hd := by cases hd

/-- A save makes its file due, and masks the due files that stand after it. -/
theorem save (h : Tracked s₀ s standing) {path : Path} {text : String} {time : Int}
    {files : FileTree} (hp : path ∈ s.watcher.files)
    (hs : s.files.Saved s.watcher.files path text time files) (hl : s₀.watcher.lastSeen < time) :
    Tracked s₀ { s with files } (Standing.afterSave s.watcher.files path standing) := by
  refine ⟨?_, fun bound hb ht => ?_, fun p hm hst => ?_, fun p hm hst => ?_⟩
  · exact {
      started := h.ready.started
      script := h.ready.script
      settled := h.ready.settled
      covered := h.ready.covered
      asked := by simp
      readable := fun p hm => hs.readable hm (h.ready.readable p hm) }
  · refine h.stamp bound hb fun p hm => ?_
    by_cases he : p = path
    · have hlast := ht path hp
      dsimp only at hlast
      rw [hs.time_self] at hlast
      exact Int.le_of_lt (Int.lt_of_lt_of_le (hs.later p hm) hlast)
    · have hother := ht p hm
      dsimp only at hother
      rwa [hs.time_other hm he] at hother
  · unfold Standing.afterSave at hst
    split at hst
    · cases hst
    · next hne =>
      split at hst
      · cases hst
      · obtain ⟨found, hr, hlatest⟩ := h.seen p hm hst
        exact ⟨found, (hs.others p hm hne).1.trans hr, hlatest⟩
  · unfold Standing.afterSave at hst
    split at hst
    · next he =>
      subst he
      have hseen : s.watcher.lastSeen ≤ time - 1 :=
        h.stamp (time - 1) (by omega) fun q hq => by
          have := hs.later q hq
          omega
      refine ⟨?_, fun q hq hi => ?_⟩
      · dsimp only
        rw [hs.time_self]
        omega
      · dsimp only at hq hi ⊢
        rw [hs.time_self, hs.time_other hq fun he => by simp [he] at hi]
        exact hs.later q hq
    · next hne =>
      split at hst
      · cases hst
      · next hmask =>
        obtain ⟨hseen, hbefore⟩ := h.due p hm hst
        refine ⟨?_, fun q hq hi => ?_⟩
        · dsimp only
          rwa [hs.time_other hm hne]
        · -- The saved file does not stand before this one, or this one would be masked.
          have hq' : q ≠ path := fun he => hmask ⟨hst, he ▸ hi⟩
          dsimp only at hq ⊢
          rw [hs.time_other hq hq', hs.time_other hm hne]
          exact hbefore q hq hi

/-- Phases, events and frames save nothing and notice nothing. -/
theorem of_kept (hL : L.Discreet) (h : Tracked s₀ s standing)
    (hk : ∀ {I : Chronicle L → Prop}, Kept (chronicler L) I → I s → I t) :
    Tracked s₀ t standing := by
  obtain ⟨hr, ha⟩ := h.ready.of_kept hL hk
  obtain ⟨hf, hw, -⟩ := hk (kept_surroundings s.files s.watcher s.script) ⟨rfl, rfl, rfl⟩
  exact {
    ready := hr
    stamp := by
      rw [hw, hf]
      exact h.stamp
    seen := fun p hm hst => ha.keeps p (h.seen p (hw ▸ hm) hst)
    due := by
      rw [hw, hf]
      exact h.due }

/-- Nor does counting down. -/
theorem countdown (h : Tracked s₀ s standing) {w : Watcher} (hw : w.files = s.watcher.files)
    (hl : w.lastSeen = s.watcher.lastSeen) : Tracked s₀ { s with watcher := w } standing where
  ready := h.ready.congr h.ready.started rfl rfl hw rfl rfl
  stamp := by
    dsimp only
    rw [hw, hl]
    exact h.stamp
  seen p hm hst := h.seen p (hw ▸ hm) hst
  due := by
    dsimp only
    rw [hw, hl]
    exact h.due

/-- A file that is due is reported by a poll. -/
theorem due_mem_records (h : Tracked s₀ s standing) {p : Path} (hp : p ∈ s.watcher.files)
    (hst : standing p = .due) :
    ∃ change ∈ Watcher.records s.files.time s.watcher.files 0 s.watcher.lastSeen,
      change.path = p := by
  obtain ⟨hseen, hbefore⟩ := h.due p hp hst
  obtain ⟨before, after, hfiles, hn⟩ := List.eq_append_cons_of_mem hp
  refine ⟨⟨before.length, p⟩, Watcher.mem_records.mpr ⟨before, after, hfiles, by simp, hseen,
    fun q hq => ?_⟩, rfl⟩
  refine hbefore q (hfiles ▸ List.mem_append_left _ hq) ?_
  rw [hfiles, List.idxOf_append, List.idxOf_append, if_pos hq, if_neg hn]
  exact Nat.lt_of_lt_of_le (List.idxOf_lt_length_of_mem hq) (Nat.le_add_left _ _)

/-- A draw that polls brings everything that is due up to date. -/
theorem poll (hL : L.Discreet) (h : Tracked s₀ s standing) (hd : s.watcher.tick.2 = true)
    (hfl : (s.draw (chronicler L)).1.Flawless) :
    (s.draw (chronicler L)).2 = none ∧
      Tracked s₀ (s.draw (chronicler L)).1 (Standing.afterPoll standing) := by
  have hm : ∀ p ∈ s.watcher.files, s.files.modified p = .ok (s.files.time p) := fun p hp =>
    (h.ready.readable p hp).elim fun _ hr => FileTree.modified_eq_time hr
  obtain ⟨hnone, hr, ha, hchanged⟩ := draw_round hL h.ready hm hd hfl
  have hm' : ∀ p ∈ s.watcher.tick.1.files, s.files.modified p = .ok (s.files.time p) := by
    simpa using hm
  have hpoll := Watcher.poll_eq hm'
  refine ⟨hnone, ?_⟩
  exact {
    ready := hr
    stamp := fun bound hb ht => by
      obtain ⟨more, hgrown⟩ := ha.around.watcher
      have hbound : ∀ p ∈ s.watcher.files, s.files.time p ≤ bound := fun p hp => by
        have hp' : p ∈ (s.draw (chronicler L)).1.watcher.files := by
          rw [hgrown, hpoll]
          exact List.mem_append_left _ (by simpa using hp)
        exact ha.around.files ▸ ht p hp'
      rw [ha.around.watcher.lastSeen, hpoll]
      dsimp only
      rw [Watcher.tick_files, Watcher.tick_lastSeen]
      exact Watcher.newest_le (h.stamp bound hb hbound) hbound
    seen := fun p hp hst => by
      by_cases hn : p ∈ s.watcher.files
      · unfold Standing.afterPoll at hst
        split at hst
        · next hdue =>
          obtain ⟨change, hc, rfl⟩ := h.due_mem_records hn hdue
          exact hchanged change hc
        · exact ha.keeps p (h.seen p hn hst)
      · exact ha.added p hp (by simpa [hpoll] using hn)
    due := fun p _ hst => by
      unfold Standing.afterPoll at hst
      split at hst
      · cases hst
      · contradiction }

end Tracked

/-- What is true at the start of a run with saves is true throughout. -/
theorem SaveRun.tracked (hL : L.Discreet) {s₀ s : Chronicle L} {standing : Path → Standing}
    (h₀ : s₀.Current) (h : SaveRun s₀ s standing) : Tracked s₀ s standing := by
  induction h with
  | start => exact .start h₀
  | save before watched saved stamp ih => exact ih.save watched saved stamp
  | aside before ha ih => exact ih.of_kept hL fun hI => hI.aside ha
  | @draw s standing before flawless ih =>
    cases hd : s.watcher.tick.2 with
    | true => exact (ih.poll hL hd flawless).2
    | false =>
      have hw := (frame_surroundings (chronicler L) s).2.1
      rw [draw_of_not_polled (by simp [polled, hd])]
      exact (ih.of_kept hL fun hI => hI.frame).countdown (by simp [hw]) (by simp [hw])

/-- **Every save is noticed, unless it is masked.** A session is up to date, then watched files are
saved one by one, and in between it is drawn, updated and sent events, all without a failing
evaluation. When a draw that polls returns, the text that was evaluated last for a watched file is
its current text, except for files that stand behind another file in the watch list that was saved
after them and before the same poll. -/
theorem saves_evaluated {s₀ s : Chronicle sketchLanguage} {standing : Path → Standing}
    (h₀ : s₀.Current) (h : SaveRun s₀ s standing) (hd : s.watcher.tick.2 = true)
    (hfl : (s.draw (chronicler sketchLanguage)).1.Flawless) :
    (s.draw (chronicler sketchLanguage)).2 = none ∧
      ∀ path ∈ (s.draw (chronicler sketchLanguage)).1.watcher.files, standing path ≠ .masked →
        (s.draw (chronicler sketchLanguage)).1.UpToDate path := by
  have hL := sketchLanguage_discreet
  obtain ⟨hn, ht⟩ := (SaveRun.tracked hL h₀ h).poll hL hd hfl
  refine ⟨hn, fun path hp hm => ht.seen path hp ?_⟩
  unfold Standing.afterPoll
  cases hst : standing path with
  | seen => rfl
  | due => rfl
  | masked => exact absurd hst hm

/-! ### An example -/

/-- A session of a sketch that includes a library, polled in every frame. -/
def exampleSession : Chronicle sketchLanguage :=
  (Chronicle.start { watchInterval := 1 } (.blank 1 1)
    (.sketchbook "include(\"lib\");" 1000 "print(1);" 1000)).launch (chronicler sketchLanguage)
    ⟨[⟨"/s"⟩]⟩ ⟨"/s/main"⟩

theorem exampleSession_facts : exampleSession.watcher.files = [⟨"/s/main"⟩, ⟨"/s/lib"⟩] ∧
    exampleSession.watcher.tick.2 = true ∧ exampleSession.Flawless := by
  decide +kernel

theorem exampleSession_current : exampleSession.Current ∧
    exampleSession.files = .sketchbook "include(\"lib\");" 1000 "print(1);" 1000 ∧
    exampleSession.watcher.lastSeen = 1000 := by
  have hm : (FileTree.sketchbook "include(\"lib\");" 1000 "print(1);" 1000).modified ⟨"/s/main"⟩ =
    .ok 1000 := by decide +kernel
  have hc : (FileTree.sketchbook "include(\"lib\");" 1000 "print(1);" 1000).canonical ⟨"/s/main"⟩ =
    .ok ⟨"/s/main"⟩ := by decide +kernel
  have hr : (FileTree.sketchbook "include(\"lib\");" 1000 "print(1);" 1000).readText ⟨"/s/main"⟩ =
    .ok "include(\"lib\");" := by decide +kernel
  exact current_launch sketchLanguage_discreet hm hc hr exampleSession_facts.2.2

/-- The sketch is saved, then the library, and one poll notices both. -/
theorem saves_evaluated_in_order :
    let s := { exampleSession with
      files := .sketchbook "include(\"lib\"); print(3);" 2000 "print(2);" 3000 }
    (s.draw (chronicler sketchLanguage)).1.UpToDate ⟨"/s/main"⟩ ∧
      (s.draw (chronicler sketchLanguage)).1.UpToDate ⟨"/s/lib"⟩ := by
  intro s
  have hdrawn : (s.draw (chronicler sketchLanguage)).1.Flawless ∧
      ⟨"/s/main"⟩ ∈ (s.draw (chronicler sketchLanguage)).1.watcher.files ∧
        ⟨"/s/lib"⟩ ∈ (s.draw (chronicler sketchLanguage)).1.watcher.files := by decide +kernel
  obtain ⟨hw, hd, -⟩ := exampleSession_facts
  obtain ⟨h₀, hf, hl⟩ := exampleSession_current
  have hmain : exampleSession.files.Saved exampleSession.watcher.files ⟨"/s/main"⟩
      "include(\"lib\"); print(3);" 2000
      (.sketchbook "include(\"lib\"); print(3);" 2000 "print(1);" 1000) := by
    rw [hw, hf]
    exact ⟨by decide +kernel, by decide +kernel, by decide +kernel, by decide +kernel⟩
  have hlib : (FileTree.sketchbook "include(\"lib\"); print(3);" 2000 "print(1);" 1000).Saved
      exampleSession.watcher.files ⟨"/s/lib"⟩ "print(2);" 3000
      (.sketchbook "include(\"lib\"); print(3);" 2000 "print(2);" 3000) := by
    rw [hw]
    exact ⟨by decide +kernel, by decide +kernel, by decide +kernel, by decide +kernel⟩
  have hstart : SaveRun exampleSession exampleSession _ := .start
  have hrun := (hstart.save (by simp [hw]) hmain (by simp [hl])).save (by simp [hw]) hlib
    (by simp [hl])
  obtain ⟨-, h⟩ := saves_evaluated h₀ hrun hd hdrawn.1
  exact ⟨h _ hdrawn.2.1 (by decide +kernel), h _ hdrawn.2.2 (by decide +kernel)⟩

/-- **A masked save can be lost.** The library is saved, then the sketch, and the poll that comes
next leaves the library as it was. -/
theorem masked_save_lost : ¬ ∀ (s₀ s : Chronicle sketchLanguage) (standing : Path → Standing),
    s₀.Current → SaveRun s₀ s standing → s.watcher.tick.2 = true →
      (s.draw (chronicler sketchLanguage)).1.Flawless →
        ∀ path ∈ (s.draw (chronicler sketchLanguage)).1.watcher.files,
          (s.draw (chronicler sketchLanguage)).1.UpToDate path := by
  intro hclaim
  let s := { exampleSession with
    files := .sketchbook "include(\"lib\"); print(3);" 3000 "print(2);" 2000 }
  have hdrawn : (s.draw (chronicler sketchLanguage)).1.Flawless ∧
      ⟨"/s/lib"⟩ ∈ (s.draw (chronicler sketchLanguage)).1.watcher.files ∧
        ¬ (s.draw (chronicler sketchLanguage)).1.UpToDate ⟨"/s/lib"⟩ := by decide +kernel
  obtain ⟨hw, hd, -⟩ := exampleSession_facts
  obtain ⟨h₀, hf, hl⟩ := exampleSession_current
  have hlib : exampleSession.files.Saved exampleSession.watcher.files ⟨"/s/lib"⟩ "print(2);" 2000
      (.sketchbook "include(\"lib\");" 1000 "print(2);" 2000) := by
    rw [hw, hf]
    exact ⟨by decide +kernel, by decide +kernel, by decide +kernel, by decide +kernel⟩
  have hmain : (FileTree.sketchbook "include(\"lib\");" 1000 "print(2);" 2000).Saved
      exampleSession.watcher.files ⟨"/s/main"⟩ "include(\"lib\"); print(3);" 3000
      (.sketchbook "include(\"lib\"); print(3);" 3000 "print(2);" 2000) := by
    rw [hw]
    exact ⟨by decide +kernel, by decide +kernel, by decide +kernel, by decide +kernel⟩
  have hstart : SaveRun exampleSession exampleSession _ := .start
  have hrun := (hstart.save (by simp [hw]) hlib (by simp [hl])).save (by simp [hw]) hmain
    (by simp [hl])
  exact hdrawn.2.2 (hclaim _ _ _ h₀ hrun hd hdrawn.1 _ hdrawn.2.1)

end Session

end LiveSketch
