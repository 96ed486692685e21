import LiveSketch.Watcher

/-!
# What a poll reports

A poll walks the watch list and raises the time stamp as it goes. So among files that can all be
looked at, the reported ones are the records of the list: the files that are newer than the time
stamp and than every file before them. A file that cannot be looked at ends the walk, and the files
before it have raised the time stamp by then.

## Main definitions

* `Watcher.newest` — the newest time on a list, or the time stamp.
* `Watcher.records` — the records of a list.

## Main results

* `Watcher.scan_eq` — a walk reports the records and ends with the newest time.
* `Watcher.mem_records` — which files the records are.
* `Watcher.records_eq_nil` — there are none exactly when no file is newer than the time stamp.
* `Watcher.poll_reports_records` — what a poll reports, of files that can be looked at and of others.
-/

namespace LiveSketch
namespace Watcher

variable {mtime : Path → Int}

/-- The newest of a time stamp and the times of files. -/
def newest (mtime : Path → Int) (paths : List Path) (seen : Int) : Int :=
  paths.foldl (fun time path => max time (mtime path)) seen

/-- The files that are newer than a time stamp and than every file before them, with their places
from `index` on. -/
def records (mtime : Path → Int) : List Path → Nat → Int → List WatchChange
  | [], _, _ => []
  | path :: rest, index, seen =>
    if seen < mtime path then ⟨index, path⟩ :: records mtime rest (index + 1) (mtime path)
    else records mtime rest (index + 1) seen

theorem newest_cons (path : Path) (rest : List Path) (seen : Int) :
    newest mtime (path :: rest) seen = newest mtime rest (max seen (mtime path)) := rfl

theorem seen_le_newest (paths : List Path) (seen : Int) : seen ≤ newest mtime paths seen := by
  induction paths generalizing seen with
  | nil => exact Int.le_refl seen
  | cons path rest ih =>
    rw [newest_cons]
    exact Int.le_trans (Int.le_max_left seen (mtime path)) (ih _)

/-- The newest time is no newer than anything the time stamp and the files are bounded by. -/
theorem newest_le {paths : List Path} {seen bound : Int} (hs : seen ≤ bound)
    (h : ∀ path ∈ paths, mtime path ≤ bound) : newest mtime paths seen ≤ bound := by
  induction paths generalizing seen with
  | nil => exact hs
  | cons path rest ih =>
    rw [newest_cons]
    exact ih (Int.max_le.mpr ⟨hs, h path List.mem_cons_self⟩)
      fun p hp => h p (List.mem_cons_of_mem path hp)

/-- The first file is a record if it is newer than the time stamp, and the others are looked at with
the time stamp raised by it. -/
theorem records_cons (path : Path) (rest : List Path) (index : Nat) (seen : Int) :
    records mtime (path :: rest) index seen =
      (if seen < mtime path then [⟨index, path⟩] else []) ++
        records mtime rest (index + 1) (max seen (mtime path)) := by
  rw [records]
  split
  · next hn => rw [Int.max_eq_right (Int.le_of_lt hn), List.singleton_append]
  · next hn => rw [Int.max_eq_left (Int.not_lt.mp hn), List.nil_append]

/-- A walk does with the first file what `records` does, if it can be looked at. -/
theorem scan_cons {tree : FileTree} {path : Path} {time : Int}
    (h : tree.modified path = .ok time) (rest : List Path) (index : Nat) (seen : Int) :
    scan tree (path :: rest) index seen =
      (scan tree rest (index + 1) (max seen time)).map id
        (Except.map ((if seen < time then [⟨index, path⟩] else []) ++ ·)) := by
  rw [scan, h]
  by_cases hn : seen < time
  · simp only [hn, if_true, Int.max_eq_right (Int.le_of_lt hn)]
    rcases scan tree rest (index + 1) time with ⟨seen, _ | changes⟩ <;> rfl
  · simp only [hn, if_false, Int.max_eq_left (Int.not_lt.mp hn)]
    rcases scan tree rest (index + 1) seen with ⟨seen, _ | changes⟩ <;> rfl

/-- **A walk over files that can be looked at reports the records**, and raises the time stamp to
the newest time. -/
theorem scan_eq {tree : FileTree} {paths : List Path}
    (h : ∀ path ∈ paths, tree.modified path = .ok (mtime path)) (index : Nat) (seen : Int) :
    scan tree paths index seen =
      (newest mtime paths seen, .ok (records mtime paths index seen)) := by
  induction paths generalizing index seen with
  | nil => rfl
  | cons path rest ih =>
    have hr : ∀ p ∈ rest, tree.modified p = .ok (mtime p) :=
      fun p hp => h p (List.mem_cons_of_mem path hp)
    rw [scan_cons (h path List.mem_cons_self), ih hr, records_cons]
    rfl

/-- A poll of files that can be looked at. -/
theorem poll_eq {tree : FileTree} {w : Watcher}
    (h : ∀ path ∈ w.files, tree.modified path = .ok (mtime path)) :
    w.poll tree = ({ w with lastSeen := newest mtime w.files w.lastSeen },
      .ok (records mtime w.files 0 w.lastSeen)) := by
  unfold poll
  rw [scan_eq h]

/-- The records of a list are those after its first file, and that file if it is newer than the time
stamp. -/
theorem mem_records_cons {path : Path} {rest : List Path} {index : Nat} {seen : Int}
    {c : WatchChange} : c ∈ records mtime (path :: rest) index seen ↔
      seen < mtime path ∧ c = ⟨index, path⟩ ∨
        c ∈ records mtime rest (index + 1) (max seen (mtime path)) := by
  rw [records_cons, List.mem_append]
  by_cases hn : seen < mtime path <;> simp [hn]

/-- The records are the files newer than the time stamp and than every file before them. -/
theorem mem_records {paths : List Path} {index : Nat} {seen : Int} {c : WatchChange} :
    c ∈ records mtime paths index seen ↔ ∃ before after, paths = before ++ c.path :: after ∧
      c.index = index + before.length ∧ seen < mtime c.path ∧
      ∀ p ∈ before, mtime p < mtime c.path := by
  induction paths generalizing index seen with
  | nil => simp [records]
  | cons path rest ih =>
    rw [mem_records_cons, ih]
    constructor
    · rintro (⟨hs, rfl⟩ | ⟨before, after, rfl, hi, hs, hb⟩)
      · exact ⟨[], rest, rfl, by simp, hs, by simp⟩
      · have hm := Int.max_lt.mp hs
        exact ⟨path :: before, after, rfl, by simp [hi]; omega, hm.1,
          List.forall_mem_cons.mpr ⟨hm.2, hb⟩⟩
    · rintro ⟨before, after, he, hi, hs, hb⟩
      cases before with
      | nil =>
        obtain ⟨rfl, rfl⟩ := List.cons.inj he
        exact .inl ⟨hs, by cases c; simp_all⟩
      | cons first before =>
        obtain ⟨rfl, rfl⟩ := List.cons.inj he
        have hb' := List.forall_mem_cons.mp hb
        exact .inr ⟨before, after, rfl, by simp at hi; omega, Int.max_lt.mpr ⟨hs, hb'.1⟩, hb'.2⟩

/-- There are no records exactly when no file is newer than the time stamp. -/
theorem records_eq_nil {paths : List Path} {index : Nat} {seen : Int} :
    records mtime paths index seen = [] ↔ ∀ path ∈ paths, mtime path ≤ seen := by
  induction paths generalizing index with
  | nil => simp [records]
  | cons path rest ih =>
    unfold records
    by_cases hn : seen < mtime path
    · simp only [hn, if_true, List.cons_ne_nil, false_iff]
      exact fun h => Int.not_le.mpr hn (h path List.mem_cons_self)
    · simp [hn, ih, Int.not_lt.mp hn]

/-- The newest time is no older than any of the files. -/
theorem le_newest {paths : List Path} {path : Path} (h : path ∈ paths) (seen : Int) :
    mtime path ≤ newest mtime paths seen := by
  induction paths generalizing seen with
  | nil => cases h
  | cons first rest ih =>
    rw [newest_cons]
    obtain rfl | h := List.mem_cons.mp h
    · exact Int.le_trans (Int.le_max_right seen (mtime path)) (seen_le_newest rest _)
    · exact ih h _

/-- Records are listed in the order of their places. -/
theorem records_pairwise (mtime : Path → Int) (paths : List Path) (index : Nat) (seen : Int) :
    (records mtime paths index seen).Pairwise fun c d => c.index < d.index := by
  induction paths generalizing index seen with
  | nil => exact List.Pairwise.nil
  | cons path rest ih =>
    unfold records
    split
    · refine List.pairwise_cons.mpr ⟨fun c hc => ?_, ih _ _⟩
      obtain ⟨before, after, -, hi, -⟩ := mem_records.mp hc
      exact hi ▸ Nat.lt_of_lt_of_le (Nat.lt_succ_self index) (Nat.le_add_right _ _)
    · exact ih _ _

/-- The records of a whole list, by their places. -/
theorem mem_records_iff_getElem? {paths : List Path} {seen : Int} {c : WatchChange} :
    c ∈ records mtime paths 0 seen ↔ paths[c.index]? = some c.path ∧ seen < mtime c.path ∧
      ∀ p ∈ paths.take c.index, mtime p < mtime c.path := by
  rw [mem_records]
  constructor
  · rintro ⟨before, after, rfl, hi, hs, hb⟩
    rw [Nat.zero_add] at hi
    refine ⟨?_, hs, ?_⟩
    · simp [hi]
    · simpa [hi] using hb
  · rintro ⟨hat, hs, hb⟩
    obtain ⟨hlt, hget⟩ := List.getElem?_eq_some_iff.mp hat
    refine ⟨paths.take c.index, paths.drop (c.index + 1), ?_, ?_, hs, hb⟩
    · rw [← hget, ← List.drop_eq_getElem_cons hlt, List.take_append_drop]
    · rw [Nat.zero_add, List.length_take_of_le (Nat.le_of_lt hlt)]

/-- **A walk ends at a file that cannot be looked at**, with the newest time before it. -/
theorem scan_eq_error {tree : FileTree} {before after : List Path} {path : Path} {cause : IoError}
    (h : ∀ p ∈ before, tree.modified p = .ok (mtime p)) (hp : tree.modified path = .error cause)
    (index : Nat) (seen : Int) : scan tree (before ++ path :: after) index seen =
      (newest mtime before seen, .error (.watchedFileInaccessible path cause)) := by
  induction before generalizing index seen with
  | nil =>
    rw [List.nil_append, scan, hp]
    rfl
  | cons first rest ih =>
    have hr : ∀ p ∈ rest, tree.modified p = .ok (mtime p) :=
      fun p hp => h p (List.mem_cons_of_mem first hp)
    rw [List.cons_append, scan_cons (h first List.mem_cons_self), ih hr]
    rfl

/-- **A poll reports exactly the records.** If every watched file can be looked at, a poll reports
by their places, in order, the files that are newer than the time stamp and than every file before
them. It raises the time stamp to the newest time, so that a second poll of the same files finds
nothing. If some file is the first that cannot be looked at, the poll fails and names it, and the
time stamp is the newest before it. The watch list stays what it is in any case. -/
theorem poll_reports_records (w : Watcher) (tree : FileTree) (mtime : Path → Int) :
    ((∀ path ∈ w.files, tree.modified path = .ok (mtime path)) →
      let raised := { w with lastSeen := newest mtime w.files w.lastSeen }
      ∃ changes, w.poll tree = (raised, .ok changes) ∧
        changes.Pairwise (fun c d => c.index < d.index) ∧
        (∀ c, c ∈ changes ↔ w.files[c.index]? = some c.path ∧ w.lastSeen < mtime c.path ∧
          ∀ p ∈ w.files.take c.index, mtime p < mtime c.path) ∧
        raised.poll tree = (raised, .ok [])) ∧
      ∀ j path cause, w.files[j]? = some path →
        (∀ p ∈ w.files.take j, tree.modified p = .ok (mtime p)) →
        tree.modified path = .error cause →
          w.poll tree = ({ w with lastSeen := newest mtime (w.files.take j) w.lastSeen },
            .error (.watchedFileInaccessible path cause)) := by
  constructor
  · intro h raised
    refine ⟨records mtime w.files 0 w.lastSeen, poll_eq h, records_pairwise _ _ _ _,
      fun _ => mem_records_iff_getElem?, ?_⟩
    have hnone : records mtime raised.files 0 raised.lastSeen = [] :=
      records_eq_nil.mpr fun p hp => le_newest hp w.lastSeen
    have hsame : newest mtime raised.files raised.lastSeen = raised.lastSeen :=
      Int.le_antisymm (newest_le (Int.le_refl _) fun p hp => le_newest hp w.lastSeen)
        (seen_le_newest _ _)
    rw [poll_eq (w := raised) h, hnone, hsame]
  · intro j path cause hat h hp
    obtain ⟨hlt, hget⟩ := List.getElem?_eq_some_iff.mp hat
    have hsplit : w.files = w.files.take j ++ path :: w.files.drop (j + 1) := by
      rw [← hget, ← List.drop_eq_getElem_cons hlt, List.take_append_drop]
    have hscan : scan tree (w.files.take j ++ path :: w.files.drop (j + 1)) 0 w.lastSeen = _ :=
      scan_eq_error h hp 0 w.lastSeen
    rw [← hsplit] at hscan
    rw [poll, hscan]

/-- Two files are saved at the same time, behind one that is older than the time stamp. The first of
the two is reported and the second is not. Then a file is missing. -/
theorem poll_reports_records_of_equal_times :
    let tree : FileTree :=
      { nodes := [(["a"], .file [] 3), (["b"], .file [] 8), (["c"], .file [] 8)] }
    let mtime : Path → Int := fun path => (tree.modified path).toOption.getD 0
    let w : Watcher := { every 1 with files := [⟨"/a"⟩, ⟨"/b"⟩, ⟨"/c"⟩], lastSeen := 4 }
    let longer : Watcher := { w with files := w.files ++ [⟨"/gone"⟩, ⟨"/a"⟩] }
    (∀ path ∈ w.files, tree.modified path = .ok (mtime path)) ∧
      (∃ changes, w.poll tree = ({ w with lastSeen := 8 }, .ok changes) ∧
        WatchChange.mk 1 ⟨"/b"⟩ ∈ changes ∧ WatchChange.mk 2 ⟨"/c"⟩ ∉ changes) ∧
      longer.poll tree =
        ({ longer with lastSeen := 8 }, .error (.watchedFileInaccessible ⟨"/gone"⟩ .notFound)) := by
  intro tree mtime w longer
  have h : ∀ path ∈ w.files, tree.modified path = .ok (mtime path) := by
    intro path hp
    obtain rfl | rfl | rfl : path = ⟨"/a"⟩ ∨ path = ⟨"/b"⟩ ∨ path = ⟨"/c"⟩ := by simpa [w] using hp
    all_goals rfl
  obtain ⟨changes, hpoll, -, hmem, -⟩ := (poll_reports_records w tree mtime).1 h
  refine ⟨h, ⟨changes, hpoll, (hmem _).mpr (by decide +kernel), fun hc => ?_⟩, ?_⟩
  · exact absurd ((hmem _).mp hc) (by decide +kernel)
  · exact (poll_reports_records longer tree mtime).2 3 ⟨"/gone"⟩ .notFound rfl h rfl

/-! ### The countdown -/

@[simp] theorem tick_files (w : Watcher) : w.tick.1.files = w.files := by
  unfold tick
  split <;> rfl

@[simp] theorem tick_lastSeen (w : Watcher) : w.tick.1.lastSeen = w.lastSeen := by
  unfold tick
  split <;> rfl

/-- A poll is due when one frame is left. -/
theorem tick_due {w : Watcher} (h : w.framesUntilCheck = 1) : w.tick.2 = true := by
  simp [tick, h]

/-- While more than one frame is left, a frame is counted. -/
theorem tick_counts {w : Watcher} (h : 1 < w.framesUntilCheck) :
    w.tick = ({ w with framesUntilCheck := w.framesUntilCheck - 1 }, false) := by
  unfold tick
  rw [if_neg (by omega)]

end Watcher
end LiveSketch
