import LiveSketch.Proofs.Script.History

/-!
# Successful steps of a script engine

What is true once a source text was applied, or requests were carried out, without a failure.

## The contract

`Progress` says of a step and its applications: each of them ended well and had the text that the
file holds, files that were run stay run, no request for a file is left over if there was none, and
every file to be watched is watched already or was applied. It composes, so each function of the
engine has one lemma and the whole is one induction on the depth of includes.

A file is asked to be watched before it is run. So between the two, the last part of the contract
only holds if the file counts as applied, which is why `Applied` singles out the oldest of the
applications.

## Main definitions

* `ScriptEngine.Covered` — every file to be watched is watched already or was applied.
* `ScriptEngine.Progress`, `ScriptEngine.Applied` — the contract of a step, and of a source text.

## Main results

* `ScriptEngine.apply_sound` — a source text that is applied successfully fulfils its contract.
* `ScriptEngine.settle_none`, `ScriptEngine.recordSettle_none` — without requests for files, acting
  on requests applies nothing.
-/

namespace LiveSketch

theorem Path.same_refl (p : Path) : p.same p := by simp [Path.same]

theorem Path.same_symm {p q : Path} (h : p.same q) : q.same p := by
  simp only [Path.same, beq_iff_eq] at h ⊢
  exact h.symm

theorem Path.same_trans {p q r : Path} (h : p.same q) (h' : q.same r) : p.same r := by
  simp only [Path.same, beq_iff_eq] at h h' ⊢
  exact h.trans h'

/-- A path is listed with every path it is the same as. -/
theorem Path.listed_of_same {paths : List Path} {p q : Path} (h : Path.listed paths p)
    (hpq : p.same q) : Path.listed paths q := by
  simp only [Path.listed, List.any_eq_true] at h ⊢
  obtain ⟨r, hr, hrp⟩ := h
  exact ⟨r, hr, Path.same_trans hrp hpq⟩

theorem Path.listed_of_mem {paths : List Path} {p : Path} (h : p ∈ paths) :
    Path.listed paths p :=
  List.any_eq_true.mpr ⟨p, h, Path.same_refl p⟩

@[simp] theorem Path.listed_append (paths more : List Path) (p : Path) :
    Path.listed (paths ++ more) p = (Path.listed paths p || Path.listed more p) :=
  List.any_append

theorem Path.listed_of_prefix {paths more : List Path} {p : Path} (h : paths <+: more)
    (hp : Path.listed paths p) : Path.listed more p := by
  obtain ⟨rest, rfl⟩ := h
  simp [hp]

/-- Paths that differ from each other still do with one that is not listed at their end. -/
theorem Path.pairwise_concat {paths : List Path} {p : Path}
    (h : paths.Pairwise fun p q => ¬ p.same q) (hnew : ¬ Path.listed paths p) :
    (paths ++ [p]).Pairwise fun p q => ¬ p.same q := by
  refine List.pairwise_append.mpr ⟨h, List.pairwise_singleton _ _, fun q hq r hr hsame => ?_⟩
  rw [List.mem_singleton.mp hr] at hsame
  exact hnew (Path.listed_of_same (Path.listed_of_mem hq) hsame)

/-- So they do with any path in front, once it is taken out of the list. -/
theorem Path.pairwise_front {paths : List Path} (h : paths.Pairwise fun p q => ¬ p.same q)
    (p : Path) : (p :: paths.filter fun q => !q.same p).Pairwise fun p q => ¬ p.same q := by
  refine List.pairwise_cons.mpr ⟨fun q hq hsame => ?_, h.sublist List.filter_sublist⟩
  simpa [Path.same_symm hsame] using (List.mem_filter.mp hq).2

namespace Context

variable {η : Type} {ctx : Context η} {path p : Path}

theorem mem_requestDependency (h : p ∈ (ctx.requestDependency path).dependencies) :
    p ∈ ctx.dependencies ∨ p = path ∧ ¬ Path.listed ctx.dependencies path := by
  unfold requestDependency at h
  split at h
  · exact .inl h
  · next hl =>
    obtain h | h := List.mem_append.mp h
    · exact .inl h
    · exact .inr ⟨List.mem_singleton.mp h, hl⟩

theorem listed_requestDependency : Path.listed (ctx.requestDependency path).dependencies path := by
  unfold requestDependency
  split
  · assumption
  · exact Path.listed_of_mem (List.mem_append_right _ (List.mem_singleton_self path))

theorem listed_requestDependency_of_listed (h : Path.listed ctx.dependencies p) :
    Path.listed (ctx.requestDependency path).dependencies p := by
  unfold requestDependency
  split
  · exact h
  · simp [h]

end Context

namespace ScriptState

variable {L : Language} {s : ScriptState L} {path p : Path}

theorem mem_markIncluded (h : p ∈ (s.markIncluded path).included) :
    p ∈ s.included ∨ p = path := by
  unfold markIncluded at h
  split at h
  · exact .inl h
  · exact (List.mem_append.mp h).imp_right List.mem_singleton.mp

theorem listed_markIncluded : Path.listed (s.markIncluded path).included path := by
  unfold markIncluded
  split
  · assumption
  · exact Path.listed_of_mem (List.mem_append_right _ (List.mem_singleton_self path))

theorem listed_markIncluded_of_listed (h : Path.listed s.included p) :
    Path.listed (s.markIncluded path).included p := by
  unfold markIncluded
  split
  · exact h
  · simp [h]

@[simp] theorem markIncluded_board : (s.markIncluded path).board = s.board := by
  unfold markIncluded
  split <;> rfl

end ScriptState

namespace ScriptEngine

variable {L : Language} {files : FileTree} {watched : List Path}

/-- The requests for files that nobody acted on yet. -/
def pending (b : Bench L) : List String := b.1.engine.board.requests.includes

/-- Every file that was run is watched or about to be, and every file about to be watched is watched
already or was applied. -/
structure Covered (watched : List Path) (b : Bench L) (log : List Application) : Prop where
  included : ∀ p ∈ b.1.engine.included, Path.listed watched p ∨ Path.listed b.2.dependencies p
  dependencies : ∀ p ∈ b.2.dependencies, Path.listed watched p ∨ ∃ a ∈ log, a.origin = p

/-- What a successful step from one bench to another has done, with the applications it made. -/
structure Progress (files : FileTree) (watched : List Path) (b : Bench L)
    (log : List Application) (b' : Bench L) : Prop where
  settled : pending b = [] → pending b' = []
  complete : ∀ a ∈ log, a.ending = .complete
  read : ∀ a ∈ log, files.readText a.origin = .ok a.text
  grows : ∀ p, Path.listed b.1.engine.included p → Path.listed b'.1.engine.included p
  covers : ∀ earlier, Covered watched b earlier → Covered watched b' (log ++ earlier)

/-- Being covered depends on two lists only. -/
theorem Covered.congr {b b' : Bench L} {log : List Application} (h : Covered watched b log)
    (hi : b'.1.engine.included = b.1.engine.included)
    (hd : b'.2.dependencies = b.2.dependencies) : Covered watched b' log where
  included := by
    rw [hi, hd]
    exact h.included
  dependencies := by
    rw [hd]
    exact h.dependencies

namespace Progress

/-- A step that applies nothing and touches none of what the contract is about. -/
theorem of_same {b b' : Bench L} (hp : pending b = [] → pending b' = [])
    (hi : b'.1.engine.included = b.1.engine.included)
    (hd : b'.2.dependencies = b.2.dependencies) : Progress files watched b [] b' where
  settled := hp
  complete := by simp
  read := by simp
  grows p h := by rwa [hi]
  covers _ h := h.congr hi hd

theorem refl (b : Bench L) : Progress files watched b [] b := of_same id rfl rfl

theorem trans {b c d : Bench L} {u v : List Application} (h : Progress files watched b u c)
    (h' : Progress files watched c v d) : Progress files watched b (v ++ u) d where
  settled hp := h'.settled (h.settled hp)
  complete a ha := (List.mem_append.mp ha).elim (h'.complete a) (h.complete a)
  read a ha := (List.mem_append.mp ha).elim (h'.read a) (h.read a)
  grows p hp := h'.grows p (h.grows p hp)
  covers earlier hc := by
    rw [List.append_assoc]
    exact h'.covers _ (h.covers earlier hc)

/-- A step may start from a bench that differs in nothing that the contract is about. -/
theorem from_same {b c d : Bench L} {log : List Application} (h : Progress files watched c log d)
    (hp : pending b = [] → pending c = []) (hi : c.1.engine.included = b.1.engine.included)
    (hd : c.2.dependencies = b.2.dependencies) : Progress files watched b log d := by
  simpa using (of_same hp hi hd).trans h

/-- Nor does it matter if it ends in one. -/
theorem to_same {b c d : Bench L} {log : List Application} (h : Progress files watched b log c)
    (hp : pending c = [] → pending d = []) (hi : d.1.engine.included = c.1.engine.included)
    (hd : d.2.dependencies = c.2.dependencies) : Progress files watched b log d := by
  simpa using h.trans (of_same hp hi hd)

end Progress

/-- What the successful application of a text has done: the application itself ended well and is
the oldest, and the others are progress. -/
def Applied (files : FileTree) (watched : List Path) (origin : Path) (text : String) (b : Bench L)
    (log : List Application) (b' : Bench L) : Prop :=
  files.readText origin = .ok text ∧
    ∃ nested, log = nested ++ [⟨origin, text, .complete⟩] ∧ Progress files watched b nested b'

namespace Applied

variable {origin : Path} {text : String} {b b' : Bench L} {log : List Application}

theorem complete (h : Applied files watched origin text b log b') :
    ∀ a ∈ log, a.ending = .complete := by
  obtain ⟨-, nested, rfl, hn⟩ := h
  intro a ha
  obtain ha | ha := List.mem_append.mp ha
  · exact hn.complete a ha
  · rw [List.mem_singleton.mp ha]

theorem read (h : Applied files watched origin text b log b') :
    ∀ a ∈ log, files.readText a.origin = .ok a.text := by
  obtain ⟨hr, nested, rfl, hn⟩ := h
  intro a ha
  obtain ha | ha := List.mem_append.mp ha
  · exact hn.read a ha
  · rw [List.mem_singleton.mp ha]
    exact hr

theorem mem (h : Applied files watched origin text b log b') :
    ⟨origin, text, .complete⟩ ∈ log := by
  obtain ⟨-, nested, rfl, -⟩ := h
  simp

theorem settled (h : Applied files watched origin text b log b') (hp : pending b = []) :
    pending b' = [] := by
  obtain ⟨-, nested, -, hn⟩ := h
  exact hn.settled hp

theorem grows (h : Applied files watched origin text b log b') {p : Path}
    (hp : Path.listed b.1.engine.included p) : Path.listed b'.1.engine.included p := by
  obtain ⟨-, nested, -, hn⟩ := h
  exact hn.grows p hp

/-- The text itself counts as applied from the start. -/
theorem covers (h : Applied files watched origin text b log b') {earlier : List Application}
    (hc : Covered watched b (⟨origin, text, .complete⟩ :: earlier)) :
    Covered watched b' (log ++ earlier) := by
  obtain ⟨-, nested, rfl, hn⟩ := h
  rw [List.append_assoc]
  exact hn.covers _ hc

end Applied

/-- A way to apply source texts that fulfils the contract whenever it succeeds. -/
def Sound (files : FileTree) (watched : List Path) (apply : Apply L)
    (record : String → Path → Recorder L) : Prop :=
  ∀ text origin b, files.readText origin = .ok text → (apply text origin b).2 = .ok () →
    Applied files watched origin text b (record text origin b) (apply text origin b).1

/-! ### Doing steps in order -/

/-- What every step keeps is kept by all of them, also if one fails. -/
theorem inOrder_keeps {α : Type} {step : α → Action L} {I : Bench L → Prop}
    (h : ∀ a b, I b → I (step a b).1) (as : List α) {b : Bench L} (hb : I b) :
    I (inOrder step as b).1 := by
  induction as generalizing b with
  | nil => exact hb
  | cons a rest ih =>
    have ha := h a b hb
    unfold inOrder
    generalize step a b = ran at ha ⊢
    obtain ⟨b', failure | _⟩ := ran
    · exact ha
    · exact ih ha

theorem inOrder_progress {α : Type} {step : α → Action L} {record : α → Recorder L}
    (h : ∀ a b, (step a b).2 = .ok () → Progress files watched b (record a b) (step a b).1)
    (as : List α) (b : Bench L) (hok : (inOrder step as b).2 = .ok ()) :
    Progress files watched b (recordEach step record as b) (inOrder step as b).1 := by
  induction as generalizing b with
  | nil => exact .refl b
  | cons a rest ih =>
    have ha := h a b
    unfold inOrder at hok ⊢
    unfold recordEach
    generalize step a b = ran at ha hok ⊢
    obtain ⟨b', failure | _⟩ := ran
    · cases hok
    · exact (ha rfl).trans (ih b' hok)

/-! ### Hooks -/

/-- Registering a hook touches nothing that the contract is about. -/
theorem registerHook_progress (hook : HookRequest) (b : Bench L) :
    Progress files watched b [] (registerHook hook b).1 := by
  unfold registerHook
  dsimp only
  split
  · exact .refl b
  · split
    · exact .refl b
    · exact .of_same id rfl rfl

theorem registerHooks_progress (hooks : List HookRequest) (b : Bench L) :
    Progress files watched b [] (inOrder registerHook hooks b).1 :=
  inOrder_keeps (I := fun b' => Progress files watched b [] b')
    (fun hook b' h => h.trans (registerHook_progress hook b')) hooks (.refl b)

/-! ### Files -/

theorem loadFile_applied {apply : Apply L} {record : String → Path → Recorder L}
    (hs : Sound files watched apply record) (path : Path) (b : Bench L)
    (hok : (loadFile files apply path b).2 = .ok ()) :
    ∃ text, Applied files watched path text b (recordFile files record path b)
      (loadFile files apply path b).1 := by
  unfold loadFile at hok ⊢
  unfold recordFile
  generalize hr : files.readText path = found at hok ⊢
  obtain cause | text := found
  · cases hok
  · obtain ⟨-, nested, hl, hn⟩ := hs text path _ hr hok
    exact ⟨text, hr, nested, hl, hn.from_same id rfl rfl⟩

/-- Asks for a file to be watched. -/
def request (path : Path) (b : Bench L) : Bench L :=
  withContext (fun ctx => ctx.requestDependency path) b

/-- Notes that a file is run. -/
def mark (path : Path) (b : Bench L) : Bench L := withState (fun s => s.markIncluded path) b

theorem mark_pending (path : Path) (b : Bench L) : pending (mark path b) = pending b :=
  congrArg (fun board : Board => board.requests.includes) ScriptState.markIncluded_board

/-- Asking for a file that was run before. Then it is watched, or it was asked for before. -/
theorem request_progress {path : Path} {b : Bench L}
    (hrun : Path.listed b.1.engine.included path) :
    Progress files watched b [] (request path b) where
  settled hp := hp
  complete := by simp
  read := by simp
  grows _ h := h
  covers earlier hc := by
    refine ⟨fun p hp => (hc.included p hp).imp_right Context.listed_requestDependency_of_listed,
      fun p hp => ?_⟩
    obtain hp | ⟨rfl, hnew⟩ := Context.mem_requestDependency hp
    · exact hc.dependencies p hp
    · obtain ⟨q, hq, hqp⟩ := List.any_eq_true.mp hrun
      obtain h | h := hc.included q hq
      · exact .inl (Path.listed_of_same h hqp)
      · exact absurd (Path.listed_of_same h hqp) hnew

/-- A file that was not run before is covered from the moment it counts as applied. -/
theorem mark_request_covered {path : Path} {b : Bench L} {earlier : List Application}
    (hc : Covered watched b earlier) (a : Application) (ha : a.origin = path) :
    Covered watched (mark path (request path b)) (a :: earlier) := by
  refine ⟨fun p hp => ?_, fun p hp => ?_⟩
  · obtain hp | rfl := ScriptState.mem_markIncluded hp
    · exact (hc.included p hp).imp_right Context.listed_requestDependency_of_listed
    · exact .inr Context.listed_requestDependency
  · obtain hp | ⟨rfl, -⟩ := Context.mem_requestDependency hp
    · exact (hc.dependencies p hp).imp_right fun ⟨b, hb, hbp⟩ => ⟨b, List.mem_cons_of_mem a hb, hbp⟩
    · exact .inr ⟨a, List.mem_cons_self, ha⟩

theorem includeFile_eq (apply : Apply L) (name : String) (b : Bench L) :
    includeFile files apply name b = match b.2.loadPath.resolve files ⟨name⟩ with
      | none => (b, .error (loadFailure s!"cannot include {name}: not found in load path"))
      | some found =>
        let path := includedPath files found
        if Path.listed b.1.engine.included path then (request path b, .ok ())
        else loadFile files apply path (mark path (request path b)) := rfl

theorem recordInclude_eq (record : String → Path → Recorder L) (name : String) (b : Bench L) :
    recordInclude files record name b = match b.2.loadPath.resolve files ⟨name⟩ with
      | none => []
      | some found =>
        let path := includedPath files found
        if Path.listed b.1.engine.included path then []
        else recordFile files record path (mark path (request path b)) := rfl

/-- An included file is run unless it was run before, and it is watched in any case. -/
theorem includeFile_progress {apply : Apply L} {record : String → Path → Recorder L}
    (hs : Sound files watched apply record) (name : String) (b : Bench L)
    (hok : (includeFile files apply name b).2 = .ok ()) :
    Progress files watched b (recordInclude files record name b)
      (includeFile files apply name b).1 := by
  rw [includeFile_eq] at hok ⊢
  rw [recordInclude_eq]
  split at hok
  · cases hok
  · next found _ =>
    generalize includedPath files found = path at hok ⊢
    dsimp only at hok ⊢
    split at hok
    · next hrun =>
      rw [if_pos hrun, if_pos hrun]
      exact request_progress hrun
    · next hnew =>
      rw [if_neg hnew, if_neg hnew]
      obtain ⟨text, h⟩ := loadFile_applied hs _ _ hok
      exact {
        settled := fun hp => h.settled ((mark_pending path _).trans hp)
        complete := h.complete
        read := h.read
        grows := fun p hp => h.grows (ScriptState.listed_markIncluded_of_listed hp)
        covers := fun earlier hc => h.covers (mark_request_covered hc _ rfl) }

/-! ### Source texts -/

theorem settle_eq (apply : Apply L) (b : Bench L) : settle files apply b =
    match inOrder (includeFile files apply) (pending b) (takeRequests b) with
    | (b', .error failure) => (b', .error failure)
    | (b', .ok ()) => inOrder registerHook b.1.engine.board.requests.hooks b' := rfl

/-- Taking the requests leaves none, whatever was asked for before. -/
theorem takeRequests_progress {b c : Bench L}
    (hi : c.1.engine.included = b.1.engine.included) (hd : c.2.dependencies = b.2.dependencies) :
    Progress files watched b [] (takeRequests c) := by
  unfold takeRequests
  dsimp only
  split <;> exact .of_same (fun _ => rfl) hi hd

/-- Requests that are carried out are progress, from the moment they are taken. -/
theorem settle_progress {apply : Apply L} {record : String → Path → Recorder L}
    (hs : Sound files watched apply record) (b : Bench L)
    (hok : (settle files apply b).2 = .ok ()) :
    Progress files watched (takeRequests b) (recordSettle files apply record b)
      (settle files apply b).1 := by
  have hi := inOrder_progress (includeFile_progress hs) (pending b) (takeRequests b)
  rw [settle_eq] at hok ⊢
  unfold recordSettle
  generalize inOrder (includeFile files apply) (pending b) (takeRequests b) = ran at hi hok ⊢
  obtain ⟨b', failure | _⟩ := ran
  · cases hok
  · exact (hi rfl).trans (registerHooks_progress _ b')

/-- Without requests for files nothing is applied. -/
theorem recordSettle_none (tree : FileTree) (apply : Apply L)
    (record : String → Path → Recorder L) {b : Bench L} (hp : pending b = []) :
    recordSettle tree apply record b = [] := by
  have hi : b.1.engine.board.requests.includes = [] := hp
  simp [recordSettle, hi, recordEach]

/-- Without requests for files only hooks are registered, successfully or not. -/
theorem settle_none (tree : FileTree) (apply : Apply L) {b : Bench L} (hp : pending b = []) :
    Progress files watched b [] (settle tree apply b).1 := by
  rw [settle_eq, hp]
  exact (takeRequests_progress rfl rfl).trans (registerHooks_progress _ _)

/-- Merging and running a program is not what puts files on any list. -/
theorem runProgram_merged_lists (program : L.Program) (origin : Path) (b : Bench L) :
    (runProgram program (merged program origin b)).1.1.engine.included = b.1.engine.included ∧
      (runProgram program (merged program origin b)).1.2.dependencies = b.2.dependencies := by
  have h : (merged program origin b).1.engine.included = b.1.engine.included ∧
      (merged program origin b).2.dependencies = b.2.dependencies := by
    unfold merged shareDataPath
    split <;> exact ⟨rfl, rfl⟩
  exact h

/-- **A source text that is applied successfully fulfils its contract**, however deep its includes
go. -/
theorem applySource_sound (files : FileTree) (watched : List Path) (depth : Nat) :
    Sound (L := L) files watched (applySource files depth) (recordSource files depth) := by
  induction depth with
  | zero =>
    intro text origin b _ hok
    cases hok
  | succ depth ih =>
    intro text origin b hr hok
    rw [applySource_succ] at hok ⊢
    unfold recordSource
    generalize L.compile text = compiled at hok ⊢
    cases compiled with
    | error fault => cases hok
    | ok program =>
      have hl := runProgram_merged_lists program origin b
      dsimp only at hok ⊢
      generalize runProgram program (merged program origin b) = ran at hl hok ⊢
      obtain ⟨b₁, failure | _⟩ := ran
      · cases hok
      · have hs := settle_progress ih b₁
        dsimp only at hok ⊢
        generalize settle files (applySource files depth) b₁ = settled at hs hok ⊢
        obtain ⟨b₂, failure | _⟩ := settled
        · cases hok
        · have hnested := (takeRequests_progress hl.1 hl.2).trans (hs rfl)
          rw [List.append_nil] at hnested
          exact ⟨hr, _, rfl, hnested.to_same id rfl rfl⟩

/-- A source text is applied with includes as deep as the files allow. -/
theorem apply_sound (files : FileTree) (watched : List Path) :
    Sound (L := L) files watched (apply files) (record files) :=
  applySource_sound files watched _

end ScriptEngine

end LiveSketch
