import LiveSketch.Proofs.Script.Growth

/-!
# Requests that are left over

Statements ask for files, and the requests are acted on when the statements have run to their end.
If one of them fails, the requests that were made before it stay where they are, and whoever acts on
requests next acts on these too. This is the only way in which requests are left over: a source text
that runs to its end has them taken, and so has every file that it includes.

What acting on leftover requests does can be read off the requests beforehand. A name that is not
found ends it. A file that was run before is asked to be watched, which changes nothing if it was
asked for already. Any other file is noted as run before anything else can go wrong.

## Main definitions

* `ScriptEngine.Blamed` — requests that are left over were left over before, or by a failed
  statement.
* `ScriptEngine.idle` — acting on requests runs no file and asks for none.
* `ScriptEngine.SameScripts` — the functions and the files are the same.

## Main results

* `ScriptEngine.applySource_blamed` — source texts leave requests only by failing.
* `ScriptEngine.sync_scripts_iff` — what acting on requests does to functions and files.
-/

namespace LiveSketch
namespace ScriptEngine

variable {L : Language} {files : FileTree} {apply : Apply L} {record : String → Path → Recorder L}
  {b b' c d : Bench L}

/-! ### Where they come from -/

/-- If a request is left over, then one was left over before, or a statement of an application
failed. -/
def Blamed (b : Bench L) (log : List Application) (b' : Bench L) : Prop :=
  pending b' ≠ [] → pending b ≠ [] ∨ ∃ a ∈ log, a.ending = .stopped

namespace Blamed

theorem of_pending (h : pending b' = pending b) (log : List Application) : Blamed b log b' :=
  fun hp => .inl (h ▸ hp)

theorem trans {log more : List Application} (h : Blamed b log c) (h' : Blamed c more d) :
    Blamed b (more ++ log) d := by
  intro hp
  obtain hc | ⟨a, ha, hs⟩ := h' hp
  · exact (h hc).imp_right fun ⟨a, ha, hs⟩ => ⟨a, List.mem_append_right more ha, hs⟩
  · exact .inr ⟨a, List.mem_append_left log ha, hs⟩

/-- A step may start from a bench with the same requests. -/
theorem from_pending {log : List Application} (h : Blamed c log d) (hp : pending c = pending b) :
    Blamed b log d := by
  unfold Blamed at h ⊢
  rwa [hp] at h

end Blamed

theorem inOrder_blamed {α : Type} {step : α → Action L} {record : α → Recorder L}
    (h : ∀ a b, Blamed b (record a b) (step a b).1) (as : List α) (b : Bench L) :
    Blamed b (recordEach step record as b) (inOrder step as b).1 := by
  induction as generalizing b with
  | nil => exact .of_pending rfl []
  | cons a rest ih =>
    have ha := h a b
    unfold inOrder recordEach
    generalize step a b = ran at ha ⊢
    obtain ⟨c, failure | _⟩ := ran
    · exact ha
    · exact ha.trans (ih c)

theorem registerHook_pending (hook : HookRequest) (b : Bench L) :
    pending (registerHook hook b).1 = pending b := by
  rw [registerHook_eq]
  rfl

theorem takeRequests_pending (b : Bench L) : pending (takeRequests b) = [] := by
  rw [takeRequests_eq]
  rfl

theorem loadFile_blamed (files : FileTree)
    (h : ∀ text origin b, Blamed b (record text origin b) (apply text origin b).1) (path : Path)
    (b : Bench L) :
    Blamed b (recordFile files record path b) (loadFile files apply path b).1 := by
  unfold loadFile recordFile
  cases files.readText path with
  | error cause => exact .of_pending rfl []
  | ok source => exact (h source path _).from_pending rfl

theorem includeFile_blamed (files : FileTree)
    (h : ∀ text origin b, Blamed b (record text origin b) (apply text origin b).1) (name : String)
    (b : Bench L) :
    Blamed b (recordInclude files record name b) (includeFile files apply name b).1 := by
  rw [includeFile_eq, recordInclude_eq]
  split
  · exact .of_pending rfl []
  · dsimp only
    split
    · exact .of_pending rfl []
    · exact (loadFile_blamed files h _ _).from_pending (mark_pending _ _)

/-- The requests are taken first, so what is left over afterwards was asked for meanwhile. -/
theorem settle_blamed (files : FileTree)
    (h : ∀ text origin b, Blamed b (record text origin b) (apply text origin b).1) (b : Bench L) :
    Blamed (takeRequests b) (recordSettle files apply record b) (settle files apply b).1 := by
  have hi := inOrder_blamed (includeFile_blamed files h) (pending b) (takeRequests b)
  rw [settle_eq]
  unfold recordSettle
  generalize inOrder (includeFile files apply) (pending b) (takeRequests b) = ran at hi ⊢
  obtain ⟨c, failure | _⟩ := ran
  · exact hi
  · have hh := inOrder_keeps (I := fun d => pending d = pending c)
      (fun hook d hd => (registerHook_pending hook d).trans hd) b.1.engine.board.requests.hooks rfl
    exact hi.trans (.of_pending hh [])

/-- **Source texts leave requests only by failing**, however deep their includes go. -/
theorem applySource_blamed (files : FileTree) (depth : Nat) (text : String) (origin : Path)
    (b : Bench L) : Blamed b (recordSource files depth text origin b)
      (applySource files depth text origin b).1 := by
  induction depth generalizing text origin b with
  | zero => exact .of_pending rfl _
  | succ depth ih =>
    rw [applySource_succ]
    unfold recordSource
    cases L.compile text with
    | error fault => exact .of_pending rfl _
    | ok program =>
      dsimp only
      generalize runProgram program (merged program origin b) = ran
      obtain ⟨c, failure | _⟩ := ran
      · exact fun _ => .inr ⟨_, List.mem_singleton_self _, rfl⟩
      · have hs := settle_blamed files ih c
        have hnone := takeRequests_pending c
        dsimp only
        generalize settle files (applySource files depth) c = settled at hs ⊢
        have hstopped : ∀ ending, pending settled.1 ≠ [] →
            ∃ a ∈ recordSettle files (applySource files depth) (recordSource files depth) c ++
              [⟨origin, text, ending⟩], a.ending = .stopped := by
          intro ending hp
          obtain hc | ⟨a, ha, hstop⟩ := hs hp
          · exact absurd hnone hc
          · exact ⟨a, List.mem_append_left _ ha, hstop⟩
        obtain ⟨d, failure | _⟩ := settled
        · exact fun hp => .inr (hstopped _ hp)
        · exact fun hp => .inr (hstopped _ hp)

/-- Requests that are carried out leave none behind. -/
theorem pending_of_settle {depth : Nat}
    (h : settle files (applySource files depth) b = (c, .ok ())) : pending c = [] := by
  have hs := settle_progress (applySource_sound files [] depth) b (congrArg Prod.snd h)
  rw [h] at hs
  exact hs.settled (takeRequests_pending b)

/-- Neither does a source text that is applied successfully. -/
theorem pending_of_applySource {depth : Nat} {text : String} {origin : Path}
    (h : applySource files (depth + 1) text origin b = (c, .ok ())) : pending c = [] := by
  obtain ⟨program, c₁, d, -, -, hs, heq⟩ := applySource_ok (congrArg Prod.snd h)
  have hp : pending d = [] := pending_of_settle hs
  obtain rfl : c = discoverEntries d := congrArg Prod.fst (h.symm.trans heq)
  exact hp

/-! ### What they do -/

/-- The same functions, the same files that were run, and the same files to be watched. -/
structure SameScripts (b b' : Bench L) : Prop where
  functions : b'.1.engine.functions = b.1.engine.functions
  included : b'.1.engine.included = b.1.engine.included
  dependencies : b'.2.dependencies = b.2.dependencies

namespace SameScripts

theorem symm (h : SameScripts b c) : SameScripts c b :=
  ⟨h.functions.symm, h.included.symm, h.dependencies.symm⟩

theorem trans (h : SameScripts b c) (h' : SameScripts c d) : SameScripts b d :=
  ⟨h'.functions.trans h.functions, h'.included.trans h.included,
    h'.dependencies.trans h.dependencies⟩

end SameScripts

/-- Whether acting on requests for files runs none of them, and asks for none to be watched that was
not asked for already. -/
def idle (files : FileTree) (b : Bench L) : List String → Bool
  | [] => true
  | name :: rest =>
    match b.2.loadPath.resolve files ⟨name⟩ with
    | none => true
    | some found =>
      Path.listed b.1.engine.included (includedPath files found) &&
        Path.listed b.2.dependencies (includedPath files found) && idle files b rest

/-- That depends on where files are looked for, which ones were run and which were asked for. -/
theorem idle_congr (h : SameScripts b c) (hl : c.2.loadPath = b.2.loadPath)
    (names : List String) : idle files c names = idle files b names := by
  induction names with
  | nil => rfl
  | cons name rest ih =>
    unfold idle
    rw [hl, h.included, h.dependencies, ih]

/-- A file that was asked for already may be asked for again. -/
theorem request_of_listed {path : Path} (h : Path.listed b.2.dependencies path) :
    request path b = b := by
  show (b.1, b.2.requestDependency path) = b
  unfold Context.requestDependency
  rw [if_pos h]

theorem inOrder_idle (apply : Apply L) (record : String → Path → Recorder L)
    {names : List String} (h : idle files b names) :
    (inOrder (includeFile files apply) names b).1 = b ∧
      recordEach (includeFile files apply) (recordInclude files record) names b = [] := by
  induction names with
  | nil => exact ⟨rfl, rfl⟩
  | cons name rest ih =>
    unfold idle at h
    unfold inOrder recordEach
    rw [includeFile_eq, recordInclude_eq]
    cases hr : b.2.loadPath.resolve files ⟨name⟩ with
    | none => exact ⟨rfl, rfl⟩
    | some found =>
      rw [hr] at h
      simp only [Bool.and_eq_true] at h
      obtain ⟨⟨hrun, hasked⟩, hrest⟩ := h
      obtain ⟨hb, hl⟩ := ih hrest
      dsimp only
      rw [if_pos hrun, if_pos hrun, request_of_listed hasked]
      exact ⟨hb, (List.append_nil _).trans hl⟩

/-- A step that leads to more files than there were. -/
def Adds (b b' : Bench L) : Prop :=
  b.1.engine.included.length < b'.1.engine.included.length ∨
    b.2.dependencies.length < b'.2.dependencies.length

theorem Adds.trans (h : Adds b c) (h' : MoreFiles c d) : Adds b d :=
  h.imp (fun hi => Nat.lt_of_lt_of_le hi h'.1.length_le) fun hd =>
    Nat.lt_of_lt_of_le hd h'.2.length_le

/-- Then no files were added. -/
theorem SameScripts.not_adds (h : SameScripts b c) : ¬ Adds b c := by
  unfold Adds
  rw [h.included, h.dependencies]
  simp

theorem inOrder_busy (happ : ∀ text origin b, MoreFiles b (apply text origin b).1)
    {names : List String} (h : idle files b names = false) :
    Adds b (inOrder (includeFile files apply) names b).1 := by
  induction names with
  | nil => cases h
  | cons name rest ih =>
    have hrest := steady_files.inOrder (steady_files.includeFile files happ) rest
    unfold idle at h
    unfold inOrder
    rw [includeFile_eq]
    cases hr : b.2.loadPath.resolve files ⟨name⟩ with
    | none => simp [hr] at h
    | some found =>
      rw [hr] at h
      dsimp only at h ⊢
      generalize includedPath files found = path at h ⊢
      by_cases hrun : Path.listed b.1.engine.included path
      · rw [if_pos hrun]
        by_cases hasked : Path.listed b.2.dependencies path
        · rw [request_of_listed hasked]
          exact ih (by simpa [hrun, hasked] using h)
        · have ha : Adds b (request path b) := by
            refine .inr ?_
            show b.2.dependencies.length < (b.2.requestDependency path).dependencies.length
            unfold Context.requestDependency
            rw [if_neg hasked]
            simp
          exact ha.trans (hrest _)
      · rw [if_neg hrun]
        have ha : Adds b (mark path (request path b)) := by
          refine .inl ?_
          show b.1.engine.included.length < (b.1.engine.markIncluded path).included.length
          unfold ScriptState.markIncluded
          rw [if_neg hrun]
          simp
        have hl := ha.trans (steady_files.loadFile files happ path _)
        generalize loadFile files apply path (mark path (request path b)) = ran at hl ⊢
        obtain ⟨c, failure | _⟩ := ran
        · exact hl
        · exact hl.trans (hrest c)

/-! ### Acting on requests -/

theorem takeRequests_scripts (b : Bench L) : SameScripts b (takeRequests b) := by
  rw [takeRequests_eq]
  exact ⟨rfl, rfl, rfl⟩

theorem registerHook_scripts (hook : HookRequest) (b : Bench L) :
    SameScripts b (registerHook hook b).1 := by
  rw [registerHook_eq]
  exact ⟨rfl, rfl, rfl⟩

/-- Idle requests are idle when they have been taken. -/
theorem takeRequests_idle (b : Bench L) (names : List String) :
    idle files (takeRequests b) names = idle files b names := by
  have hl : (takeRequests b).2.loadPath = b.2.loadPath := by rw [takeRequests_eq]
  exact idle_congr (takeRequests_scripts b) hl names

/-- Acting on idle requests applies nothing, and leaves functions and files as they are. -/
theorem settle_idle (apply : Apply L) (record : String → Path → Recorder L)
    (h : idle files b (pending b)) :
    SameScripts b (settle files apply b).1 ∧ recordSettle files apply record b = [] := by
  rw [← takeRequests_idle] at h
  obtain ⟨hb, hr⟩ := inOrder_idle apply record h
  refine ⟨?_, hr⟩
  have ht : SameScripts b (inOrder (includeFile files apply) (pending b) (takeRequests b)).1 := by
    rw [hb]
    exact takeRequests_scripts b
  rw [settle_eq]
  generalize inOrder (includeFile files apply) (pending b) (takeRequests b) = ran at ht ⊢
  obtain ⟨c, failure | _⟩ := ran
  · exact ht
  · exact inOrder_keeps (I := SameScripts b)
      (fun hook d hd => hd.trans (registerHook_scripts hook d)) _ ht

/-- Acting on any others adds files. -/
theorem settle_busy (happ : ∀ text origin b, MoreFiles b (apply text origin b).1)
    (h : idle files b (pending b) = false) : Adds b (settle files apply b).1 := by
  rw [← takeRequests_idle] at h
  have hb : Adds b (inOrder (includeFile files apply) (pending b) (takeRequests b)).1 := by
    have ha := inOrder_busy happ h
    unfold Adds at ha ⊢
    rwa [(takeRequests_scripts b).included, (takeRequests_scripts b).dependencies] at ha
  rw [settle_eq]
  generalize inOrder (includeFile files apply) (pending b) (takeRequests b) = ran at hb ⊢
  obtain ⟨c, failure | _⟩ := ran
  · exact hb
  · exact hb.trans (steady_files.inOrder steady_files.registerHook _ c)

/-- **Taking note of a frame leaves functions and files alone exactly if the requests are idle.**
Then it applies nothing either. -/
theorem sync_scripts_iff (env : FrameEnv) (files : FileTree) (b : Bench L) :
    (SameScripts b (ScriptEngine.sync env files b) ↔ idle files b (pending b)) ∧
      (idle files b (pending b) → recordSettle files (ScriptEngine.apply files)
        (ScriptEngine.record files) (withState (fun s => { s with env }) b) = []) := by
  have hstart : SameScripts b (withState (fun s => { s with env }) b) := ⟨rfl, rfl, rfl⟩
  have henv : idle files (withState (fun s => { s with env }) b) (pending b) =
      idle files b (pending b) :=
    idle_congr hstart rfl _
  have hsync : SameScripts (settle files (ScriptEngine.apply files)
      (withState (fun s => { s with env }) b)).1 (ScriptEngine.sync env files b) := by
    unfold ScriptEngine.sync
    generalize settle files (ScriptEngine.apply files) (withState (fun s => { s with env }) b) = ran
    obtain ⟨c, failure | _⟩ := ran <;> exact ⟨rfl, rfl, rfl⟩
  refine ⟨⟨fun h => ?_, fun h => ?_⟩, fun h => ?_⟩
  · rw [← Bool.not_eq_false]
    intro hbusy
    rw [← henv] at hbusy
    exact ((hstart.symm.trans h).trans hsync.symm).not_adds
      (settle_busy (steady_files.applySource files (includeDepth files)) hbusy)
  · rw [← henv] at h
    exact (hstart.trans (settle_idle _ (ScriptEngine.record files) h).1).trans hsync
  · rw [← henv] at h
    exact (settle_idle _ _ h).2

end ScriptEngine
end LiveSketch
