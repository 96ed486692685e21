import LiveSketch.Proofs.Script.Progress

/-!
# What a script engine did

Between the statements that it runs, an engine takes up source texts, finds the files that includes
name, and carries out requests for hooks. Here these *deeds* are listed, oldest first, for each
function of the engine. The state does not tell all of them: a function that was replaced leaves no
trace, a file that was found twice is listed once, and so is a hook.

## How much a list says

A relation between a bench, a list of deeds and a later bench is *traced* if each building block of
the engine obeys it with the deed that the block does. Then source texts and requests obey it with
all their deeds, however deep the includes go, and whether they fail or not. A relation that ignores
the deeds is the special case in which nothing is listed.

## Main definitions

* `Deed` — a source text that was taken up, a file that was found, or a hook that was asked for and
  exists.
* `ScriptEngine.sourceDeeds`, `ScriptEngine.settleDeeds`, `ScriptEngine.fileDeeds` — the deeds of
  applying a source text, of acting on requests, and of reading and applying a file.
* `ScriptEngine.Traced` — relations that the building blocks obey with their deeds.

## Main results

* `ScriptEngine.Traced.applySource`, `ScriptEngine.Traced.settle` — so do source texts and requests.
-/

namespace LiveSketch

/-- Something that an engine did besides running statements. -/
inductive Deed where
  /-- A source text of some origin was taken up: its functions are merged, unless it is no
  program. -/
  | applied (origin : Path) (text : String)
  /-- The file was found that an include names. -/
  | found (path : Path)
  /-- A request for a hook was carried out, maybe not for the first time. -/
  | hooked (hook : HookRequest)
deriving DecidableEq

namespace Deed

/-- The origin of a source text that was taken up. -/
def origin? : Deed → Option Path
  | applied origin _ => some origin
  | found _ => none
  | hooked _ => none

/-- The file that was found. -/
def found? : Deed → Option Path
  | applied _ _ => none
  | found path => some path
  | hooked _ => none

/-- The hook that was asked for. -/
def hooked? : Deed → Option HookRequest
  | applied _ _ => none
  | found _ => none
  | hooked hook => some hook

/-- The origins of the source texts that were taken up, in order. -/
abbrev origins (deeds : List Deed) : List Path := deeds.filterMap origin?

/-- The files that were found, in order. -/
abbrev files (deeds : List Deed) : List Path := deeds.filterMap found?

/-- The hooks that were asked for and exist, in order. -/
abbrev hooks (deeds : List Deed) : List HookRequest := deeds.filterMap hooked?

theorem origins_append (deeds more : List Deed) :
    origins (deeds ++ more) = origins deeds ++ origins more :=
  List.filterMap_append

theorem files_append (deeds more : List Deed) :
    files (deeds ++ more) = files deeds ++ files more :=
  List.filterMap_append

theorem hooks_append (deeds more : List Deed) :
    hooks (deeds ++ more) = hooks deeds ++ hooks more :=
  List.filterMap_append

end Deed

namespace ScriptEngine

variable {L : Language}

/-! ### The deeds of each function -/

/-- The deeds of several steps that are done in order, up to the first failure. -/
def eachDeeds {α : Type} (step : α → Action L) (deeds : α → Bench L → List Deed) :
    List α → Bench L → List Deed
  | [], _ => []
  | a :: rest, bench =>
    match step a bench with
    | (bench', .ok ()) => deeds a bench ++ eachDeeds step deeds rest bench'
    | (_, .error _) => deeds a bench

/-- The deeds of registering a hook. -/
def hookDeeds (hook : HookRequest) (bench : Bench L) : List Deed :=
  match registerHook hook bench with
  | (_, .ok ()) => [.hooked hook]
  | (_, .error _) => []

/-- The deeds of reading a file and applying it. -/
def fileDeeds (files : FileTree) (deeds : String → Path → Bench L → List Deed) (path : Path)
    (bench : Bench L) : List Deed :=
  match files.readText path with
  | .error _ => []
  | .ok source =>
    deeds source path
      (note .debug s!"evaluating {path.text} ({source.utf8ByteSize} bytes)" bench)

/-- The deeds of including a file. -/
def includeDeeds (files : FileTree) (deeds : String → Path → Bench L → List Deed) (name : String)
    (bench : Bench L) : List Deed :=
  match bench.2.loadPath.resolve files ⟨name⟩ with
  | none => []
  | some found =>
    let path := includedPath files found
    .found path :: if Path.listed bench.1.engine.included path then []
      else fileDeeds files deeds path (mark path (request path bench))

/-- The deeds of acting on requests. -/
def settleDeeds (files : FileTree) (apply : Apply L) (deeds : String → Path → Bench L → List Deed)
    (bench : Bench L) : List Deed :=
  eachDeeds (includeFile files apply) (includeDeeds files deeds) (pending bench)
      (takeRequests bench) ++
    match inOrder (includeFile files apply) (pending bench) (takeRequests bench) with
    | (_, .error _) => []
    | (bench', .ok ()) =>
      eachDeeds registerHook hookDeeds bench.1.engine.board.requests.hooks bench'

/-- The deeds of applying a source text. -/
def sourceDeeds (files : FileTree) : Nat → String → Path → Bench L → List Deed
  | 0, _, _, _ => []
  | depth + 1, source, origin, bench =>
    .applied origin source :: match L.compile source with
      | .error _ => []
      | .ok program =>
        match runProgram program (merged program origin bench) with
        | (_, .error _) => []
        | (bench, .ok ()) =>
          settleDeeds files (applySource files depth) (sourceDeeds files depth) bench

/-! ### What the building blocks change -/

/-- Registering a hook changes the hooks, what is known of them, and the log. -/
theorem registerHook_eq (hook : HookRequest) (b : Bench L) : (registerHook hook b).1 =
    ({ b.1 with
      engine := { b.1.engine with registered := (registerHook hook b).1.1.engine.registered }
      log := (registerHook hook b).1.1.log },
      { b.2 with hooks := (registerHook hook b).1.2.hooks }) := by
  unfold registerHook
  dsimp only
  split
  · rfl
  · split <;> rfl

/-- Taking the requests changes the board and the verbosity. -/
theorem takeRequests_eq (b : Bench L) : takeRequests b =
    ({ b.1 with engine := { b.1.engine with board := b.1.engine.board.takeRequests.2 } },
      { b.2 with verbose := (takeRequests b).2.verbose }) := by
  unfold takeRequests
  dsimp only
  split <;> rfl

/-- Asking for a file to be watched changes nothing else. -/
theorem request_eq (path : Path) (b : Bench L) : request path b =
    (b.1, { b.2 with dependencies := (request path b).2.dependencies }) := by
  unfold request withContext Context.requestDependency
  dsimp only
  split <;> rfl

/-- Noting that a file is run changes nothing else. -/
theorem mark_eq (path : Path) (b : Bench L) : mark path b =
    ({ b.1 with engine := { b.1.engine with included := (mark path b).1.engine.included } },
      b.2) := by
  unfold mark withState ScriptState.markIncluded
  dsimp only
  split <;> rfl

/-- Taking up a program changes the functions and what is known of the source text. -/
theorem merged_eq (program : L.Program) (origin : Path) (b : Bench L) : merged program origin b =
    ({ b.1 with engine := { b.1.engine with
        functions := b.1.engine.functions.merge (L.functions program)
        source := (merged program origin b).1.engine.source
        dataPath := (merged program origin b).1.engine.dataPath } }, b.2) := by
  unfold merged shareDataPath
  split <;> rfl

/-! ### Success -/

/-- A source text that is applied successfully is a program, runs to its end, and has its requests
carried out. -/
theorem applySource_ok {files : FileTree} {depth : Nat} {text : String} {origin : Path}
    {b : Bench L} (hok : (applySource files (depth + 1) text origin b).2 = .ok ()) :
    ∃ program c d, L.compile text = .ok program ∧
      runProgram program (merged program origin b) = (c, .ok ()) ∧
      settle files (applySource files depth) c = (d, .ok ()) ∧
      applySource files (depth + 1) text origin b = (discoverEntries d, .ok ()) := by
  rw [applySource_succ] at hok ⊢
  cases hc : L.compile text with
  | error fault =>
    rw [hc] at hok
    cases hok
  | ok program =>
    rw [hc] at hok
    dsimp only at hok ⊢
    rcases hrun : runProgram program (merged program origin b) with ⟨c, failure | _⟩
    · rw [hrun] at hok
      cases hok
    · rw [hrun] at hok
      dsimp only at hok ⊢
      rcases hs : settle files (applySource files depth) c with ⟨d, failure | _⟩
      · rw [hs] at hok
        cases hok
      · exact ⟨program, c, d, rfl, hrun, hs, rfl⟩

/-- Requests that are carried out are carried out for files first and for hooks then. -/
theorem settle_ok {files : FileTree} {apply : Apply L} {b d : Bench L}
    (h : settle files apply b = (d, .ok ())) :
    ∃ c, inOrder (includeFile files apply) (pending b) (takeRequests b) = (c, .ok ()) ∧
      inOrder registerHook b.1.engine.board.requests.hooks c = (d, .ok ()) := by
  rw [settle_eq] at h
  rcases hi : inOrder (includeFile files apply) (pending b) (takeRequests b) with ⟨c, failure | _⟩
  · rw [hi] at h
    cases h
  · rw [hi] at h
    exact ⟨c, rfl, h⟩

/-! ### What they amount to -/

/-- A relation that the building blocks of source texts obey, with the deed that a block does. -/
structure Traced (R : Bench L → List Deed → Bench L → Prop) : Prop where
  refl : ∀ b, R b [] b
  trans : ∀ {b c d deeds more}, R b deeds c → R c more d → R b (deeds ++ more) d
  env : ∀ env b, R b [] (withState (fun s => { s with env }) b)
  note : ∀ level text b, R b [] (note level text b)
  found : ∀ path b, R b [.found path] (request path b)
  mark : ∀ path b, R b [] (mark path b)
  hooked : ∀ hook b, (registerHook hook b).2 = .ok () → R b [.hooked hook] (registerHook hook b).1
  takeRequests : ∀ b, R b [] (takeRequests b)
  merged : ∀ {text program} origin b, L.compile text = .ok program →
    R b [.applied origin text] (merged program origin b)
  refused : ∀ {text fault} origin b, L.compile text = .error fault → R b [.applied origin text] b
  runProgram : ∀ program b, R b [] (runProgram program b).1
  discoverEntries : ∀ b, R b [] (discoverEntries b)

namespace Traced

variable {apply : Apply L} {deeds : String → Path → Bench L → List Deed}
  {R : Bench L → List Deed → Bench L → Prop} (hR : Traced R)
include hR

/-- A block that does no deed may come first. -/
theorem after {b c d : Bench L} {more : List Deed} (h : R b [] c) (h' : R c more d) : R b more d :=
  hR.trans h h'

/-- So may it come last. -/
theorem before {b c d : Bench L} {did : List Deed} (h : R b did c) (h' : R c [] d) :
    R b did d := by
  simpa using hR.trans h h'

theorem each {α : Type} {step : α → Action L} {did : α → Bench L → List Deed}
    (h : ∀ a b, R b (did a b) (step a b).1) (as : List α) (b : Bench L) :
    R b (eachDeeds step did as b) (inOrder step as b).1 := by
  induction as generalizing b with
  | nil => exact hR.refl b
  | cons a rest ih =>
    have ha := h a b
    unfold inOrder eachDeeds
    generalize step a b = ran at ha ⊢
    obtain ⟨c, failure | _⟩ := ran
    · exact ha
    · exact hR.trans ha (ih c)

/-- A hook that names no function is not registered, and nothing else happens. -/
theorem registerHook (hook : HookRequest) (b : Bench L) :
    R b (hookDeeds hook b) (ScriptEngine.registerHook hook b).1 := by
  have hooked := hR.hooked hook b
  have failed : ∀ failure, (ScriptEngine.registerHook hook b).2 = .error failure →
      (ScriptEngine.registerHook hook b).1 = b := by
    intro failure hf
    unfold ScriptEngine.registerHook at hf ⊢
    dsimp only at hf ⊢
    split at hf
    · rw [if_pos ‹_›]
    · split at hf <;> cases hf
  unfold hookDeeds
  generalize ScriptEngine.registerHook hook b = ran at hooked failed ⊢
  obtain ⟨c, failure | _⟩ := ran
  · rw [failed failure rfl]
    exact hR.refl b
  · exact hooked rfl

theorem loadFile (files : FileTree)
    (happ : ∀ text origin b, R b (deeds text origin b) (apply text origin b).1) (path : Path)
    (b : Bench L) :
    R b (fileDeeds files deeds path b) (ScriptEngine.loadFile files apply path b).1 := by
  unfold ScriptEngine.loadFile fileDeeds
  cases files.readText path with
  | error cause => exact hR.refl b
  | ok source => exact hR.after (hR.note _ _ b) (happ source path _)

theorem includeFile (files : FileTree)
    (happ : ∀ text origin b, R b (deeds text origin b) (apply text origin b).1) (name : String)
    (b : Bench L) :
    R b (includeDeeds files deeds name b) (ScriptEngine.includeFile files apply name b).1 := by
  rw [includeFile_eq]
  unfold includeDeeds
  cases b.2.loadPath.resolve files ⟨name⟩ with
  | none => exact hR.refl b
  | some found =>
    have hreq := hR.found (includedPath files found) b
    dsimp only
    split
    · exact hreq
    · exact hR.trans hreq (hR.after (hR.mark _ _) (hR.loadFile files happ _ _))

theorem settle (files : FileTree)
    (happ : ∀ text origin b, R b (deeds text origin b) (apply text origin b).1) (b : Bench L) :
    R b (settleDeeds files apply deeds b) (ScriptEngine.settle files apply b).1 := by
  have hi := hR.after (hR.takeRequests b)
    (hR.each (hR.includeFile files happ) (pending b) (ScriptEngine.takeRequests b))
  rw [settle_eq]
  unfold settleDeeds
  generalize inOrder (ScriptEngine.includeFile files apply) (pending b)
    (ScriptEngine.takeRequests b) = ran at hi ⊢
  obtain ⟨c, failure | _⟩ := ran
  · rwa [List.append_nil]
  · exact hR.trans hi (hR.each hR.registerHook _ c)

/-- **Source texts obey the relation with all their deeds**, by induction on the depth of
includes. -/
theorem applySource (files : FileTree) (depth : Nat) (text : String) (origin : Path)
    (b : Bench L) : R b (sourceDeeds files depth text origin b)
      (ScriptEngine.applySource files depth text origin b).1 := by
  induction depth generalizing text origin b with
  | zero => exact hR.refl b
  | succ depth ih =>
    rw [applySource_succ]
    unfold sourceDeeds
    cases hc : L.compile text with
    | error fault => exact hR.refused origin b hc
    | ok program =>
      have hrun := hR.before (hR.merged origin b hc) (hR.runProgram program _)
      dsimp only
      generalize ScriptEngine.runProgram program (ScriptEngine.merged program origin b) = ran
        at hrun ⊢
      obtain ⟨c, failure | _⟩ := ran
      · exact hrun
      · have hs := hR.trans hrun (hR.settle files ih c)
        dsimp only
        generalize settleDeeds files (ScriptEngine.applySource files depth)
          (sourceDeeds files depth) c = did at hs ⊢
        generalize ScriptEngine.settle files (ScriptEngine.applySource files depth) c = settled
          at hs ⊢
        obtain ⟨d, failure | _⟩ := settled
        · exact hs
        · exact hR.before hs (hR.discoverEntries d)

/-- Taking note of a frame obeys it. -/
theorem sync (env : FrameEnv) (files : FileTree) (b : Bench L) :
    R b (settleDeeds files (ScriptEngine.apply files) (sourceDeeds files (includeDepth files))
      (withState (fun s => { s with env }) b)) (ScriptEngine.sync env files b) := by
  have hs := hR.after (hR.env env b)
    (hR.settle files (hR.applySource files (includeDepth files)) _)
  unfold ScriptEngine.sync ScriptEngine.apply
  generalize settleDeeds files _ _ _ = did at hs ⊢
  generalize ScriptEngine.settle files _ _ = ran at hs ⊢
  obtain ⟨c, failure | _⟩ := ran
  · exact hR.before hs (hR.note _ _ c)
  · exact hs

end Traced

end ScriptEngine
end LiveSketch
