import LiveSketch.Proofs.Files.Canonical
import LiveSketch.Proofs.Script.Growth

/-!
# Includes end, and each file is applied once

Files can include each other, themselves, and one file under several names. The engine applies a
file only if its canonical path is new to it, and takes note of the path first. So the files that
were not run yet become fewer with every level that includes go down, and the bound on the depth
that the engine carries is never reached. And no canonical path is taken up twice.

## Why the files become fewer

What is included and can be read is a regular file of the tree, named by its canonical path. For a
name that was looked for in the load path this is so because only regular files are found there. An
absolute name may lead to a directory as well, and its canonical path is read all the same. But that
path leads nowhere else, so it cannot be read.

## Main definitions

* `ScriptEngine.applyDown` — includes go down so many levels, and what is below is a parameter.
* `ScriptEngine.unrun` — how many files were not run yet.
* `ScriptEngine.Once` — canonical paths that were new to the engine and differ from each other.

## Main results

* `ScriptEngine.apply_unbounded` — the bound on the depth of includes is never reached.
* `ScriptEngine.evaluationOrigins_distinct` — an evaluation takes up no path twice.
-/

namespace LiveSketch

/-- A regular file. -/
def FileNode.isRegular : FileNode → Bool
  | file _ _ => true
  | directory _ => false
  | link _ => false

namespace FileTree

variable {t : FileTree} {p : Path} {content : List UInt8} {modified : Int}

theorem mem_nodes_of_node? {place : List String}
    (h : t.node? place = some (.file content modified)) :
    (place, .file content modified) ∈ t.nodes := by
  unfold node? at h
  split at h
  · next k node hfind =>
    cases h
    have hk : k = place := by simpa using List.find?_some hfind
    exact hk ▸ List.mem_of_find?_eq_some hfind
  · split at h <;> cases h

/-- A path under which a file is found leads to the place of the file. -/
theorem locate_of_lookup {node : FileNode} (h : t.lookup p = .ok node) :
    ∃ place, t.locate p = .ok place ∧ t.node? place = some node := by
  unfold lookup at h
  split at h
  · cases h
  · next place hplace =>
    split at h
    · next hnode =>
      cases h
      exact ⟨place, hplace, hnode⟩
    · cases h

theorem lookup_of_readText {text : String} (h : t.readText p = .ok text) :
    ∃ content modified, t.lookup p = .ok (.file content modified) := by
  unfold readText read at h
  cases hl : t.lookup p with
  | error e => simp [hl] at h
  | ok node => cases node <;> simp_all

theorem lookup_of_isFile (h : t.isFile p) :
    ∃ content modified, t.lookup p = .ok (.file content modified) := by
  unfold isFile at h
  split at h
  · next content modified hl => exact ⟨content, modified, hl⟩
  · cases h

theorem lookup_of_doesExist (h : t.doesExist p) : ∃ node, t.lookup p = .ok node := by
  unfold doesExist at h
  split at h
  · next node hl => exact ⟨node, hl⟩
  · cases h

end FileTree

namespace ScriptEngine

variable {L : Language} {files : FileTree} {b c d : Bench L}

/-! ### Files that were not run yet -/

theorem includedPath_of_locate {found : Path} {place : List String}
    (h : files.locate found = .ok place) : includedPath files found = .ofRoot place := by
  unfold includedPath FileTree.canonical
  rw [h]

/-- What is included and can be read is a file of the tree, under its canonical path. -/
theorem file_of_include {loadPath : LoadPath} {name found : Path} {text : String}
    (hr : loadPath.resolve files name = some found)
    (ht : files.readText (includedPath files found) = .ok text) :
    ∃ entry ∈ files.nodes, entry.2.isRegular ∧ includedPath files found = .ofRoot entry.1 := by
  unfold LoadPath.resolve at hr
  split at hr
  · next habs =>
    split at hr
    · next hexists =>
      cases hr
      -- What exists may be a directory, so it is the reading that shows a regular file.
      obtain ⟨node, hl⟩ := FileTree.lookup_of_doesExist hexists
      obtain ⟨place, hplace, hnode⟩ := FileTree.locate_of_lookup hl
      rw [includedPath_of_locate hplace] at ht ⊢
      obtain ⟨content, modified, hl'⟩ := FileTree.lookup_of_readText ht
      obtain ⟨place', hplace', hnode'⟩ := FileTree.locate_of_lookup hl'
      rw [FileTree.locate_ofRoot habs hplace hplace'] at hnode'
      exact ⟨_, FileTree.mem_nodes_of_node? hnode', rfl, rfl⟩
    · cases hr
  · have hfile := List.find?_some hr
    obtain ⟨content, modified, hl⟩ := FileTree.lookup_of_isFile hfile
    obtain ⟨place, hplace, hnode⟩ := FileTree.locate_of_lookup hl
    rw [includedPath_of_locate hplace]
    exact ⟨_, FileTree.mem_nodes_of_node? hnode, rfl, rfl⟩

/-- A file that was not run yet. -/
def isUnrun (b : Bench L) (entry : List String × FileNode) : Bool :=
  entry.2.isRegular && !Path.listed b.1.engine.included (.ofRoot entry.1)

/-- How many files were not run yet. -/
def unrun (files : FileTree) (b : Bench L) : Nat := files.nodes.countP (isUnrun b)

theorem isUnrun_of_moreFiles (h : MoreFiles b c) {entry : List String × FileNode}
    (hc : isUnrun c entry) : isUnrun b entry := by
  simp only [isUnrun, Bool.and_eq_true, Bool.not_eq_true'] at hc ⊢
  refine ⟨hc.1, Bool.eq_false_iff.mpr fun hrun => ?_⟩
  rw [h.listed hrun] at hc
  cases hc.2

theorem unrun_le (h : MoreFiles b c) : unrun files c ≤ unrun files b :=
  List.countP_mono_left fun _ _ => isUnrun_of_moreFiles h

/-- A test that is stricter than another, and fails one more element, counts fewer. -/
theorem countP_lt_of_mem {α : Type} {p q : α → Bool} {as : List α} (h : ∀ a, p a → q a) {a : α}
    (ha : a ∈ as) (hq : q a) (hp : p a = false) : as.countP p < as.countP q := by
  obtain ⟨front, back, rfl⟩ := List.append_of_mem ha
  have hfront : front.countP p ≤ front.countP q := List.countP_mono_left fun x _ => h x
  have hback : back.countP p ≤ back.countP q := List.countP_mono_left fun x _ => h x
  simp only [List.countP_append, List.countP_cons, hq, hp]
  simp
  omega

/-- **Noting that a new file is run leaves fewer files to be run.** -/
theorem unrun_mark_lt {entry : List String × FileNode} (hmem : entry ∈ files.nodes)
    (hfile : entry.2.isRegular) (hnew : ¬ Path.listed b.1.engine.included (.ofRoot entry.1)) :
    unrun files (mark (.ofRoot entry.1) b) < unrun files b := by
  have hb : isUnrun b entry := by simp [isUnrun, hfile, hnew]
  have hm : isUnrun (mark (.ofRoot entry.1) b) entry = false := by
    have hrun : Path.listed (mark (.ofRoot entry.1) b).1.engine.included (.ofRoot entry.1) :=
      ScriptState.listed_markIncluded
    simp [isUnrun, hrun]
  exact countP_lt_of_mem (fun _ => isUnrun_of_moreFiles (steady_files.mark _ b)) hmem hb hm

/-! ### The depth of includes -/

/-- Applies one source text, with a way to apply the files that it includes. -/
def applyWith (files : FileTree) (apply : Apply L) : Apply L := fun source origin bench =>
  match L.compile source with
  | .error fault => (bench, .error (parseFailure fault origin))
  | .ok program =>
    match runProgram program (merged program origin bench) with
    | (bench, .error failure) => (bench, .error failure)
    | (bench, .ok ()) =>
      match settle files apply bench with
      | (bench, .error failure) => (bench, .error failure)
      | (bench, .ok ()) => (discoverEntries bench, .ok ())

/-- Includes go down so many levels. Files that are still deeper are applied in another way. -/
def applyDown (files : FileTree) (below : Apply L) : Nat → Apply L
  | 0 => below
  | depth + 1 => applyWith files (applyDown files below depth)

section

variable {apply apply' : Apply L} {depth : Nat}
  (hgrow : ∀ text origin b, MoreFiles b (apply text origin b).1)
  (hagree : ∀ text origin b, unrun files b < depth → apply' text origin b = apply text origin b)
include hagree

/-- Only files that were not run are applied, so one level deeper there are fewer of them. -/
theorem includeFile_agree (name : String) (hb : unrun files b ≤ depth) :
    includeFile files apply' name b = includeFile files apply name b := by
  rw [includeFile_eq, includeFile_eq]
  cases hr : b.2.loadPath.resolve files ⟨name⟩ with
  | none => rfl
  | some found =>
    dsimp only
    split
    · rfl
    · next hnew =>
      unfold loadFile
      cases ht : files.readText (includedPath files found) with
      | error cause => rfl
      | ok text =>
        obtain ⟨entry, hmem, hfile, hpath⟩ := file_of_include hr ht
        rw [hpath] at hnew ⊢
        -- The file is noted before it is applied, so its own includes find one file fewer to run.
        have hfewer := unrun_mark_lt (b := request (.ofRoot entry.1) b) hmem hfile hnew
        exact hagree text _ _ (Nat.lt_of_lt_of_le hfewer hb)

include hgrow

theorem inOrder_agree (names : List String) (hb : unrun files b ≤ depth) :
    inOrder (includeFile files apply') names b = inOrder (includeFile files apply) names b := by
  induction names generalizing b with
  | nil => rfl
  | cons name rest ih =>
    have hm := steady_files.includeFile files hgrow name b
    unfold inOrder
    rw [includeFile_agree hagree name hb]
    generalize includeFile files apply name b = ran at hm ⊢
    obtain ⟨c, failure | _⟩ := ran
    · rfl
    · exact ih (Nat.le_trans (unrun_le hm) hb)

theorem settle_agree (hb : unrun files b ≤ depth) :
    settle files apply' b = settle files apply b := by
  rw [settle_eq, settle_eq, inOrder_agree hgrow hagree (pending b)
    (Nat.le_trans (unrun_le (steady_files.takeRequests b)) hb)]

end

/-- As many levels as there are files that were not run are enough, whatever is below. -/
theorem applyDown_eq_applySource (below : Apply L) {depth : Nat} (text : String) (origin : Path)
    (hb : unrun files b < depth) :
    applyDown files below depth text origin b = applySource files depth text origin b := by
  induction depth generalizing text origin b with
  | zero => cases hb
  | succ depth ih =>
    rw [applySource_succ]
    unfold applyDown applyWith
    cases L.compile text with
    | error fault => rfl
    | ok program =>
      have hm : MoreFiles b (runProgram program (merged program origin b)).1 :=
        steady_files.trans (steady_files.merged program origin b)
          (steady_files.runProgram program _)
      dsimp only
      generalize runProgram program (merged program origin b) = ran at hm ⊢
      obtain ⟨c, failure | _⟩ := ran
      · rfl
      · have hc : unrun files c ≤ depth := Nat.le_of_lt_succ (Nat.lt_of_le_of_lt (unrun_le hm) hb)
        have hsettle := settle_agree (steady_files.applySource files depth)
          (fun text origin b hb => ih text origin hb) hc
        dsimp only
        generalize settle files (applyDown files below depth) c = settled at hsettle ⊢
        subst hsettle
        rfl

/-- **The bound on the depth of includes is never reached.** Whatever is done about files that are
included deeper than the engine goes, applying a source text comes out the same. -/
theorem apply_unbounded (files : FileTree) (below : Apply L) (text : String) (origin : Path)
    (b : Bench L) :
    applyDown files below (includeDepth files) text origin b = apply files text origin b := by
  refine applyDown_eq_applySource below text origin ?_
  have h : unrun files b ≤ files.nodes.length := List.countP_le_length
  unfold includeDepth
  omega

/-! ### Each path once -/

/-- What an include leads to has a canonical path. -/
theorem canonical_of_include {loadPath : LoadPath} {name found : Path}
    (hr : loadPath.resolve files name = some found) :
    files.canonical found = .ok (includedPath files found) := by
  have hl : ∃ node, files.lookup found = .ok node := by
    unfold LoadPath.resolve at hr
    split at hr
    · split at hr
      · next hexists =>
        cases hr
        exact FileTree.lookup_of_doesExist hexists
      · cases hr
    · obtain ⟨content, modified, hl⟩ := FileTree.lookup_of_isFile (List.find?_some hr)
      exact ⟨_, hl⟩
  obtain ⟨node, hl⟩ := hl
  obtain ⟨place, hplace, -⟩ := FileTree.locate_of_lookup hl
  rw [includedPath_of_locate hplace]
  unfold FileTree.canonical
  rw [hplace]

/-- Canonical paths that were not run before a step, were run after it, and differ from each
other. -/
structure Once (files : FileTree) (b : Bench L) (paths : List Path) (b' : Bench L) : Prop where
  more : MoreFiles b b'
  canonical : ∀ p ∈ paths, ∃ found, files.canonical found = .ok p
  new : ∀ p ∈ paths, ¬ Path.listed b.1.engine.included p
  run : ∀ p ∈ paths, Path.listed b'.1.engine.included p
  distinct : paths.Pairwise fun p q => ¬ p.same q

namespace Once

variable {paths paths' : List Path}

theorem of_more (h : MoreFiles b c) : Once files b [] c :=
  ⟨h, nofun, nofun, nofun, .nil⟩

theorem sublist (h : Once files b paths c) (hs : paths'.Sublist paths) : Once files b paths' c where
  more := h.more
  canonical p hp := h.canonical p (hs.subset hp)
  new p hp := h.new p (hs.subset hp)
  run p hp := h.run p (hs.subset hp)
  distinct := h.distinct.sublist hs

/-- What was run by one step is not new to the next. -/
theorem trans (h : Once files b paths c) (h' : Once files c paths' d) :
    Once files b (paths ++ paths') d where
  more := steady_files.trans h.more h'.more
  canonical p hp := (List.mem_append.mp hp).elim (h.canonical p) (h'.canonical p)
  new p hp := (List.mem_append.mp hp).elim (h.new p) fun hp hrun => h'.new p hp (h.more.listed hrun)
  run p hp := (List.mem_append.mp hp).elim (fun hp => h'.more.listed (h.run p hp)) (h'.run p)
  distinct := List.pairwise_append.mpr ⟨h.distinct, h'.distinct, fun p hp q hq hsame =>
    h'.new q hq (Path.listed_of_same (h.run p hp) hsame)⟩

/-- A step that takes up nothing may come first. -/
theorem after (h : MoreFiles b c) (h' : Once files c paths d) : Once files b paths d :=
  (of_more h).trans h'

/-- So may it come last. -/
theorem before (h : Once files b paths c) (h' : MoreFiles c d) : Once files b paths d := by
  simpa using h.trans (of_more h')

/-- Noting that a new file is run. -/
theorem mark {path found : Path} (hc : files.canonical found = .ok path)
    (hnew : ¬ Path.listed b.1.engine.included path) :
    Once files b [path] (mark path (request path b)) where
  more := steady_files.trans (steady_files.request path b) (steady_files.mark path _)
  canonical _ hp := ⟨found, List.mem_singleton.mp hp ▸ hc⟩
  new _ hp := List.mem_singleton.mp hp ▸ hnew
  run _ hp := List.mem_singleton.mp hp ▸ ScriptState.listed_markIncluded
  distinct := List.pairwise_singleton _ _

end Once

/-- A way to apply source texts that takes up the text itself and besides only paths that are
new. -/
def AppliesOnce (files : FileTree) (apply : Apply L)
    (deeds : String → Path → Bench L → List Deed) : Prop :=
  ∀ text origin b, ∃ nested, (Deed.origins (deeds text origin b)).Sublist (origin :: nested) ∧
    Once files b nested (apply text origin b).1

theorem eachDeeds_once {α : Type} {step : α → Action L} {did : α → Bench L → List Deed}
    (h : ∀ a b, Once files b (Deed.origins (did a b)) (step a b).1) (as : List α) (b : Bench L) :
    Once files b (Deed.origins (eachDeeds step did as b)) (inOrder step as b).1 := by
  induction as generalizing b with
  | nil => exact .of_more (steady_files.refl b)
  | cons a rest ih =>
    have ha := h a b
    unfold inOrder eachDeeds
    generalize step a b = ran at ha ⊢
    obtain ⟨c, failure | _⟩ := ran
    · exact ha
    · rw [Deed.origins_append]
      exact ha.trans (ih c)

section

variable {apply : Apply L} {deeds : String → Path → Bench L → List Deed}
  (h : AppliesOnce files apply deeds)
include h

theorem includeDeeds_once (name : String) (b : Bench L) :
    Once files b (Deed.origins (includeDeeds files deeds name b))
      (includeFile files apply name b).1 := by
  rw [includeFile_eq]
  unfold includeDeeds
  cases hr : b.2.loadPath.resolve files ⟨name⟩ with
  | none => exact .of_more (steady_files.refl b)
  | some found =>
    have hc := canonical_of_include hr
    dsimp only
    generalize includedPath files found = path at hc ⊢
    split
    · exact .of_more (steady_files.request path b)
    · next hnew =>
      have hmark := Once.mark hc hnew
      unfold loadFile fileDeeds
      cases files.readText path with
      | error cause => exact hmark.sublist (List.nil_sublist _)
      | ok text =>
        obtain ⟨nested, hsub, honce⟩ := h text path (note .debug
          s!"evaluating {path.text} ({text.utf8ByteSize} bytes)" (mark path (request path b)))
        exact (hmark.trans (.after (steady_files.note _ _ _) honce)).sublist hsub

theorem settleDeeds_once (b : Bench L) :
    Once files b (Deed.origins (settleDeeds files apply deeds b)) (settle files apply b).1 := by
  have hi := Once.after (steady_files.takeRequests b)
    (eachDeeds_once (includeDeeds_once h) (pending b) (takeRequests b))
  have hhook : ∀ hook (b : Bench L),
      Once files b (Deed.origins (hookDeeds hook b)) (registerHook hook b).1 := by
    intro hook b
    have hnone : Deed.origins (hookDeeds hook b) = [] := by
      unfold hookDeeds
      split <;> rfl
    rw [hnone]
    exact .of_more (steady_files.registerHook hook b)
  rw [settle_eq]
  unfold settleDeeds
  rw [Deed.origins_append]
  generalize inOrder (includeFile files apply) (pending b) (takeRequests b) = ran at hi ⊢
  obtain ⟨c, failure | _⟩ := ran
  · exact hi.trans (.of_more (steady_files.refl c))
  · exact hi.trans (eachDeeds_once hhook _ c)

end

theorem sourceDeeds_once (files : FileTree) (depth : Nat) :
    AppliesOnce (L := L) files (applySource files depth) (sourceDeeds files depth) := by
  induction depth with
  | zero => exact fun _ _ b => ⟨[], List.nil_sublist _, .of_more (steady_files.refl b)⟩
  | succ depth ih =>
    intro text origin b
    have own : ∀ {c : Bench L}, MoreFiles b c → ∃ nested,
        ([origin] : List Path).Sublist (origin :: nested) ∧ Once files b nested c :=
      fun hm => ⟨[], List.Sublist.refl _, .of_more hm⟩
    rw [applySource_succ]
    unfold sourceDeeds
    cases L.compile text with
    | error fault => exact own (steady_files.refl b)
    | ok program =>
      have hm : MoreFiles b (runProgram program (merged program origin b)).1 :=
        steady_files.trans (steady_files.merged program origin b)
          (steady_files.runProgram program _)
      dsimp only
      generalize runProgram program (merged program origin b) = ran at hm ⊢
      obtain ⟨c, failure | _⟩ := ran
      · exact own hm
      · have hs := Once.after hm (settleDeeds_once ih c)
        dsimp only
        generalize settleDeeds files (applySource files depth) (sourceDeeds files depth) c = did
          at hs ⊢
        generalize settle files (applySource files depth) c = settled at hs ⊢
        refine ⟨Deed.origins did, List.Sublist.refl _, ?_⟩
        obtain ⟨d, failure | _⟩ := settled
        · exact hs
        · exact hs.before (steady_files.discoverEntries d)

/-- **An evaluation takes up no path twice.** Every source text that it takes up besides its own is
that of a canonical path. -/
theorem evaluationOrigins_distinct (files : FileTree) (source : String) (origin : Path)
    (resetting : Bool) (b : Bench L) :
    let origins := Deed.origins (sourceDeeds files (includeDepth files) source origin
      (evaluationStart origin resetting b))
    (origins.Pairwise fun p q => ¬ p.same q) ∧
      ∀ p ∈ origins, p = origin ∨ ∃ found, files.canonical found = .ok p := by
  obtain ⟨nested, hsub, honce⟩ := sourceDeeds_once files (includeDepth files) source origin
    (evaluationStart origin resetting b)
  -- The origin is noted at the start, so a file that includes it again does not run it.
  have hown : Path.listed (evaluationStart origin resetting b).1.engine.included origin :=
    ScriptState.listed_markIncluded
  have hall : (origin :: nested).Pairwise fun p q => ¬ p.same q := by
    refine List.pairwise_cons.mpr ⟨fun p hp hsame => ?_, honce.distinct⟩
    exact honce.new p hp (Path.listed_of_same hown hsame)
  refine ⟨hall.sublist hsub, fun p hp => ?_⟩
  obtain rfl | hp := List.mem_cons.mp (hsub.subset hp)
  · exact .inl rfl
  · exact .inr (honce.canonical p hp)

end ScriptEngine
end LiveSketch
