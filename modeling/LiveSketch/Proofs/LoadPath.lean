import LiveSketch.Player
import LiveSketch.Proofs.Script.Progress

/-!
# The order of the search

Directories to search come from four places, each treated in its own way: the environment names them
as it likes, the settings file and the command line name directories that have to resolve, and there
is a default. They are put into one list while repetitions are left out, and then the directory of
the sketch moves to the front from wherever it was. What is searched before what is the sum of all
this.

## The idea

Building up a load path is leaving out repetitions, whatever it is built from, and so is moving a
directory to the front: the repetition is then the one further down. So the result is read off the
directories in the order in which they are meant to count, without following how the list came
about. All that is left out is what was mentioned before.

## Main definitions

* `Path.firsts` — a list of paths without what is mentioned again.
* `LoadPath.Distinct` — no directory is searched twice.
* `LoadPath.Assembled` — load paths that are built up from nothing.

## Main results

* `Path.mem_firsts` — what is left of a list of paths.
* `LoadPath.ofSources_entries` — the search path that the sources give.
* `LoadPath.Assembled.distinct` — no load path searches a directory twice.
* `LoadPath.resolve_eq_some_iff`, `LoadPath.resolve_eq_none_iff` — where a file is found.
* `Session.search_order` — all of it together, up to a session that is ready.
-/

namespace LiveSketch

/-! ### First mentions -/

namespace Path

variable {paths : List Path} {p : Path}

/-- The paths of a list that are not the same as any before them. -/
def firsts : List Path → List Path
  | [] => []
  | p :: rest => p :: (firsts rest).filter fun q => !q.same p

/-- What is left is in the order of the list. -/
theorem firsts_sublist (paths : List Path) : (firsts paths).Sublist paths := by
  induction paths with
  | nil => exact .slnil
  | cons first rest ih => exact (List.filter_sublist.trans ih).cons_cons first

/-- No path is left twice. -/
theorem firsts_pairwise (paths : List Path) :
    (firsts paths).Pairwise fun p q => ¬ p.same q := by
  induction paths with
  | nil => exact List.Pairwise.nil
  | cons first rest ih => exact pairwise_front ih first

/-- **What is left are the first mentions.** -/
theorem mem_firsts : p ∈ firsts paths ↔
    ∃ before after, paths = before ++ p :: after ∧ listed before p = false := by
  induction paths with
  | nil => simp [firsts]
  | cons first rest ih =>
    constructor
    · intro h
      obtain rfl | h := List.mem_cons.mp h
      · exact ⟨[], rest, rfl, rfl⟩
      · obtain ⟨h, hnew⟩ := List.mem_filter.mp h
        obtain ⟨before, after, rfl, hbefore⟩ := ih.mp h
        refine ⟨first :: before, after, rfl, ?_⟩
        have hfirst : first.same p = false :=
          Bool.eq_false_iff.mpr fun hsame => by simp [same_symm hsame] at hnew
        simpa [listed, hfirst] using hbefore
    · rintro ⟨before, after, hsplit, hbefore⟩
      cases before with
      | nil =>
        obtain ⟨rfl, rfl⟩ := List.cons.inj hsplit
        exact List.mem_cons_self
      | cons other before =>
        obtain ⟨rfl, rfl⟩ := List.cons.inj hsplit
        simp only [listed, List.any_cons, Bool.or_eq_false_iff] at hbefore
        refine List.mem_cons_of_mem _ (List.mem_filter.mpr ⟨ih.mpr ⟨_, _, rfl, hbefore.2⟩, ?_⟩)
        rw [Bool.not_eq_true', Bool.eq_false_iff]
        exact fun hsame => by simp [same_symm hsame] at hbefore

/-- Nothing is missing: what is mentioned at all is mentioned a first time. -/
theorem listed_firsts (h : p ∈ paths) : listed (firsts paths) p := by
  induction paths with
  | nil => cases h
  | cons first rest ih =>
    by_cases hsame : first.same p
    · exact listed_of_same (listed_of_mem List.mem_cons_self) hsame
    · obtain rfl | h := List.mem_cons.mp h
      · exact absurd (same_refl _) hsame
      · obtain ⟨q, hq, hqp⟩ := List.any_eq_true.mp (ih h)
        have hnew : q.same first = false :=
          Bool.eq_false_iff.mpr fun hqf => hsame (same_trans (same_symm hqf) hqp)
        exact List.any_eq_true.mpr
          ⟨q, List.mem_cons_of_mem _ (List.mem_filter.mpr ⟨hq, by simp [hnew]⟩), hqp⟩

end Path

namespace LoadPath

variable {l : LoadPath} {tree : FileTree}

/-! ### Building up -/

/-- Adding directories leaves out those that are there, and those that are added already. -/
theorem foldl_push_entries (paths : List Path) (l : LoadPath) :
    (paths.foldl push l).entries =
      l.entries ++ (Path.firsts paths).filter fun q => !Path.listed l.entries q := by
  induction paths generalizing l with
  | nil => simp [Path.firsts]
  | cons path rest ih =>
    rw [List.foldl_cons, ih, Path.firsts]
    by_cases hl : Path.listed l.entries path
    · have hpush : l.push path = l := if_pos hl
      -- whatever is the same as the first directory is there already
      have hsame : ∀ q ∈ Path.firsts rest, (!Path.listed l.entries q) =
          ((!Path.listed l.entries q) && !q.same path) := fun q _ => by
        by_cases hq : q.same path
        · simp [Path.listed_of_same hl (Path.same_symm hq)]
        · simp [hq]
      rw [hpush, List.filter_cons_of_neg (by simpa using hl), List.filter_filter,
        List.filter_congr hsame]
    · have hpush : (l.push path).entries = l.entries ++ [path] :=
        congrArg LoadPath.entries (if_neg hl)
      have hnew : ∀ q ∈ Path.firsts rest, (!Path.listed (l.entries ++ [path]) q) =
          ((!Path.listed l.entries q) && !q.same path) := fun q _ => by
        have hturn : path.same q = q.same path :=
          Bool.eq_iff_iff.mpr ⟨Path.same_symm, Path.same_symm⟩
        simp [Path.listed, hturn]
      rw [hpush, List.filter_cons_of_pos (by simpa using hl), List.filter_filter,
        List.filter_congr hnew, List.append_assoc, List.singleton_append]

/-- A load path is built up from nothing by leaving out repetitions. -/
theorem foldl_push_empty (paths : List Path) :
    (paths.foldl push {}).entries = Path.firsts paths := by
  rw [foldl_push_entries]
  exact List.filter_eq_self.mpr fun _ _ => rfl

/-- The directory in front counts as mentioned first. -/
theorem unshift_firsts {paths : List Path} (h : l.entries = Path.firsts paths) (path : Path) :
    (l.unshift path).entries = Path.firsts (path :: paths) := by
  rw [unshift, h]
  rfl

/-- The canonical forms of the directories that have one. -/
def canonicals (tree : FileTree) (paths : List Path) : List Path :=
  paths.filterMap fun path => (tree.canonical path).toOption

theorem appendAllResolved_eq (tree : FileTree) (paths : List Path) (l : LoadPath) :
    (appendAllResolved tree paths l).1 = (canonicals tree paths).foldl push l := by
  induction paths generalizing l with
  | nil => rfl
  | cons path rest ih =>
    rw [appendAllResolved, canonicals]
    dsimp only
    rw [ih]
    unfold appendResolved
    cases hc : tree.canonical path with
    | error cause => rw [List.filterMap_cons_none (by rw [hc]; rfl)]; rfl
    | ok resolved => rw [List.filterMap_cons_some (b := resolved) (by rw [hc]; rfl)]; rfl

/-- **The search path that the sources give**: the first mentions among the directories of the
variable, the canonical forms of the explicit directories, and the default. -/
theorem ofSources_entries (tree : FileTree) (value : Option String) (explicit : List Path)
    (default : Option Path) : (ofSources tree value explicit default).1.entries =
      Path.firsts ((value.map ofVariable).getD [] ++ canonicals tree explicit ++
        default.toList) := by
  rw [ofSources]
  dsimp only
  rw [appendAllResolved_eq, ← List.foldl_append, ← List.foldl_append, foldl_push_empty,
    List.append_assoc]

/-! ### The variable -/

/-- The value of the variable is split at every colon. -/
theorem splitColon_eq_splitOn (cs : List Char) : splitColon cs = cs.splitOn ':' := by
  induction cs with
  | nil => rfl
  | cons c rest ih =>
    unfold splitColon
    rw [ih, List.splitOn_eq_splitOnP, List.splitOn_eq_splitOnP,
      List.splitOnP_cons_eq_if_modifyHead]
    rcases hs : rest.splitOnP (· == ':') with _ | ⟨first, more⟩
    · exact absurd hs (List.splitOnP_ne_nil _ rest)
    · by_cases hc : c = ':' <;> simp [hc]

/-- **The directories of the variable** are what stands between colons, as it stands there, except
that nothing names nothing. -/
theorem ofVariable_eq (value : String) : ofVariable value =
    ((value.toList.splitOn ':').filter (· ≠ [])).map fun piece => ⟨String.ofList piece⟩ := by
  rw [ofVariable, splitColon_eq_splitOn]
  refine congrArg _ (List.filter_congr fun piece _ => ?_)
  cases piece <;> rfl

/-! ### No repetitions -/

/-- No directory is searched twice. -/
def Distinct (l : LoadPath) : Prop := l.entries.Pairwise fun p q => ¬ p.same q

/-- Load paths that are built up from nothing by adding directories at the end, as they are or in
their canonical form, and by moving them to the front. -/
inductive Assembled : LoadPath → Prop where
  | nothing : Assembled {}
  | push {l : LoadPath} (path : Path) : Assembled l → Assembled (l.push path)
  | appendResolved {l : LoadPath} (tree : FileTree) (path : Path) :
    Assembled l → Assembled (l.appendResolved tree path).1
  | unshift {l : LoadPath} (path : Path) : Assembled l → Assembled (l.unshift path)

theorem distinct_push (h : l.Distinct) (path : Path) : (l.push path).Distinct := by
  unfold push
  split
  · exact h
  · next hnew => exact Path.pairwise_concat h hnew

theorem distinct_unshift (h : l.Distinct) (path : Path) : (l.unshift path).Distinct :=
  Path.pairwise_front h path

/-- **No load path searches a directory twice.** -/
theorem Assembled.distinct (h : l.Assembled) : l.Distinct := by
  induction h with
  | nothing => exact List.Pairwise.nil
  | push path _ ih => exact distinct_push ih path
  | appendResolved tree path _ ih =>
    unfold LoadPath.appendResolved
    split
    · exact distinct_push ih _
    · exact ih
  | unshift path _ ih => exact distinct_unshift ih path

theorem Assembled.foldl_push (h : l.Assembled) (paths : List Path) :
    (paths.foldl LoadPath.push l).Assembled := by
  induction paths generalizing l with
  | nil => exact h
  | cons path rest ih => exact ih (h.push path)

theorem Assembled.appendAllResolved (h : l.Assembled) (tree : FileTree) (paths : List Path) :
    (appendAllResolved tree paths l).1.Assembled := by
  induction paths generalizing l with
  | nil => exact h
  | cons path rest ih => exact ih (h.appendResolved tree path)

/-- The search path that the sources give is built up in this way. -/
theorem ofSources_assembled (tree : FileTree) (value : Option String) (explicit : List Path)
    (default : Option Path) : (ofSources tree value explicit default).1.Assembled :=
  ((Assembled.nothing.foldl_push _).appendAllResolved tree explicit).foldl_push _

/-! ### Finding files -/

/-- A relative path is found in the first directory in which it names a regular file. -/
theorem resolve_eq_some_iff {relative found : Path} (hr : relative.isAbsolute = false) :
    l.resolve tree relative = some found ↔ ∃ before entry after,
      l.entries = before ++ entry :: after ∧ entry.join relative = found ∧
        tree.isFile found = true ∧ ∀ other ∈ before, tree.isFile (other.join relative) = false := by
  rw [resolve, if_neg (by simp [hr]), List.find?_map, Option.map_eq_some_iff]
  constructor
  · rintro ⟨entry, hfind, rfl⟩
    obtain ⟨hfile, before, after, hsplit, hbefore⟩ := List.find?_eq_some_iff_append.mp hfind
    exact ⟨before, entry, after, hsplit, rfl, hfile, fun other ho => by
      simpa using hbefore other ho⟩
  · rintro ⟨before, entry, after, hsplit, rfl, hfile, hbefore⟩
    refine ⟨entry, List.find?_eq_some_iff_append.mpr
      ⟨hfile, before, after, hsplit, fun other ho => ?_⟩, rfl⟩
    simpa using hbefore other ho

/-- It is not found if it is in none of them. -/
theorem resolve_eq_none_iff {relative : Path} (hr : relative.isAbsolute = false) :
    l.resolve tree relative = none ↔
      ∀ entry ∈ l.entries, tree.isFile (entry.join relative) = false := by
  rw [resolve, if_neg (by simp [hr])]
  simp

end LoadPath

/-! ### A session that is ready -/

namespace Session

variable {σ η : Type}

/-- A new session has the search path that is installed, be it refused as an empty one or not. -/
theorem installPath_fresh (engine : σ) (settings : Settings) (canvas : Canvas) (tree : FileTree)
    (loadPath : LoadPath) :
    let installed := ((fresh engine settings canvas tree : Session σ η).installPath loadPath).1
    installed.context.loadPath = loadPath ∧ installed.files = tree := by
  dsimp only
  unfold installPath
  split
  · next hempty => exact ⟨congrArg LoadPath.mk (List.isEmpty_iff.mp hempty).symm, rfl⟩
  · exact ⟨rfl, rfl⟩

/-- A sketch that can be looked at is loaded, and its directory is searched first from then on. -/
theorem load_loadPath {s : Session σ η} {path resolved : Path} {time : Int}
    (hm : s.files.modified path = .ok time) (hc : s.files.canonical path = .ok resolved) :
    (s.load path).2 = none ∧ (s.load path).1.context.loadPath =
      s.context.loadPath.unshift (resolved.parent.getD ⟨"."⟩) := by
  unfold load
  rw [hm, hc]
  exact ⟨rfl, rfl⟩

open LoadPath in
/-- **What is searched, and in which order.** Once a sketch is loaded, its directory comes first.
After it come the directories that stand between colons in the variable, as they stand there, then
the canonical forms of the directories of the settings file and of those of the command line, if
they resolve, and last the default, each of them where it is mentioned first. Nothing is searched
twice, and nothing that was mentioned is missing. A relative path is found in the first of these
directories in which it names a regular file, whatever the files are by then, and not found if there
is none. The settings that a command line leads to have its directories after those of the settings
file. -/
theorem search_order (engine : σ) (settings : Settings) (canvas : Canvas) (tree : FileTree)
    (value : Option String) (configured extra : List Path) (default : Option Path) (script : Path) :
    let installed := ((fresh engine settings canvas tree : Session σ η).installPath
      (ofSources tree value (configured ++ extra) default).1).1
    let ready := installed.load script
    let named : List Path := match value with
      | none => []
      | some text => ((text.toList.splitOn ':').filter (· ≠ [])).map fun piece =>
          ⟨String.ofList piece⟩
    (∀ time resolved, tree.modified script = .ok time → tree.canonical script = .ok resolved →
      let home := resolved.parent.getD ⟨"."⟩
      let sources := home :: (named ++ canonicals tree configured ++ canonicals tree extra ++
        default.toList)
      let searched := ready.1.context.loadPath
      ready.2 = none ∧ searched.entries = Path.firsts sources ∧
        searched.entries.head? = some home ∧ searched.entries.Sublist sources ∧
        (∀ p, p ∈ searched.entries ↔
          ∃ before after, sources = before ++ p :: after ∧ Path.listed before p = false) ∧
        searched.entries.Pairwise (fun p q => ¬ p.same q) ∧
        (∀ p ∈ sources, Path.listed searched.entries p) ∧
        ∀ (files : FileTree) (relative : Path), relative.isAbsolute = false →
          (∀ found, searched.resolve files relative = some found ↔ ∃ before entry after,
            searched.entries = before ++ entry :: after ∧ entry.join relative = found ∧
              files.isFile found = true ∧
              ∀ other ∈ before, files.isFile (other.join relative) = false) ∧
          (searched.resolve files relative = none ↔
            ∀ entry ∈ searched.entries, files.isFile (entry.join relative) = false)) ∧
      ∀ (i : Invocation) (env : Environment) (base : Settings),
        (match i.config with
          | some path => Settings.load tree path
          | none => .ok {}) = .ok base →
        ∃ chosen, i.settings tree = .ok chosen ∧
          chosen.searchPath tree env = ofSources tree (env.get? variableName)
            (base.loadPaths ++ i.searchDirectories)
            (if base.defaultLoadPath && !i.noDefaultPath then some (defaultDirectory env)
              else none) := by
  intro installed ready named
  obtain ⟨hinstalled, hfiles⟩ := @installPath_fresh σ η engine settings canvas tree
    (ofSources tree value (configured ++ extra) default).1
  have hnamed : (value.map ofVariable).getD [] = named := by
    cases value with
    | none => rfl
    | some text => exact ofVariable_eq text
  refine ⟨fun time resolved hm hc => ?_, fun i env base hbase => ?_⟩
  · intro home sources searched
    have hsources := ofSources_entries tree value (configured ++ extra) default
    rw [hnamed, canonicals, List.filterMap_append, ← List.append_assoc] at hsources
    obtain ⟨hloaded, hsearched⟩ := load_loadPath (s := installed) (hfiles ▸ hm) (hfiles ▸ hc)
    have hentries : searched.entries = Path.firsts sources := by
      rw [show searched = _ from hsearched, hinstalled]
      exact unshift_firsts hsources home
    refine ⟨hloaded, hentries, ?_, ?_, fun p => ?_, ?_, fun p hp => ?_, fun files relative hr =>
      ⟨fun found => resolve_eq_some_iff hr, resolve_eq_none_iff hr⟩⟩
    · rw [hentries]
      rfl
    · rw [hentries]
      exact Path.firsts_sublist sources
    · rw [hentries]
      exact Path.mem_firsts
    · rw [hentries]
      exact Path.firsts_pairwise sources
    · rw [hentries]
      exact Path.listed_firsts hp
  · exact ⟨_, congrArg (Except.map _) hbase, rfl⟩

/-- The directory of the sketch is named by the variable, in another spelling. A directory is named
by the settings file and, in another way, by the command line, next to one that is missing. -/
theorem search_order_of_overlapping_sources :
    let tree : FileTree := { nodes := [(["s"], .directory 0), (["s", "main"], .file [] 0),
      (["lib"], .directory 0), (["lib", "grid"], .file [] 0)] }
    let loadPath := (LoadPath.ofSources tree (some "/more:/s//::/s")
      ([⟨"/lib/../lib"⟩, ⟨"/gone"⟩] ++ [⟨"/lib"⟩]) (some ⟨"/more/"⟩)).1
    let ready := ((fresh () {} (.blank 1 1) tree : Session Unit Unit).installPath loadPath).1.load
      ⟨"/s/main"⟩
    ready.2 = none ∧ ready.1.context.loadPath.entries = [⟨"/s"⟩, ⟨"/more"⟩, ⟨"/lib"⟩] ∧
      ready.1.context.loadPath.resolve tree ⟨"grid"⟩ = some ⟨"/lib/grid"⟩ := by
  intro tree loadPath ready
  have hm : tree.modified ⟨"/s/main"⟩ = .ok 0 := rfl
  have hc : tree.canonical ⟨"/s/main"⟩ = .ok ⟨"/s/main"⟩ := rfl
  have h := (@search_order Unit Unit () {} (.blank 1 1) tree (some "/more:/s//::/s")
    [⟨"/lib/../lib"⟩, ⟨"/gone"⟩] [⟨"/lib"⟩] (some ⟨"/more/"⟩) ⟨"/s/main"⟩).1 0 ⟨"/s/main"⟩ hm hc
  dsimp only at h
  -- the session is left alone from here on: what is said of it decides the rest
  generalize hr : ready = r
  simp only [ready, loadPath] at hr
  rw [hr] at h
  obtain ⟨hready, hentries, -, -, -, -, -, hresolve⟩ := h
  have hthree : r.1.context.loadPath.entries = [⟨"/s"⟩, ⟨"/more"⟩, ⟨"/lib"⟩] := by
    rw [hentries]
    decide +kernel
  have hrelative : Path.isAbsolute ⟨"grid"⟩ = false := by decide +kernel
  have hfile : tree.isFile ⟨"/lib/grid"⟩ = true := by decide +kernel
  have hothers : ∀ other ∈ [Path.mk "/s", ⟨"/more"⟩],
      tree.isFile (other.join ⟨"grid"⟩) = false := by decide +kernel
  exact ⟨hready, hthree, ((hresolve tree ⟨"grid"⟩ hrelative).1 ⟨"/lib/grid"⟩).mpr
    ⟨_, ⟨"/lib"⟩, [], hthree, by decide +kernel, hfile, hothers⟩⟩

end Session
end LiveSketch
