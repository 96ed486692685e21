import LiveSketch.Proofs.LoadPath
import LiveSketch.Proofs.Session.WatchedIncludes

/-!
# Where the sketch is

Four parts of a session say where the sketch is: its path, the first entry of the watch list, the
data path, and the first directory to search. Loading a sketch sets all of them. Everything else
that happens changes them one by one or not at all: an evaluation adds to the watch list, and
installing another search path would take the directory of the sketch out of it, which is why search
paths are installed first.

## Why they stay in step

Whatever scripts do, the engine changes neither the data path nor the search path, and a reset keeps
both. Files are watched at the end of the list, so the first entry stays the first. What is left are
the steps that write these parts themselves, and of these loading comes out right from wherever it
starts: a file that is watched already moves to the front, and so does a directory that is searched
already.

## Main definitions

* `ScriptEngine.SamePlaces` — the engine looks for data and for files where it did before.
* `Session.InPlace` — a session later on, the sketch being where it was.
* `Session.Located` — the four parts agree, and nothing is listed twice.

## Main results

* `Session.lasting_inPlace` — whatever scripts do.
* `Session.perform_located` — every step.
* `Session.script_located` — every run.
-/

namespace LiveSketch

/-! ### The engine -/

namespace ScriptEngine

variable {L : Language}

/-- Data and files are looked for where they were before. -/
structure SamePlaces (b b' : Bench L) : Prop where
  dataPath : b'.2.dataPath = b.2.dataPath
  loadPath : b'.2.loadPath = b.2.loadPath

theorem steady_samePlaces : Steady (SamePlaces (L := L)) where
  refl _ := ⟨rfl, rfl⟩
  trans h h' := ⟨h'.dataPath.trans h.dataPath, h'.loadPath.trans h.loadPath⟩
  env _ _ := ⟨rfl, rfl⟩
  note _ _ _ := ⟨rfl, rfl⟩
  request path b := by
    rw [request_eq]
    exact ⟨rfl, rfl⟩
  mark _ _ := ⟨rfl, rfl⟩
  registerHook hook b := by
    rw [registerHook_eq]
    exact ⟨rfl, rfl⟩
  takeRequests b := by
    rw [takeRequests_eq]
    exact ⟨rfl, rfl⟩
  merged program origin b := by
    rw [merged_eq]
    exact ⟨rfl, rfl⟩
  runProgram _ _ := ⟨rfl, rfl⟩
  discoverEntries _ := ⟨rfl, rfl⟩

/-- A reset keeps the paths. -/
theorem evaluate_samePlaces (source : String) (origin : Path) (resetting : Bool) (files : FileTree)
    (b : Bench L) : SamePlaces b (evaluate source origin resetting files b).1 := by
  have hstart : SamePlaces b (evaluationStart origin resetting b) := by
    cases resetting <;> exact ⟨rfl, rfl⟩
  exact steady_samePlaces.trans hstart
    (steady_samePlaces.applySource files (includeDepth files) source origin _)

theorem loadDependency_samePlaces (path : Path) (files : FileTree) (b : Bench L) :
    SamePlaces b (loadDependency path files b).1 :=
  steady_samePlaces.trans (steady_samePlaces.mark path b)
    (steady_samePlaces.loadFile files
      (steady_samePlaces.applySource files (includeDepth files)) path _)

end ScriptEngine

/-- A step that neither installs a search path nor loads a sketch. -/
def Operation.Stays : Operation → Prop
  | .install _ | .load _ => False
  | _ => True

theorem Operation.stays_or (op : Operation) :
    op.Stays ∨ (∃ loadPath, op = .install loadPath) ∨ ∃ path, op = .load path := by
  cases op with
  | install loadPath => exact .inr (.inl ⟨loadPath, rfl⟩)
  | load path => exact .inr (.inr ⟨path, rfl⟩)
  | _ => exact .inl trivial

/-! ### Sessions -/

open ScriptEngine

namespace Session

section

variable {σ η : Type} {s t u : Session σ η}

/-- A session later on: the same sketch, the same paths, and maybe more files watched. -/
structure InPlace (s t : Session σ η) : Prop where
  script : t.script = s.script
  watcher : s.watcher.files <+: t.watcher.files
  dataPath : t.context.dataPath = s.context.dataPath
  loadPath : t.context.loadPath = s.context.loadPath

namespace InPlace

/-- Whatever leaves the sketch and the watch list alone, and of the context these two fields. -/
theorem of_eq (hs : t.script = s.script) (hw : t.watcher.files = s.watcher.files)
    (hd : t.context.dataPath = s.context.dataPath)
    (hl : t.context.loadPath = s.context.loadPath) : InPlace s t :=
  ⟨hs, hw ▸ List.prefix_rfl, hd, hl⟩

theorem refl (s : Session σ η) : InPlace s s := of_eq rfl rfl rfl rfl

theorem trans (h : InPlace s t) (h' : InPlace t u) : InPlace s u :=
  ⟨h'.script.trans h.script, h.watcher.trans h'.watcher, h'.dataPath.trans h.dataPath,
    h'.loadPath.trans h.loadPath⟩

end InPlace

/-- The parts of a session that say where the sketch is agree with each other, and no file is
watched twice and no directory searched twice. -/
structure Located (s : Session σ η) : Prop where
  watched : s.watcher.Distinct
  searched : s.context.loadPath.Distinct
  primary : ∀ p, s.script = some p → s.watcher.files.head? = some p
  dataPath : ∀ p, s.script = some p → s.context.dataPath = some (p.parent.getD ⟨"."⟩)
  home : ∀ p, s.script = some p → s.context.loadPath.entries.head? = s.context.dataPath

namespace Located

/-- Without a sketch there is little to agree on. -/
theorem of_none (hs : s.script = none) (hw : s.watcher.Distinct)
    (hl : s.context.loadPath.Distinct) : s.Located where
  watched := hw
  searched := hl
  primary p hp := by rw [hs] at hp; cases hp
  dataPath p hp := by rw [hs] at hp; cases hp
  home p hp := by rw [hs] at hp; cases hp

/-- The first entry of a watch list stays the first when files are added. -/
theorem inPlace (h : s.Located) (hst : InPlace s t) (hw : t.watcher.Distinct) : t.Located where
  watched := hw
  searched := hst.loadPath ▸ h.searched
  primary p hp := by
    obtain ⟨more, hmore⟩ := hst.watcher
    rw [← hmore, List.head?_append, h.primary p (hst.script ▸ hp), Option.some_or]
  dataPath p hp := by rw [hst.dataPath, h.dataPath p (hst.script ▸ hp)]
  home p hp := by rw [hst.loadPath, hst.dataPath, h.home p (hst.script ▸ hp)]

/-- **Loading a sketch makes the parts agree**, wherever they were before. -/
theorem load (h : s.Located) (path : Path) : (s.load path).1.Located := by
  unfold Session.load
  split
  · exact h
  · exact h
  · next time resolved _ _ =>
    refine ⟨Watcher.distinct_registerPrimary h.watched resolved,
      LoadPath.distinct_unshift h.searched _, ?_, ?_, ?_⟩
    · rintro p ⟨⟩
      rfl
    · rintro p ⟨⟩
      rfl
    · rintro p ⟨⟩
      rfl

/-- A search path may be installed as long as there is no sketch. -/
theorem installPath (h : s.Located) (hs : s.script = none) {loadPath : LoadPath}
    (hl : loadPath.Distinct) : (s.installPath loadPath).1.Located := by
  unfold Session.installPath
  split
  · exact h
  · exact .of_none hs h.watched hl

end Located

end

variable {L : Language} {s : Session (ScriptState L) ScriptHandle}

theorem sync_inPlace (s : Session (ScriptState L) ScriptHandle) :
    InPlace s (s.sync (scriptEngine L)) := by
  have hp := steady_samePlaces.sync s.frameEnv s.files (s.stage, s.context)
  exact .of_eq rfl rfl hp.dataPath hp.loadPath

/-- **Whatever scripts do, the sketch stays where it is.** -/
theorem lasting_inPlace (s : Session (ScriptState L) ScriptHandle) :
    Lasting (scriptEngine L) (InPlace s) where
  note _ _ _ _ h := h.trans (.of_eq rfl rfl rfl rfl)
  sync t h := h.trans (sync_inPlace t)
  call _ _ _ h := h.trans (.of_eq rfl rfl rfl rfl)
  flush _ h := h.trans (.of_eq rfl rfl rfl rfl)
  fail t failure h := by
    rw [fail_eq]
    exact h.trans (.of_eq rfl rfl rfl rfl)
  canvas _ _ h := h.trans (.of_eq rfl rfl rfl rfl)
  frameCount _ _ h := h.trans (.of_eq rfl rfl rfl rfl)
  keyHeld _ _ h := h.trans (.of_eq rfl rfl rfl rfl)
  pointer _ _ h := h.trans (.of_eq rfl rfl rfl rfl)
  setupDone _ h := h.trans (.of_eq rfl rfl rfl rfl)
  report _ _ _ h := h.trans (.of_eq rfl rfl rfl rfl)
  evaluate t source path forced h := by
    have hu := h.trans (sync_inPlace t)
    rw [evaluate_eq, adopt_eq]
    generalize t.sync (scriptEngine L) = u at hu ⊢
    -- the engine keeps the paths, and what it included is watched behind what there was
    have hp := evaluate_samePlaces source path forced u.files (u.stage, u.context)
    exact hu.trans ⟨rfl, (Watcher.foldl_register_grows _ u.watcher).files, hp.dataPath,
      hp.loadPath⟩
  loadDependency t path h := by
    have hp := loadDependency_samePlaces path t.files (t.stage, t.context)
    exact h.trans (.of_eq rfl rfl hp.dataPath hp.loadPath)
  enterError _ _ _ h := h.trans (.of_eq rfl rfl rfl rfl)
  status _ _ _ h := h.trans (.of_eq rfl rfl rfl rfl)
  lastGoodFrame _ _ h := h.trans (.of_eq rfl rfl rfl rfl)

/-- The steps that neither install a search path nor load a sketch leave it where it is. -/
theorem perform_inPlace {op : Operation} (h : op.Stays)
    (s : Session (ScriptState L) ScriptHandle) : InPlace s (s.perform (scriptEngine L) op).1 := by
  have hs := InPlace.refl s
  have hI := lasting_inPlace s
  cases op with
  | install _ | load _ => exact h.elim
  | run => exact hI.reloaded.run hs
  | setup => exact hI.setup hs
  | update => exact hI.update hs
  | draw => exact hI.draw (fun t watcher hf h => h.trans (.of_eq rfl hf rfl rfl)) hs
  | exit => exact hI.exit hs
  | reload forced => exact hI.reloaded.reload forced hs
  | reloadFrom path forced => exact hI.reloaded.reloadFrom path forced hs
  | event event => exact hI.event event hs
  | edit _ | present _ | drain _ => exact .of_eq rfl rfl rfl rfl

/-- Only loading chooses a sketch. -/
theorem perform_script {op : Operation} (hl : ∀ path, op ≠ .load path)
    (s : Session (ScriptState L) ScriptHandle) :
    (s.perform (scriptEngine L) op).1.script = s.script := by
  obtain hstays | ⟨loadPath, rfl⟩ | ⟨path, rfl⟩ := op.stays_or
  · exact (perform_inPlace hstays s).script
  · unfold perform Session.installPath
    dsimp only
    split <;> rfl
  · exact absurd rfl (hl path)

/-- **Every step keeps the parts in agreement**, if it does not install a search path after a sketch
was loaded. -/
theorem perform_located {op : Operation}
    (hi : ∀ loadPath, op = .install loadPath → s.script = none ∧ loadPath.Distinct)
    (h : s.Located) : (s.perform (scriptEngine L) op).1.Located := by
  obtain hstays | ⟨loadPath, rfl⟩ | ⟨path, rfl⟩ := op.stays_or
  · exact h.inPlace (perform_inPlace hstays s) (perform_distinct op h.watched)
  · obtain ⟨hs, hl⟩ := hi loadPath rfl
    exact h.installPath hs hl
  · exact h.load path

/-- Before a sketch is loaded, search paths come and go. -/
theorem play_located_of_unloaded {ops : List Operation}
    (hload : ∀ path, Operation.load path ∉ ops)
    (hpaths : ∀ loadPath, Operation.install loadPath ∈ ops → loadPath.Distinct)
    (h : s.script = none ∧ s.Located) :
    (s.play (scriptEngine L) ops).script = none ∧ (s.play (scriptEngine L) ops).Located := by
  refine play_invariant_of_mem (I := fun s => s.script = none ∧ s.Located)
    (fun op hop s ⟨hs, h⟩ => ⟨?_, perform_located (fun loadPath hi => ?_) h⟩) h
  · rw [perform_script (fun path hl => hload path (hl ▸ hop)), hs]
  · exact ⟨hs, hpaths loadPath (hi ▸ hop)⟩

/-- Afterwards none is installed, and sketches come and go. -/
theorem play_located {ops : List Operation} (hops : ∀ loadPath, Operation.install loadPath ∉ ops)
    (h : s.Located) : (s.play (scriptEngine L) ops).Located :=
  play_invariant_of_mem
    (fun _ hop _ => perform_located fun loadPath hi => absurd (hi ▸ hop) (hops loadPath)) h

/-- **Where the sketch is**, in every run that installs its search paths before it loads a sketch.
Loading that fails and installing an empty search path leave the session exactly as it was. Whenever
there is a sketch, it is the first on the watch list, its directory is the data path, and that is
the first to be searched. No file is watched twice and no directory searched twice, whatever was
loaded and included. -/
theorem script_located (L : Language) (engine : ScriptState L) (settings : Settings)
    (canvas : Canvas) (files : FileTree) (preparing rest : List Operation)
    (hload : ∀ path, Operation.load path ∉ preparing)
    (hinstall : ∀ loadPath, Operation.install loadPath ∉ rest)
    (hpaths : ∀ loadPath, Operation.install loadPath ∈ preparing → loadPath.Assembled) :
    let s := (fresh engine settings canvas files).play (scriptEngine L) (preparing ++ rest)
    (∀ path fatal, (s.load path).2 = some fatal → (s.load path).1 = s) ∧
      (∀ loadPath : LoadPath, loadPath.isEmpty →
        s.installPath loadPath = (s, some .noLoadPath)) ∧
      ∀ p, s.script = some p →
        s.watcher.files.head? = some p ∧
        (s.watcher.files.Pairwise fun p q => ¬ p.same q) ∧
        s.context.dataPath = some (p.parent.getD ⟨"."⟩) ∧
        s.context.loadPath.entries.head? = s.context.dataPath ∧
        s.context.loadPath.entries.Pairwise fun p q => ¬ p.same q := by
  intro s
  have hfresh : (fresh engine settings canvas files :
      Session (ScriptState L) ScriptHandle).Located :=
    .of_none rfl List.Pairwise.nil List.Pairwise.nil
  have hprepared := play_located_of_unloaded hload
    (fun loadPath hm => (hpaths loadPath hm).distinct) ⟨rfl, hfresh⟩
  have hs : s.Located := by
    rw [show s = _ from play_append _ preparing rest _]
    exact play_located hinstall hprepared.2
  refine ⟨fun path fatal hf => ?_, fun loadPath hempty => if_pos hempty, fun p hp =>
    ⟨hs.primary p hp, hs.watched, hs.dataPath p hp, hs.home p hp, hs.searched⟩⟩
  unfold Session.load at hf ⊢
  split at hf
  · rfl
  · rfl
  · cases hf

/-- A sketch includes a library, which is then loaded as a sketch itself, after a file that is
missing. -/
theorem script_located_of_loaded_library :
    let files := FileTree.sketchbook "include(\"lib\");" 0 "" 1
    let loadPath := (LoadPath.ofSources files none [⟨"/s/../s"⟩, ⟨"/gone"⟩] (some ⟨"/more"⟩)).1
    let s := (fresh (.empty {}) {} (.blank 1 1) files).play (scriptEngine sketchLanguage)
      ([.install loadPath] ++
        [.load ⟨"/s/main"⟩, .run, .load ⟨"/gone"⟩, .load ⟨"/s/lib"⟩, .run])
    s.script = some ⟨"/s/lib"⟩ ∧ s.watcher.files = [⟨"/s/lib"⟩, ⟨"/s/main"⟩] ∧
      s.context.dataPath = some ⟨"/s"⟩ ∧ s.context.loadPath.entries.head? = some ⟨"/s"⟩ ∧
      (s.load ⟨"/gone"⟩).1 = s := by
  intro files loadPath s
  have h := script_located sketchLanguage (.empty {}) {} (.blank 1 1) files [.install loadPath]
    [.load ⟨"/s/main"⟩, .run, .load ⟨"/gone"⟩, .load ⟨"/s/lib"⟩, .run] (by simp) (by simp)
    (fun installed hm => by
      obtain rfl : installed = loadPath := by simpa using hm
      exact LoadPath.ofSources_assembled _ _ _ _)
  obtain ⟨hs, hw, hgone⟩ : s.script = some ⟨"/s/lib"⟩ ∧
      s.watcher.files = [⟨"/s/lib"⟩, ⟨"/s/main"⟩] ∧ (s.load ⟨"/gone"⟩).2.isSome := by
    decide +kernel
  have hparent : (Path.mk "/s/lib").parent = some ⟨"/s"⟩ := by decide +kernel
  dsimp only at h
  -- the session is left alone from here on: what is said of it decides the rest
  generalize hr : s = r at hs hw hgone ⊢
  simp only [s] at hr
  rw [hr] at h
  obtain ⟨hfail, -, hplace⟩ := h
  obtain ⟨-, -, hdata, hhome, -⟩ := hplace _ hs
  rw [hparent, Option.getD_some] at hdata
  obtain ⟨fatal, hfatal⟩ := Option.isSome_iff_exists.mp hgone
  exact ⟨hs, hw, hdata, hhome.trans hdata, hfail _ fatal hfatal⟩

end Session
end LiveSketch
