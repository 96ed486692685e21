import LiveSketch.Proofs.Script.Leftovers
import LiveSketch.Proofs.Script.Registrations
import LiveSketch.Proofs.Session.Chronicle

/-!
# Evaluating unchanged files again

A sketch is evaluated in an empty session, and later once more on top of that, with no file changed
in between. The second time its functions are merged again, while the files that it includes were
run already and are skipped. So a function that both the sketch and an included file define goes
from the included file's definition back to the sketch's, by either evaluation doing what it is for.
This is the only difference. All other functions and the entry points are what they were.

## Why the included files are skipped

A file that was included is noted as run, and stays so. Names are looked up in the same directories,
so asking for the same names leads to the same files. In between only calls are made and frames are
taken note of, neither of which takes up a source text as long as no request is left over.

## Main definitions

* `ScriptEngine.requested` — the files that the statements of a source text ask for.
* `ScriptEngine.AllRun` — names that lead to files that were run.
* `EngineCall.isPassive` — calls that take up no source text.

## Main results

* `ScriptEngine.inOrder_allRun`, `ScriptEngine.inOrder_skip` — including files again does nothing.
* `ScriptEngine.reevaluated_functions` — which definitions count after each of the evaluations.
-/

namespace LiveSketch
namespace ScriptEngine

variable {L : Language} {files : FileTree} {b c d : Bench L} {names : List String}

/-! ### Including files again -/

/-- Files are looked for in the same directories, and those that were run stay run. -/
structure Onward (b b' : Bench L) : Prop where
  files : MoreFiles b b'
  loadPath : b'.2.loadPath = b.2.loadPath

theorem steady_onward : Steady (Onward (L := L)) where
  refl b := ⟨steady_files.refl b, rfl⟩
  trans h h' := ⟨steady_files.trans h.files h'.files, h'.loadPath.trans h.loadPath⟩
  env env b := ⟨steady_files.env env b, rfl⟩
  note level text b := ⟨steady_files.note level text b, rfl⟩
  request path b := ⟨steady_files.request path b, by rw [request_eq]⟩
  mark path b := ⟨steady_files.mark path b, rfl⟩
  registerHook hook b := ⟨steady_files.registerHook hook b, by rw [registerHook_eq]⟩
  takeRequests b := ⟨steady_files.takeRequests b, by rw [takeRequests_eq]⟩
  merged program origin b := ⟨steady_files.merged program origin b, by rw [merged_eq]⟩
  runProgram program b := ⟨steady_files.runProgram program b, rfl⟩
  discoverEntries b := ⟨steady_files.discoverEntries b, rfl⟩

/-- Names that lead to files that were run. -/
def AllRun (files : FileTree) (b : Bench L) (names : List String) : Prop :=
  ∀ name ∈ names, ∃ found, b.2.loadPath.resolve files ⟨name⟩ = some found ∧
    Path.listed b.1.engine.included (includedPath files found)

theorem AllRun.mono (h : AllRun files b names) (ho : Onward b c) : AllRun files c names := by
  intro name hname
  obtain ⟨found, hr, hrun⟩ := h name hname
  exact ⟨found, by rw [ho.loadPath, hr], ho.files.listed hrun⟩

section

variable {apply : Apply L} (happ : ∀ text origin b, Onward b (apply text origin b).1)
include happ

/-- A file that was included was run. -/
theorem includeFile_allRun {name : String} (h : includeFile files apply name b = (c, .ok ())) :
    AllRun files c [name] := by
  have ho : Onward b c := by
    have ho := steady_onward.includeFile files happ name b
    rwa [h] at ho
  rw [includeFile_eq] at h
  cases hr : b.2.loadPath.resolve files ⟨name⟩ with
  | none =>
    rw [hr] at h
    cases h
  | some found =>
    rw [hr] at h
    dsimp only at h
    generalize hpath : includedPath files found = path at h
    have hlisted : Path.listed c.1.engine.included path := by
      split at h
      · next hrun => exact ho.files.listed hrun
      · have hload := steady_onward.loadFile files happ path (mark path (request path b))
        rw [h] at hload
        exact hload.files.listed ScriptState.listed_markIncluded
    intro name' hname'
    rw [List.mem_singleton.mp hname', ho.loadPath]
    exact ⟨found, hr, hpath ▸ hlisted⟩

/-- **Files that were included were run**, and so they are when the last of them is done. -/
theorem inOrder_allRun (names : List String)
    (h : inOrder (includeFile files apply) names b = (c, .ok ())) : AllRun files c names := by
  induction names generalizing b with
  | nil => exact fun name hname => nomatch hname
  | cons name rest ih =>
    unfold inOrder at h
    rcases hi : includeFile files apply name b with ⟨d, failure | _⟩
    · rw [hi] at h
      cases h
    · rw [hi] at h
      dsimp only at h
      have hrest : Onward d c := by
        have ho := steady_onward.inOrder (steady_onward.includeFile files happ) rest d
        rwa [h] at ho
      have hname := (includeFile_allRun happ hi).mono hrest
      intro name' hname'
      obtain rfl | hname' := List.mem_cons.mp hname'
      · exact hname name' (List.mem_singleton_self name')
      · exact ih h name' hname'

end

/-- **Including files that were run does nothing** but ask for them to be watched. -/
theorem inOrder_skip (apply : Apply L) (h : AllRun files b names) :
    ∃ dependencies, inOrder (includeFile files apply) names b =
      ((b.1, { b.2 with dependencies }), .ok ()) := by
  induction names generalizing b with
  | nil => exact ⟨b.2.dependencies, rfl⟩
  | cons name rest ih =>
    obtain ⟨found, hr, hrun⟩ := h name List.mem_cons_self
    have hi : includeFile files apply name b = (request (includedPath files found) b, .ok ()) := by
      rw [includeFile_eq, hr]
      exact if_pos hrun
    have hrest : AllRun files (request (includedPath files found) b) rest := by
      have ho : Onward b (request (includedPath files found) b) := steady_onward.request _ b
      exact AllRun.mono (fun name hname => h name (List.mem_cons_of_mem _ hname)) ho
    obtain ⟨dependencies, hd⟩ := ih hrest
    refine ⟨dependencies, ?_⟩
    unfold inOrder
    rw [hi]
    dsimp only
    rw [hd, request_eq]

/-! ### The two evaluations -/

/-- Entry points depend on which functions there are, not on what they do. -/
theorem entryPoints_congr {s s' : ScriptState L}
    (h : ∀ name arity, s.hasFunction name arity = s'.hasFunction name arity) :
    s.entryPoints = s'.entryPoints := by
  unfold ScriptState.entryPoints
  congr 1
  funext entry
  cases entry <;> simp only [h]

/-- The files that the statements of a source text ask for. -/
def requested (source : String) (origin : Path) (b : Bench L) : List String :=
  match L.compile source with
  | .error _ => []
  | .ok program => pending (runProgram program (merged program origin b)).1

/-- Taking up a program puts its functions on top, and running it leaves them alone. -/
theorem find?_of_run {program : L.Program} {origin : Path} {text : String}
    (hc : L.compile text = .ok program) {result : Except Failure Unit}
    (hrun : runProgram program (merged program origin b) = (c, result)) (s : Signature) :
    c.1.engine.functions.find? s =
      ((L.definitions text).find? s).or (b.1.engine.functions.find? s) := by
  have hf : c.1.engine.functions = b.1.engine.functions.merge (L.functions program) := by
    have h : (runProgram program (merged program origin b)).1.1.engine.functions =
        b.1.engine.functions.merge (L.functions program) := by
      rw [merged_eq]
      rfl
    rwa [hrun] at h
  rw [hf, FunctionTable.find?_merge]
  simp [Language.definitions, hc]

theorem requested_of_run {program : L.Program} {origin : Path} {source : String}
    (hc : L.compile source = .ok program) {result : Except Failure Unit}
    (hrun : runProgram program (merged program origin b) = (c, result)) :
    requested source origin b = pending c := by
  unfold requested
  rw [hc]
  dsimp only
  rw [hrun]

/-- The first evaluation: the newest definition counts, and where no included file has one, it is
the sketch's own. The files that it asked for were run, and no request is left over. -/
theorem applySource_first {depth : Nat} {source : String} {origin : Path}
    (hb : b.1.engine.functions = [])
    (hok : applySource files (depth + 1) source origin b = (c, .ok ())) :
    (∀ s, c.1.engine.functions.find? s =
      (Deed.newest L s (sourceDeeds files (depth + 1) source origin b).tail).or
        ((L.definitions source).find? s)) ∧
      AllRun files c (requested source origin b) ∧ pending c = [] := by
  obtain ⟨program, c₁, d, hc, hrun, hs, heq⟩ := applySource_ok (congrArg Prod.snd hok)
  have hcd : c = discoverEntries d := congrArg Prod.fst (hok.symm.trans heq)
  have hdeeds : (sourceDeeds files (depth + 1) source origin b).tail =
      settleDeeds files (applySource files depth) (sourceDeeds files depth) c₁ := by
    unfold sourceDeeds
    rw [hc]
    dsimp only
    rw [hrun]
    rfl
  have hfunctions : Defines c₁ (settleDeeds files (applySource files depth)
      (sourceDeeds files depth) c₁) d := by
    have h := traced_functions.settle files (traced_functions.applySource files depth) c₁
    rwa [hs] at h
  have hnone : ∀ s, FunctionTable.find? ([] : FunctionTable L.Body) s = none := fun _ => rfl
  obtain ⟨c₂, hincluded, hhooks⟩ := settle_ok hs
  have hall : AllRun files d (pending c₁) := by
    have ho := steady_onward.inOrder steady_onward.registerHook
      c₁.1.engine.board.requests.hooks c₂
    rw [hhooks] at ho
    exact (inOrder_allRun (steady_onward.applySource files depth) _ hincluded).mono ho
  have hsettled : pending d = [] := pending_of_settle hs
  subst hcd
  refine ⟨fun s => ?_, ?_, hsettled⟩
  · have h := (hfunctions s).trans (congrArg _ (find?_of_run hc hrun s))
    rw [hb, hnone, Option.or_none] at h
    rw [hdeeds]
    exact h
  · rw [requested_of_run hc hrun]
    exact hall.mono (steady_onward.discoverEntries d)

/-- An evaluation that asks for files that were run: the sketch's own definitions count. -/
theorem applySource_again {depth : Nat} {source : String} {origin : Path}
    (hall : AllRun files b (requested source origin b))
    (hok : applySource files (depth + 1) source origin b = (c, .ok ())) (s : Signature) :
    c.1.engine.functions.find? s =
      ((L.definitions source).find? s).or (b.1.engine.functions.find? s) := by
  obtain ⟨program, c₁, d, hc, hrun, hs, heq⟩ := applySource_ok (congrArg Prod.snd hok)
  have hcd : c = discoverEntries d := congrArg Prod.fst (hok.symm.trans heq)
  have ho : Onward b (takeRequests c₁) := by
    have h := steady_onward.trans (steady_onward.merged program origin b)
      (steady_onward.runProgram program _)
    rw [hrun] at h
    exact steady_onward.trans h (steady_onward.takeRequests c₁)
  rw [requested_of_run hc hrun] at hall
  -- Every include is skipped, so nothing is merged on top of the sketch's own functions.
  obtain ⟨c₂, hincluded, hhooks⟩ := settle_ok hs
  obtain ⟨dependencies, hskip⟩ := inOrder_skip (applySource files depth) (hall.mono ho)
  have hc₂ : c₂.1.engine.functions = c₁.1.engine.functions := by
    have h : c₂ = _ := congrArg Prod.fst (hincluded.symm.trans hskip)
    rw [h]
    exact (takeRequests_scripts c₁).functions
  have hd : d.1.engine.functions = c₂.1.engine.functions := by
    have h := inOrder_keeps (I := fun e : Bench L => e.1.engine.functions = c₂.1.engine.functions)
      (fun hook e he => (registerHook_scripts hook e).functions.trans he)
      c₁.1.engine.board.requests.hooks rfl
    rwa [hhooks] at h
  subst hcd
  show d.1.engine.functions.find? s = _
  rw [hd, hc₂, find?_of_run hc hrun]

/-! ### What happens in between -/

/-- What lies between two evaluations: the functions are the same, files that were run stay run and
are looked for in the same directories, and no request for a file comes up. -/
structure Rests (b c : Bench L) : Prop extends Onward b c where
  functions : c.1.engine.functions = b.1.engine.functions
  settled : pending b = [] → pending c = []

theorem Rests.refl (b : Bench L) : Rests b b := ⟨steady_onward.refl b, rfl, id⟩

theorem Rests.trans (h : Rests b c) (h' : Rests c d) : Rests b d :=
  ⟨steady_onward.trans h.toOnward h'.toOnward, h'.functions.trans h.functions,
    fun hp => h'.settled (h.settled hp)⟩

theorem invoke_rests (hL : L.Discreet) (handle : ScriptHandle) (args : List Value) (b : Bench L) :
    Rests b ((invoke handle args b.1).1, b.2) := by
  have hp : pending b = [] → pending ((invoke handle args b.1).1, b.2) = [] :=
    (@invoke_progress L {} [] hL handle args b.1 b.2).settled
  refine ⟨⟨?_, rfl⟩, ?_, hp⟩
  all_goals
    cases handle with
    | function name => first | rfl | exact .of_same rfl rfl
    | defaults scripted =>
      unfold invoke
      dsimp only
      split <;> first | rfl | exact .of_same rfl rfl

end ScriptEngine

open ScriptEngine

namespace EngineCall

variable {L : Language}

/-- Calls, notes of a frame and drawing take up no source text, unless a request is left over. -/
def isPassive : EngineCall → Bool
  | evaluate _ _ _ _ => false
  | loadDependency _ _ => false
  | sync _ _ => true
  | invoke _ _ => true
  | processError _ => true
  | flush _ => true
  | share _ _ _ _ => false

theorem serve_rests (hL : L.Discreet) {call : EngineCall} (hc : call.isPassive) {b : Bench L}
    (hp : pending b = []) : Rests b (call.serve b) := by
  cases call with
  | evaluate | loadDependency | share => cases hc
  | sync env files =>
    have hidle : idle files b (pending b) := by rw [hp]; rfl
    exact ⟨steady_onward.sync env files b, ((sync_scripts_iff env files b).1.mpr hidle).functions,
      (@sync_progress L files [] b hp env files).settled⟩
  | invoke handle args => exact invoke_rests hL handle args b
  | processError failure =>
    show Rests b ((ScriptEngine.processError failure b.1).1, b.2)
    unfold ScriptEngine.processError
    split
    · exact invoke_rests hL (.function formatterName) [.str failure.message] b
    · exact .refl b
  | flush canvas => exact ⟨⟨.of_same rfl rfl, rfl⟩, rfl, id⟩

/-- Several calls in order. -/
def serveAll (calls : List EngineCall) (b : Bench L) : Bench L :=
  calls.foldl (fun b call => call.serve b) b

theorem serveAll_rests (hL : L.Discreet) {calls : List EngineCall}
    (hcalls : ∀ call ∈ calls, call.isPassive) {b : Bench L} (hp : pending b = []) :
    Rests b (serveAll calls b) := by
  induction calls generalizing b with
  | nil => exact .refl b
  | cons call rest ih =>
    have hc := serve_rests hL (hcalls call List.mem_cons_self) hp
    exact hc.trans (ih (fun call hmem => hcalls call (List.mem_cons_of_mem _ hmem)) (hc.settled hp))

end EngineCall

namespace ScriptEngine

/-- **Evaluating unchanged files again changes a definition exactly where the sketch and an included
file disagree.** A sketch is evaluated after a reset, scripts may run and frames be drawn, and it is
evaluated again without one. Both evaluations succeed and ask for the same files. Where the sketch
itself and the files that it included define the same function, the included file's definition
counts after the first evaluation and the sketch's own after the second. Every other function is
what it was, and so are all entry points. -/
theorem reevaluated_functions (source : String) (origin : Path) (files : FileTree)
    (calls : List EngineCall) (hcalls : ∀ call ∈ calls, call.isPassive)
    (b : Bench sketchLanguage) :
    let first := evaluate source origin true files b
    let later := EngineCall.serveAll calls first.1
    let second := evaluate source origin false files later
    let own (s : Signature) := (sketchLanguage.definitions source).find? s
    let included (s : Signature) := Deed.newest sketchLanguage s
      (sourceDeeds files (includeDepth files) source origin (evaluationStart origin true b)).tail
    first.2 = .ok () → second.2 = .ok () →
    requested source origin (evaluationStart origin false later) =
      requested source origin (evaluationStart origin true b) →
    (∀ s, first.1.1.engine.functions.find? s = (included s).or (own s)) ∧
      (∀ s, second.1.1.engine.functions.find? s = (own s).or (included s)) ∧
      ((∀ s, second.1.1.engine.functions.find? s = first.1.1.engine.functions.find? s) ↔
        ∀ s mine theirs, own s = some mine → included s = some theirs → mine = theirs) ∧
      second.1.2.entries = first.1.2.entries := by
  intro first later second own included hfirst hsecond hsame
  have hok : applySource files (includeDepth files) source origin (evaluationStart origin true b) =
      (first.1, .ok ()) := Prod.ext rfl hfirst
  obtain ⟨hnew, hall, hsettled⟩ := applySource_first rfl hok
  have hrests := EngineCall.serveAll_rests sketchLanguage_discreet hcalls hsettled
  have hstart : Onward first.1 (evaluationStart origin false later) :=
    steady_onward.trans hrests.toOnward (steady_onward.mark origin later)
  have hok' : applySource files (includeDepth files) source origin
      (evaluationStart origin false later) = (second.1, .ok ()) := Prod.ext rfl hsecond
  have hagain := applySource_again (hsame ▸ hall.mono hstart) hok'
  have hold : (evaluationStart origin false later).1.engine.functions =
      first.1.1.engine.functions := by
    show (mark origin later).1.engine.functions = _
    rw [mark_eq]
    exact hrests.functions
  have hboth : ∀ s, second.1.1.engine.functions.find? s = (own s).or (included s) := by
    intro s
    rw [hagain, hold, hnew]
    show (own s).or ((included s).or (own s)) = _
    cases own s <;> simp
  refine ⟨hnew, hboth, ?_, ?_⟩
  · refine forall_congr' fun s => ?_
    rw [hboth, hnew]
    show (own s).or (included s) = (included s).or (own s) ↔ _
    cases own s <;> cases included s <;> simp
  · have hentries : second.1.2.entries = second.1.1.engine.entryPoints :=
      applySource_entries hsecond
    have hentries' : first.1.2.entries = first.1.1.engine.entryPoints := applySource_entries hfirst
    rw [hentries, hentries']
    refine entryPoints_congr fun name arity => ?_
    show Option.isSome _ = Option.isSome _
    rw [hboth, hnew]
    show ((own _).or (included _)).isSome = ((included _).or (own _)).isSome
    rw [Option.isSome_or, Option.isSome_or, Bool.or_comm]

/-- An engine that looks for files in the directory of a sketch. -/
def atSketchbook : Bench sketchLanguage :=
  ({ engine := .empty {} }, { loadPath := ⟨[⟨"/s"⟩]⟩ })

/-- What a function without parameters prints. -/
def printedBy (f : Function) : String :=
  (SketchLanguage.call f.name [] [(⟨f.name, 0⟩, f)] "" {} [] .unit {}).2.2.1.console.buffered
    Console.stdout

/-- A sketch and its library both define `draw`. -/
theorem reevaluated_sketchbook :
    let source := "include(\"lib\"); fn draw() { print(1); }"
    let files := FileTree.sketchbook source 0 "fn draw() { print(2); }" 0
    let calls : List EngineCall := [.sync {} files, .invoke (.function "draw") []]
    let first := evaluate source ⟨"/s/main"⟩ true files atSketchbook
    let later := EngineCall.serveAll calls first.1
    let second := evaluate source ⟨"/s/main"⟩ false files later
    first.2 = .ok () ∧ second.2 = .ok () ∧
      requested source ⟨"/s/main"⟩ (evaluationStart ⟨"/s/main"⟩ false later) = ["lib"] ∧
      second.1.2.entries = first.1.2.entries := by
  intro source files calls first later second
  have hok : (first.2 = .ok () ∧ second.2 = .ok ()) ∧
      requested source ⟨"/s/main"⟩ (evaluationStart ⟨"/s/main"⟩ false later) = ["lib"] ∧
      requested source ⟨"/s/main"⟩ (evaluationStart ⟨"/s/main"⟩ true atSketchbook) = ["lib"] := by
    decide +kernel
  have hcalls : ∀ call ∈ calls, call.isPassive := by simp [calls, EngineCall.isPassive]
  have h := reevaluated_functions source ⟨"/s/main"⟩ files calls hcalls atSketchbook hok.1.1
    hok.1.2 (hok.2.1.trans hok.2.2.symm)
  exact ⟨hok.1.1, hok.1.2, hok.2.1, h.2.2.2⟩

/-- Then saving the sketch without a change makes `draw` another function, and print something
else. -/
theorem reevaluated_draw_changes :
    let source := "include(\"lib\"); fn draw() { print(1); }"
    let files := FileTree.sketchbook source 0 "fn draw() { print(2); }" 0
    let first := evaluate source ⟨"/s/main"⟩ true files atSketchbook
    let second := evaluate source ⟨"/s/main"⟩ false files first.1
    let draw (b : Bench sketchLanguage) := b.1.engine.functions.find? ⟨"draw", 0⟩
    (first.2 = .ok () ∧ second.2 = .ok () ∧
      requested source ⟨"/s/main"⟩ (evaluationStart ⟨"/s/main"⟩ false first.1) =
        requested source ⟨"/s/main"⟩ (evaluationStart ⟨"/s/main"⟩ true atSketchbook) ∧
      (draw first.1).map printedBy = some "2\n" ∧ (draw second.1).map printedBy = some "1\n") ∧
      draw second.1 ≠ draw first.1 := by
  intro source files first second draw
  have h : first.2 = .ok () ∧ second.2 = .ok () ∧
      requested source ⟨"/s/main"⟩ (evaluationStart ⟨"/s/main"⟩ false first.1) =
        requested source ⟨"/s/main"⟩ (evaluationStart ⟨"/s/main"⟩ true atSketchbook) ∧
      (draw first.1).map printedBy = some "2\n" ∧
      (draw second.1).map printedBy = some "1\n" := by decide +kernel
  refine ⟨h, fun hsame => ?_⟩
  obtain ⟨-, -, -, hfirst, hsecond⟩ := h
  rw [hsame, hfirst] at hsecond
  exact absurd hsecond (by decide)

end ScriptEngine
end LiveSketch
