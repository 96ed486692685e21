import LiveSketch.Proofs.Script.Growth

/-!
# What script code queues

The commands that wait for a canvas do not show what was queued before: drawing them empties the
queue, and so does a reset. To speak about all that was ever queued, a language is run with a
*tally*. It is the same language, and next to the variables it keeps the commands that its code has
queued, one run or call after the other.

## Why nothing else changes

The engine takes a language as it is. It hands the variables from one run of code to the next and
never looks at them, and a reset starts with no variables, and so with an empty tally. So the engine
of a language with a tally is an instance of the same definition, and forgetting the tally commutes
with each of its operations. What comes of includes follows by induction on their depth.

## Main definitions

* `Ground.added` — the commands that a run of code has queued.
* `Language.tallied` — a language that keeps a tally.
* `ScriptState.untallied` — a state without its tally.
* `ScriptState.Accounted` — between two states, what was queued was tallied.

## Main results

* `ScriptEngine.tallied_hom` — forgetting the tally commutes with everything an engine does.
* `ScriptEngine.steady_accounted` — what source texts queue is tallied.
-/

namespace LiveSketch

/-- The commands that wait after a run of code and did not wait before. That is all it queued, if
code takes no command back (`Language.Queues`). -/
def Ground.added (before after : Ground) : List DrawCommand :=
  after.board.waiting.drop before.board.waiting.length

/-- A language whose code keeps a tally of the commands that it queues. -/
def Language.tallied (L : Language) : Language where
  Program := L.Program
  Body := L.Body
  Variables := L.Variables × List DrawCommand
  Object := L.Object
  noVariables := (L.noVariables, [])
  newObject := L.newObject
  compile := L.compile
  functions := L.functions
  run program table source scene vars ground :=
    let (globals, after, result) := L.run program table source scene vars.1 ground
    ((globals, vars.2 ++ ground.added after), after, result)
  call name args table source scene vars object ground :=
    let (globals, object, after, result) :=
      L.call name args table source scene vars.1 object ground
    ((globals, vars.2 ++ ground.added after), object, after, result)

variable {L : Language}

namespace ScriptState

/-- The commands that were queued since the session was reset. -/
def tally (s : ScriptState L.tallied) : List DrawCommand := s.globals.2

/-- A state without its tally. -/
def untallied (s : ScriptState L.tallied) : ScriptState L where
  functions := s.functions
  source := s.source
  globals := s.globals.1
  object := s.object
  board := s.board
  env := s.env
  dataPath := s.dataPath
  registered := s.registered
  included := s.included

theorem untallied_markIncluded (s : ScriptState L.tallied) (path : Path) :
    (s.markIncluded path).untallied = s.untallied.markIncluded path := by
  rw [markIncluded, markIncluded]
  split
  · rw [if_pos ‹_›]
  · rw [if_neg ‹_›]
    rfl

end ScriptState

namespace ScriptEngine

/-! ### Forgetting the tally -/

/-- A bench without the tally. -/
def untallied (b : Bench L.tallied) : Bench L := (b.1.map ScriptState.untallied, b.2)

/-- A step with a tally is the step itself, once the tally is forgotten. -/
def Forgets (act : Action L.tallied) (plain : Action L) : Prop :=
  ∀ b, plain (untallied b) = Prod.map untallied id (act b)

theorem inOrder_forgets {α : Type} {step : α → Action L.tallied} {plain : α → Action L}
    (h : ∀ a, Forgets (step a) (plain a)) (as : List α) :
    Forgets (inOrder step as) (inOrder plain as) := by
  intro b
  induction as generalizing b with
  | nil => rfl
  | cons a rest ih =>
    rw [inOrder, inOrder, h a b]
    rcases step a b with ⟨c, failure | _⟩
    · rfl
    · exact ih c

theorem registerHook_forgets (hook : HookRequest) :
    Forgets (L := L) (registerHook hook) (registerHook hook) := by
  intro b
  have hname : (untallied b).1.engine.hasFunction hook.name 0 =
    b.1.engine.hasFunction hook.name 0 := rfl
  have hknown : (untallied b).1.engine.registered = b.1.engine.registered := rfl
  rw [registerHook, registerHook]
  dsimp only
  rw [hname, hknown]
  split
  · rfl
  · split <;> rfl

theorem untallied_mark (path : Path) (b : Bench L.tallied) :
    untallied (mark path b) = mark path (untallied b) := by
  have h := b.1.engine.untallied_markIncluded path
  rw [mark, mark, untallied, withState, withState, Stage.map, h]
  rfl

theorem untallied_takeRequests (b : Bench L.tallied) :
    untallied (takeRequests b) = takeRequests (untallied b) := by
  have hverbose : (untallied b).1.engine.board.requests = b.1.engine.board.requests := rfl
  rw [takeRequests, takeRequests, hverbose]
  split <;> rfl

theorem untallied_shareDataPath (b : Bench L.tallied) :
    untallied (shareDataPath b) = shareDataPath (untallied b) := by
  have hpath : (untallied b).2.dataPath = b.2.dataPath := rfl
  rw [shareDataPath, shareDataPath, hpath]
  split <;> rfl

theorem untallied_merged (program : L.Program) (origin : Path) (b : Bench L.tallied) :
    untallied (merged (L := L.tallied) program origin b) = merged program origin (untallied b) :=
  untallied_shareDataPath (withState (fun s => s.merge (L := L.tallied) program origin) b)

theorem runProgram_forgets (program : L.Program) :
    Forgets (runProgram (L := L.tallied) program) (runProgram program) :=
  fun _ => rfl

section

variable {files : FileTree} {apply : Apply L.tallied} {plain : Apply L}
  (happ : ∀ text origin, Forgets (apply text origin) (plain text origin))
include happ

theorem loadFile_forgets (path : Path) :
    Forgets (loadFile files apply path) (loadFile files plain path) := by
  intro b
  rw [loadFile, loadFile]
  cases files.readText path with
  | error cause => rfl
  | ok source => exact happ source path (note _ _ b)

theorem includeFile_forgets (name : String) :
    Forgets (includeFile files apply name) (includeFile files plain name) := by
  intro b
  have hpath : (untallied b).2.loadPath = b.2.loadPath := rfl
  have hrun : (untallied b).1.engine.included = b.1.engine.included := rfl
  rw [includeFile_eq, includeFile_eq, hpath, hrun]
  cases b.2.loadPath.resolve files ⟨name⟩ with
  | none => rfl
  | some found =>
    have hasked : request (includedPath files found) (untallied b) =
      untallied (request (includedPath files found) b) := rfl
    dsimp only
    split
    · rfl
    · rw [hasked, ← untallied_mark]
      exact loadFile_forgets happ _ _

theorem settle_forgets : Forgets (settle files apply) (settle files plain) := by
  intro b
  have hpending : pending (untallied b) = pending b := rfl
  rw [settle_eq, settle_eq, hpending, ← untallied_takeRequests,
    inOrder_forgets (includeFile_forgets happ) (pending b) (takeRequests b)]
  rcases inOrder (includeFile files apply) (pending b) (takeRequests b) with ⟨c, failure | _⟩
  · rfl
  · exact inOrder_forgets registerHook_forgets _ c

end

/-- **Source texts forget the tally**, by induction on the depth of includes. -/
theorem applySource_forgets (files : FileTree) (depth : Nat) (text : String) (origin : Path) :
    Forgets (L := L) (applySource files depth text origin)
      (applySource files depth text origin) := by
  induction depth generalizing text origin with
  | zero => exact fun _ => rfl
  | succ depth ih =>
    intro b
    have hcompile : L.tallied.compile text = L.compile text := rfl
    rw [applySource_succ, applySource_succ, hcompile]
    cases L.compile text with
    | error fault => rfl
    | ok program =>
      dsimp only
      rw [← untallied_merged, runProgram_forgets program]
      rcases runProgram (L := L.tallied) program (merged (L := L.tallied) program origin b)
        with ⟨c, failure | _⟩
      · rfl
      · dsimp only [Prod.map, id]
        rw [settle_forgets ih c]
        rcases settle files (applySource files depth) c with ⟨d, failure | _⟩
        · rfl
        · rfl

theorem evaluate_forgets (text : String) (origin : Path) (resetting : Bool) (files : FileTree) :
    Forgets (L := L) (evaluate text origin resetting files)
      (evaluate text origin resetting files) := by
  intro b
  have hstart : untallied (evaluationStart origin resetting b) =
      evaluationStart origin resetting (untallied b) := by
    rw [evaluationStart, evaluationStart]
    refine (untallied_mark origin _).trans ?_
    cases resetting with
    | true => rfl
    | false => rfl
  show applySource _ _ _ _ (evaluationStart origin resetting (untallied b)) = _
  rw [← hstart]
  exact applySource_forgets files _ text origin _

theorem loadDependency_forgets (path : Path) (files : FileTree) :
    Forgets (L := L) (loadDependency path files) (loadDependency path files) := by
  intro b
  show loadFile files _ path (mark path (untallied b)) = _
  rw [← untallied_mark]
  exact loadFile_forgets (applySource_forgets files _) path _

theorem sync_untallied (env : FrameEnv) (files : FileTree) (b : Bench L.tallied) :
    sync env files (untallied b) = untallied (sync env files b) := by
  have hsettle : settle files (apply files)
        (withState (fun s => { s with env }) (untallied b)) = _ :=
    settle_forgets (applySource_forgets files _) (withState (fun s => { s with env }) b)
  rw [sync, sync, hsettle, apply]
  rcases settle files (applySource files (includeDepth files))
    (withState (fun s => { s with env }) b) with ⟨c, failure | _⟩
  · rfl
  · rfl

/-- Forgetting the tally commutes with everything an engine does. -/
theorem tallied_hom (L : Language) :
    (scriptEngine L.tallied).Hom (scriptEngine L) ScriptState.untallied where
  evaluate source origin reset files stage ctx := by
    exact congrArg (fun ran : Bench L × Except Failure Unit => (ran.1.1, ran.1.2, ran.2))
      (evaluate_forgets source origin reset files (stage, ctx))
  loadDependency path files stage ctx := by
    exact congrArg (fun ran : Bench L × Except Failure Unit => (ran.1.1, ran.1.2, ran.2))
      (loadDependency_forgets path files (stage, ctx))
  processError failure stage := by
    have hword : (stage.map ScriptState.untallied).engine.hasFunction formatterName 1 =
      stage.engine.hasFunction formatterName 1 := rfl
    show processError failure (stage.map ScriptState.untallied) = _
    rw [processError, hword]
    refine Eq.trans ?_ (congrArg (Prod.map (Stage.map ScriptState.untallied) id)
      (processError.eq_1 failure stage).symm)
    split
    · rfl
    · rfl
  sync env files stage ctx := sync_untallied env files (stage, ctx)
  flush stage canvas := rfl
  invoke handle args stage := by
    cases handle with
    | function name => rfl
    | defaults scripted =>
      cases scripted with
      | true => rfl
      | false => rfl
  label := rfl

/-! ### What is queued is tallied -/

end ScriptEngine

theorem Ground.waiting_added {before after : Ground}
    (h : before.board.waiting <+: after.board.waiting) :
    after.board.waiting = before.board.waiting ++ before.added after :=
  (List.prefix_iff_eq_append.mp h).symm

/-- Between two states, commands were put behind those that waited, and the same ones on the
tally. -/
def ScriptState.Accounted (s t : ScriptState L.tallied) : Prop :=
  ∃ more, t.board.waiting = s.board.waiting ++ more ∧ t.tally = s.tally ++ more

namespace ScriptState.Accounted

variable {s t u : ScriptState L.tallied}

/-- Nothing was queued. -/
theorem of_same (hw : t.board.waiting = s.board.waiting) (ht : t.tally = s.tally) :
    s.Accounted t :=
  ⟨[], by rw [hw, List.append_nil], by rw [ht, List.append_nil]⟩

theorem trans (h : s.Accounted t) (h' : t.Accounted u) : s.Accounted u := by
  obtain ⟨more, hw, ht⟩ := h
  obtain ⟨rest, hw', ht'⟩ := h'
  exact ⟨more ++ rest, by rw [hw', hw, List.append_assoc], by rw [ht', ht, List.append_assoc]⟩

end ScriptState.Accounted

namespace ScriptEngine

open ScriptState

/-- **What source texts queue is tallied**, if code takes no command back. -/
theorem steady_accounted (hL : L.Queues) :
    Steady fun b c : Bench L.tallied => b.1.engine.Accounted c.1.engine where
  refl _ := .of_same rfl rfl
  trans := Accounted.trans
  env _ _ := .of_same rfl rfl
  note _ _ _ := .of_same rfl rfl
  request _ _ := .of_same rfl rfl
  mark path b := by
    rw [mark_eq]
    exact .of_same rfl rfl
  registerHook hook b := by
    rw [registerHook_eq]
    exact .of_same rfl rfl
  takeRequests b := by
    rw [takeRequests_eq]
    exact .of_same rfl rfl
  merged program origin b := by
    rw [merged_eq]
    exact .of_same rfl rfl
  runProgram program b := by
    have h := hL.run program b.1.engine.functions b.1.engine.source (b.1.engine.scene true)
      b.1.engine.globals.1 ⟨b.1.engine.board, b.1.console⟩
    exact ⟨_, Ground.waiting_added h, rfl⟩
  discoverEntries _ := .of_same rfl rfl

section

variable (hL : L.Queues)
include hL

/-- What an evaluation queues is tallied, from an empty tally after a reset. -/
theorem evaluate_accounted (source : String) (origin : Path) (resetting : Bool) (files : FileTree)
    (b : Bench L.tallied) :
    (if resetting then .empty b.1.engine.env else b.1.engine).Accounted
      (evaluate source origin resetting files b).1.1.engine := by
  have hsteady := steady_accounted hL
  have happlied : (evaluationStart origin resetting b).1.engine.Accounted
      (evaluate source origin resetting files b).1.1.engine :=
    hsteady.applySource files (includeDepth files) source origin _
  have hstart := hsteady.mark origin (if resetting then reset b else b)
  cases resetting with
  | true => exact hstart.trans happlied
  | false => exact hstart.trans happlied

theorem loadDependency_accounted (path : Path) (files : FileTree) (b : Bench L.tallied) :
    b.1.engine.Accounted (loadDependency path files b).1.1.engine :=
  ((steady_accounted hL).mark path b).trans
    ((steady_accounted hL).loadFile files
      ((steady_accounted hL).applySource files (includeDepth files)) path (mark path b))

/-- What a call queues is tallied, whether it fails or not. -/
theorem callFunction_accounted (name : String) (args : List Value)
    (stage : Stage (ScriptState L.tallied)) :
    stage.engine.Accounted (callFunction name args stage).1.engine := by
  have h := hL.call name args stage.engine.functions stage.engine.source
    (stage.engine.scene false) stage.engine.globals.1 stage.engine.object
    ⟨stage.engine.board, stage.console⟩
  exact ⟨_, Ground.waiting_added h, rfl⟩

theorem invoke_accounted (handle : ScriptHandle) (args : List Value)
    (stage : Stage (ScriptState L.tallied)) :
    stage.engine.Accounted (invoke handle args stage).1.engine := by
  cases handle with
  | function name => exact callFunction_accounted hL name args stage
  | defaults scripted =>
    cases scripted with
    | true =>
      exact callFunction_accounted hL Entry.defaults.name args { stage with
        engine := { stage.engine with board := stage.engine.board.restyle } }
    | false => exact .of_same rfl rfl

theorem processError_accounted (failure : Failure) (stage : Stage (ScriptState L.tallied)) :
    stage.engine.Accounted (processError failure stage).1.engine := by
  rw [processError]
  split
  · exact callFunction_accounted hL formatterName [.str failure.message] stage
  · exact .of_same rfl rfl

end

end ScriptEngine
end LiveSketch
