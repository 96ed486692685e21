import LiveSketch.Proofs.Script.Commands
import LiveSketch.Proofs.Script.Deeds

/-!
# What a script engine only adds to

A reflexive and transitive relation between benches that each building block of the engine obeys is
a traced relation that ignores the deeds. So source texts and requests obey it, however deep the
includes go, and whether they fail or not.

Two such relations are of interest. The files that were run and those to be watched are lists that
grow at their end. And so are the commands that wait for a canvas.

## Main definitions

* `ScriptEngine.Steady` — what the building blocks of source texts obey.

## Main results

* `ScriptEngine.Steady.applySource`, `ScriptEngine.Steady.sync` — so do source texts and requests.
* `ScriptEngine.steady_files`, `ScriptEngine.steady_waiting` — files and commands are only added.
-/

namespace LiveSketch
namespace ScriptEngine

variable {L : Language} {apply : Apply L} {b : Bench L}

/-- A reflexive and transitive relation that the building blocks of source texts obey. -/
structure Steady (R : Bench L → Bench L → Prop) : Prop where
  refl : ∀ b, R b b
  trans : ∀ {b c d}, R b c → R c d → R b d
  env : ∀ env b, R b (withState (fun s => { s with env }) b)
  note : ∀ level text b, R b (note level text b)
  request : ∀ path b, R b (request path b)
  mark : ∀ path b, R b (mark path b)
  registerHook : ∀ hook b, R b (registerHook hook b).1
  takeRequests : ∀ b, R b (takeRequests b)
  merged : ∀ program origin b, R b (merged program origin b)
  runProgram : ∀ program b, R b (runProgram program b).1
  discoverEntries : ∀ b, R b (discoverEntries b)

namespace Steady

variable {R : Bench L → Bench L → Prop} (hR : Steady R)
include hR

/-- It is a traced relation, whatever the deeds. -/
theorem traced : Traced fun b _ b' => R b b' where
  refl := hR.refl
  trans := hR.trans
  env := hR.env
  note := hR.note
  found := hR.request
  mark := hR.mark
  hooked hook b _ := hR.registerHook hook b
  takeRequests := hR.takeRequests
  merged origin b _ := hR.merged _ origin b
  refused _ b _ := hR.refl b
  runProgram := hR.runProgram
  discoverEntries := hR.discoverEntries

theorem inOrder {α : Type} {step : α → Action L} (h : ∀ a b, R b (step a b).1) (as : List α)
    (b : Bench L) : R b (ScriptEngine.inOrder step as b).1 :=
  @Traced.each L _ hR.traced _ _ (fun _ _ => []) h as b

theorem loadFile (files : FileTree) (happ : ∀ text origin b, R b (apply text origin b).1)
    (path : Path) (b : Bench L) : R b (ScriptEngine.loadFile files apply path b).1 :=
  @Traced.loadFile L _ (fun _ _ _ => []) _ hR.traced files happ path b

theorem includeFile (files : FileTree) (happ : ∀ text origin b, R b (apply text origin b).1)
    (name : String) (b : Bench L) : R b (ScriptEngine.includeFile files apply name b).1 :=
  @Traced.includeFile L _ (fun _ _ _ => []) _ hR.traced files happ name b

/-- **Source texts obey the relation**, however deep their includes go. -/
theorem applySource (files : FileTree) (depth : Nat) (text : String) (origin : Path)
    (b : Bench L) : R b (ScriptEngine.applySource files depth text origin b).1 :=
  hR.traced.applySource files depth text origin b

/-- Taking note of a frame obeys it. -/
theorem sync (env : FrameEnv) (files : FileTree) (b : Bench L) :
    R b (ScriptEngine.sync env files b) :=
  hR.traced.sync env files b

end Steady

/-! ### Files -/

/-- The files that were run and the files to be watched, with maybe more at the end. -/
def MoreFiles (b b' : Bench L) : Prop :=
  b.1.engine.included <+: b'.1.engine.included ∧ b.2.dependencies <+: b'.2.dependencies

theorem MoreFiles.of_same {b b' : Bench L} (hi : b'.1.engine.included = b.1.engine.included)
    (hd : b'.2.dependencies = b.2.dependencies) : MoreFiles b b' := by
  unfold MoreFiles
  rw [hi, hd]
  exact ⟨List.prefix_rfl, List.prefix_rfl⟩

/-- A file that was run stays run. -/
theorem MoreFiles.listed {b b' : Bench L} {path : Path} (h : MoreFiles b b')
    (hrun : Path.listed b.1.engine.included path) : Path.listed b'.1.engine.included path :=
  Path.listed_of_prefix h.1 hrun

/-- A file that was asked to be watched stays asked for. -/
theorem MoreFiles.asked {b b' : Bench L} {path : Path} (h : MoreFiles b b')
    (hasked : Path.listed b.2.dependencies path) : Path.listed b'.2.dependencies path :=
  Path.listed_of_prefix h.2 hasked

/-- **No file is taken off a list** by applying source texts. -/
theorem steady_files : Steady (MoreFiles (L := L)) where
  refl _ := .of_same rfl rfl
  trans h h' := ⟨h.1.trans h'.1, h.2.trans h'.2⟩
  env _ _ := .of_same rfl rfl
  note _ _ _ := .of_same rfl rfl
  request path b := by
    refine ⟨List.prefix_rfl, ?_⟩
    show b.2.dependencies <+: (b.2.requestDependency path).dependencies
    unfold Context.requestDependency
    split
    · exact List.prefix_rfl
    · exact List.prefix_append _ _
  mark path b := by
    refine ⟨?_, List.prefix_rfl⟩
    show b.1.engine.included <+: (b.1.engine.markIncluded path).included
    unfold ScriptState.markIncluded
    split
    · exact List.prefix_rfl
    · exact List.prefix_append _ _
  registerHook hook b := by
    rw [registerHook_eq]
    exact .of_same rfl rfl
  takeRequests b := by
    rw [takeRequests_eq]
    exact .of_same rfl rfl
  merged program origin b := by
    rw [merged_eq]
    exact .of_same rfl rfl
  runProgram _ _ := .of_same rfl rfl
  discoverEntries _ := .of_same rfl rfl

/-! ### Commands -/

/-- The commands that wait for a canvas, oldest first. -/
def waiting (b : Bench L) : List DrawCommand := b.1.engine.board.waiting

theorem registerHook_waiting (hook : HookRequest) (b : Bench L) :
    waiting (registerHook hook b).1 = waiting b := by
  rw [registerHook_eq]
  rfl

theorem takeRequests_waiting (b : Bench L) : waiting (takeRequests b) = waiting b := by
  rw [takeRequests_eq]
  rfl

/-- **No command is taken back** by applying source texts. -/
theorem steady_waiting (hL : L.Queues) : Steady fun b b' : Bench L => waiting b <+: waiting b' where
  refl _ := List.prefix_rfl
  trans h h' := h.trans h'
  env _ _ := List.prefix_rfl
  note _ _ _ := List.prefix_rfl
  request _ _ := List.prefix_rfl
  mark path b := by
    have h : waiting (mark path b) = waiting b :=
      congrArg Board.waiting ScriptState.markIncluded_board
    exact h ▸ List.prefix_rfl
  registerHook hook b := (registerHook_waiting hook b).symm ▸ List.prefix_rfl
  takeRequests b := (takeRequests_waiting b).symm ▸ List.prefix_rfl
  merged program origin b := by
    rw [merged_eq]
    exact List.prefix_rfl
  runProgram program b :=
    hL.run program b.1.engine.functions b.1.engine.source (b.1.engine.scene true)
      b.1.engine.globals ⟨b.1.engine.board, b.1.console⟩
  discoverEntries _ := List.prefix_rfl

/-- Without requests for files no command is added either. -/
theorem sync_waiting_of_none {b : Bench L} (hp : pending b = []) (env : FrameEnv)
    (files : FileTree) : waiting (ScriptEngine.sync env files b) = waiting b := by
  have hp' : pending (withState (fun s => { s with env }) b) = [] := hp
  have hw : waiting (settle files (apply files) (withState (fun s => { s with env }) b)).1 =
      waiting b := by
    rw [settle_eq, hp']
    exact inOrder_keeps (I := fun c => waiting c = waiting b)
      (fun hook c hc => (registerHook_waiting hook c).trans hc) _ (takeRequests_waiting _)
  unfold ScriptEngine.sync
  generalize settle files (ScriptEngine.apply files) (withState (fun s => { s with env }) b) = ran
    at hw ⊢
  obtain ⟨c, failure | _⟩ := ran
  · exact hw
  · exact hw

/-- A call takes no command back. -/
theorem invoke_waiting (hL : L.Queues) (handle : ScriptHandle) (args : List Value)
    (stage : Stage (ScriptState L)) :
    stage.engine.board.waiting <+: (invoke handle args stage).1.engine.board.waiting := by
  have called : ∀ name args (stage : Stage (ScriptState L)),
      stage.engine.board.waiting <+: (callFunction name args stage).1.engine.board.waiting :=
    fun name args stage => hL.call name args stage.engine.functions stage.engine.source
      (stage.engine.scene false) stage.engine.globals stage.engine.object
      ⟨stage.engine.board, stage.console⟩
  cases handle with
  | function name => exact called name args stage
  | defaults scripted =>
    have h := called Entry.defaults.name args { stage with
      engine := { stage.engine with board := stage.engine.board.restyle } }
    unfold invoke
    dsimp only
    split
    · exact h
    · exact List.prefix_rfl

end ScriptEngine
end LiveSketch
