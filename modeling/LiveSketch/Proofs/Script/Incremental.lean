import LiveSketch.Proofs.Script.Growth
import LiveSketch.Proofs.Script.Registrations

/-!
# An evaluation without a reset takes nothing away

A saved sketch is evaluated on top of what is there, and so is a saved dependency. The evaluation
merges functions, runs statements, includes files to any depth and registers hooks, and each of
these can fail with part of the work done. Nothing is undone then. What there was before is there in
any case: the object that scripts see as `this`, the functions, the files that were run, and the
hooks, in their order.

## Where the pieces are

The object is out of reach of statements, which get the variables of the program and not the object.
Files and hooks are put at the end of lists. A function can be replaced but not removed, and what it
is replaced by is the newest definition that was taken up, which need not be one of a source text
that ran to its end.

## Main definitions

* `ScriptEngine.Enlarges` — nothing was taken away.

## Main results

* `ScriptEngine.steady_enlarges` — no building block of an evaluation takes anything away.
* `ScriptEngine.evaluation_enlarges` — neither do evaluations without a reset and dependencies.
-/

namespace LiveSketch
namespace ScriptEngine

variable {L : Language} {b b' c : Bench L}

/-- The second bench has all that the first has, and maybe more functions, files and hooks. -/
structure Enlarges (b b' : Bench L) : Prop where
  object : b'.1.engine.object = b.1.engine.object
  functions : ∀ name arity, b.1.engine.hasFunction name arity →
    b'.1.engine.hasFunction name arity
  included : b.1.engine.included <+: b'.1.engine.included
  prehooks : ∀ phase, b.2.hooks.pre phase <+: b'.2.hooks.pre phase
  posthooks : ∀ phase, b.2.hooks.post phase <+: b'.2.hooks.post phase

namespace Enlarges

/-- Files are the only thing that may differ. -/
theorem of_files (ho : b'.1.engine.object = b.1.engine.object)
    (hf : b'.1.engine.functions = b.1.engine.functions) (hm : MoreFiles b b')
    (hh : b'.2.hooks = b.2.hooks) : Enlarges b b' where
  object := ho
  functions _ _ h := by
    rw [ScriptState.hasFunction, hf]
    exact h
  included := hm.1
  prehooks _ := hh ▸ List.prefix_rfl
  posthooks _ := hh ▸ List.prefix_rfl

theorem trans (h : Enlarges b b') (h' : Enlarges b' c) : Enlarges b c where
  object := h'.object.trans h.object
  functions name arity hb := h'.functions name arity (h.functions name arity hb)
  included := h.included.trans h'.included
  prehooks phase := (h.prehooks phase).trans (h'.prehooks phase)
  posthooks phase := (h.posthooks phase).trans (h'.posthooks phase)

end Enlarges

/-- Registering a hook puts it at the end of the hooks of its phase, or fails, or does nothing. -/
theorem registerHook_hooks (hook : HookRequest) (b : Bench L) (phase : Phase) (kind : HookKind) :
    b.2.hooks.around phase kind <+: (registerHook hook b).1.2.hooks.around phase kind := by
  unfold registerHook
  dsimp only
  split
  · exact List.prefix_rfl
  · split
    · exact List.prefix_rfl
    · show _ <+: (addHook hook b.2.hooks).around phase kind
      rw [addHook_around]
      exact List.prefix_append _ _

/-- **No building block of an evaluation takes anything away.** -/
theorem steady_enlarges : Steady (Enlarges (L := L)) where
  refl b := .of_files rfl rfl (steady_files.refl b) rfl
  trans h h' := h.trans h'
  env env b := .of_files rfl rfl (steady_files.env env b) rfl
  note level text b := .of_files rfl rfl (steady_files.note level text b) rfl
  request path b := by
    have hm := steady_files.request path b
    rw [request_eq] at hm ⊢
    exact .of_files rfl rfl hm rfl
  mark path b := by
    have hm := steady_files.mark path b
    rw [mark_eq] at hm ⊢
    exact .of_files rfl rfl hm rfl
  registerHook hook b := {
    object := by rw [registerHook_eq]
    functions := by
      rw [registerHook_eq]
      exact fun _ _ h => h
    included := (steady_files.registerHook hook b).1
    prehooks := fun phase => registerHook_hooks hook b phase .pre
    posthooks := fun phase => registerHook_hooks hook b phase .post }
  takeRequests b := by
    have hm := steady_files.takeRequests b
    rw [takeRequests_eq] at hm ⊢
    exact .of_files rfl rfl hm rfl
  merged program origin b := {
    object := by rw [merged_eq]
    functions := fun _ _ => merged_hasFunction program origin
    included := (steady_files.merged program origin b).1
    prehooks := by
      rw [merged_eq]
      exact fun _ => List.prefix_rfl
    posthooks := by
      rw [merged_eq]
      exact fun _ => List.prefix_rfl }
  runProgram program b := .of_files rfl rfl (steady_files.runProgram program b) rfl
  discoverEntries b := .of_files rfl rfl (steady_files.discoverEntries b) rfl

/-- **An evaluation without a reset takes nothing away**, and neither does a dependency that is
loaded, whatever the source texts are and however deep their includes go, and whether it ends well
or fails to compile, to run, to find a file or to register a hook. The object that scripts see as
`this` is the same, no function and no file that was run is removed, and the hooks of each phase are
those from before with maybe more after them. What a function does is up to the newest definition
among the source texts that were taken up, and as before if there is none. -/
theorem evaluation_enlarges (L : Language) (source : String) (origin path : Path)
    (files : FileTree) (b : Bench L) :
    let evaluation : EngineCall := .evaluate source origin false files
    let dependency : EngineCall := .loadDependency path files
    (Enlarges b (evaluate source origin false files b).1 ∧
        Defines b (evaluation.deeds b) (evaluate source origin false files b).1) ∧
      Enlarges b (loadDependency path files b).1 ∧
        Defines b (dependency.deeds b) (loadDependency path files b).1 := by
  intro evaluation dependency
  have hmark (path : Path) : Defines b [] (mark path b) := traced_functions.mark path b
  refine ⟨⟨?_, ?_⟩, ?_, ?_⟩
  · exact (steady_enlarges.mark origin b).trans
      (steady_enlarges.applySource files (includeDepth files) source origin _)
  · exact traced_functions.after (hmark origin)
      (traced_functions.applySource files (includeDepth files) source origin _)
  · exact (steady_enlarges.mark path b).trans
      (steady_enlarges.loadFile files (steady_enlarges.applySource files _) path _)
  · exact traced_functions.after (hmark path)
      (traced_functions.loadFile files (traced_functions.applySource files _) path _)

end ScriptEngine
end LiveSketch
