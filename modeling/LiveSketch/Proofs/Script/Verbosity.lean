import LiveSketch.Proofs.Console
import LiveSketch.Proofs.Script.Growth

/-!
# Scripts cannot switch the verbosity of the console

A script prints to the console and asks for another verbosity. What it asks for is left with the
context of the session. The console itself stays as verbose as it was, whatever a script runs, and
whatever the engine does with the requests of scripts. To make the console follow is up to the
session.

## Main definitions

* `sameVerbosity` — machines whose consoles are equally verbose, as an order of machines.
* `Language.KeepsVerbosity` — a law of languages: code leaves the verbosity of the console alone.
* `Engine.KeepsVerbosity` — an engine all of whose operations do.

## Main results

* `sketchLanguage_keepsVerbosity` — the sketch language obeys the law.
* `scriptEngine_keepsVerbosity` — so does the engine of every language that obeys it.
-/

namespace LiveSketch

/-- Machines whose consoles are equally verbose. -/
def sameVerbosity : MachineOrder where
  rel m m' := m'.console.verbose = m.console.verbose
  refl _ := rfl
  trans h h' := h'.trans h
  inner hg m := congrArg Console.verbose (hg.console m)
  printed m text := m.console.write_verbose Console.stdout text

/-- No function of the sketchpad reaches the console. -/
theorem sameVerbosity_heldIn (scene : Scene) : sameVerbosity.trait.HeldIn scene := by
  intro name args place m
  show (Eval.after _ m).console.verbose = m.console.verbose
  rw [Eval.after, Eval.perform_eq]
  cases m.board.perform? scene name args with
  | none => rfl
  | some made => rfl

/-! ### Languages -/

/-- Code leaves the verbosity of the console alone. -/
structure Language.KeepsVerbosity (L : Language) : Prop where
  run : ∀ program table source scene globals ground,
    (L.run program table source scene globals ground).2.1.console.verbose = ground.console.verbose
  call : ∀ name args table source scene globals object ground,
    (L.call name args table source scene globals object ground).2.2.1.console.verbose =
      ground.console.verbose

/-- **Scripts cannot switch the verbosity of the console**, whatever they run and however it ends. -/
theorem sketchLanguage_keepsVerbosity : sketchLanguage.KeepsVerbosity where
  run program table source scene scope ground := by
    obtain ⟨m, hm, hran⟩ := SketchLanguage.exists_run_ground (sameVerbosity_heldIn scene) program
      table source scope ground
    exact (congrArg (fun ground : Ground => ground.console.verbose) hran).trans hm
  call name args table source scene scope object ground := by
    obtain ⟨m, m', -, hc, hm, hran⟩ := SketchLanguage.exists_call_ground
      (sameVerbosity_heldIn scene) name args table source scope object ground
    exact (congrArg (fun ground : Ground => ground.console.verbose) hran).trans
      (hm.trans (congrArg Console.verbose hc))

/-! ### Engines -/

/-- Every operation of an engine leaves the verbosity of the console alone. -/
structure Engine.KeepsVerbosity {σ η : Type} (e : Engine σ η) : Prop where
  evaluate : ∀ source origin reset files stage ctx,
    (e.evaluate source origin reset files stage ctx).1.console.verbose = stage.console.verbose
  loadDependency : ∀ path files stage ctx,
    (e.loadDependency path files stage ctx).1.console.verbose = stage.console.verbose
  processError : ∀ failure stage,
    (e.processError failure stage).1.console.verbose = stage.console.verbose
  sync : ∀ env files stage ctx,
    (e.sync env files stage ctx).1.console.verbose = stage.console.verbose
  flush : ∀ stage canvas, (e.flush stage canvas).1.console.verbose = stage.console.verbose
  invoke : ∀ handle args stage,
    (e.invoke handle args stage).1.console.verbose = stage.console.verbose

namespace ScriptEngine

variable {L : Language}

/-- Source texts leave the verbosity of the console alone. -/
theorem steady_verbosity (hL : L.KeepsVerbosity) :
    Steady fun b b' : Bench L => b'.1.console.verbose = b.1.console.verbose where
  refl _ := rfl
  trans h h' := h'.trans h
  env _ _ := rfl
  note _ _ _ := rfl
  request _ _ := rfl
  mark path b := by rw [mark_eq]
  registerHook hook b := by rw [registerHook_eq]
  takeRequests b := by rw [takeRequests_eq]
  merged program origin b := by rw [merged_eq]
  runProgram program b :=
    hL.run program b.1.engine.functions b.1.engine.source (b.1.engine.scene true)
      b.1.engine.globals ⟨b.1.engine.board, b.1.console⟩
  discoverEntries _ := rfl

theorem callFunction_verbosity (hL : L.KeepsVerbosity) (name : String) (args : List Value)
    (stage : Stage (ScriptState L)) :
    (callFunction name args stage).1.console.verbose = stage.console.verbose :=
  hL.call name args stage.engine.functions stage.engine.source (stage.engine.scene false)
    stage.engine.globals stage.engine.object ⟨stage.engine.board, stage.console⟩

end ScriptEngine

open ScriptEngine

/-- **What a script engine does leaves the verbosity of the console alone.** -/
theorem scriptEngine_keepsVerbosity {L : Language} (hL : L.KeepsVerbosity) :
    (scriptEngine L).KeepsVerbosity where
  evaluate source origin resetting files stage ctx := by
    have hmark := (steady_verbosity hL).mark origin
      (if resetting then reset (stage, ctx) else (stage, ctx))
    refine ((steady_verbosity hL).applySource files (includeDepth files) source origin _).trans
      (hmark.trans ?_)
    cases resetting <;> rfl
  loadDependency path files stage ctx :=
    ((steady_verbosity hL).loadFile files
      ((steady_verbosity hL).applySource files (includeDepth files)) path _).trans
      ((steady_verbosity hL).mark path (stage, ctx))
  processError failure stage := by
    show (processError failure stage).1.console.verbose = stage.console.verbose
    rw [processError]
    split
    · exact callFunction_verbosity hL formatterName [.str failure.message] stage
    · rfl
  sync env files stage ctx := (steady_verbosity hL).sync env files (stage, ctx)
  flush _ _ := rfl
  invoke handle args stage := by
    cases handle with
    | function name => exact callFunction_verbosity hL name args stage
    | defaults scripted =>
      cases scripted with
      | true =>
        exact callFunction_verbosity hL Entry.defaults.name args { stage with
          engine := { stage.engine with board := stage.engine.board.restyle } }
      | false => rfl

end LiveSketch
