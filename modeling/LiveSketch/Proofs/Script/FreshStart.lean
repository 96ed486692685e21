import LiveSketch.Proofs.Script.Growth
import LiveSketch.Proofs.Script.Printing

/-!
# A reset is a fresh start

Evaluating a source text in a session that is reset first gives what a new engine and a new context
give: the same failure or none, the same functions, variables and requests, the same hooks and entry
points. What happened before shows in the console and the log only, and in the files that are to be
watched, which a reset keeps on purpose.

## How two runs are compared

Benches are *alike* if they agree in everything that the engine looks at. A step *echoes* if it ends
alike, and equally well, on benches that are alike. Each function of the engine echoes once the ways
to apply included files do, so the whole is an induction on the depth of includes. A reset bench and
a new one are alike, whatever the old one held.

The engine passes the console to the script, so running a program echoes only because scripts cannot
read what was printed.

## Main definitions

* `ScriptEngine.Alike` — benches that agree in all but the console, the log and the files to watch.
* `ScriptEngine.Echoes` — steps that end alike on benches that are alike.
* `ScriptEngine.fresh` — a new engine and a new context for the same frame and the same paths.

## Main results

* `ScriptEngine.applySource_echoes` — source texts echo, however deep their includes go.
* `ScriptEngine.evaluate_reset_eq_fresh` — a reset is a fresh start.
-/

namespace LiveSketch
namespace ScriptEngine

variable {L : Language} {files : FileTree} {b c d : Bench L}

/-- Benches that agree in everything but the console, the log and the files to be watched. -/
structure Alike (b c : Bench L) : Prop where
  engine : c.1.engine = b.1.engine
  hooks : c.2.hooks = b.2.hooks
  entries : c.2.entries = b.2.entries
  verbose : c.2.verbose = b.2.verbose
  dataPath : c.2.dataPath = b.2.dataPath
  loadPath : c.2.loadPath = b.2.loadPath

namespace Alike

/-- The second of two benches that are alike, written as a change of the first. -/
theorem eq (h : Alike b c) : c =
    ({ engine := b.1.engine, console := c.1.console, log := c.1.log },
      { b.2 with dependencies := c.2.dependencies }) := by
  obtain ⟨⟨engine, console, log⟩, ⟨hooks, entries, verbose, dataPath, loadPath, dependencies⟩⟩ := c
  obtain ⟨rfl, rfl, rfl, rfl, rfl, rfl⟩ := h
  rfl

theorem withState (h : Alike b c) (f : ScriptState L → ScriptState L) :
    Alike (withState f b) (withState f c) := by
  rw [h.eq]
  exact ⟨rfl, rfl, rfl, rfl, rfl, rfl⟩

theorem note (h : Alike b c) (level : LogLevel) (text : String) :
    Alike (note level text b) (note level text c) := by
  rw [h.eq]
  exact ⟨rfl, rfl, rfl, rfl, rfl, rfl⟩

theorem mark (h : Alike b c) (path : Path) : Alike (mark path b) (mark path c) := h.withState _

/-- Asking for a file to be watched changes nothing else, on either side. -/
theorem request (h : Alike b c) (path : Path) : Alike (request path b) (request path c) := by
  rw [request_eq path b, request_eq path c]
  exact ⟨h.engine, h.hooks, h.entries, h.verbose, h.dataPath, h.loadPath⟩

theorem merged (h : Alike b c) (program : L.Program) (origin : Path) :
    Alike (merged program origin b) (merged program origin c) := by
  rw [h.eq]
  unfold ScriptEngine.merged shareDataPath
  dsimp only [ScriptEngine.withState]
  split <;> exact ⟨rfl, rfl, rfl, rfl, rfl, rfl⟩

theorem takeRequests (h : Alike b c) : Alike (takeRequests b) (takeRequests c) := by
  rw [h.eq]
  unfold ScriptEngine.takeRequests
  dsimp only
  split <;> exact ⟨rfl, rfl, rfl, rfl, rfl, rfl⟩

theorem discoverEntries (h : Alike b c) : Alike (discoverEntries b) (discoverEntries c) := by
  rw [h.eq]
  exact ⟨rfl, rfl, rfl, rfl, rfl, rfl⟩

end Alike

/-- A step that ends alike, and equally well, on benches that are alike. -/
def Echoes (act : Action L) : Prop :=
  ∀ b c, Alike b c → Alike (act b).1 (act c).1 ∧ (act c).2 = (act b).2

/-- The end of a step that echoes, on either side. -/
theorem Echoes.ends {act : Action L} (h : Echoes act) (hbc : Alike b c) :
    ∃ b' c' result, act b = (b', result) ∧ act c = (c', result) ∧ Alike b' c' := by
  obtain ⟨ha, hr⟩ := h b c hbc
  exact ⟨_, _, _, rfl, Prod.ext rfl hr, ha⟩

theorem inOrder_echoes {α : Type} {step : α → Action L} (h : ∀ a, Echoes (step a))
    (as : List α) : Echoes (inOrder step as) := by
  induction as with
  | nil => exact fun _ _ hbc => ⟨hbc, rfl⟩
  | cons a rest ih =>
    intro b c hbc
    obtain ⟨b', c', result, hb, hc, hbc'⟩ := (h a).ends hbc
    unfold inOrder
    rw [hb, hc]
    cases result with
    | ok _ => exact ih _ _ hbc'
    | error failure => exact ⟨hbc', rfl⟩

theorem registerHook_echoes (hook : HookRequest) : Echoes (L := L) (registerHook hook) := by
  intro b c hbc
  rw [hbc.eq]
  unfold registerHook
  dsimp only
  split
  · exact ⟨⟨rfl, rfl, rfl, rfl, rfl, rfl⟩, rfl⟩
  · split <;> exact ⟨⟨rfl, rfl, rfl, rfl, rfl, rfl⟩, rfl⟩

/-- Running a program echoes if scripts cannot read what was printed. -/
theorem runProgram_echoes (hL : L.PrintsOnly) (program : L.Program) :
    Echoes (runProgram program) := by
  intro b c hbc
  obtain ⟨hv, hb, hr⟩ := hL program b.1.engine.functions b.1.engine.source
    (b.1.engine.scene true) b.1.engine.globals b.1.engine.board b.1.console c.1.console
  rw [hbc.eq]
  refine ⟨⟨?_, rfl, rfl, rfl, rfl, rfl⟩, ?_⟩
  · simp only [runProgram, hv, hb]
  · simp only [runProgram, hr]

section

variable {apply : Apply L} (happ : ∀ text origin, Echoes (apply text origin))
include happ

theorem loadFile_echoes (path : Path) : Echoes (loadFile files apply path) := by
  intro b c hbc
  unfold loadFile
  cases files.readText path with
  | error cause => exact ⟨hbc, rfl⟩
  | ok source => exact happ source path _ _ (hbc.note _ _)

theorem includeFile_echoes (name : String) : Echoes (includeFile files apply name) := by
  intro b c hbc
  rw [includeFile_eq, includeFile_eq, hbc.loadPath, hbc.engine]
  cases b.2.loadPath.resolve files ⟨name⟩ with
  | none => exact ⟨hbc, rfl⟩
  | some found =>
    dsimp only
    split
    · exact ⟨hbc.request _, rfl⟩
    · exact loadFile_echoes happ _ _ _ ((hbc.request _).mark _)

theorem settle_echoes : Echoes (settle files apply) := by
  intro b c hbc
  obtain ⟨b', c', result, hb, hc, hbc'⟩ :=
    (inOrder_echoes (includeFile_echoes happ) (pending b)).ends hbc.takeRequests
  have hp : pending c = pending b := congrArg (·.board.requests.includes) hbc.engine
  rw [settle_eq, settle_eq, hp, hb, hc, hbc.engine]
  cases result with
  | ok _ => exact inOrder_echoes registerHook_echoes _ _ _ hbc'
  | error failure => exact ⟨hbc', rfl⟩

end

/-- **Source texts echo**, by induction on the depth of includes. -/
theorem applySource_echoes (hL : L.PrintsOnly) (files : FileTree) (depth : Nat) (text : String)
    (origin : Path) : Echoes (applySource (L := L) files depth text origin) := by
  induction depth generalizing text origin with
  | zero => exact fun _ _ hbc => ⟨hbc, rfl⟩
  | succ depth ih =>
    intro b c hbc
    rw [applySource_succ, applySource_succ]
    cases L.compile text with
    | error fault => exact ⟨hbc, rfl⟩
    | ok program =>
      obtain ⟨b₁, c₁, ran, hb₁, hc₁, hbc₁⟩ :=
        (runProgram_echoes hL program).ends (hbc.merged program origin)
      dsimp only
      rw [hb₁, hc₁]
      cases ran with
      | error failure => exact ⟨hbc₁, rfl⟩
      | ok _ =>
        obtain ⟨b₂, c₂, settled, hb₂, hc₂, hbc₂⟩ := (settle_echoes ih).ends hbc₁
        dsimp only
        rw [hb₂, hc₂]
        cases settled with
        | error failure => exact ⟨hbc₂, rfl⟩
        | ok _ => exact ⟨hbc₂.discoverEntries, rfl⟩

/-! ### Fresh starts -/

/-- A new engine and a new context, for the same frame, verbosity and paths. What was printed and
logged before may be anything. -/
def fresh (b : Bench L) (console : Console) (log : Log) : Bench L :=
  ({ engine := .empty b.1.engine.env, console, log },
    { verbose := b.2.verbose, dataPath := b.2.dataPath, loadPath := b.2.loadPath })

/-- Nothing is left of the old session after a reset. -/
theorem reset_alike_fresh (b : Bench L) (console : Console) (log : Log) :
    Alike (reset b) (fresh b console log) :=
  ⟨rfl, rfl, rfl, rfl, rfl, rfl⟩

/-- Nothing is there to be reset in a new session. -/
theorem reset_fresh_alike (b : Bench L) (console : Console) (log : Log) :
    Alike (reset b) (reset (fresh b console log)) :=
  ⟨rfl, rfl, rfl, rfl, rfl, rfl⟩

/-- **A reset is a fresh start.** Whatever happened to an engine and its context, evaluating a
source text after a reset ends like the same evaluation by a new engine with a new context, where a
reset makes no difference. -/
theorem evaluate_reset_eq_fresh (source : String) (origin : Path) (resetting : Bool)
    (files : FileTree) (b : Bench sketchLanguage) (console : Console) (log : Log) :
    let old := evaluate source origin true files b
    let new := evaluate source origin resetting files (fresh b console log)
    new.2 = old.2 ∧ Alike old.1 new.1 := by
  have hstart : Alike (evaluationStart origin true b)
      (evaluationStart origin resetting (fresh b console log)) := by
    cases resetting with
    | true => exact (reset_fresh_alike b console log).mark origin
    | false => exact (reset_alike_fresh b console log).mark origin
  exact (applySource_echoes sketchLanguage_printsOnly files _ source origin _ _ hstart).symm

end ScriptEngine
end LiveSketch
