import LiveSketch.Proofs.Session.Operations
import LiveSketch.Proofs.Watcher

/-!
# Properties that reloads keep

A reload is made of a few building blocks: evaluating a source text or a changed dependency, the
ways into and out of the error state, and the setup phase after a reset. `Reloaded` lists them. A
property that each of them keeps is kept by the start, by every reload and by everything that a poll
sets off, in whatever way these end. `Lasting` has what phases, events and frames are made of as
well.

What is left are the steps by which the host supplies a session: with a search path, a sketch, files
or a canvas, or by emptying a stream of the console. They leave alone the engine, and what console
and context say about verbosity.

## Main definitions

* `Session.Reloaded` — what the building blocks of reloads keep.
* `Session.Lasting` — what the building blocks of all operations keep.
* `Session.Supplied` — sessions that differ in nothing but what the host supplies.

## Main results

* `Session.Reloaded.reloadFrom`, `Session.Reloaded.run` — reloads.
* `Session.Reloaded.poll` — a draw after its frame.
* `Session.Lasting.perform` — every step.
-/

namespace LiveSketch
namespace Session

variable {σ η : Type} {e : Engine σ η}

/-- A property that the building blocks of reloads keep. -/
structure Reloaded (e : Engine σ η) (I : Session σ η → Prop) : Prop where
  note : ∀ s level area text, I s → I (s.note level area text)
  report : ∀ s stream text, I s → I { s with stage := s.stage.report stream text }
  setup : ∀ s, I s → I (s.setup e)
  fail : ∀ s failure, I s → I (s.fail e failure)
  evaluate : ∀ s source path forced, I s → I (s.evaluate e source path forced).1
  loadDependency : ∀ s path, I s → I { s with
    stage := (e.loadDependency path s.files s.stage s.context).1
    context := (e.loadDependency path s.files s.stage s.context).2.1 }
  enterError : ∀ s failure backdrop, I s → I (s.enterError e failure backdrop)
  status : ∀ s status error, I s → I { s with status, error }
  lastGoodFrame : ∀ s lastGoodFrame, I s → I { s with lastGoodFrame }

/-- A property that the building blocks of phases, events, frames and reloads keep. -/
structure Lasting (e : Engine σ η) (I : Session σ η → Prop) : Prop extends Kept e I where
  report : ∀ s stream text, I s → I { s with stage := s.stage.report stream text }
  evaluate : ∀ s source path forced, I s → I (s.evaluate e source path forced).1
  loadDependency : ∀ s path, I s → I { s with
    stage := (e.loadDependency path s.files s.stage s.context).1
    context := (e.loadDependency path s.files s.stage s.context).2.1 }
  enterError : ∀ s failure backdrop, I s → I (s.enterError e failure backdrop)
  status : ∀ s status error, I s → I { s with status, error }
  lastGoodFrame : ∀ s lastGoodFrame, I s → I { s with lastGoodFrame }

/-- Sessions with the same engine and the same verbosities, whatever else the host supplied. -/
structure Supplied (s t : Session σ η) : Prop where
  engine : t.stage.engine = s.stage.engine
  console : t.stage.console.verbose = s.stage.console.verbose
  context : t.context.verbose = s.context.verbose

namespace Reloaded

variable {I : Session σ η → Prop} (hI : Reloaded e I) {s : Session σ η}
include hI

/-! ### Evaluation -/

theorem evaluateBytes (path : Path) (bytes : List UInt8) (forced : Bool) (hs : I s) :
    I (s.evaluateBytes e path bytes forced).1 := by
  have ha : I (s.announceReading path bytes.length forced) :=
    hI.note _ _ _ _ (hI.report s _ _ hs)
  unfold Session.evaluateBytes
  dsimp only
  split
  · exact hI.evaluate _ _ path forced ha
  · exact ha

theorem succeed (forced : Bool) (hs : I s) : I (s.succeed e forced) := by
  have hr : I s.recovered := by
    unfold recovered
    split
    · exact hI.status _ .running none (hI.note s _ _ _ hs)
    · exact hI.status s .running none hs
  rw [succeed_eq]
  split
  · exact hI.setup _ hr
  · exact hr

theorem keepFrame (hs : I s) : I s.keepFrame := by
  unfold Session.keepFrame
  split
  · exact hI.lastGoodFrame s _ hs
  · exact hs

/-! ### Reloads -/

theorem reloadFrom (path : Path) (forced : Bool) (hs : I s) : I (s.reloadFrom e path forced).1 := by
  have hk := hI.keepFrame hs
  unfold Session.reloadFrom
  split
  · exact hI.note s _ _ _ hs
  · dsimp only
    split
    · exact hk
    · next bytes _ =>
      have h := hI.evaluateBytes path bytes (forced || decide (s.status = .error)) hk
      generalize s.keepFrame.evaluateBytes e path bytes _ = ran at h ⊢
      obtain ⟨t, failure | _⟩ := ran
      · exact hI.enterError t failure _ h
      · exact hI.succeed _ h

theorem reload (forced : Bool) (hs : I s) : I (s.reload e forced).1 := by
  unfold Session.reload
  split
  · exact hI.note s _ _ _ hs
  · exact hI.reloadFrom _ forced hs

/-- The start of a sketch. -/
theorem run (hs : I s) : I (s.run e).1 := by
  have ht : I s.started := by
    unfold started
    split
    · exact hI.status s .running s.error hs
    · exact hs
  rw [run_eq]
  split
  · exact hI.note s _ _ _ hs
  · exact hI.reload false ht

/-! ### Polls -/

theorem reloadChanged (path : Path) (hs : I s) : I (s.reloadChanged e path) := by
  have h := hI.loadDependency s path hs
  unfold Session.reloadChanged
  generalize e.loadDependency path s.files s.stage s.context = ran at h ⊢
  obtain ⟨stage, context, failure | _⟩ := ran
  · exact hI.fail _ failure h
  · exact h

theorem applyChange (change : WatchChange) (hs : I s) : I (s.applyChange e change).1 := by
  have ha : I (s.announceChange change) := hI.report _ _ _ (hI.note s _ _ _ hs)
  rw [applyChange_eq]
  refine hI.reload false ?_
  split
  · exact ha
  · exact hI.reloadChanged change.path ha

theorem applyChanges (changes : List WatchChange) (hs : I s) :
    I (s.applyChanges e changes).1 := by
  induction changes generalizing s with
  | nil => exact hs
  | cons change rest ih =>
    have hc := hI.applyChange change hs
    unfold Session.applyChanges
    generalize s.applyChange e change = ran at hc ⊢
    obtain ⟨t, _ | fatal⟩ := ran
    · exact ih hc
    · exact hc

/-- A draw after its frame, if of the watcher nothing but the list of its files matters. -/
theorem poll (hw : ∀ s watcher, watcher.files = s.watcher.files → I s → I { s with watcher })
    (hs : I (s.frame e)) : I (s.draw e).1 := by
  have ht := hw _ (s.frame e).watcher.tick.1 (Watcher.tick_files _) hs
  rw [draw_eq]
  split
  · have hp := hw _ (({ s.frame e with watcher := (s.frame e).watcher.tick.1 }).watcher.poll
      (s.frame e).files).1 rfl ht
    unfold checkWatched
    dsimp only at hp ⊢
    generalize Watcher.poll _ _ = polled at hp ⊢
    obtain ⟨watcher, fatal | changes⟩ := polled
    · exact hp
    · exact hI.applyChanges changes hp
  · exact ht

end Reloaded

namespace Lasting

variable {I : Session σ η → Prop} (hI : Lasting e I) {s : Session σ η}
include hI

theorem reloaded : Reloaded e I where
  note := hI.note
  report := hI.report
  setup _ := hI.setup
  fail := hI.fail
  evaluate := hI.evaluate
  loadDependency := hI.loadDependency
  enterError := hI.enterError
  status := hI.status
  lastGoodFrame := hI.lastGoodFrame

/-- A draw, if of the watcher nothing but the list of its files matters. -/
theorem draw (hw : ∀ s watcher, watcher.files = s.watcher.files → I s → I { s with watcher })
    (hs : I s) : I (s.draw e).1 :=
  hI.reloaded.poll hw (hI.frame hs)

/-- **Every step of a session keeps what its building blocks keep**, if only the engine and the
verbosities matter. -/
theorem perform (hsup : ∀ s t, Supplied s t → I s → I t) (op : Operation) (hs : I s) :
    I (s.perform e op).1 := by
  cases op with
  | install loadPath =>
    rw [Session.perform, installPath]
    split
    · exact hs
    · exact hsup s _ ⟨rfl, rfl, rfl⟩ hs
  | load path =>
    rw [Session.perform, load]
    split
    · exact hs
    · exact hs
    · exact hsup s _ ⟨rfl, rfl, rfl⟩ hs
  | run => exact hI.reloaded.run hs
  | setup => exact hI.setup hs
  | update => exact hI.update hs
  | draw => exact hI.draw (fun t _ _ => hsup t _ ⟨rfl, rfl, rfl⟩) hs
  | exit => exact hI.exit hs
  | reload forced => exact hI.reloaded.reload forced hs
  | reloadFrom path forced => exact hI.reloaded.reloadFrom path forced hs
  | event event => exact hI.event event hs
  | edit files => exact hsup s _ ⟨rfl, rfl, rfl⟩ hs
  | present canvas => exact hsup s _ ⟨rfl, rfl, rfl⟩ hs
  | drain stream => exact hsup s _ ⟨rfl, rfl, rfl⟩ hs

end Lasting

end Session
end LiveSketch
