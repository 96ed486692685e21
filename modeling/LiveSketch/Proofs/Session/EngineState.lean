import LiveSketch.Proofs.Session.Reloads

/-!
# Properties of an engine's own state

A session touches the state of its engine through the engine's operations only. So a property of the
state that all of these keep is kept by every step of a session, whatever becomes of the step.

## Main definitions

* `Engine.Keeps` — what the operations of an engine keep.

## Main results

* `Engine.Keeps.perform` — every step of a session keeps it.
-/

namespace LiveSketch

variable {σ η : Type}

/-- A property of its state that every operation of an engine keeps, whether it fails or not. -/
structure Engine.Keeps (e : Engine σ η) (J : σ → Prop) : Prop where
  evaluate : ∀ source origin reset files stage ctx, J stage.engine →
    J (e.evaluate source origin reset files stage ctx).1.engine
  loadDependency : ∀ path files stage ctx, J stage.engine →
    J (e.loadDependency path files stage ctx).1.engine
  processError : ∀ failure stage, J stage.engine → J (e.processError failure stage).1.engine
  sync : ∀ env files stage ctx, J stage.engine → J (e.sync env files stage ctx).1.engine
  flush : ∀ stage canvas, J stage.engine → J (e.flush stage canvas).1.engine
  invoke : ∀ handle args stage, J stage.engine → J (e.invoke handle args stage).1.engine

namespace Engine.Keeps

open Session

variable {e : Engine σ η} {J : σ → Prop} (hJ : e.Keeps J) {s : Session σ η}
include hJ

theorem enterError (failure : Failure) (backdrop : Option Image) (hs : J s.stage.engine) :
    J (s.enterError e failure backdrop).stage.engine := by
  have h := hJ.processError failure s.stage hs
  unfold Session.enterError describeFailure
  generalize e.processError failure s.stage = told at h ⊢
  obtain ⟨stage, again | message⟩ := told
  · exact h
  · exact h

/-- Phases and events keep it. -/
theorem kept : Kept e fun s => J s.stage.engine where
  note _ _ _ _ h := h
  sync s h := hJ.sync s.frameEnv s.files s.stage s.context h
  call handle args s h := hJ.invoke handle args s.stage h
  flush s h := hJ.flush s.stage s.canvas h
  fail s failure h := by
    obtain ⟨backdrop, hf⟩ := exists_fail_eq_enterError e failure s
    rw [hf]
    exact hJ.enterError failure backdrop h
  canvas _ _ h := h
  frameCount _ _ h := h
  keyHeld _ _ h := h
  pointer _ _ h := h
  setupDone _ h := h

/-- So do reloads. -/
theorem lasting : Lasting e fun s => J s.stage.engine where
  toKept := hJ.kept
  report _ _ _ h := h
  evaluate s source path forced h := by
    rw [evaluate_eq, adopt_engine]
    exact hJ.evaluate _ _ _ _ _ _ (hJ.kept.sync s h)
  loadDependency s path h := hJ.loadDependency path s.files s.stage s.context h
  enterError _ failure backdrop h := hJ.enterError failure backdrop h
  status _ _ _ h := h
  lastGoodFrame _ _ h := h

/-- **Every step of a session keeps what the operations of its engine keep.** -/
theorem perform (op : Operation) (hs : J s.stage.engine) :
    J (s.perform e op).1.stage.engine :=
  hJ.lasting.perform (fun _ _ h ht => h.engine ▸ ht) op hs

end Engine.Keeps

end LiveSketch
