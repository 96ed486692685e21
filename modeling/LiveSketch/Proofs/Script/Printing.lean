import LiveSketch.Proofs.Script.Rules

/-!
# Scripts cannot read what was printed

Code adds lines to the console and never looks at it. So what it does to the variables, the sketch
object and the board, and how it ends, is the same whatever was printed before.

## The idea

A statement about two runs is a trait of the code, as a statement about one run is: `Eval.Deaf` code
takes machines that differ in nothing but the console to such machines. The pieces of the evaluator
pass this on, and the functions of the sketchpad have no access to the console.

## Main definitions

* `Machine.muted`, `Eval.muted` — a machine, or the end of a run, with nothing printed.
* `Eval.Deaf`, `Eval.deafness` — code that does not depend on the console, as a trait.
* `Language.PrintsOnly` — a law of languages: the statements of a program do not depend on what was
  printed.

## Main results

* `sketchLanguage_printsOnly` — the sketch language obeys the law.
-/

namespace LiveSketch

/-- The machine with nothing printed. -/
def Machine.muted (m : Machine) : Machine := { m with console := {} }

/-- Machines that differ in nothing but the console. -/
theorem Machine.eq_of_muted {m m' : Machine} (h : m'.muted = m.muted) :
    m' = { m with console := m'.console } := by
  simp only [muted, mk.injEq] at h
  obtain ⟨hs, hj, hc, hb, -⟩ := h
  cases m
  cases m'
  simp_all

namespace Eval

variable {α β : Type}

/-- The end of a run, with nothing printed. -/
def muted : EStateM.Result Halt Machine α → EStateM.Result Halt Machine α
  | .ok a m => .ok a m.muted
  | .error halt m => .error halt m.muted

/-- Code does the same whatever was printed before. -/
def Deaf (code : Eval α) : Prop :=
  ∀ m m' : Machine, m'.muted = m.muted → muted (code m') = muted (code m)

theorem deaf_bind {x : Eval α} {f : α → Eval β} (hx : Deaf x) (hf : ∀ a, Deaf (f a)) :
    Deaf (x >>= f) := by
  intro m m' h
  have hends := hx m m' h
  simp only [bind, EStateM.bind]
  cases hm : x m <;> cases hm' : x m' <;> simp only [hm, hm', muted] at hends
  case ok.ok a n a' n' =>
    injection hends with ha hn
    rw [ha]
    exact hf a n n' hn
  case error.error halt n halt' n' =>
    injection hends with ha hn
    simp only [muted, ha, hn]
  all_goals cases hends

theorem deaf_outcome {x : Eval α} (hx : Deaf x) : Deaf x.outcome := by
  intro m m' h
  have hends := hx m m' h
  simp only [outcome]
  cases hm : x m <;> cases hm' : x m' <;> simp_all [muted]

theorem deaf_enclosed {x : Eval α} (hx : Deaf x) : Deaf x.enclosed := by
  intro m m' h
  have hends := hx m m' h
  have hs : m'.scope = m.scope := (congrArg Machine.scope (Machine.eq_of_muted h) :)
  simp only [enclosed, hs]
  cases hm : x m <;> cases hm' : x m' <;> simp_all [muted, Machine.muted]

theorem deaf_consult {g : Machine → Machine} {f : Machine → Eval α} (hg : Machine.Inner g)
    (hb : Blind f) (hf : ∀ m, Deaf (f m)) : Deaf fun m => f m (g m) := by
  intro m m' h
  have hm := Machine.eq_of_muted h
  have hfm : f m' = f m := by
    rw [hm]
    exact hb m m.board m'.console
  have hgm : (g m').muted = (g m).muted := by
    have hgm' : g m' = { g m with board := m.board, console := m'.console } :=
      (congrArg g hm).trans (hg m m.board m'.console)
    rw [hgm', ← hg.board m]
    rfl
  show muted (f m' (g m')) = muted (f m (g m))
  rw [hfm]
  exact hf m _ _ hgm

theorem deaf_printLine (text : String) : Deaf (printLine text) := by
  intro m m' h
  rw [Machine.eq_of_muted h]
  rfl

theorem deaf_perform (scene : Scene) (name : String) (args : List Datum) (place : Option Place) :
    Deaf (perform scene name args place) := by
  intro m m' h
  rw [Machine.eq_of_muted h, perform_eq, perform_eq]
  dsimp only
  cases m.board.perform? scene name args <;> rfl

/-- Doing the same whatever was printed, as a trait. -/
def deafness : Trait where
  holds := Deaf
  pure _ _ _ h := congrArg (EStateM.Result.ok _) h
  throw _ _ _ h := congrArg (EStateM.Result.error _) h
  bind := deaf_bind
  outcome := deaf_outcome
  enclosed := deaf_enclosed
  consult := deaf_consult
  printLine := deaf_printLine

theorem deafness_heldIn (scene : Scene) : deafness.HeldIn scene := deaf_perform scene

end Eval

/-- The variables and the board that the statements of a program leave, and how they end, do not
depend on what was printed before. -/
def Language.PrintsOnly (L : Language) : Prop :=
  ∀ program table source scene globals board console console',
    let ran := L.run program table source scene globals ⟨board, console⟩
    let ran' := L.run program table source scene globals ⟨board, console'⟩
    ran'.1 = ran.1 ∧ ran'.2.1.board = ran.2.1.board ∧ ran'.2.2 = ran.2.2

/-- **Scripts cannot read what was printed.** -/
theorem sketchLanguage_printsOnly : sketchLanguage.PrintsOnly := by
  intro program table source scene scope board console console'
  let w := { SketchLanguage.world table source scene with atTop := true }
  have h : Eval.Deaf (Evaluator.statements Evaluator.fuel w program.body) :=
    (Evaluator.respects Eval.deafness Evaluator.fuel).statements w (Eval.deafness_heldIn _)
      program.body
  have hends := h { scope, board, console } { scope, board, console := console' } rfl
  simp only [sketchLanguage, SketchLanguage.run]
  generalize Evaluator.statements _ _ _ { scope, board, console } = ran at hends ⊢
  generalize Evaluator.statements _ _ _ { scope, board, console := console' } = ran' at hends ⊢
  cases ran <;> cases ran' <;> simp only [Eval.muted] at hends
  case ok.ok d m d' m' =>
    injection hends with _ hm
    rw [Machine.eq_of_muted hm]
    exact ⟨rfl, rfl, rfl⟩
  case error.error halt m halt' m' =>
    injection hends with hh hm
    rw [hh, Machine.eq_of_muted hm]
    cases halt <;> exact ⟨rfl, rfl, rfl⟩
  all_goals cases hends

end LiveSketch
