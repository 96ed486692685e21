import LiveSketch.Proofs.Script.Rules

/-!
# What running scripts do to the board

Script code reaches the board only by calling the functions of the sketchpad. So whatever each of
those functions does to a board, any run of code does as well, however long it is and however it
ends.

## The idea

A *board order* is a reflexive and transitive relation between boards, and a scene *allows* it when
every function of the sketchpad obeys it there. Code *keeps* an order when the board it leaves is
related to the board it found. Keeping an order is a trait, so the one induction over the rules of
the evaluator covers it.

The order is a parameter because the same trait answers different questions: which requests can be
added, whether commands are ever taken back, what commands can hold. None of this depends on boards.
A *machine order* relates whole machines, and board orders are those that look at nothing but the
board.

## Main definitions

* `MachineOrder`, `MachineOrder.trait` — an order of machines, and code that leads along it.
* `BoardOrder`, `BoardOrder.AllowedIn` — an order, and a scene in which every function obeys it.
* `Eval.Keeps`, `BoardOrder.trait` — code that obeys an order, as a trait.

## Main results

* `SketchLanguage.exists_run_ground`, `SketchLanguage.exists_call_ground` — whole programs and calls
  lead along every order of machines that the sketchpad leads along.
* `SketchLanguage.run_board`, `SketchLanguage.call_board` — whole programs and calls obey every
  allowed order.
* `SketchLanguage.call_includes` — a call never asks for a file.
-/

namespace LiveSketch

/-- A reflexive and transitive relation between machines that overlooks what belongs to the script,
and what is printed. -/
structure MachineOrder where
  rel : Machine → Machine → Prop
  refl : ∀ m, rel m m
  trans : ∀ {a b c}, rel a b → rel b c → rel a c
  inner : ∀ {g}, Machine.Inner g → ∀ m, rel m (g m)
  printed : ∀ m text, rel m { m with console := m.console.write Console.stdout text }

/-- A reflexive and transitive relation between boards. -/
structure BoardOrder where
  rel : Board → Board → Prop
  refl : ∀ b, rel b b
  trans : ∀ {a b c}, rel a b → rel b c → rel a c

/-- Every function of the sketchpad obeys the order in this scene. -/
def BoardOrder.AllowedIn (O : BoardOrder) (scene : Scene) : Prop :=
  ∀ b name args b' outcome, b.perform? scene name args = some (b', outcome) → O.rel b b'

/-- The order of the boards of machines. -/
def BoardOrder.onMachines (O : BoardOrder) : MachineOrder where
  rel m m' := O.rel m.board m'.board
  refl m := O.refl m.board
  trans := O.trans
  inner hg m := by
    rw [hg.board m]
    exact O.refl m.board
  printed m _ := O.refl m.board

namespace Eval

variable {α β : Type}

/-- The machine that code leaves behind, however it ends. -/
def after (code : Eval α) (m : Machine) : Machine :=
  match code m with
  | .ok _ m => m
  | .error _ m => m

/-- Code relates every machine it finds to the machine it leaves. -/
def Leads (O : MachineOrder) (code : Eval α) : Prop := ∀ m, O.rel m (code.after m)

/-- Code relates every board it finds to the board it leaves. -/
def Keeps (O : BoardOrder) (code : Eval α) : Prop := ∀ m, O.rel m.board (code.after m).board

section

variable {O : MachineOrder}

theorem leads_bind {x : Eval α} {f : α → Eval β} (hx : Leads O x) (hf : ∀ a, Leads O (f a)) :
    Leads O (x >>= f) := by
  intro m
  have h := hx m
  simp only [after, bind, EStateM.bind] at h ⊢
  cases hm : x m with
  | ok a m' =>
    simp only [hm] at h
    exact O.trans h (hf a m')
  | error halt m' => simpa [hm] using h

theorem leads_outcome {x : Eval α} (hx : Leads O x) : Leads O x.outcome := by
  intro m
  have h := hx m
  simp only [after, outcome] at h ⊢
  cases hm : x m <;> simpa [hm] using h

theorem leads_enclosed {x : Eval α} (hx : Leads O x) : Leads O x.enclosed := by
  intro m
  have h := hx m
  -- forgetting variables is a change of what belongs to the script
  have forget : ∀ m', O.rel m m' →
      O.rel m { m' with scope := m'.scope.rewind m.scope.length } := fun m' hm' =>
    O.trans hm' (O.inner (g := fun m' => { m' with scope := m'.scope.rewind m.scope.length })
      (fun _ _ _ => rfl) m')
  simp only [after, enclosed] at h ⊢
  cases hm : x m <;> simp only [hm] at h <;> exact forget _ h

theorem leads_consult {g : Machine → Machine} {f : Machine → Eval α} (hg : Machine.Inner g)
    (hf : ∀ m, Leads O (f m)) : Leads O fun m => f m (g m) :=
  fun m => O.trans (O.inner hg m) (hf m (g m))

end

theorem keeps_perform {O : BoardOrder} {scene : Scene} (hO : O.AllowedIn scene) (name : String)
    (args : List Datum) (place : Option Place) : Keeps O (perform scene name args place) := by
  intro m
  unfold after
  rw [perform_eq]
  cases hp : m.board.perform? scene name args with
  | none => exact O.refl _
  | some made => exact hO _ _ _ _ _ hp

end Eval

/-- Leading from a machine to a related one, as a trait. -/
def MachineOrder.trait (O : MachineOrder) : Trait where
  holds := Eval.Leads O
  pure _ := O.refl
  throw _ := O.refl
  bind := Eval.leads_bind
  outcome := Eval.leads_outcome
  enclosed := Eval.leads_enclosed
  consult hg _ := Eval.leads_consult hg
  printLine _ m := O.printed m _

/-- Obeying an order, as a trait. -/
def BoardOrder.trait (O : BoardOrder) : Trait where
  holds := Eval.Keeps O
  pure := O.onMachines.trait.pure
  throw := O.onMachines.trait.throw
  bind := O.onMachines.trait.bind
  outcome := O.onMachines.trait.outcome
  enclosed := O.onMachines.trait.enclosed
  consult := O.onMachines.trait.consult
  printLine := O.onMachines.trait.printLine

/-- If a scene allows the order, then the functions of the sketchpad have the trait there. -/
theorem BoardOrder.AllowedIn.heldIn {O : BoardOrder} {scene : Scene} (hO : O.AllowedIn scene) :
    O.trait.HeldIn scene :=
  Eval.keeps_perform hO

namespace SketchLanguage

/-- Running the statements of a program leads from the machine it starts with to a related one. -/
theorem exists_run_ground {O : MachineOrder} {scene : Scene} (hO : O.trait.HeldIn scene)
    (program : Program) (table : FunctionTable Function) (source : String) (scope : Scope)
    (ground : Ground) :
    ∃ m, O.rel { scope, board := ground.board, console := ground.console } m ∧
      (run program table source scene scope ground).2.1 = ⟨m.board, m.console⟩ := by
  have h : O.rel _ (Eval.after _ _) := (Evaluator.respects O.trait Evaluator.fuel).statements
    { world table source scene with atTop := true } hO program.body
    { scope, board := ground.board, console := ground.console }
  refine ⟨_, h, ?_⟩
  simp only [run, Eval.after]
  split <;> simp_all

/-- So does calling a function, if there is one. -/
theorem exists_call_ground {O : MachineOrder} {scene : Scene} (hO : O.trait.HeldIn scene)
    (name : String) (args : List Value) (table : FunctionTable Function) (source : String)
    (scope : Scope) (object : Datum) (ground : Ground) :
    ∃ m m', m.board = ground.board ∧ m.console = ground.console ∧ O.rel m m' ∧
      (call name args table source scene scope object ground).2.2.1 = ⟨m'.board, m'.console⟩ := by
  rw [call]
  split
  · exact ⟨{ board := ground.board, console := ground.console }, _, rfl, rfl, O.refl _, rfl⟩
  · next f _ =>
    have h : O.rel _ (Eval.after _ _) := (Evaluator.respects O.trait Evaluator.fuel).statement
      (world table source scene) hO f.body
      { scope := Scope.ofParams f.params (args.map Datum.ofValue) ++ scope
        subject := some object, board := ground.board, console := ground.console }
    refine ⟨_, _, rfl, rfl, h, ?_⟩
    simp only [Eval.after]
    split <;> simp_all

variable {O : BoardOrder} {scene : Scene}

/-- Running the statements of a program obeys every order that is allowed while loading. -/
theorem run_board (hO : O.AllowedIn scene) (program : Program) (table : FunctionTable Function)
    (source : String) (scope : Scope) (ground : Ground) :
    O.rel ground.board (run program table source scene scope ground).2.1.board := by
  obtain ⟨m, hm, hran⟩ := exists_run_ground (O := O.onMachines) hO.heldIn program table source
    scope ground
  rw [hran]
  exact hm

/-- So does calling a function. -/
theorem call_board (hO : O.AllowedIn scene) (name : String) (args : List Value)
    (table : FunctionTable Function) (source : String) (scope : Scope) (object : Datum)
    (ground : Ground) :
    O.rel ground.board (call name args table source scene scope object ground).2.2.1.board := by
  obtain ⟨m, m', hb, -, hm, hran⟩ := exists_call_ground (O := O.onMachines) hO.heldIn name args
    table source scope object ground
  rw [hran, ← hb]
  exact hm

end SketchLanguage

/-! ### Asking for files

`include` is refused unless the statements of a source text are running. -/

/-- Boards that ask for the same files. -/
def sameIncludes : BoardOrder where
  rel b b' := b'.requests.includes = b.requests.includes
  refl _ := rfl
  trans h h' := h'.trans h

namespace Board

/-- A change that is made obeys an order if its result does; a refused one changes nothing. -/
theorem change_rel {O : BoardOrder} {b b' : Board} {made : Except Cause Board} {outcome : Outcome}
    (hc : some (b.change made) = some (b', outcome)) (h : ∀ b'', made = .ok b'' → O.rel b b'') :
    O.rel b b' := by
  cases made with
  | ok b'' =>
    cases hc
    exact h _ rfl
  | error cause =>
    cases hc
    exact O.refl b

theorem draw?_includes {b b' : Board} {name : String} {args : List Datum} {outcome : Outcome}
    (h : b.draw? name args = some (b', outcome)) : sameIncludes.rel b b' := by
  unfold draw? at h
  split at h
  case h_10 => cases h
  all_goals
    refine change_rel h fun b'' hb => ?_
    simp only [bind, Except.bind, pure, Except.pure] at hb
    repeat' split at hb
    all_goals cases hb <;> rfl

theorem ask?_includes {scene : Scene} (hs : scene.loading = false) {b b' : Board} {name : String}
    {args : List Datum} {outcome : Outcome} (h : b.ask? scene name args = some (b', outcome)) :
    sameIncludes.rel b b' := by
  unfold ask? at h
  split at h
  case h_6 => exact change_rel h fun b'' hb => by simp [hs, Datum.refuse] at hb
  case h_8 => cases h
  case h_2 | h_3 | h_7 => exact change_rel h fun b'' hb => by cases hb; rfl
  all_goals
    refine change_rel h fun b'' hb => ?_
    simp only [bind, Except.bind, pure, Except.pure] at hb
    repeat' split at hb
    all_goals cases hb <;> rfl

/-- Outside of loading, no function of the sketchpad asks for a file. -/
theorem sameIncludes_allowedIn {scene : Scene} (hs : scene.loading = false) :
    sameIncludes.AllowedIn scene := by
  intro b name args b' outcome h
  simp only [perform?, Option.or_eq_some_iff, Option.map_eq_some_iff, Prod.mk.injEq] at h
  obtain h | ⟨-, h | ⟨-, d, -, rfl, -⟩⟩ := h
  · exact draw?_includes h
  · exact ask?_includes hs h
  · rfl

end Board

/-- **A call never asks for a file.** -/
theorem SketchLanguage.call_includes {scene : Scene} (hs : scene.loading = false) (name : String)
    (args : List Value) (table : FunctionTable Function) (source : String) (scope : Scope)
    (object : Datum) (ground : Ground) :
    (call name args table source scene scope object ground).2.2.1.board.requests.includes =
      ground.board.requests.includes :=
  call_board (Board.sameIncludes_allowedIn hs) name args table source scope object ground

end LiveSketch
