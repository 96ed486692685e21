import LiveSketch.Script.SketchLanguage

/-!
# What every run of script code has in common

Everything the evaluator does is put together from a few pieces: giving a value, stopping, one piece
of code after another, catching an outcome, forgetting variables, looking at or changing what
belongs to the script, printing, and calling a function of the sketchpad. So a property of code that
the pieces have and pass on is a property of every run, however long it is and however it ends.

## The idea

Such a property is a *trait*. The induction on fuel over all the rules of the evaluator is done here
once, for any trait. What a function of the sketchpad does depends on the scene, so having the trait
there is asked for separately. The uses of the induction need not look at the rules at all.

## Main definitions

* `Machine.Inner`, `Eval.Blind` — changing, and looking at, what belongs to the script.
* `Trait` — a property that the pieces of the evaluator have and pass on.
* `Evaluator.Respects` — every rule of the evaluator has a trait, with a given fuel.

## Main results

* `Evaluator.respects` — every rule has every trait that the sketchpad has, with any fuel.
-/

namespace LiveSketch

/-- A change of the machine that neither looks at the board and the console nor touches them. -/
def Machine.Inner (g : Machine → Machine) : Prop :=
  ∀ m board console, g { m with board, console } = { g m with board, console }

theorem Machine.Inner.board {g : Machine → Machine} (hg : Machine.Inner g) (m : Machine) :
    (g m).board = m.board := by
  have h := hg m m.board m.console
  exact (congrArg Machine.board h :)

theorem Machine.Inner.console {g : Machine → Machine} (hg : Machine.Inner g) (m : Machine) :
    (g m).console = m.console := by
  have h := hg m m.board m.console
  exact (congrArg Machine.console h :)

namespace Eval

variable {α β : Type}

/-- A choice of code that does not look at the board and the console. -/
def Blind (f : Machine → Eval α) : Prop := ∀ m board console, f { m with board, console } = f m

/-- A function of the sketchpad or a built-in one, called from a place. -/
def perform (scene : Scene) (name : String) (args : List Datum) (place : Option Place) :
    Eval Turn := do
  let m ← get
  match m.board.perform? scene name args with
  | some (board, outcome) =>
    set { m with board }
    pure (.ofAnswer place (Library.answer outcome))
  | none =>
    match Library.find? name args with
    | some answer => pure (.ofAnswer place answer)
    | none => pure (.stopped (.unknownFunction (signature name args)) place)

/-- The sketchpad answers and changes the board, or nothing but an answer comes of the call. -/
theorem perform_eq (scene : Scene) (name : String) (args : List Datum) (place : Option Place)
    (m : Machine) : perform scene name args place m =
      match m.board.perform? scene name args with
      | some (board, outcome) => .ok (.ofAnswer place (Library.answer outcome)) { m with board }
      | none => .ok (match Library.find? name args with
        | some answer => .ofAnswer place answer
        | none => .stopped (.unknownFunction (signature name args)) place) m := by
  have h : perform scene name args place m =
      (match m.board.perform? scene name args with
      | some (board, outcome) => (do
        set { m with board }
        pure (Turn.ofAnswer place (Library.answer outcome)) : Eval Turn)
      | none => match Library.find? name args with
        | some answer => pure (Turn.ofAnswer place answer)
        | none => pure (Turn.stopped (.unknownFunction (signature name args)) place)) m := rfl
  rw [h]
  generalize m.board.perform? scene name args = made
  generalize Library.find? name args = found
  obtain _ | ⟨board, outcome⟩ := made
  · cases found <;> rfl
  · rfl

end Eval

/-- A property of code that the pieces of the evaluator have and pass on. -/
structure Trait where
  holds {α : Type} : Eval α → Prop
  pure {α : Type} (a : α) : holds (Pure.pure a)
  throw {α : Type} (halt : Halt) : holds (α := α) (MonadExcept.throw halt)
  bind {α β : Type} {x : Eval α} {f : α → Eval β} : holds x → (∀ a, holds (f a)) → holds (x >>= f)
  outcome {α : Type} {x : Eval α} : holds x → holds x.outcome
  enclosed {α : Type} {x : Eval α} : holds x → holds x.enclosed
  /-- Code that follows a look at the machine and a change of it. -/
  consult {α : Type} {g : Machine → Machine} {f : Machine → Eval α} : Machine.Inner g →
    Eval.Blind f → (∀ m, holds (f m)) → holds fun m => f m (g m)
  printLine (text : String) : holds (Eval.printLine text)

/-- The functions of the sketchpad have the trait in this scene. -/
def Trait.HeldIn (T : Trait) (scene : Scene) : Prop :=
  ∀ name args place, T.holds (Eval.perform scene name args place)

namespace Eval

variable {α β : Type} {T : Trait}

/-- Code that has a trait. -/
def Has (T : Trait) (code : Eval α) : Prop := T.holds code

@[grind ←] theorem has_pure (a : α) : Has T (pure a : Eval α) := T.pure a

@[grind ←] theorem has_throw (halt : Halt) : Has T (throw halt : Eval α) := T.throw halt

@[grind ←] theorem has_stop (cause : Cause) (place : Option Place) :
    Has T (stop cause place : Eval α) :=
  T.throw _

@[grind ←] theorem has_resume (result : Except Halt α) : Has T (resume result) := by
  cases result with
  | ok a => exact has_pure a
  | error halt => exact has_throw halt

@[grind ←] theorem has_printLine (text : String) : Has T (printLine text) := T.printLine text

@[grind ←] theorem has_bind {x : Eval α} {f : α → Eval β} (hx : Has T x)
    (hf : ∀ a, Has T (f a)) : Has T (x >>= f) :=
  T.bind hx hf

@[grind ←] theorem has_outcome {x : Eval α} (hx : Has T x) : Has T x.outcome := T.outcome hx

@[grind ←] theorem has_enclosed {x : Eval α} (hx : Has T x) : Has T x.enclosed := T.enclosed hx

/-- Code that first looks at what belongs to the script. -/
theorem has_get_bind {f : Machine → Eval α} (hf : Blind f) (h : ∀ m, Has T (f m)) :
    Has T (get >>= f) :=
  T.consult (g := id) (f := f) (fun _ _ _ => rfl) hf h

/-- Code that first looks at what belongs to the script, and changes it. -/
theorem has_get_set {g : Machine → Machine} {f : Machine → Eval α} (hg : Machine.Inner g)
    (hf : Blind f) (h : ∀ m, Has T (f m)) : Has T (do let m ← get; set (g m); f m) :=
  T.consult (g := g) (f := f) hg hf h

/-- Changing what belongs to the script. -/
theorem has_modify {g : Machine → Machine} (hg : Machine.Inner g) :
    Has T (modify g : Eval PUnit) :=
  T.consult (g := g) (f := fun _ => pure PUnit.unit) hg (fun _ _ _ => rfl) fun _ => has_pure _

@[grind ←] theorem has_declare (name : String) (d : Datum) (constant : Bool) :
    Has T (declare name d constant) :=
  has_modify fun _ _ _ => rfl

@[grind ←] theorem has_assign (name : String) (d : Datum) : Has T (assign name d) :=
  has_modify fun _ _ _ => rfl

@[grind ←] theorem has_assignSubject (d : Datum) : Has T (assignSubject d) :=
  has_modify fun _ _ _ => rfl

theorem has_ite {c : Prop} [Decidable c] {x y : Eval α} (hx : Has T x) (hy : Has T y) :
    Has T (if c then x else y) := by
  split
  · exact hx
  · exact hy

end Eval

@[simp, grind =] theorem World.inside_scene (w : World) : w.inside.scene = w.scene := rfl

@[simp, grind =] theorem World.deeper_scene (w : World) : w.deeper.scene = w.scene := rfl

namespace Evaluator

open Eval

variable {T : Trait} {n : Nat}

/-- Every rule of the evaluator has a trait that the sketchpad has in its scene, with a given
fuel. -/
structure Respects (T : Trait) (n : Nat) : Prop where
  statement (w : World) (hw : T.HeldIn w.scene) s :
    Has T (Evaluator.statement n w s)
  statements (w : World) (hw : T.HeldIn w.scene) body :
    Has T (Evaluator.statements n w body)
  optional (w : World) (hw : T.HeldIn w.scene) e :
    Has T (Evaluator.optional n w e)
  condition (w : World) (hw : T.HeldIn w.scene) e :
    Has T (Evaluator.condition n w e)
  assignment (w : World) (hw : T.HeldIn w.scene) operator target d place :
    Has T (Evaluator.assignment n w operator target d place)
  handling (w : World) (hw : T.HeldIn w.scene) fault name handler :
    Has T (Evaluator.handling n w fault name handler)
  rethrowing (w : World) (hw : T.HeldIn w.scene) fault name handler :
    Has T (Evaluator.rethrowing n w fault name handler)
  choice (w : World) (hw : T.HeldIn w.scene) d cases otherwise :
    Has T (Evaluator.choice n w d cases otherwise)
  keyed (w : World) (hw : T.HeldIn w.scene) d keys :
    Has T (Evaluator.keyed n w d keys)
  repeating (w : World) (hw : T.HeldIn w.scene) guard body :
    Has T (Evaluator.repeating n w guard body)
  repeatingUntil (w : World) (hw : T.HeldIn w.scene) body guard stopOn :
    Has T (Evaluator.repeatingUntil n w body guard stopOn)
  going (w : World) (hw : T.HeldIn w.scene) name counter body count supply :
    Has T (Evaluator.going n w name counter body count supply)
  expression (w : World) (hw : T.HeldIn w.scene) e :
    Has T (Evaluator.expression n w e)
  expressions (w : World) (hw : T.HeldIn w.scene) es :
    Has T (Evaluator.expressions n w es)
  operation (w : World) (hw : T.HeldIn w.scene) symbol args place :
    Has T (Evaluator.operation n w symbol args place)
  call (w : World) (hw : T.HeldIn w.scene) name args place :
    Has T (Evaluator.call n w name args place)
  evaluation (w : World) (hw : T.HeldIn w.scene) source place :
    Has T (Evaluator.evaluation n w source place)
  invoke (w : World) (hw : T.HeldIn w.scene) name args method place :
    Has T (Evaluator.invoke n w name args method place)
  enter (w : World) (hw : T.HeldIn w.scene) f object args place :
    Has T (Evaluator.enter n w f object args place)
  interchange (w : World) (hw : T.HeldIn w.scene) text place :
    Has T (Evaluator.interchange n w text place)
  callback (w : World) (hw : T.HeldIn w.scene) callee object args extras place :
    Has T (Evaluator.callback n w callee object args extras place)
  eachItem (w : World) (hw : T.HeldIn w.scene) callee items i place :
    Has T (Evaluator.eachItem n w callee items i place)
  firstItem (w : World) (hw : T.HeldIn w.scene) callee wanted items i place :
    Has T (Evaluator.firstItem n w callee wanted items i place)
  foldItems (w : World) (hw : T.HeldIn w.scene) callee acc items place :
    Has T (Evaluator.foldItems n w callee acc items place)
  placeItem (w : World) (hw : T.HeldIn w.scene) callee d items place :
    Has T (Evaluator.placeItem n w callee d items place)
  sortItems (w : World) (hw : T.HeldIn w.scene) callee done items place :
    Has T (Evaluator.sortItems n w callee done items place)
  dedupItems (w : World) (hw : T.HeldIn w.scene) callee kept items place :
    Has T (Evaluator.dedupItems n w callee kept items place)
  ofItems (w : World) (hw : T.HeldIn w.scene) name items args place :
    Has T (Evaluator.ofItems n w name items args place)
  moves (w : World) (hw : T.HeldIn w.scene) steps :
    Has T (Evaluator.moves n w steps)
  chain (w : World) (hw : T.HeldIn w.scene) root steps store :
    Has T (Evaluator.chain n w root steps store)
  walk (w : World) (hw : T.HeldIn w.scene) target constant path store :
    Has T (Evaluator.walk n w target constant path store)
  method (w : World) (hw : T.HeldIn w.scene) target name args place argPlace :
    Has T (Evaluator.method n w target name args place argPlace)

attribute [grind ←] Respects.statement Respects.statements Respects.optional Respects.condition
  Respects.assignment Respects.handling Respects.rethrowing Respects.choice Respects.keyed
  Respects.repeating Respects.repeatingUntil Respects.going Respects.expression Respects.expressions
  Respects.operation Respects.call Respects.evaluation Respects.invoke Respects.enter
  Respects.interchange Respects.callback Respects.eachItem Respects.firstItem Respects.foldItems
  Respects.placeItem Respects.sortItems Respects.dedupItems Respects.ofItems Respects.moves
  Respects.chain Respects.walk Respects.method

theorem respects_zero : Respects T 0 := by
  constructor <;> intros <;> exact has_stop _ _

/-- The one rule that reaches the board: a function of the sketchpad is performed. -/
@[grind ←] theorem special?_has {w : World} (hw : T.HeldIn w.scene) (name : String)
    (args : List Datum) (place : Option Place) :
    Has T ((special? w name args place).getD (pure default)) := by
  unfold special?
  split
  case h_8 => exact hw _ _ _
  all_goals
    simp only [Option.getD_some]
    grind

section

variable (ih : Respects T n) (w : World) (hw : T.HeldIn w.scene)
include ih hw

theorem statement_has (s : Stmt) : Has T (statement (n + 1) w s) := by
  cases s with
  | attempt body name handler =>
    simp only [statement]
    refine has_bind (has_outcome (ih.statement w hw body)) fun ended => ?_
    split <;> grind
  | declare name constant value place =>
    have bound (d : Datum) : Has T (do
        declare name d constant
        if constant && w.atTop && !w.functions.isEmpty then
          modify fun m => { m with constants := (name, d) :: m.constants }
        pure Datum.unit) := by
      refine has_bind (has_declare name d constant) fun _ => ?_
      split
      · exact has_bind (has_modify fun _ _ _ => rfl) fun _ => has_pure _
      · exact has_pure _
    simp only [statement]
    cases value with
    | none => exact bound .unit
    | some e => exact has_bind (ih.expression w hw e) bound
  | _ =>
    simp only [statement]
    grind

theorem statements_has (body : List Stmt) : Has T (statements (n + 1) w body) := by
  match body with
  | [] => exact has_pure _
  | [s] => exact ih.statement w hw s
  | s :: t :: rest =>
    exact has_bind (ih.statement w hw s) fun _ => ih.statements w hw (t :: rest)

theorem optional_has (e : Option Expr) : Has T (optional (n + 1) w e) := by
  cases e with
  | none => exact has_pure _
  | some e => exact ih.expression w hw e

theorem condition_has (e : Expr) : Has T (condition (n + 1) w e) := by
  simp only [condition]
  grind

theorem assignment_has (operator : Option String) (target : Expr) (d : Datum) (place : Place) :
    Has T (assignment (n + 1) w operator target d place) := by
  unfold assignment
  split
  case h_1 | h_2 =>
    refine has_get_bind (fun _ _ _ => rfl) fun m => ?_
    split <;> grind
  all_goals grind

theorem handling_has (fault : Fault) (name : Option String) (handler : Stmt) :
    Has T (handling (n + 1) w fault name handler) := by
  simp only [handling]
  grind

theorem rethrowing_has (fault : Fault) (name : Option String) (handler : Stmt) :
    Has T (rethrowing (n + 1) w fault name handler) := by
  simp only [rethrowing]
  refine has_bind (has_outcome (has_enclosed ?_)) fun ended => ?_
  · cases name <;> grind
  · split <;> grind

theorem choice_has (d : Datum) (cases : List (List Expr × Option Expr × Stmt))
    (otherwise : Option Stmt) : Has T (choice (n + 1) w d cases otherwise) := by
  match cases, otherwise with
  | [], none => exact has_pure _
  | [], some s => exact ih.statement w hw s
  | (keys, guard, body) :: rest, otherwise =>
    simp only [choice]
    grind

theorem keyed_has (d : Datum) (keys : List Expr) : Has T (keyed (n + 1) w d keys) := by
  cases keys with
  | nil => exact has_pure _
  | cons key rest =>
    simp only [keyed]
    grind

theorem repeating_has (guard : Option Expr) (body : Stmt) :
    Has T (repeating (n + 1) w guard body) := by
  simp only [repeating]
  grind

theorem repeatingUntil_has (body : Stmt) (guard : Expr) (stopOn : Bool) :
    Has T (repeatingUntil (n + 1) w body guard stopOn) := by
  simp only [repeatingUntil]
  grind

theorem going_has (name : String) (counter : Option String) (body : Stmt) (count : Int)
    (supply : Supply) : Has T (going (n + 1) w name counter body count supply) := by
  simp only [going]
  split
  · exact has_pure _
  · refine has_bind (has_outcome (has_enclosed ?_)) fun ended => ?_
    · cases counter <;> grind
    · split <;> grind

theorem expression_has (e : Expr) : Has T (expression (n + 1) w e) := by
  cases e with
  | «variable» name place =>
    simp only [expression]
    refine has_get_bind (fun _ _ _ => rfl) fun m => ?_
    split <;> grind
  | qualified qualifiers name place =>
    simp only [expression]
    refine has_ite (has_get_bind (fun _ _ _ => rfl) fun m => ?_) (has_stop _ _)
    split <;> grind
  | this place =>
    simp only [expression]
    refine has_get_bind (fun _ _ _ => rfl) fun m => ?_
    split <;> grind
  | _ =>
    simp only [expression]
    grind

theorem expressions_has (es : List Expr) : Has T (expressions (n + 1) w es) := by
  cases es with
  | nil => exact has_pure _
  | cons e rest =>
    simp only [expressions]
    grind

theorem operation_has (symbol : String) (args : List Datum) (place : Place) :
    Has T (operation (n + 1) w symbol args place) := by
  unfold operation
  grind

theorem call_has (name : String) (args : List Expr) (place : Place) :
    Has T (call (n + 1) w name args place) := by
  unfold call
  split
  case h_4 e =>
    -- whether a variable of a name is in sight
    refine has_bind (ih.expression w hw e) fun d => ?_
    split
    · exact has_get_bind (fun _ _ _ => rfl) fun m => has_pure _
    · exact has_stop _ _
  case h_7 =>
    -- a variable as the first argument may have been changed by the function
    refine has_bind (ih.expressions w hw _) fun ds => ?_
    refine has_bind (ih.expression w hw _) fun first => ?_
    refine has_bind (ih.invoke w hw _ _ _ _) fun turn => ?_
    refine has_get_bind (fun _ _ _ => rfl) fun m => ?_
    split <;> grind
  all_goals grind

theorem evaluation_has (source : String) (place : Place) :
    Has T (evaluation (n + 1) w source place) := by
  unfold evaluation
  grind

theorem invoke_has (name : String) (args : List Datum) (method : Bool) (place : Option Place) :
    Has T (invoke (n + 1) w name args method place) := by
  unfold invoke
  grind

theorem enter_has (f : Function) (object : Option Datum) (args : List Datum)
    (place : Option Place) : Has T (enter (n + 1) w f object args place) := by
  unfold enter
  split
  · exact has_pure _
  · refine has_get_set (fun _ _ _ => rfl) (fun _ _ _ => rfl) fun m => ?_
    refine has_bind (has_outcome (ih.statement w hw f.body)) fun ended => ?_
    exact has_get_set (fun _ _ _ => rfl) (fun _ _ _ => rfl) fun _ => has_pure _

theorem interchange_has (text : String) (place : Option Place) :
    Has T (interchange (n + 1) w text place) := by
  unfold interchange
  split
  · exact has_pure _
  · next e _ =>
    refine has_get_set (fun _ _ _ => rfl) (fun _ _ _ => rfl) fun m => ?_
    refine has_bind (has_outcome (ih.expression w hw e)) fun ended => ?_
    refine has_bind (has_modify fun _ _ _ => rfl) fun _ => ?_
    split <;> exact has_pure _

theorem callback_has (callee : String × List Datum) (object : Option Datum)
    (args extras : List Datum) (place : Option Place) :
    Has T (callback (n + 1) w callee object args extras place) := by
  obtain ⟨name, bound⟩ := callee
  unfold callback
  grind

theorem eachItem_has (callee : String × List Datum) (items : List Datum) (i : Int)
    (place : Option Place) : Has T (eachItem (n + 1) w callee items i place) := by
  cases items with
  | nil => exact has_pure _
  | cons d rest =>
    simp only [eachItem]
    grind

theorem firstItem_has (callee : String × List Datum) (wanted : Datum → Bool)
    (items : List Datum) (i : Int) (place : Option Place) :
    Has T (firstItem (n + 1) w callee wanted items i place) := by
  cases items with
  | nil => exact has_pure _
  | cons d rest =>
    simp only [firstItem]
    grind

theorem foldItems_has (callee : String × List Datum) (acc : Datum) (items : List (Datum × Int))
    (place : Option Place) : Has T (foldItems (n + 1) w callee acc items place) := by
  cases items with
  | nil => exact has_pure _
  | cons d rest =>
    simp only [foldItems]
    grind

theorem placeItem_has (callee : String × List Datum) (d : Datum) (items : List Datum)
    (place : Option Place) : Has T (placeItem (n + 1) w callee d items place) := by
  cases items with
  | nil => exact has_pure _
  | cons e rest =>
    simp only [placeItem]
    grind

theorem sortItems_has (callee : String × List Datum) (done items : List Datum)
    (place : Option Place) : Has T (sortItems (n + 1) w callee done items place) := by
  cases items with
  | nil => exact has_pure _
  | cons d rest =>
    simp only [sortItems]
    grind

theorem dedupItems_has (callee : String × List Datum) (kept : Datum) (items : List Datum)
    (place : Option Place) : Has T (dedupItems (n + 1) w callee kept items place) := by
  cases items with
  | nil => exact has_pure _
  | cons d rest =>
    simp only [dedupItems]
    refine has_bind (ih.invoke w hw _ _ _ _) fun turn => ?_
    split <;> grind

theorem ofItems_has (name : String) (items args : List Datum) (place : Option Place) :
    Has T (ofItems (n + 1) w name items args place) := by
  unfold ofItems
  split
  case h_5 =>
    -- a function of one argument: which one it is matters only after the argument can be called
    split
    · exact has_pure _
    · split <;> grind
  all_goals grind

theorem moves_has (steps : List Step) : Has T (moves (n + 1) w steps) := by
  cases steps with
  | nil => exact has_pure _
  | cons step rest =>
    simp only [moves]
    grind

theorem chain_has (root : Expr) (steps : List Step) (store : Option Store) :
    Has T (chain (n + 1) w root steps store) := by
  simp only [chain]
  refine has_bind (ih.moves w hw steps) fun path => ?_
  split
  case h_1 | h_2 =>
    refine has_get_bind (fun _ _ _ => rfl) fun m => ?_
    split <;> grind
  all_goals grind

theorem walk_has (target : Datum) (constant : Bool) (path : List Move)
    (store : Option Store) : Has T (walk (n + 1) w target constant path store) := by
  cases path with
  | nil => exact has_pure _
  | cons move rest =>
    simp only [walk]
    refine has_ite (has_pure _) ?_
    split <;> grind

theorem method_has (target : Datum) (name : String) (args : List Datum) (place : Place)
    (argPlace : Option Place) : Has T (method (n + 1) w target name args place argPlace) := by
  unfold method
  split <;> grind

omit hw in
theorem respects_succ : Respects T (n + 1) where
  statement := statement_has ih
  statements := statements_has ih
  optional := optional_has ih
  condition := condition_has ih
  assignment := assignment_has ih
  handling := handling_has ih
  rethrowing := rethrowing_has ih
  choice := choice_has ih
  keyed := keyed_has ih
  repeating := repeating_has ih
  repeatingUntil := repeatingUntil_has ih
  going := going_has ih
  expression := expression_has ih
  expressions := expressions_has ih
  operation := operation_has ih
  call := call_has ih
  evaluation := evaluation_has ih
  invoke := invoke_has ih
  enter := enter_has ih
  interchange := interchange_has ih
  callback := callback_has ih
  eachItem := eachItem_has ih
  firstItem := firstItem_has ih
  foldItems := foldItems_has ih
  placeItem := placeItem_has ih
  sortItems := sortItems_has ih
  dedupItems := dedupItems_has ih
  ofItems := ofItems_has ih
  moves := moves_has ih
  chain := chain_has ih
  walk := walk_has ih
  method := method_has ih

end

/-- **Every rule of the evaluator has every trait that the sketchpad has**, whatever the fuel. -/
theorem respects (T : Trait) (n : Nat) : Respects T n := by
  induction n with
  | zero => exact respects_zero
  | succ n ih => exact respects_succ ih

end Evaluator

end LiveSketch
