import LiveSketch.Proofs.Script.Deeds

/-!
# Which definition of a function counts

Functions are known by their name and the number of their parameters. A source text that is taken up
puts its functions on top of those that are there, and nothing else touches the table. So of all
source texts that were taken up, the newest that defines a function decides what a call runs.

## Main definitions

* `Language.definitions` — the functions that a source text defines.
* `Deed.newest` — the newest definition of a function.

## Main results

* `FunctionTable.find?_merge` — a new definition counts, and an old one where there is no new one.
* `ScriptEngine.traced_functions` — the table holds the newest definitions.
-/

namespace LiveSketch

namespace FunctionTable

variable {β : Type} (table new : FunctionTable β)

/-- Leaving out entries by their signature leaves the other functions alone. -/
theorem find?_filter (keep : Signature → Bool) (s : Signature) :
    find? (table.filter fun entry => keep entry.1) s = if keep s then table.find? s else none := by
  induction table with
  | nil => simp [find?]
  | cons entry rest ih =>
    obtain ⟨t, body⟩ := entry
    simp only [find?, List.filter_cons] at ih ⊢
    by_cases hst : s = t
    · subst hst
      cases hk : keep s
      · simpa [hk] using ih
      · simp
    · have hne : (s == t) = false := beq_false_of_ne hst
      cases hk : keep t <;> simp [List.lookup_cons, hne, ih]

/-- **A new definition counts, and an old one where there is no new one.** -/
@[simp] theorem find?_merge (s : Signature) :
    (table.merge new).find? s = (new.find? s).or (table.find? s) := by
  have hold := find?_filter table (fun t => (new.find? t).isNone) s
  unfold merge
  show List.lookup s (_ ++ new) = _
  rw [List.lookup_append]
  show (find? (table.filter fun entry => (new.find? entry.1).isNone) s).or (new.find? s) = _
  rw [hold]
  cases new.find? s <;> simp

theorem has_merge (name : String) (arity : Nat) :
    (table.merge new).has name arity = (new.has name arity || table.has name arity) := by
  simp [has]

end FunctionTable

/-- The functions that a source text defines. -/
def Language.definitions (L : Language) (text : String) : FunctionTable L.Body :=
  match L.compile text with
  | .ok program => L.functions program
  | .error _ => []

variable {L : Language}

/-- The newest definition of a function among the source texts that were taken up. -/
def Deed.newest (L : Language) (s : Signature) : List Deed → Option L.Body
  | [] => none
  | .applied _ text :: rest => (newest L s rest).or ((L.definitions text).find? s)
  | .found _ :: rest => newest L s rest
  | .hooked _ :: rest => newest L s rest

@[simp] theorem Deed.newest_append (s : Signature) (deeds more : List Deed) :
    newest L s (deeds ++ more) = (newest L s more).or (newest L s deeds) := by
  induction deeds with
  | nil => simp [newest]
  | cons deed rest ih => cases deed <;> simp [newest, ih, Option.or_assoc]

namespace ScriptEngine

/-- A merge removes no function. -/
theorem merged_hasFunction {b : Bench L} (program : L.Program) (origin : Path) {name : String}
    {arity : Nat} (h : b.1.engine.hasFunction name arity) :
    (merged program origin b).1.engine.hasFunction name arity := by
  rw [merged_eq]
  show FunctionTable.has (FunctionTable.merge _ _) name arity
  rw [FunctionTable.has_merge]
  exact Bool.or_eq_true_iff.mpr (.inr h)

/-- The table of a bench holds the newest definitions, with those it held before below them. -/
def Defines (b : Bench L) (deeds : List Deed) (b' : Bench L) : Prop :=
  ∀ s, b'.1.engine.functions.find? s = (Deed.newest L s deeds).or (b.1.engine.functions.find? s)

theorem Defines.of_same {b b' : Bench L} (h : b'.1.engine.functions = b.1.engine.functions) :
    Defines b [] b' := by
  intro s
  rw [h]
  rfl

/-- **The table of functions holds the newest definitions**, whatever becomes of the source texts
after they were taken up. -/
theorem traced_functions : Traced (Defines (L := L)) where
  refl _ := .of_same rfl
  trans h h' s := by
    rw [h' s, h s, Deed.newest_append, Option.or_assoc]
  env _ _ := .of_same rfl
  note _ _ _ := .of_same rfl
  found path b s := rfl
  mark path b := by
    rw [mark_eq]
    exact .of_same rfl
  hooked hook b _ := by
    rw [registerHook_eq]
    exact fun _ => rfl
  takeRequests b := by
    rw [takeRequests_eq]
    exact .of_same rfl
  merged {text program} origin b hc s := by
    rw [merged_eq, FunctionTable.find?_merge]
    simp [Deed.newest, Language.definitions, hc]
  refused {text fault} origin b hc s := by
    have h : FunctionTable.find? ([] : FunctionTable L.Body) s = none := rfl
    simp [Deed.newest, Language.definitions, hc, h]
  runProgram _ _ := .of_same rfl
  discoverEntries _ := .of_same rfl

end ScriptEngine
end LiveSketch
