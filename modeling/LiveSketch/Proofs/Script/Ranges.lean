import LiveSketch.Proofs.Canvas.Blending
import LiveSketch.Proofs.Script.Growth

/-!
# What commands can hold

A script can pass any number to a drawing function. It is moved into the range of what it stands for
before a command is queued, so every position in a command has 32 bits, and so has every size. This
is a property of the board that every function of the sketchpad keeps. So all code keeps it, and so
do source texts and calls.

## Main definitions

* `DrawCommand.InRange` — positions and sizes of 32 bits.
* `Board.InRange`, `keepsRange` — all that waits on a board is in range, as a board order.
* `Language.KeepsRange` — a law of languages: code queues nothing else.

## Main results

* `sketchLanguage_keepsRange` — the sketch language obeys the law.
* `ScriptEngine.steady_inRange`, `ScriptEngine.callFunction_inRange` — source texts and calls.
-/

namespace LiveSketch

/-! ### Numbers -/

/-- What a number is moved into is a range around zero. -/
theorem saturate_mem {lo hi : Int} (hlo : lo ≤ 0) (hhi : 0 ≤ hi) (x : Binary) :
    lo ≤ saturate lo hi x ∧ saturate lo hi x ≤ hi := by
  cases x with
  | nan => exact ⟨hlo, hhi⟩
  | infinite negative =>
    cases negative with
    | true => exact ⟨Int.le_refl lo, Int.le_trans hlo hhi⟩
    | false => exact ⟨Int.le_trans hlo hhi, Int.le_refl hi⟩
  | finite negative m q =>
    rw [saturate]
    dsimp only
    omega

/-- A step that succeeds after another one. -/
theorem exists_ok_of_bind {ε α β : Type} {x : Except ε α} {f : α → Except ε β} {b : β}
    (h : x >>= f = .ok b) : ∃ a, x = .ok a ∧ f a = .ok b := by
  cases x with
  | error cause => cases h
  | ok a => exact ⟨a, rfl, h⟩

/-- The result of a step whose value is converted. -/
theorem exists_of_map_ok {ε α β : Type} {x : Except ε α} {f : α → β} {b : β}
    (h : x.map f = .ok b) : ∃ a, f a = b := by
  cases x with
  | error cause => cases h
  | ok a => exact ⟨a, Except.ok.inj h⟩

namespace Datum

variable {d x y : Datum}

theorem mem_of_coordinate? {n : Int} (h : d.coordinate? = .ok n) :
    -2147483648 ≤ n ∧ n ≤ 2147483647 := by
  obtain ⟨number, rfl⟩ := exists_of_map_ok h
  exact saturate_mem (by decide) (by decide) number

theorem fits_of_point? {p : Point} (h : point? x y = .ok p) : p.fits = true := by
  obtain ⟨px, hx, h⟩ := exists_ok_of_bind h
  obtain ⟨py, hy, h⟩ := exists_ok_of_bind h
  cases h
  exact Point.fits_iff.mpr ⟨mem_of_coordinate? hx, mem_of_coordinate? hy⟩

theorem lt_of_extent? {n : Nat} (h : d.extent? = .ok n) : n < 2 ^ 32 := by
  obtain ⟨number, rfl⟩ := exists_of_map_ok h
  have hmem : 0 ≤ saturate 0 (2 ^ 32 - 1) number ∧ saturate 0 (2 ^ 32 - 1) number ≤ 2 ^ 32 - 1 :=
    saturate_mem (by decide) (by decide) number
  omega

theorem le_of_windowExtent? {n : Nat} (h : d.windowExtent? = .ok n) : n ≤ maxExtent := by
  obtain ⟨extent, -, h⟩ := exists_ok_of_bind h
  split at h
  · cases h
  · next hle =>
    cases h
    exact Nat.not_lt.mp hle

end Datum

/-! ### Commands -/

/-- The positions in a command have 32 bits, and so have its sizes. A window is no larger than its
limit. -/
def DrawCommand.InRange : DrawCommand → Prop
  | rect region _ =>
    (Point.mk region.x region.y).fits = true ∧ region.width < 2 ^ 32 ∧ region.height < 2 ^ 32
  | circle center radius _ => center.fits = true ∧ radius < 2 ^ 32
  | line start stop _ => start.fits = true ∧ stop.fits = true
  | text _ topLeft _ => topLeft.fits = true
  | translate offset => offset.fits = true
  | resize width height => width ≤ maxExtent ∧ height ≤ maxExtent
  | background _ | title _ | cursor _ => True

/-- All that waits is in range. -/
def Board.InRange (b : Board) : Prop := ∀ command ∈ b.waiting, command.InRange

/-- Boards that are in range if an earlier one is. -/
def keepsRange : BoardOrder where
  rel b b' := b.InRange → b'.InRange
  refl _ h := h
  trans h h' hb := h' (h hb)

namespace Board

variable {b b' : Board} {name : String} {args : List Datum} {outcome : Outcome}

theorem queue_inRange (b : Board) {command : DrawCommand} (h : command.InRange) :
    keepsRange.rel b (b.queue command) := by
  intro hb other hother
  rw [queue_waiting] at hother
  rcases List.mem_append.mp hother with hwaits | hlast
  · exact hb other hwaits
  · obtain rfl := List.mem_singleton.mp hlast
    exact h

/-- What a drawing function queues is in range, whatever numbers it is called with. -/
theorem draw?_inRange (h : b.draw? name args = some (b', outcome)) : keepsRange.rel b b' := by
  unfold draw? at h
  split at h
  case h_10 => cases h
  all_goals refine change_rel h fun b'' hb => ?_
  case h_1 =>
    obtain ⟨color, -, hb⟩ := exists_ok_of_bind hb
    cases hb
    refine b.queue_inRange ?_
    trivial
  case h_2 | h_4 =>
    obtain ⟨color, -, hb⟩ := exists_ok_of_bind hb
    cases hb
    exact keepsRange.refl b
  case h_3 =>
    obtain ⟨alpha, -, hb⟩ := exists_ok_of_bind hb
    obtain ⟨color, -, hb⟩ := exists_ok_of_bind hb
    cases hb
    exact keepsRange.refl b
  case h_5 =>
    obtain ⟨corner, hcorner, hb⟩ := exists_ok_of_bind hb
    obtain ⟨width, hwidth, hb⟩ := exists_ok_of_bind hb
    obtain ⟨height, hheight, hb⟩ := exists_ok_of_bind hb
    cases hb
    refine b.queue_inRange ?_
    exact ⟨Datum.fits_of_point? hcorner, Datum.lt_of_extent? hwidth,
      Datum.lt_of_extent? hheight⟩
  case h_6 =>
    obtain ⟨center, hcenter, hb⟩ := exists_ok_of_bind hb
    obtain ⟨radius, hradius, hb⟩ := exists_ok_of_bind hb
    cases hb
    refine b.queue_inRange ?_
    exact ⟨Datum.fits_of_point? hcenter, Datum.lt_of_extent? hradius⟩
  case h_7 =>
    obtain ⟨start, hstart, hb⟩ := exists_ok_of_bind hb
    obtain ⟨stop, hstop, hb⟩ := exists_ok_of_bind hb
    cases hb
    refine b.queue_inRange ?_
    exact ⟨Datum.fits_of_point? hstart, Datum.fits_of_point? hstop⟩
  case h_8 | h_9 =>
    obtain ⟨p, hp, hb⟩ := exists_ok_of_bind hb
    cases hb
    refine b.queue_inRange ?_
    exact Datum.fits_of_point? hp

/-- A window that is asked for is in range, and nothing else that is asked for is queued. -/
theorem ask?_inRange {scene : Scene} (h : b.ask? scene name args = some (b', outcome)) :
    keepsRange.rel b b' := by
  unfold ask? at h
  split at h
  case h_8 => cases h
  all_goals refine change_rel h fun b'' hb => ?_
  case h_1 =>
    obtain ⟨width, hwidth, hb⟩ := exists_ok_of_bind hb
    obtain ⟨height, hheight, hb⟩ := exists_ok_of_bind hb
    cases hb
    refine b.queue_inRange ?_
    exact ⟨Datum.le_of_windowExtent? hwidth, Datum.le_of_windowExtent? hheight⟩
  case h_2 | h_3 =>
    cases hb
    refine b.queue_inRange ?_
    trivial
  case h_4 | h_5 =>
    obtain ⟨hook, -, hb⟩ := exists_ok_of_bind hb
    cases hb
    exact keepsRange.refl b
  case h_6 =>
    split at hb
    · cases hb
      exact keepsRange.refl b
    · cases hb
  case h_7 =>
    cases hb
    exact keepsRange.refl b

/-- Every function of the sketchpad obeys the order, in any scene. -/
theorem keepsRange_allowedIn (scene : Scene) : keepsRange.AllowedIn scene := by
  intro b name args b' outcome h
  simp only [perform?, Option.or_eq_some_iff, Option.map_eq_some_iff, Prod.mk.injEq] at h
  obtain h | ⟨-, h | ⟨-, d, -, rfl, -⟩⟩ := h
  · exact draw?_inRange h
  · exact ask?_inRange h
  · exact keepsRange.refl b

end Board

/-! ### Languages -/

/-- Code queues nothing that is out of range. -/
structure Language.KeepsRange (L : Language) : Prop where
  run : ∀ program table source scene globals ground, ground.board.InRange →
    (L.run program table source scene globals ground).2.1.board.InRange
  call : ∀ name args table source scene globals object ground, ground.board.InRange →
    (L.call name args table source scene globals object ground).2.2.1.board.InRange

/-- **Scripts queue nothing that is out of range**, whatever they run and however it ends. -/
theorem sketchLanguage_keepsRange : sketchLanguage.KeepsRange where
  run program table source scene scope ground :=
    SketchLanguage.run_board (Board.keepsRange_allowedIn scene) program table source scope ground
  call name args table source scene scope object ground :=
    SketchLanguage.call_board (Board.keepsRange_allowedIn scene) name args table source scope
      object ground

/-! ### The engine -/

variable {L : Language}

namespace ScriptEngine

/-- Source texts queue nothing that is out of range. -/
theorem steady_inRange (hL : L.KeepsRange) :
    Steady fun b b' : Bench L => b.1.engine.board.InRange → b'.1.engine.board.InRange where
  refl _ h := h
  trans h h' hb := h' (h hb)
  env _ _ h := h
  note _ _ _ h := h
  request _ _ h := h
  mark path b h := by
    rw [mark_eq]
    exact h
  registerHook hook b h := by
    rw [registerHook_eq]
    exact h
  takeRequests b h := by
    rw [takeRequests_eq]
    exact h
  merged program origin b h := by
    rw [merged_eq]
    exact h
  runProgram program b :=
    hL.run program b.1.engine.functions b.1.engine.source (b.1.engine.scene true)
      b.1.engine.globals ⟨b.1.engine.board, b.1.console⟩
  discoverEntries _ h := h

theorem callFunction_inRange (hL : L.KeepsRange) (name : String) (args : List Value)
    {stage : Stage (ScriptState L)} (h : stage.engine.board.InRange) :
    (callFunction name args stage).1.engine.board.InRange :=
  hL.call name args stage.engine.functions stage.engine.source (stage.engine.scene false)
    stage.engine.globals stage.engine.object ⟨stage.engine.board, stage.console⟩ h

end ScriptEngine

end LiveSketch
