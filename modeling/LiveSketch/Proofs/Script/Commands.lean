import LiveSketch.Proofs.Script.BoardSteps

/-!
# Scripts take no drawing command back

A drawing function puts one command behind those that wait already, and nothing else that a script
can call touches them. So whatever code does and however it ends, the commands that waited before
are still there, in the same order and before all others. Only drawing them empties the queue.

## Main definitions

* `Board.waiting` — the commands that wait for a canvas.
* `Language.Queues` — a law of languages: code only adds commands, at the end.

## Main results

* `sketchLanguage_queues` — the sketch language obeys the law.
-/

namespace LiveSketch

/-- The commands that wait for a canvas, oldest first. -/
def Board.waiting (b : Board) : List DrawCommand := b.commands.toList

/-- Boards on which the same commands wait, and maybe more after them. -/
def moreCommands : BoardOrder where
  rel b b' := b.waiting <+: b'.waiting
  refl _ := List.prefix_rfl
  trans h h' := h.trans h'

namespace Board

/-- A queued command waits behind the others. -/
theorem queue_waiting (b : Board) (command : DrawCommand) :
    (b.queue command).waiting = b.waiting ++ [command] := by
  simp [waiting, queue]

theorem queue_commands (b : Board) (command : DrawCommand) :
    moreCommands.rel b (b.queue command) := by
  show b.waiting <+: (b.queue command).waiting
  rw [queue_waiting]
  exact List.prefix_append _ _

theorem draw?_commands {b b' : Board} {name : String} {args : List Datum} {outcome : Outcome}
    (h : b.draw? name args = some (b', outcome)) : moreCommands.rel b b' := by
  unfold draw? at h
  split at h
  case h_10 => cases h
  all_goals
    refine change_rel h fun b'' hb => ?_
    simp only [bind, Except.bind, pure, Except.pure] at hb
    repeat' split at hb
    all_goals cases hb <;> first | exact queue_commands b _ | exact moreCommands.refl b

theorem ask?_commands {scene : Scene} {b b' : Board} {name : String} {args : List Datum}
    {outcome : Outcome} (h : b.ask? scene name args = some (b', outcome)) :
    moreCommands.rel b b' := by
  unfold ask? at h
  split at h
  case h_8 => cases h
  case h_2 | h_3 =>
    refine change_rel h fun b'' hb => ?_
    cases hb
    exact queue_commands b _
  case h_7 =>
    refine change_rel h fun b'' hb => ?_
    cases hb
    exact moreCommands.refl b
  all_goals
    refine change_rel h fun b'' hb => ?_
    simp only [bind, Except.bind, pure, Except.pure, Datum.refuse] at hb
    repeat' split at hb
    all_goals cases hb <;> first | exact queue_commands b _ | exact moreCommands.refl b

/-- Every function of the sketchpad obeys the order, in any scene. -/
theorem moreCommands_allowedIn (scene : Scene) : moreCommands.AllowedIn scene := by
  intro b name args b' outcome h
  simp only [perform?, Option.or_eq_some_iff, Option.map_eq_some_iff, Prod.mk.injEq] at h
  obtain h | ⟨-, h | ⟨-, d, -, rfl, -⟩⟩ := h
  · exact draw?_commands h
  · exact ask?_commands h
  · exact moreCommands.refl b

end Board

/-- Code only adds commands, at the end. -/
structure Language.Queues (L : Language) : Prop where
  run : ∀ program table source scene globals ground,
    ground.board.waiting <+:
      (L.run program table source scene globals ground).2.1.board.waiting
  call : ∀ name args table source scene globals object ground,
    ground.board.waiting <+:
      (L.call name args table source scene globals object ground).2.2.1.board.waiting

/-- **Scripts take no command back**, whatever they run and however it ends. -/
theorem sketchLanguage_queues : sketchLanguage.Queues where
  run program table source scene scope ground :=
    SketchLanguage.run_board (Board.moreCommands_allowedIn scene) program table source scope ground
  call name args table source scene scope object ground :=
    SketchLanguage.call_board (Board.moreCommands_allowedIn scene) name args table source scope
      object ground

end LiveSketch
