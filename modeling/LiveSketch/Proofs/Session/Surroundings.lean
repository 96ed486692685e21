import LiveSketch.Proofs.Session.Reloads
import LiveSketch.Proofs.Watcher

/-!
# What reloads leave alone

A reload can fail in many ways and run any script code, but it never touches the files, the choice
of the sketch, the time stamp or the countdown. All it does to the watch list is add files at its
end.

## Main definitions

* `Watcher.Grows` — more files at the end of the watch list.
* `Session.Around` — a session later on, its files and its sketch the same, its watch list grown.
* `Session.polled` — what a draw learns from its poll.

## Main results

* `Session.lasting_around` — whatever reloads do.
* `Session.draw_of_polled`, `Session.draw_of_not_polled` — a draw, with and without a poll.
-/

namespace LiveSketch

namespace Watcher

/-- The second watcher watches more files, after those of the first, and differs in nothing else. -/
def Grows (w w' : Watcher) : Prop := ∃ more, w' = { w with files := w.files ++ more }

theorem Grows.refl (w : Watcher) : w.Grows w := ⟨[], by simp⟩

theorem Grows.trans {w w' w'' : Watcher} (h : w.Grows w') (h' : w'.Grows w'') : w.Grows w'' := by
  obtain ⟨more, rfl⟩ := h
  obtain ⟨more', rfl⟩ := h'
  exact ⟨more ++ more', by simp⟩

theorem register_grows (w : Watcher) (path : Path) : w.Grows (w.register path) := by
  unfold register
  split
  · exact .refl w
  · exact ⟨[path], rfl⟩

theorem foldl_register_grows (paths : List Path) (w : Watcher) :
    w.Grows (paths.foldl register w) := by
  induction paths generalizing w with
  | nil => exact .refl w
  | cons path rest ih => exact (register_grows w path).trans (ih _)

namespace Grows

variable {w w' : Watcher} (h : w.Grows w')
include h

theorem files : w.files <+: w'.files := by
  obtain ⟨more, rfl⟩ := h
  exact List.prefix_append _ _

theorem lastSeen : w'.lastSeen = w.lastSeen := by
  obtain ⟨more, rfl⟩ := h
  rfl

theorem framesUntilCheck : w'.framesUntilCheck = w.framesUntilCheck := by
  obtain ⟨more, rfl⟩ := h
  rfl

theorem interval : w'.interval = w.interval := by
  obtain ⟨more, rfl⟩ := h
  rfl

end Grows

end Watcher

namespace Session

variable {σ η : Type} {e : Engine σ η} {s t u : Session σ η}

/-- A session later on: the same files, the same sketch, and maybe more files watched. -/
structure Around (s t : Session σ η) : Prop where
  files : t.files = s.files
  script : t.script = s.script
  watcher : s.watcher.Grows t.watcher

namespace Around

/-- Whatever leaves these three fields alone. -/
theorem of_eq (hf : t.files = s.files) (hw : t.watcher = s.watcher) (hs : t.script = s.script) :
    Around s t := ⟨hf, hs, hw ▸ .refl _⟩

theorem refl (s : Session σ η) : Around s s := of_eq rfl rfl rfl

theorem trans (h : Around s t) (h' : Around t u) : Around s u :=
  ⟨h'.files.trans h.files, h'.script.trans h.script, h.watcher.trans h'.watcher⟩

end Around

/-- **A reload touches neither the files nor the choice of the sketch**, and only adds to the watch
list. -/
theorem lasting_around (s : Session σ η) : Lasting e (Around s) where
  note _ _ _ _ h := h.trans (.of_eq rfl rfl rfl)
  sync _ h := h.trans (.of_eq rfl rfl rfl)
  call _ _ _ h := h.trans (.of_eq rfl rfl rfl)
  flush _ h := h.trans (.of_eq rfl rfl rfl)
  fail t failure h := by
    rw [fail_eq]
    exact h.trans (.of_eq rfl rfl rfl)
  canvas _ _ h := h.trans (.of_eq rfl rfl rfl)
  frameCount _ _ h := h.trans (.of_eq rfl rfl rfl)
  keyHeld _ _ h := h.trans (.of_eq rfl rfl rfl)
  pointer _ _ h := h.trans (.of_eq rfl rfl rfl)
  setupDone _ h := h.trans (.of_eq rfl rfl rfl)
  report _ _ _ h := h.trans (.of_eq rfl rfl rfl)
  evaluate t source path forced h := by
    rw [evaluate_eq, adopt_eq]
    exact h.trans ⟨rfl, rfl, Watcher.foldl_register_grows _ _⟩
  loadDependency _ _ h := h.trans (.of_eq rfl rfl rfl)
  enterError _ _ _ h := h.trans (.of_eq rfl rfl rfl)
  status _ _ _ h := h.trans (.of_eq rfl rfl rfl)
  lastGoodFrame _ _ h := h.trans (.of_eq rfl rfl rfl)

/-! ### Loading -/

theorem installPath_surroundings {loadPath : LoadPath} (h : s.installPath loadPath = (t, none)) :
    t.files = s.files ∧ t.watcher = s.watcher := by
  unfold installPath at h
  split at h
  · cases h
  · cases h
    exact ⟨rfl, rfl⟩

/-- Loading puts the sketch first on the watch list, and raises the time stamp to its time. -/
theorem load_surroundings {path : Path} (h : s.load path = (t, none)) :
    ∃ time resolved, s.files.modified path = .ok time ∧ s.files.canonical path = .ok resolved ∧
      t.files = s.files ∧ t.watcher = (s.watcher.registerPrimary resolved).seed time ∧
      t.script = some resolved := by
  unfold load at h
  split at h
  · cases h
  · cases h
  · next time resolved hm hc =>
    cases h
    exact ⟨time, resolved, hm, hc, rfl, rfl, rfl⟩

/-! ### Draws -/

/-- A frame keeps what surrounds the sketch, up to the countdown. -/
theorem frame_surroundings (e : Engine σ η) (s : Session σ η) :
    (s.frame e).files = s.files ∧ (s.frame e).watcher = s.watcher ∧
      (s.frame e).script = s.script :=
  (kept_surroundings s.files s.watcher s.script).frame ⟨rfl, rfl, rfl⟩

/-- What a draw learns from its poll, if it makes one. -/
def polled (s : Session σ η) : Option (Except FatalError (List WatchChange)) :=
  if s.watcher.tick.2 then some (s.watcher.tick.1.poll s.files).2 else none

/-- A draw without a poll is a frame. -/
theorem draw_of_not_polled (h : s.polled = none) :
    s.draw e = ({ s.frame e with watcher := s.watcher.tick.1 }, none) := by
  have hd : ¬ s.watcher.tick.2 := by
    intro hd
    simp [polled, hd] at h
  rw [draw_eq, (frame_surroundings e s).2.1, if_neg hd]

/-- A draw with a poll reloads what the poll reports, after the frame. -/
theorem draw_of_polled {changes : List WatchChange} (h : s.polled = some (.ok changes)) :
    s.draw e = applyChanges e changes
      { s.frame e with watcher := (s.watcher.tick.1.poll s.files).1 } := by
  unfold polled at h
  split at h
  · next hd =>
    obtain ⟨hf, hw, -⟩ := frame_surroundings e s
    rw [draw_eq, hw, if_pos hd]
    unfold checkWatched
    dsimp only
    rw [hf]
    have hp := Option.some.inj h
    generalize s.watcher.tick.1.poll s.files = polled at hp ⊢
    obtain ⟨w, result⟩ := polled
    subst hp
    rfl
  · cases h

/-- A poll that finds nothing leaves a frame behind, with the time stamp raised. -/
theorem draw_of_nothing (h : s.polled = some (.ok [])) :
    s.draw e = ({ s.frame e with watcher := (s.watcher.tick.1.poll s.files).1 }, none) :=
  draw_of_polled h

end Session

end LiveSketch
