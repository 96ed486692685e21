import LiveSketch.Proofs.Session.Carried
import LiveSketch.Script.Engine
import LiveSketch.Script.SketchLanguage

/-!
# What frozen frames show

A failure freezes the screen of a running sketch, and a reload keeps a copy of it. Neither looks at
what is on screen. The overlay is painted in the error state only, and nothing is copied there, so a
copy can only show an overlay that was painted before the session recovered. It does when no frame
was drawn in between: recovery leaves the overlay on screen, and a failure in the setup that
follows, in an event or in another reload freezes it.

## The invariant

`Framed` ties the state of a session to what happened on screen. A session that is not in error has
recovered from every overlay since the last good frame. The other parts say which copies are stored.

## Main definitions

* `Film.Explained` — what is claimed of every copy.
* `Session.Framed` — the invariant.

## Main results

* `Session.carried_framed` — every building block carries it on.
* `Session.frozen_frame_iff` — which copies were taken with an overlay since the last good frame.
-/

namespace LiveSketch

namespace Film

/-- For each copy, there was an overlay since the last good frame exactly if the session recovered
from one. -/
def Explained : Film → Prop
  | [] => True
  | .kept _ :: film => overlaid film = healed film ∧ Explained film
  | .frozen _ :: film => overlaid film = healed film ∧ Explained film
  | _ :: film => Explained film

theorem Explained.copy {later earlier : Film} {event : ScreenEvent} {image : Image}
    (h : Explained (later ++ event :: earlier)) (he : event = .kept image ∨ event = .frozen image) :
    overlaid earlier = healed earlier := by
  induction later with
  | nil => obtain rfl | rfl := he <;> exact h.1
  | cons first rest ih =>
    refine ih ?_
    cases first with
    | kept image => exact h.2
    | frozen image => exact h.2
    | overlaid | drawn | recovered => exact h

/-- Without any copy there is no last good frame. -/
theorem lastKept_eq_none {film : Film} (h : film.lastCopy = none) : film.lastKept = none := by
  induction film with
  | nil => rfl
  | cons event film ih =>
    cases event with
    | kept image => cases h
    | frozen image => cases h
    | overlaid | drawn | recovered => exact ih h

end Film

namespace Session

variable {σ η : Type} {e : Engine σ η} {film : Film} {s t : Session σ η}

/-- What is true of a session and of what happened on screen. -/
structure Framed (film : Film) (s : Session σ η) : Prop where
  lastGoodFrame : s.lastGoodFrame = film.lastKept
  /-- The backdrop of the overlay is the last copy, whichever it is. -/
  backdrop : ∀ snapshot, s.error = some snapshot → snapshot.backdrop = film.lastCopy
  error : s.status = .error ↔ s.error.isSome
  untouched : s.status = .noSketch → film.lastCopy = none
  healed : s.status ≠ .error → film.overlaid = film.healed
  explained : film.Explained

namespace Framed

theorem congr (h : Framed film s) (hs : SameScreen s t) : Framed film t where
  lastGoodFrame := hs.lastGoodFrame.trans h.lastGoodFrame
  backdrop snapshot ht := h.backdrop snapshot (hs.error.symm.trans ht)
  error := by
    rw [hs.status, hs.error]
    exact h.error
  untouched ht := h.untouched (hs.status.symm.trans ht)
  healed ht := h.healed (hs.status ▸ ht)
  explained := h.explained

/-! ### Failures and phases -/

/-- Unless the sketch is running, the backdrop that a failure keeps is the last copy. -/
theorem keptBackdrop (h : Framed film s) (hs : s.status ≠ .running) :
    s.keptBackdrop = film.lastCopy := by
  unfold Session.keptBackdrop
  rw [h.lastGoodFrame]
  cases he : s.error with
  | none =>
    have hn : s.status = .noSketch := by
      cases hst : s.status with
      | noSketch => rfl
      | running => exact absurd hst hs
      | error => exact absurd (h.error.mp hst) (by simp [he])
    rw [h.untouched hn, Film.lastKept_eq_none (h.untouched hn)]
    rfl
  | some snapshot =>
    have hb := h.backdrop snapshot he
    change snapshot.backdrop.or film.lastKept = film.lastCopy
    rw [hb]
    cases hc : film.lastCopy with
    | none => rw [Film.lastKept_eq_none hc]; rfl
    | some image => rfl

/-- Entering the error state, with the last copy as backdrop. -/
theorem enterError (h : Framed film s) (failure : Failure) {backdrop : Option Image}
    (hb : backdrop.or s.keptBackdrop = film.lastCopy) :
    Framed film (s.enterError e failure backdrop) where
  lastGoodFrame := h.lastGoodFrame
  backdrop snapshot hs := by
    cases hs
    exact hb
  error := by simp [Session.enterError]
  untouched hs := by cases hs
  healed hs := absurd rfl hs
  explained := h.explained

/-- There is something for the overlay to show in the error state only. -/
theorem error_eq_none (h : Framed film s) (hs : s.status ≠ .error) : s.error = none := by
  cases he : s.error with
  | none => rfl
  | some snapshot => exact absurd (h.error.mpr (by simp [he])) hs

/-- A copy is taken of the screen of a running sketch. -/
theorem freeze (h : Framed film s) (hs : s.status = .running) (image : Image) :
    Framed (.frozen image :: film) s where
  lastGoodFrame := h.lastGoodFrame
  backdrop snapshot he := by simp [h.error_eq_none (by simp [hs])] at he
  error := h.error
  untouched hn := by simp [hs] at hn
  healed := h.healed
  explained := ⟨h.healed (by simp [hs]), h.explained⟩

theorem fail (h : Framed film s) (failure : Failure) :
    Framed (s.filmFail film) (s.fail e failure) := by
  unfold Session.fail filmFail
  cases hs : s.status with
  | running =>
    refine (h.freeze hs _).enterError failure ?_
    rfl
  | noSketch | error =>
    refine h.enterError failure ?_
    exact h.keptBackdrop (by simp [hs])

/-- A good frame leaves no overlay behind. -/
theorem drawn (h : Framed film s) : Framed (.drawn :: film) s where
  lastGoodFrame := h.lastGoodFrame
  backdrop := h.backdrop
  error := h.error
  untouched := h.untouched
  healed _ := rfl
  explained := h.explained

/-! ### Where steps open -/

/-- A running session, from scratch. -/
theorem of_running (hs : s.status = .running) (he : s.error = none)
    (hl : s.lastGoodFrame = film.lastKept) (hh : film.overlaid = film.healed)
    (hx : film.Explained) : Framed film s where
  lastGoodFrame := hl
  backdrop snapshot hb := by simp [he] at hb
  error := by simp [hs, he]
  untouched hn := by simp [hs] at hn
  healed _ := hh
  explained := hx

theorem started (h : Framed film s) : Framed film s.started := by
  unfold Session.started
  split
  · next hs =>
    have hne : s.status ≠ .error := by simp [hs]
    exact .of_running rfl (h.error_eq_none hne) h.lastGoodFrame (h.healed hne) h.explained
  · exact h

/-- The overlay is painted in the error state, which it does not leave. -/
theorem drawError (h : Framed film s) (hs : s.status = .error) :
    Framed (s.filmDrawError film) (s.drawError e) := by
  refine Framed.congr ?_ (drawError_sameScreen e s)
  unfold filmDrawError
  split
  · exact ⟨h.lastGoodFrame, h.backdrop, h.error, h.untouched, fun hn => absurd hs hn, h.explained⟩
  · exact h

theorem opened (h : Framed film s) (op : Operation) :
    Framed (s.filmOpened film op) (s.opened e op) := by
  cases op with
  | run =>
    show Framed film (s.begun .run)
    rw [begun]
    split
    · exact h.started
    · exact h
  | draw =>
    rw [filmOpened, Session.opened]
    cases hs : s.status with
    | error => exact h.drawError hs
    | running | noSketch => exact h
  | install _ | load _ | setup | update | exit | reload _ | reloadFrom _ _ | event _ | edit _
  | present _ | drain _ => exact h

/-! ### Reloads -/

theorem keepFrame (h : Framed film s) (hs : s.status = .running) :
    Framed (.kept s.canvas.captureFrame :: film) s.keepFrame := by
  have hk : s.keepFrame = { s with lastGoodFrame := some s.canvas.captureFrame } := by
    unfold Session.keepFrame
    rw [hs]
  have hh : film.overlaid = film.healed := h.healed (by simp [hs])
  rw [hk]
  exact .of_running hs (h.error_eq_none (by simp [hs])) rfl hh ⟨hh, h.explained⟩

/-- Recovering heals whatever overlay there was. -/
theorem recovered (h : Framed film s) (hs : s.status ≠ .noSketch) :
    Framed (match s.status with | .error => .recovered :: film | _ => film) s.recovered := by
  have hrec : s.recovered.status = .running ∧ s.recovered.error = none ∧
      s.recovered.lastGoodFrame = s.lastGoodFrame := by
    unfold Session.recovered recover
    split <;> exact ⟨rfl, rfl, rfl⟩
  have hl : s.recovered.lastGoodFrame = film.lastKept := hrec.2.2.trans h.lastGoodFrame
  cases hst : s.status with
  | noSketch => exact absurd hst hs
  | running => exact .of_running hrec.1 hrec.2.1 hl (h.healed (by simp [hst])) h.explained
  | error => exact .of_running hrec.1 hrec.2.1 hl rfl h.explained

/-- While the sketch is running, the frame that was just kept is the backdrop of a failure. -/
theorem evaluationBackdrop (h : Framed film s)
    (hk : s.status = .running → ∃ image earlier, film = .kept image :: earlier) :
    s.evaluationBackdrop.or s.keptBackdrop = film.lastCopy := by
  unfold Session.evaluationBackdrop
  cases hs : s.status with
  | running =>
    obtain ⟨image, earlier, rfl⟩ := hk hs
    rw [h.lastGoodFrame]
    rfl
  | noSketch | error => exact h.keptBackdrop (by simp [hs])

end Framed

/-! ### Steps and runs -/

/-- **Every building block carries the invariant on.** Failures that are due do not matter. -/
theorem carried_framed (e : Engine σ η) :
    Carried e (fun _ => True) fun film s _ => Framed film s where
  congr h hs _ _ := h.congr hs
  sync h := h.congr ⟨rfl, rfl, rfl⟩
  flush h := h.congr ⟨rfl, rfl, rfl⟩
  call _ _ h := h.congr ⟨rfl, rfl, rfl⟩
  fail h := h.fail _
  drawn _ h := h.drawn
  kept hs h := h.keepFrame hs
  loadDependency _ h := h.congr ⟨rfl, rfl, rfl⟩
  stray _ h := h
  unevaluated source path forced _ h := h.congr (evaluate_sameScreen e source path forced _)
  backdrop _ hcopy h := h.enterError _ (h.evaluationBackdrop hcopy)
  evaluated {film s} source path forced hs _ h := by
    have hsame := evaluate_sameScreen e source path forced s
    have hrec := (h.congr hsame).recovered (hsame.status ▸ hs)
    rw [hsame.status] at hrec
    exact hrec

namespace Framed

theorem perform (h : Framed film s) (op : Operation) :
    Framed (s.filmPerform e op film) (s.perform e op).1 :=
  (carried_framed e).perform film op (h.opened op) fun _ _ => trivial

theorem play (h : Framed film s) (ops : List Operation) :
    Framed (s.film e ops film) (s.play e ops) := by
  induction ops generalizing s film with
  | nil => exact h
  | cons op rest ih => exact ih (h.perform op)

end Framed

/-- Nothing has happened yet on the screen of a new session. -/
theorem framed_fresh (engine : σ) (settings : Settings) (canvas : Canvas) (files : FileTree) :
    Framed [] (.fresh engine settings canvas files : Session σ η) where
  lastGoodFrame := rfl
  backdrop _ hs := nomatch hs
  error := by simp [fresh]
  untouched _ := rfl
  healed _ := rfl
  explained := trivial

/-- **Which copies show an overlay.** Whatever operations are asked for and however the files are
edited in between, the last good frame is the copy that the last reload made, and the backdrop of
the overlay is the last copy. A copy was taken with an overlay painted since the last good frame if
and only if the session recovered after it and no good frame was drawn since. -/
theorem frozen_frame_iff (e : Engine σ η) (engine : σ) (settings : Settings) (canvas : Canvas)
    (files : FileTree) (ops : List Operation) :
    let start : Session σ η := .fresh engine settings canvas files
    let film := start.film e ops []
    (start.play e ops).lastGoodFrame = film.lastKept ∧
      (∀ snapshot, (start.play e ops).error = some snapshot →
        snapshot.backdrop = film.lastCopy) ∧
      ∀ (later earlier : Film) (image : Image),
        film = later ++ .kept image :: earlier ∨ film = later ++ .frozen image :: earlier →
          (earlier.overlaid ↔ earlier.healed) := by
  intro start film
  have h : Framed film (start.play e ops) := (framed_fresh engine settings canvas files).play ops
  refine ⟨h.lastGoodFrame, h.backdrop, fun later earlier image hf => ?_⟩
  have hx := h.explained
  obtain hf | hf := hf
  · rw [hf] at hx
    rw [hx.copy (.inl rfl)]
  · rw [hf] at hx
    rw [hx.copy (.inr rfl)]

/-- A sketch is broken, shown in error, repaired, and reloaded once more before the next frame. The
last reload keeps a picture of the overlay. -/
example :
    let start : Session (ScriptState sketchLanguage) ScriptHandle :=
      .fresh (.empty {}) {} (.blank 2 2) (.sketchbook "print(1);" 1000 "" 1000)
    let film := start.film (scriptEngine sketchLanguage)
      [.install ⟨[⟨"/s"⟩]⟩, .load ⟨"/s/main"⟩, .run, .edit (.sketchbook "print(" 2000 "" 1000),
        .reload false, .draw, .edit (.sketchbook "print(2);" 3000 "" 1000), .reload false,
        .reload false] []
    (match film with
    | .kept _ :: earlier => Film.healed earlier
    | _ => false) = true := by
  decide +kernel

end Session

end LiveSketch
