import LiveSketch.Proofs.Session.Film
import LiveSketch.Proofs.Session.Surroundings

/-!
# What is carried through the operations of a session

Statements about failures, snapshots and frames concern three things at once: the session, what
happened on screen so far, and the failures that are *due*. A phase returns all its failures before
the first of them is handled, so between being raised and being handled they belong to no state. A
relation between these three is carried through every operation of a session if each building block
carries it.

## Where a step opens

Two things come before anything in a step can fail. Starting a loaded sketch makes the session run,
and a draw in the error state paints the overlay, over which a failure of the drawing defaults is
passed over. Neither is like anything else, so a relation is carried from where a step *opens*, and
what the opening does to it is left to each relation.

## Main definitions

* `Session.SameScreen` — sessions that agree in what overlays and copies depend on.
* `Session.Carried` — relations that the building blocks carry.
* `Session.opened`, `Session.target` — where a step opens, and the file that it reloads.

## Main results

* `Session.Carried.perform` — every step carries them.
-/

namespace LiveSketch

/-- The failure of decoding the file that is reloaded. -/
def Undecodable (files : FileTree) (target : Option Path) (failure : Failure) : Prop :=
  ∃ path bytes, target = some path ∧ files.read path = .ok bytes ∧
    decodeSource path bytes = .error failure

namespace Session

variable {σ η : Type} {e : Engine σ η} {film : Film} {s t : Session σ η} {due : List Failure}

/-! ### The screen -/

/-- Two sessions that agree in everything that copies and overlays depend on. -/
structure SameScreen (s t : Session σ η) : Prop where
  status : t.status = s.status
  lastGoodFrame : t.lastGoodFrame = s.lastGoodFrame
  error : t.error = s.error

/-- Hooks and entry points alone do not fail a session. -/
theorem phase_sameScreen (e : Engine σ η) (p : Phase) {prepare : Session σ η → Session σ η}
    (hp : ∀ t, SameScreen s t → SameScreen s (prepare t)) :
    SameScreen s (s.phase e p prepare).1 := by
  have hcall : ∀ handle args t, SameScreen s t → SameScreen s (Session.call e handle args t).1 :=
    fun _ _ _ h => ⟨h.status, h.lastGoodFrame, h.error⟩
  have hannounce : ∀ handle t, SameScreen s t → SameScreen s (Session.announce e p handle t) :=
    fun _ _ h => ⟨h.status, h.lastGoodFrame, h.error⟩
  exact s.context.hooks.invokePhase_keeps hcall hannounce hp p _ _ ⟨rfl, rfl, rfl⟩

theorem applyDefaults_sameScreen (e : Engine σ η) (s : Session σ η) :
    SameScreen s (s.applyDefaults e).1 := by
  unfold applyDefaults
  split
  · exact ⟨rfl, rfl, rfl⟩
  · next handle _ =>
    have h : SameScreen s (s.call e handle []).1 := ⟨rfl, rfl, rfl⟩
    generalize s.call e handle [] = ran at h ⊢
    obtain ⟨t, failure | value⟩ := ran
    · exact h
    · exact h

theorem evaluate_sameScreen (e : Engine σ η) (source : String) (path : Path) (forced : Bool)
    (s : Session σ η) : SameScreen s (s.evaluate e source path forced).1 := by
  rw [evaluate_eq, adopt_eq]
  exact ⟨rfl, rfl, rfl⟩

theorem evaluate_script (e : Engine σ η) (source : String) (path : Path) (forced : Bool)
    (s : Session σ η) : (s.evaluate e source path forced).1.script = s.script := by
  rw [evaluate_eq, adopt_eq]
  rfl

/-- A script file is announced, decoded and evaluated. -/
theorem evaluateBytes_eq (e : Engine σ η) (path : Path) (bytes : List UInt8) (forced : Bool)
    (s : Session σ η) : s.evaluateBytes e path bytes forced =
      match decodeSource path bytes with
      | .ok source => (s.announceReading path bytes.length forced).evaluate e source path forced
      | .error failure => (s.announceReading path bytes.length forced, .error failure) := rfl

/-- An overlay changes the canvas. -/
theorem overlaid_sameScreen (s : Session σ η) : SameScreen s s.overlaid := by
  rw [overlaid]
  split <;> exact ⟨rfl, rfl, rfl⟩

/-- A frame in error changes nothing else. -/
theorem drawError_sameScreen (e : Engine σ η) (s : Session σ η) : SameScreen s (s.drawError e) := by
  have ho := overlaid_sameScreen s
  have hd := applyDefaults_sameScreen e (s.overlaid.sync e)
  rw [drawError_eq]
  generalize (s.overlaid.sync e).applyDefaults e = ran at hd ⊢
  have ht : SameScreen s ran.1 := ⟨hd.status.trans ho.status,
    hd.lastGoodFrame.trans ho.lastGoodFrame, hd.error.trans ho.error⟩
  rcases ran with ⟨t, _ | failure⟩
  · exact ⟨ht.status, ht.lastGoodFrame, ht.error⟩
  · exact ⟨ht.status, ht.lastGoodFrame, ht.error⟩

/-! ### Steps -/

/-- What a step starts from: with a sketch loaded, a run starts from a session that is running. -/
def begun (s : Session σ η) : Operation → Session σ η
  | .run => if s.script.isSome then s.started else s
  | _ => s

/-- The file that a step reloads, if it reloads one. -/
def target (s : Session σ η) : Operation → Option Path
  | .reloadFrom path _ => some path
  | .run | .reload _ | .draw => s.script
  | _ => none

/-- Where a step opens: after the start of a sketch, and after the overlay of a frame in error. -/
def opened (e : Engine σ η) (s : Session σ η) : Operation → Session σ η
  | .run => s.begun .run
  | .draw => match s.status with
    | .error => s.drawError e
    | _ => s
  | _ => s

/-- What happened on screen when a step opens. -/
def filmOpened (s : Session σ η) (film : Film) : Operation → Film
  | .draw => match s.status with
    | .error => s.filmDrawError film
    | _ => film
  | _ => film

/-! ### The building blocks -/

/-- A relation between what happened on screen, a session and the failures that are due, which is
carried on by each building block. The failures of another origin can become due at any time at
which no others are. -/
structure Carried (e : Engine σ η) (other : Failure → Prop)
    (R : Film → Session σ η → List Failure → Prop) : Prop where
  congr : ∀ {film s t due}, R film s due → SameScreen s t →
    (s.script.isSome → t.script.isSome) → t.stage.engine = s.stage.engine → R film t due
  sync : ∀ {film s due}, R film s due → R film (s.sync e) due
  flush : ∀ {film s due}, R film s due → R film (s.flush e) due
  call : ∀ {film s due} handle args, R film s due →
    R film (s.call e handle args).1 (due ++ Failure.ofAnswer (s.call e handle args).2)
  fail : ∀ {film s failure due}, R film s (failure :: due) →
    R (s.filmFail film) (s.fail e failure) due
  drawn : ∀ {film s}, s.status = .running → R film s [] → R (.drawn :: film) s []
  kept : ∀ {film s}, s.status = .running → R film s [] →
    R (.kept s.canvas.captureFrame :: film) s.keepFrame []
  loadDependency : ∀ {film s} path, R film s [] →
    R film { s with
      stage := (e.loadDependency path s.files s.stage s.context).1
      context := (e.loadDependency path s.files s.stage s.context).2.1 }
      (Failure.ofAnswer (e.loadDependency path s.files s.stage s.context).2.2)
  stray : ∀ {film s failure}, other failure → R film s [] → R film s [failure]
  unevaluated : ∀ {film s failure} source path forced,
    (s.evaluate e source path forced).2 = .error failure → R film s [] →
      R film (s.evaluate e source path forced).1 [failure]
  /-- After a reload that fails, the backdrop is the frame that was kept before it. -/
  backdrop : ∀ {film s failure}, s.status ≠ .noSketch →
    (s.status = .running → ∃ image earlier, film = .kept image :: earlier) →
    R film s [failure] → R film (s.enterError e failure s.evaluationBackdrop) []
  evaluated : ∀ {film s} source path forced, s.status ≠ .noSketch →
    (s.evaluate e source path forced).2 = .ok () → R film s [] →
      R (match s.status with | .error => .recovered :: film | _ => film)
        (s.evaluate e source path forced).1.recovered []

namespace Carried

variable {other : Failure → Prop} {R : Film → Session σ η → List Failure → Prop}
  (hR : Carried e other R)
include hR

/-- Log records and the console do not matter. -/
theorem note (h : R film s due) (level : LogLevel) (area : LogArea) (text : String) :
    R film (s.note level area text) due :=
  hR.congr h ⟨rfl, rfl, rfl⟩ id rfl

/-! ### Phases and events -/

theorem failAll (h : R film s due) : R (s.filmFailAll e due film) (s.failAll e due) [] := by
  induction due generalizing s film with
  | nil => exact h
  | cons failure rest ih => exact ih (hR.fail h)

theorem phase (h : R film s []) (p : Phase) {prepare : Session σ η → Session σ η}
    (hp : ∀ u due, R film u due → R film (prepare u) due) :
    R film (s.phase e p prepare).1 (s.phase e p prepare).2 :=
  s.context.hooks.invokePhase_gathers (J := R film)
    (fun handle args _ _ hu => hR.call handle args hu) (fun _ _ _ hu => hR.note hu _ _ _) hp p _ _ h

theorem runPhase (h : R film s []) (p : Phase) :
    R (s.filmRunPhase e p film) (s.runPhase e p) [] :=
  hR.failAll (hR.flush (hR.phase (hR.sync h) p fun _ _ hu => hu))

theorem setup (h : R film s []) : R (s.filmSetup e film) (s.setup e) [] := by
  have hd : R film { s with setupDone := true } [] := hR.congr h ⟨rfl, rfl, rfl⟩ id rfl
  rw [Session.setup, filmSetup]
  generalize { s with setupDone := true } = t at hd ⊢
  cases t.status with
  | running => exact hR.runPhase hd .setup
  | noSketch | error => exact hd

theorem applyDefaults (h : R film s []) :
    R film (s.applyDefaults e).1 (s.applyDefaults e).2.toList := by
  rw [Session.applyDefaults]
  cases s.context.entries.get .defaults with
  | none => exact h
  | some handle =>
    have hc := hR.call handle [] h
    dsimp only
    generalize s.call e handle [] = ran at hc ⊢
    rcases ran with ⟨t, failure | value⟩
    · exact hc
    · exact hc

theorem update (h : R film s []) : R (s.filmUpdate e film) (s.update e) [] := by
  have hd := hR.applyDefaults (hR.sync h)
  rw [Session.update, filmUpdate]
  cases s.status with
  | running =>
    dsimp only
    generalize (s.sync e).applyDefaults e = ran at hd ⊢
    rcases ran with ⟨t, _ | failure⟩
    · exact hR.runPhase hd .update
    · exact hR.fail hd
  | noSketch | error => exact h

theorem exit (h : R film s []) : R (s.filmExit e film) (s.exit e) [] := by
  have hs := hR.sync h
  rw [Session.exit, filmExit]
  generalize s.sync e = t at hs ⊢
  have hrun : R film (t.phase e .exit id).1 (t.phase e .exit id).2 :=
    hR.phase hs .exit fun _ _ hu => hu
  have hpost : R film (t.context.hooks.invokePosthooks (Session.call e) .exit t).1
      ([] ++ (t.context.hooks.invokePosthooks (Session.call e) .exit t).2) :=
    Hooks.runEach_gathers (J := R film) (fun handle args _ _ hu => hR.call handle args hu) _ [] hs
  dsimp only
  cases t.status with
  | running => exact hR.failAll (hR.flush hrun)
  | noSketch | error => exact hR.failAll (hR.flush hpost)

theorem deliver (h : R film s []) (entry : Entry) (args : List Value) :
    R (s.filmDeliver e entry args film) (s.deliver e entry args) [] := by
  rw [Session.deliver, filmDeliver]
  cases s.status with
  | running =>
    cases s.context.entries.get entry with
    | none => exact h
    | some handle =>
      have hc := hR.call handle args
        (hR.sync (hR.note h .trace .input s!"event -> {e.label handle}"))
      dsimp only
      generalize ((s.note .trace .input s!"event -> {e.label handle}").sync e).call e handle args
        = ran at hc ⊢
      rcases ran with ⟨t, failure | value⟩
      · exact hR.fail (hR.flush hc)
      · exact hR.flush hc
  | noSketch | error => exact h

theorem input (h : R film s []) (event : InputEvent) :
    R (s.filmInput e event film) (s.input e event) [] := by
  have hd : R film (s.delivery event).1 [] := by
    cases event <;> exact hR.congr h ⟨rfl, rfl, rfl⟩ id rfl
  rw [input_eq]
  exact hR.deliver hd _ _

/-! ### Frames -/

theorem continuePress (h : R film s []) :
    R (s.filmContinuePress e film) (s.continuePress e) [] := by
  rw [Session.continuePress, filmContinuePress]
  cases s.status with
  | running =>
    cases s.pointer.continuedPress with
    | none => exact h
    | some press => exact hR.deliver h _ _
  | noSketch | error => exact h

theorem drawRunning (h : R film s []) (hs : s.status = .running) :
    R (s.filmDrawRunning e film) (s.drawRunning e) [] := by
  have hprepare : ∀ u due, R film u due → R film (prepareFrame e u) due :=
    fun u due hu => hR.congr (hR.flush hu) ⟨rfl, rfl, rfl⟩ id rfl
  have hp := hR.phase (hR.sync h) .draw hprepare
  have hstatus : ((s.sync e).phase e .draw (prepareFrame e)).1.status = .running := by
    have hsame : SameScreen (s.sync e) ((s.sync e).phase e .draw (prepareFrame e)).1 :=
      phase_sameScreen e .draw fun _ h => ⟨h.status, h.lastGoodFrame, h.error⟩
    exact hsame.status.trans hs
  rw [Session.drawRunning, filmDrawRunning]
  generalize (s.sync e).phase e .draw (prepareFrame e) = ran at hp hstatus ⊢
  rcases ran with ⟨t, failures⟩
  have hf := hR.failAll hp
  have hd : R (if failures.isEmpty then .drawn :: t.filmFailAll e failures film
      else t.filmFailAll e failures film) (t.failAll e failures) [] := by
    cases failures with
    | nil => exact hR.drawn hstatus hp
    | cons failure rest => exact hf
  exact hR.continuePress (hR.congr (hR.flush hd) ⟨rfl, rfl, rfl⟩ id rfl)

/-! ### Reloads -/

/-- An evaluation that succeeds ends in a session that is running, maybe after another setup. -/
theorem succeed (source : String) (path : Path) (reset : Bool) (hs : s.status ≠ .noSketch)
    (hok : (s.evaluate e source path reset).2 = .ok ()) (h : R film s []) :
    R ((s.evaluate e source path reset).1.filmSucceed e reset film)
      ((s.evaluate e source path reset).1.succeed e reset) [] := by
  have hrec := hR.evaluated source path reset hs hok h
  have hsame := evaluate_sameScreen e source path reset s
  rw [succeed_eq, filmSucceed, hsame.status]
  split
  · exact hR.setup hrec
  · exact hrec

/-- An evaluation that fails ends in the error state. -/
theorem evaluateSource (source : String) (path : Path) (reset : Bool) (hs : s.status ≠ .noSketch)
    (hcopy : s.status = .running → ∃ image earlier, film = .kept image :: earlier)
    (h : R film s []) :
    R (match s.evaluate e source path reset with
        | (t, .ok ()) => t.filmSucceed e reset film
        | (_, .error _) => film)
      (match s.evaluate e source path reset with
        | (t, .ok ()) => ((t.succeed e reset, none) : Session σ η × Option FatalError)
        | (t, .error failure) => (t.enterError e failure t.evaluationBackdrop, none)).1 [] := by
  have hsame := evaluate_sameScreen e source path reset s
  have hok := fun hok => hR.succeed source path reset hs hok h
  have hfailed := fun failure (hf : (s.evaluate e source path reset).2 = .error failure) =>
    hR.unevaluated source path reset hf h
  generalize s.evaluate e source path reset = ran at hsame hok hfailed ⊢
  rcases ran with ⟨t, failure | _⟩
  · exact hR.backdrop (hsame.status.symm ▸ hs) (hsame.status.symm ▸ hcopy) (hfailed failure rfl)
  · exact hok rfl

/-- The frame of a running sketch is kept before a reload. -/
theorem keepFrame (h : R film s []) : R (s.filmKeepFrame film) s.keepFrame [] := by
  rw [filmKeepFrame]
  cases hs : s.status with
  | running => exact hR.kept hs h
  | noSketch | error =>
    rw [Session.keepFrame, hs]
    exact h

theorem reloadFrom (film : Film) (h : R film s []) (path : Path) (forced : Bool)
    (hd : ∀ bytes failure, s.files.read path = .ok bytes →
      decodeSource path bytes = .error failure → other failure) :
    R (s.filmReloadFrom e path forced film) (s.reloadFrom e path forced).1 [] := by
  rw [Session.reloadFrom, filmReloadFrom]
  by_cases hs : s.status = .noSketch
  · rw [if_pos hs, if_pos hs]
    exact hR.note h _ _ _
  · rw [if_neg hs, if_neg hs]
    dsimp only
    have hk := hR.keepFrame h
    have hstatus : s.keepFrame.status = s.status := keepFrame_status
    have hcopy : s.keepFrame.status = .running →
        ∃ image earlier, s.filmKeepFrame film = .kept image :: earlier := by
      intro hrun
      refine ⟨s.canvas.captureFrame, film, ?_⟩
      rw [filmKeepFrame, ← hstatus, hrun]
    generalize (forced || decide (s.status = .error)) = reset
    rw [keepFrame_files]
    generalize s.filmKeepFrame film = kept at hk hcopy ⊢
    generalize s.keepFrame = u at hk hcopy hstatus ⊢
    cases hread : s.files.read path with
    | error cause => exact hk
    | ok bytes =>
      have ha : R kept (u.announceReading path bytes.length reset) [] :=
        hR.congr hk ⟨rfl, rfl, rfl⟩ id rfl
      have hne : (u.announceReading path bytes.length reset).status ≠ .noSketch :=
        fun hn => hs (hstatus.symm.trans hn)
      have hcopied : (u.announceReading path bytes.length reset).status = .running →
        ∃ image earlier, kept = .kept image :: earlier := hcopy
      dsimp only
      rw [evaluateBytes_eq]
      generalize u.announceReading path bytes.length reset = v at ha hne hcopied ⊢
      cases hdec : decodeSource path bytes with
      | error failure =>
        exact hR.backdrop hne hcopied (hR.stray (hd bytes failure hread hdec) ha)
      | ok source =>
        exact hR.evaluateSource source path reset hne hcopied ha

theorem reload (film : Film) (h : R film s []) (forced : Bool)
    (hd : ∀ failure, Undecodable s.files s.script failure → other failure) :
    R (s.filmReload e forced film) (s.reload e forced).1 [] := by
  rw [Session.reload, filmReload]
  cases hp : s.script with
  | none => exact hR.note h _ _ _
  | some path =>
    exact hR.reloadFrom _ h path forced fun bytes failure hr hf =>
      hd failure ⟨path, bytes, hp, hr, hf⟩

theorem reloadChanged (h : R film s []) (path : Path) :
    R (s.filmReloadChanged e path film) (s.reloadChanged e path) [] := by
  have hl := hR.loadDependency path h
  rw [Session.reloadChanged, filmReloadChanged]
  generalize e.loadDependency path s.files s.stage s.context = ran at hl ⊢
  rcases ran with ⟨stage, context, failure | _⟩
  · exact hR.fail hl
  · exact hl

theorem applyChange (h : R film s []) (change : WatchChange)
    (hd : ∀ failure, Undecodable s.files s.script failure → other failure) :
    R (s.filmApplyChange e change film) (s.applyChange e change).1 [] := by
  have ha : R film (s.announceChange change) [] := hR.congr h ⟨rfl, rfl, rfl⟩ id rfl
  rw [applyChange_eq, filmApplyChange]
  split
  · exact hR.reload _ ha false hd
  · have haround := (lasting_around (e := e) s).reloaded.reloadChanged change.path
      (s := s.announceChange change) (.of_eq rfl rfl rfl)
    refine hR.reload _ (hR.reloadChanged ha change.path) false ?_
    rw [haround.files, haround.script]
    exact hd

theorem applyChanges (film : Film) (h : R film s []) (changes : List WatchChange)
    (hd : ∀ failure, Undecodable s.files s.script failure → other failure) :
    R (s.filmApplyChanges e changes film) (s.applyChanges e changes).1 [] := by
  induction changes generalizing s film with
  | nil => exact h
  | cons change rest ih =>
    have hc := hR.applyChange h change hd
    have haround := (lasting_around (e := e) s).reloaded.applyChange change (.refl s)
    rw [Session.applyChanges, filmApplyChanges]
    generalize s.applyChange e change = ran at hc haround ⊢
    rcases ran with ⟨t, _ | fatal⟩
    · refine ih _ hc ?_
      rw [haround.files, haround.script]
      exact hd
    · exact hc

/-- A draw, after its overlay if it paints one. -/
theorem draw (h : R (s.filmOpened film .draw) (s.opened e .draw) [])
    (hd : ∀ failure, Undecodable s.files s.script failure → other failure) :
    R (s.filmDraw e film) (s.draw e).1 [] := by
  have hf : R (s.filmFrame e film) (s.frame e) [] := by
    rw [opened, filmOpened] at h
    rw [frame, filmFrame]
    cases hs : s.status with
    | error =>
      rw [hs] at h
      exact h
    | running =>
      rw [hs] at h
      exact hR.drawRunning h hs
    | noSketch =>
      rw [hs] at h
      exact h
  obtain ⟨hfiles, -, hscript⟩ := frame_surroundings e s
  rw [← hfiles, ← hscript] at hd
  rw [draw_eq, filmDraw]
  generalize s.filmFrame e film = film' at hf ⊢
  generalize s.frame e = t at hf hd ⊢
  dsimp only
  split
  · rw [checkWatched, filmCheckWatched]
    dsimp only
    rcases t.watcher.tick.1.poll t.files with ⟨watcher, fatal | changes⟩
    · exact hR.congr hf ⟨rfl, rfl, rfl⟩ id rfl
    · have hw : R film' { t with watcher } [] := hR.congr hf ⟨rfl, rfl, rfl⟩ id rfl
      exact hR.applyChanges _ hw changes hd
  · exact hR.congr hf ⟨rfl, rfl, rfl⟩ id rfl

/-! ### Steps -/

theorem run (h : R film (s.begun .run) [])
    (hd : ∀ failure, Undecodable s.files s.script failure → other failure) :
    R (s.filmRun e film) (s.run e).1 [] := by
  rw [run_eq, filmRun]
  rw [begun] at h
  cases hp : s.script with
  | none =>
    rw [hp] at h
    exact hR.note h _ _ _
  | some path =>
    rw [hp, if_pos (Option.isSome_some)] at h
    have hstarted : s.started.files = s.files ∧ s.started.script = s.script := by
      rw [started]
      split <;> exact ⟨rfl, rfl⟩
    refine hR.reload _ h false ?_
    rw [hstarted.1, hstarted.2]
    exact hd

/-- **Every step carries the relation on**, from where it opens. -/
theorem perform (film : Film) (op : Operation) (h : R (s.filmOpened film op) (s.opened e op) [])
    (hd : ∀ failure, Undecodable s.files (s.target op) failure → other failure) :
    R (s.filmPerform e op film) (s.perform e op).1 [] := by
  cases op with
  | install loadPath =>
    show R film (s.installPath loadPath).1 []
    rw [installPath]
    split
    · exact h
    · exact hR.congr h ⟨rfl, rfl, rfl⟩ id rfl
  | load path =>
    show R film (s.load path).1 []
    rw [load]
    split
    · exact h
    · exact h
    · exact hR.congr h ⟨rfl, rfl, rfl⟩ (fun _ => rfl) rfl
  | run => exact hR.run h hd
  | setup => exact hR.setup h
  | update => exact hR.update h
  | draw => exact hR.draw h hd
  | exit => exact hR.exit h
  | reload forced => exact hR.reload _ h forced hd
  | reloadFrom path forced =>
    exact hR.reloadFrom _ h path forced fun bytes failure hr hf =>
      hd failure ⟨path, bytes, rfl, hr, hf⟩
  | event event => exact hR.input h event
  | edit files => exact hR.congr h ⟨rfl, rfl, rfl⟩ id rfl
  | present canvas => exact hR.congr h ⟨rfl, rfl, rfl⟩ id rfl
  | drain stream => exact hR.congr h ⟨rfl, rfl, rfl⟩ id rfl

end Carried

end Session

end LiveSketch
