import LiveSketch.Proofs.Session.Surroundings
import LiveSketch.Proofs.Session.Tallies
import LiveSketch.Script.Engine
import LiveSketch.Script.SketchLanguage

/-!
# Frames are counted and polls keep time

A draw can end in many ways. Hooks fail, the entry point fails, a held button is delivered once more
and fails, the poll finds changes and reloads them, or finds that a file is gone. All of these ways
go through two counters, the number of frames and the countdown to the next poll, and a single way
that missed one of them would shift everything after it.

## Why polls keep time

The countdown is started over with the interval, and each draw takes one off, in any state. So the
number of draws so far and what is left of the countdown add up to a multiple of the interval. This
is an invariant of runs, `Watcher.Paced`, and since what is left lies between one and the interval,
it says which draws find a single frame left: those whose number is a multiple of the interval.

Frames are counted elsewhere, in draws that begin while the sketch is running. There is no relation
between the two counters.

## Main definitions

* `Operation.isDraw`, `Session.runningDraws` — draws, and those that began while running.
* `Watcher.Paced` — the countdown after so many draws.

## Main results

* `Session.play_frameCount` — what a run counts.
* `Session.play_paced` — the countdown throughout a run.
* `Session.frames_and_polls` — both counters, and all that is done to the watcher.
-/

namespace LiveSketch

def Operation.isDraw : Operation → Bool
  | .draw => true
  | _ => false

namespace Watcher

variable {period drawn : Nat} {w w' : Watcher}

/-- What is left of the countdown after so many draws completes an interval. -/
structure Paced (period drawn : Nat) (w : Watcher) : Prop where
  interval : w.interval = period
  positive : 1 ≤ w.framesUntilCheck
  bounded : w.framesUntilCheck ≤ period
  completes : period ∣ drawn + w.framesUntilCheck

/-- Before the first draw the countdown is a whole interval. -/
theorem paced_every (interval : Nat) : Paced (max interval 1) 0 (every interval) where
  interval := rfl
  positive := Nat.le_max_right _ _
  bounded := Nat.le_refl _
  completes := by
    rw [Nat.zero_add]
    exact Nat.dvd_refl _

namespace Paced

variable (h : Paced period drawn w)
include h

theorem congr (hi : w'.interval = w.interval) (hf : w'.framesUntilCheck = w.framesUntilCheck) :
    Paced period drawn w' where
  interval := hi.trans h.interval
  positive := hf ▸ h.positive
  bounded := hf ▸ h.bounded
  completes := hf ▸ h.completes

/-- A poll is due at the multiples of the interval. -/
theorem due_iff : w.tick.2 = true ↔ period ∣ drawn + 1 := by
  obtain ⟨-, hpositive, hbounded, hcompletes⟩ := h
  constructor
  · intro hdue
    obtain hlast | hmore := Nat.eq_or_lt_of_le hpositive
    · rwa [← hlast] at hcompletes
    · rw [tick_counts hmore] at hdue
      cases hdue
  · intro hmultiple
    -- two multiples of the interval that are less than one interval apart are the same
    have hgap : period ∣ w.framesUntilCheck - 1 := by
      have hdiff := Nat.dvd_sub hcompletes hmultiple
      rwa [Nat.add_sub_add_left] at hdiff
    have hzero : w.framesUntilCheck - 1 = 0 := Nat.eq_zero_of_dvd_of_lt hgap (by omega)
    exact tick_due (by omega)

/-- A draw takes one off the countdown or starts it over. -/
theorem tick : Paced period (drawn + 1) w.tick.1 := by
  obtain ⟨hinterval, hpositive, hbounded, hcompletes⟩ := h
  rw [Watcher.tick]
  split
  · next hlast =>
    have hone : w.framesUntilCheck = 1 := by omega
    rw [hone] at hcompletes
    refine ⟨hinterval, ?_, ?_, ?_⟩
    · show 1 ≤ w.interval
      omega
    · exact Nat.le_of_eq hinterval
    · rw [hinterval]
      exact Nat.dvd_add hcompletes (Nat.dvd_refl period)
  · refine ⟨hinterval, ?_, ?_, ?_⟩
    · show 1 ≤ w.framesUntilCheck - 1
      omega
    · show w.framesUntilCheck - 1 ≤ period
      omega
    · show period ∣ drawn + 1 + (w.framesUntilCheck - 1)
      have hsame : drawn + 1 + (w.framesUntilCheck - 1) = drawn + w.framesUntilCheck := by omega
      rwa [hsame]

end Paced

end Watcher

namespace Session

variable {σ η : Type} {e : Engine σ η} {s : Session σ η}

/-! ### Frames -/

/-- How many draws of a run begin while the sketch is running. -/
def runningDraws (e : Engine σ η) : List Operation → Session σ η → Nat
  | [], _ => 0
  | op :: rest, s =>
    (if op.isDraw ∧ s.status = .running then 1 else 0) + runningDraws e rest (s.perform e op).1

/-- A step counts one frame or none. -/
theorem perform_frameCount (e : Engine σ η) (op : Operation) (s : Session σ η) :
    (s.perform e op).1.frameCount =
      s.frameCount + if op.isDraw ∧ s.status = .running then 1 else 0 := by
  have hstep : (s.perform e op).1.frameCount = (op.tally s.status s.tallies).frameCount :=
    congrArg Tallies.frameCount (perform_tallies e op s)
  rw [hstep]
  cases op with
  | draw => cases s.status <;> simp [Operation.tally, Operation.isDraw, tallies]
  | event event =>
    cases event <;> simp [Operation.tally, Operation.isDraw, InputEvent.record, tallies]
  | install _ | load _ | run | setup | update | exit | reload _ | reloadFrom _ _ | edit _
  | present _ | drain _ => simp [Operation.tally, Operation.isDraw, tallies]

/-- **A run counts the draws that begin while the sketch is running**, in 64 bits. -/
theorem play_frameCount (e : Engine σ η) (ops : List Operation) (s : Session σ η) :
    (s.play e ops).frameCount = s.frameCount + UInt64.ofNat (s.runningDraws e ops) := by
  induction ops generalizing s with
  | nil => simp [play, runningDraws]
  | cons op rest ih =>
    rw [play, ih, perform_frameCount, runningDraws, UInt64.ofNat_add, UInt64.add_assoc]
    split <;> rfl

/-! ### The countdown -/

/-- Whatever is done but drawing adds files to the watch list. Loading puts the sketch first, and
raises the time stamp to its time. -/
theorem perform_watcher (e : Engine σ η) {op : Operation} (hop : op.isDraw = false)
    (s : Session σ η) : s.watcher.Grows (s.perform e op).1.watcher ∨
      ∃ path time resolved, op = .load path ∧ s.files.modified path = .ok time ∧
        s.files.canonical path = .ok resolved ∧
        (s.perform e op).1.watcher = (s.watcher.registerPrimary resolved).seed time := by
  have haround := lasting_around (e := e) s
  have hsame := kept_surroundings (e := e) s.files s.watcher s.script
  have same {t : Session σ η} (ht : t.watcher = s.watcher) : s.watcher.Grows t.watcher :=
    ht ▸ .refl s.watcher
  cases op with
  | draw => cases hop
  | install loadPath =>
    refine .inl (same ?_)
    rw [perform, installPath]
    split <;> rfl
  | load path =>
    rw [perform]
    rcases hload : s.load path with ⟨t, _ | fatal⟩
    · obtain ⟨time, resolved, htime, hresolved, -, hwatcher, -⟩ := load_surroundings hload
      exact .inr ⟨path, time, resolved, rfl, htime, hresolved, hwatcher⟩
    · refine .inl (same ?_)
      rw [load] at hload
      split at hload <;> cases hload <;> rfl
  | run => exact .inl (haround.reloaded.run (.refl s)).watcher
  | reload forced => exact .inl (haround.reloaded.reload forced (.refl s)).watcher
  | reloadFrom path forced => exact .inl (haround.reloaded.reloadFrom path forced (.refl s)).watcher
  | setup => exact .inl (same (hsame.setup ⟨rfl, rfl, rfl⟩).2.1)
  | update => exact .inl (same (hsame.update ⟨rfl, rfl, rfl⟩).2.1)
  | exit => exact .inl (same (hsame.exit ⟨rfl, rfl, rfl⟩).2.1)
  | event event => exact .inl (same (hsame.event event ⟨rfl, rfl, rfl⟩).2.1)
  | edit _ | present _ | drain _ => exact .inl (.refl s.watcher)

/-- A poll raises the time stamp, and the reloads after it add files to the watch list. -/
theorem checkWatched_watcher (e : Engine σ η) (s : Session σ η) :
    ∃ lastSeen, { s.watcher with lastSeen }.Grows (s.checkWatched e).1.watcher := by
  have hpolled : (s.watcher.poll s.files).1 =
      { s.watcher with lastSeen := (s.watcher.poll s.files).1.lastSeen } := rfl
  refine ⟨(s.watcher.poll s.files).1.lastSeen, ?_⟩
  rw [← hpolled, checkWatched]
  generalize s.watcher.poll s.files = polled
  obtain ⟨watcher, fatal | changes⟩ := polled
  · exact .refl watcher
  · have haround := lasting_around (e := e) { s with watcher }
    exact (haround.reloaded.applyChanges changes (.refl _)).watcher

/-- A draw counts down, once. Then it may poll. -/
theorem draw_watcher (e : Engine σ η) (s : Session σ η) :
    ∃ lastSeen, { s.watcher.tick.1 with lastSeen }.Grows (s.draw e).1.watcher := by
  rw [draw_eq, (frame_surroundings e s).2.1]
  split
  · exact checkWatched_watcher e { s.frame e with watcher := s.watcher.tick.1 }
  · exact ⟨s.watcher.tick.1.lastSeen, .refl _⟩

/-- Draws count down, and nothing else does. -/
theorem perform_paced {period drawn : Nat} (h : s.watcher.Paced period drawn) (e : Engine σ η)
    (op : Operation) :
    (s.perform e op).1.watcher.Paced period (drawn + if op.isDraw then 1 else 0) := by
  by_cases hop : op.isDraw = true
  · rw [if_pos hop]
    cases op with
    | draw =>
      obtain ⟨lastSeen, hgrows⟩ := draw_watcher e s
      exact h.tick.congr hgrows.interval hgrows.framesUntilCheck
    | _ => cases hop
  · rw [if_neg hop]
    obtain hgrows | ⟨path, time, resolved, -, -, -, hloaded⟩ :=
      perform_watcher e (Bool.eq_false_iff.mpr hop) s
    · exact h.congr hgrows.interval hgrows.framesUntilCheck
    · rw [hloaded]
      exact h.congr rfl rfl

/-- **Throughout a run, what is left of the countdown completes an interval of draws.** -/
theorem play_paced {period drawn : Nat} (h : s.watcher.Paced period drawn) (e : Engine σ η)
    (ops : List Operation) :
    (s.play e ops).watcher.Paced period (drawn + ops.countP Operation.isDraw) := by
  induction ops generalizing s drawn with
  | nil => exact h
  | cons op rest ih =>
    rw [play, List.countP_cons, Nat.add_comm (rest.countP _), ← Nat.add_assoc]
    exact ih (perform_paced h e op)

/-- **Frames are counted, and polls keep time.** Whatever engine it is, and whatever operations are
asked for in which order, the number of frames is the number of draws that began while the sketch
was running, in 64 bits: such a draw adds one, whatever fails in it, and nothing else adds anything.
An interval of zero counts as one. The countdown always lies between one and the interval. The draws
that poll are those whose number, among all draws in all states, is a multiple of the interval, and
a frame up to there does nothing to the watcher. Everything but drawing leaves the countdown and the
time stamp alone, but a load raises the time stamp to the time of its file. -/
theorem frames_and_polls (e : Engine σ η) (engine : σ) (settings : Settings) (canvas : Canvas)
    (files : FileTree) (ops : List Operation) :
    let start : Session σ η := .fresh engine settings canvas files
    let s := start.play e ops
    let interval := max settings.watchInterval 1
    let drawn := ops.countP Operation.isDraw
    let framed := { s.frame e with watcher := s.watcher.tick.1 }
    s.frameCount.toNat = start.runningDraws e ops % 2 ^ 64 ∧
      (∀ op, (s.perform e op).1.frameCount =
        s.frameCount + if op.isDraw ∧ s.status = .running then 1 else 0) ∧
      (1 ≤ s.watcher.framesUntilCheck ∧ s.watcher.framesUntilCheck ≤ interval) ∧
      (s.frame e).watcher = s.watcher ∧
      s.draw e = (if interval ∣ drawn + 1 then framed.checkWatched e else (framed, none)) ∧
      ∀ op, op.isDraw = false → s.watcher.Grows (s.perform e op).1.watcher ∨
        ∃ path time resolved, op = .load path ∧ s.files.modified path = .ok time ∧
          s.files.canonical path = .ok resolved ∧
          (s.perform e op).1.watcher = (s.watcher.registerPrimary resolved).seed time := by
  intro start s interval drawn framed
  have hpaced : s.watcher.Paced interval (0 + drawn) :=
    play_paced (Watcher.paced_every settings.watchInterval) e ops
  rw [Nat.zero_add] at hpaced
  have hcount : s.frameCount = 0 + UInt64.ofNat (start.runningDraws e ops) :=
    play_frameCount e ops start
  refine ⟨?_, fun op => perform_frameCount e op s, ⟨hpaced.positive, hpaced.bounded⟩,
    (frame_surroundings e s).2.1, ?_, fun op hop => perform_watcher e hop s⟩
  · rw [hcount, UInt64.zero_add, UInt64.toNat_ofNat']
  · rw [draw_eq, (frame_surroundings e s).2.1]
    simp only [hpaced.due_iff]
    rfl

/-- A sketch whose frame fails is drawn before its start, once while it is running, and once in
error. The next draw is the fourth, so with an interval of two it polls. -/
theorem frames_and_polls_of_broken_sketch :
    let files : FileTree := .sketchbook "fn draw() \x7b throw 1; \x7d" 1000 "" 1000
    let settings : Settings := { watchInterval := 2 }
    let e := scriptEngine sketchLanguage
    let ops : List Operation :=
      [.install ⟨[⟨"/s"⟩]⟩, .load ⟨"/s/main"⟩, .draw, .run, .draw, .draw]
    let s : Session (ScriptState sketchLanguage) ScriptHandle :=
      (Session.fresh (.empty {}) settings (.blank 1 1) files).play e ops
    s.status = .error ∧ s.frameCount.toNat = 1 ∧
      s.draw e = { s.frame e with watcher := s.watcher.tick.1 }.checkWatched e ∧
      s.watcher.Grows (s.perform e (.reload true)).1.watcher := by
  intro files settings e ops
  obtain ⟨hcount, -, -, -, hdraw, hothers⟩ :=
    frames_and_polls e (.empty {}) settings (.blank 1 1) files ops
  let start : Session (ScriptState sketchLanguage) ScriptHandle :=
    .fresh (.empty {}) settings (.blank 1 1) files
  have hrunning : (start.play e ops).status = .error ∧ start.runningDraws e ops = 1 := by
    decide +kernel
  have hdue : max settings.watchInterval 1 ∣ ops.countP Operation.isDraw + 1 := by decide
  obtain hgrows | ⟨path, time, resolved, hload, -⟩ := hothers (.reload true) rfl
  · exact ⟨hrunning.1, hcount.trans (congrArg (· % 2 ^ 64) hrunning.2), hdraw.trans (if_pos hdue),
      hgrows⟩
  · cases hload

end Session

end LiveSketch
