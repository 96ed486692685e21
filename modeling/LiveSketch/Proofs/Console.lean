import LiveSketch.Console
import Mathlib.Logic.Function.Basic

/-!
# Console text is neither lost nor repeated

A console is written to by scripts and by the lifecycle, and emptied by the host. All of them hold
handles to the same console, so what one of them reads was written by the others, at any time
before. Here whole histories of calls are looked at, through any number of handles.

## The account

What comes in on a stream is what is written to it, and what is logged to it while the console is
verbose. What goes out is what the reads return that empty it. One call balances the two: what it
takes out of a stream and what it leaves there is what was held before and what it brings in. A
history balances by induction on its calls.

## Sharing

A handle is a reference. Cloning it makes another reference to the same console, so of a call only
the console matters that its handle refers to. The calls of one console, through whichever handles,
are a history of that console by itself, and calls of other consoles play no part in it.

## Main definitions

* `Console.Call`, `Console.serveAll` — calls, and histories of them with their answers.
* `Console.incoming`, `Console.received`, `Console.taken` — what comes in, and what goes out.
* `Consoles`, `Consoles.play` — consoles in memory, and steps through handles.

## Main results

* `Console.balance` — what comes in on a stream goes out or is held.
* `Console.names_serveAll` — which streams are listed, and in which order.
* `Consoles.play_of_console` — the calls of one console are a history of its own.
* `Consoles.text_accounted` — all of it, for every sequence of steps.
-/

namespace LiveSketch

namespace Console

/-! ### Streams -/

/-- The first entry of a name counts. -/
theorem buffered_cons (name held stream : String) (rest : List (String × String))
    (verbose : Bool) : buffered ⟨(name, held) :: rest, verbose⟩ stream =
      if name = stream then held else buffered ⟨rest, verbose⟩ stream := by
  rw [buffered, buffered]
  by_cases hname : name = stream <;> simp [hname]

/-- A stream that was emptied holds nothing, and the others hold what they did. -/
theorem buffered_clear (c : Console) (emptied stream : String) :
    (c.clear emptied).buffered stream = if stream = emptied then "" else c.buffered stream := by
  obtain ⟨streams, verbose⟩ := c
  induction streams with
  | nil => simp [clear, buffered]
  | cons entry rest ih =>
    obtain ⟨name, held⟩ := entry
    have hclear : clear ⟨(name, held) :: rest, verbose⟩ emptied =
        ⟨(name, if name = emptied then "" else held) :: (clear ⟨rest, verbose⟩ emptied).streams,
          verbose⟩ := by
      by_cases hn : name = emptied <;> simp [clear, hn]
    have hrest : (⟨(clear ⟨rest, verbose⟩ emptied).streams, verbose⟩ : Console) =
      clear ⟨rest, verbose⟩ emptied := rfl
    rw [hclear, buffered_cons, buffered_cons, hrest, ih]
    split <;> simp [*]

/-- Emptying a stream takes it off no list. -/
theorem names_clear (c : Console) (emptied : String) : (c.clear emptied).names = c.names := by
  simp only [names, clear, List.map_map]
  refine List.map_congr_left fun entry _ => ?_
  by_cases hn : entry.1 = emptied <;> simp [hn]

/-- Text goes to the end of its stream and nowhere else. -/
theorem buffered_write (c : Console) (written text stream : String) :
    (c.write written text).buffered stream =
      c.buffered stream ++ if stream = written then text else "" := by
  rw [write]
  by_cases ht : text = ""
  · simp [ht]
  rw [if_neg ht]
  obtain ⟨streams, verbose⟩ := c
  induction streams with
  | nil =>
    rw [append, buffered_cons]
    by_cases hs : stream = written
    · simp [hs, buffered]
    · simp [hs, Ne.symm hs, buffered]
  | cons entry rest ih =>
    obtain ⟨name, held⟩ := entry
    rw [append]
    by_cases hn : name = written
    · simp only [if_pos hn, buffered_cons]
      by_cases hs : stream = written
      · simp [hs, hn]
      · simp [hs, hn, Ne.symm hs]
    · simp only [if_neg hn, buffered_cons, ih]
      by_cases hs : name = stream
      · have hne : stream ≠ written := fun h => hn (hs.trans h)
        simp [hs, hne]
      · simp [hs]

/-- A stream is listed from its first text on, behind all others. -/
theorem names_write (c : Console) (written text : String) :
    (c.write written text).names =
      if text = "" ∨ written ∈ c.names then c.names else c.names ++ [written] := by
  rw [write]
  by_cases ht : text = ""
  · simp [ht]
  rw [if_neg ht]
  obtain ⟨streams, verbose⟩ := c
  induction streams with
  | nil => simp [names, append, ht]
  | cons entry rest ih =>
    obtain ⟨name, held⟩ := entry
    simp only [names, List.map_cons] at ih ⊢
    rw [append]
    by_cases hn : name = written
    · simp [hn]
    · rw [if_neg hn, List.map_cons, ih]
      by_cases hm : written ∈ rest.map (·.1)
      · simp [hm]
      · have hne : written ≠ name := Ne.symm hn
        simp_all

@[simp] theorem write_verbose (c : Console) (stream text : String) :
    (c.write stream text).verbose = c.verbose := by
  rw [write]
  split <;> rfl

@[simp] theorem log_verbose (c : Console) (stream text : String) :
    (c.log stream text).verbose = c.verbose := by
  rw [log]
  split
  · exact c.write_verbose stream text
  · rfl

/-! ### Calls -/

/-- A call of a console. -/
inductive Call where
  | write (stream text : String)
  | log (stream text : String)
  | read (stream : String) (clearing : Bool)
  | setVerbose (verbose : Bool)
  | streams
deriving DecidableEq

/-- What a call answers. -/
inductive Answer where
  | done
  | text (text : String)
  | names (names : List String)
deriving DecidableEq

namespace Call

/-- The stream that a call is about. -/
def stream? : Call → Option String
  | write stream _ | log stream _ | read stream _ => some stream
  | setVerbose _ | streams => none

/-- The verbosity after a call. -/
def verbosity (verbose : Bool) : Call → Bool
  | setVerbose verbose => verbose
  | write _ _ | log _ _ | read _ _ | streams => verbose

/-- What a call brings in, with the stream that it comes in on. -/
def incoming (verbose : Bool) : Call → List (String × String)
  | write stream text => [(stream, text)]
  | log stream text => if verbose then [(stream, text)] else []
  | read _ _ | setVerbose _ | streams => []

end Call

/-- Serves a call. -/
def serve (c : Console) : Call → Console × Answer
  | .write stream text => (c.write stream text, .done)
  | .log stream text => (c.log stream text, .done)
  | .read stream clearing => ((c.read stream clearing).2, .text (c.read stream clearing).1)
  | .setVerbose verbose => (c.setVerbose verbose, .done)
  | .streams => (c, .names c.names)

/-- A call with its answer. -/
abbrev Exchange := Call × Answer

/-- Serves calls in order. -/
def serveAll : List Call → Console → Console × List Exchange
  | [], c => (c, [])
  | call :: rest, c =>
    let (served, answer) := c.serve call
    let (last, history) := serveAll rest served
    (last, (call, answer) :: history)

theorem serveAll_cons (call : Call) (rest : List Call) (c : Console) :
    serveAll (call :: rest) c = ((serveAll rest (c.serve call).1).1,
      (call, (c.serve call).2) :: (serveAll rest (c.serve call).1).2) := rfl

/-! ### What comes in and what goes out -/

/-- What calls bring in, in their order. -/
def incoming (verbose : Bool) : List Call → List (String × String)
  | [] => []
  | call :: rest => call.incoming verbose ++ incoming (call.verbosity verbose) rest

/-- The text that comes in on a stream. -/
def received (stream : String) (texts : List (String × String)) : String :=
  String.join ((texts.filter fun entry => entry.1 = stream).map (·.2))

/-- The streams that text comes in on, in the order of their first text. -/
def firstReceived (texts : List (String × String)) : List String :=
  ((texts.filter fun entry => entry.2 ≠ "").map (·.1)).eraseDups

/-- What a call takes out of a stream. -/
def takenBy (stream : String) : Exchange → String
  | (.read drained true, .text text) => if drained = stream then text else ""
  | _ => ""

/-- What calls take out of a stream. -/
def taken (stream : String) (history : List Exchange) : String :=
  String.join (history.map (takenBy stream))

theorem received_append (stream : String) (texts more : List (String × String)) :
    received stream (texts ++ more) = received stream texts ++ received stream more := by
  simp [received]

theorem serve_verbose (c : Console) (call : Call) :
    (c.serve call).1.verbose = call.verbosity c.verbose := by
  cases call with
  | write stream text => exact c.write_verbose stream text
  | log stream text => exact c.log_verbose stream text
  | read stream clearing => cases clearing <;> rfl
  | setVerbose verbose => rfl
  | streams => rfl

/-- **One call balances**: what it takes out of a stream and leaves there is what the stream held and
what the call brings in. -/
theorem balance_serve (c : Console) (call : Call) (stream : String) :
    takenBy stream (call, (c.serve call).2) ++ (c.serve call).1.buffered stream =
      c.buffered stream ++ received stream (call.incoming c.verbose) := by
  have written : ∀ target text, (c.write target text).buffered stream =
      c.buffered stream ++ received stream [(target, text)] := by
    intro target text
    rw [buffered_write]
    by_cases hs : stream = target
    · simp [received, hs]
    · simp [received, hs, Ne.symm hs]
  cases call with
  | write target text => simpa [takenBy, serve, Call.incoming] using written target text
  | log target text =>
    by_cases hv : c.verbose
    · simpa [takenBy, serve, log, hv, Call.incoming] using written target text
    · simp [takenBy, serve, log, hv, Call.incoming, received]
  | read target clearing =>
    cases clearing with
    | false => simp [takenBy, serve, read, Call.incoming, received]
    | true =>
      by_cases hs : target = stream
      · simp [takenBy, serve, read, drain, buffered_clear, Call.incoming, received, hs]
      · simp [takenBy, serve, read, drain, buffered_clear, Call.incoming, received, hs, Ne.symm hs]
  | setVerbose verbose =>
    have hsame : (c.setVerbose verbose).buffered stream = c.buffered stream := rfl
    simp [takenBy, serve, Call.incoming, received, hsame]
  | streams => simp [takenBy, serve, Call.incoming, received]

/-- **A history balances**, by induction on its calls. -/
theorem balance (calls : List Call) (c : Console) (stream : String) :
    taken stream (serveAll calls c).2 ++ (serveAll calls c).1.buffered stream =
      c.buffered stream ++ received stream (incoming c.verbose calls) := by
  induction calls generalizing c with
  | nil => simp [serveAll, taken, incoming, received]
  | cons call rest ih =>
    have hrest := ih (c.serve call).1
    rw [serve_verbose] at hrest
    rw [serveAll_cons, incoming, received_append]
    calc taken stream ((call, (c.serve call).2) :: (serveAll rest (c.serve call).1).2) ++
          (serveAll rest (c.serve call).1).1.buffered stream
        = takenBy stream (call, (c.serve call).2) ++
          (taken stream (serveAll rest (c.serve call).1).2 ++
            (serveAll rest (c.serve call).1).1.buffered stream) := by
          simp [taken, String.append_assoc]
      _ = takenBy stream (call, (c.serve call).2) ++ (c.serve call).1.buffered stream ++
          received stream (incoming (call.verbosity c.verbose) rest) := by
          rw [hrest, String.append_assoc]
      _ = c.buffered stream ++ (received stream (call.incoming c.verbose) ++
          received stream (incoming (call.verbosity c.verbose) rest)) := by
          rw [balance_serve, String.append_assoc]

/-- Nothing but a read that empties the stream takes anything out of it. -/
theorem takenBy_of_kept {call : Call} {stream : String} (h : call ≠ .read stream true)
    (answer : Answer) : takenBy stream (call, answer) = "" := by
  cases call with
  | read drained clearing =>
    cases clearing with
    | false => rfl
    | true =>
      have hne : drained ≠ stream := fun hs => h (hs ▸ rfl)
      cases answer <;> simp [takenBy, hne]
  | write _ _ | log _ _ | setVerbose _ | streams => rfl

/-- Where nothing is taken out, all that comes in is held. -/
theorem buffered_serveAll_of_kept {calls : List Call} {stream : String}
    (hkept : Call.read stream true ∉ calls) (c : Console) :
    (serveAll calls c).1.buffered stream =
      c.buffered stream ++ received stream (incoming c.verbose calls) := by
  have hnone : taken stream (serveAll calls c).2 = "" := by
    induction calls generalizing c with
    | nil => rfl
    | cons call rest ih =>
      obtain ⟨hcall, hrest⟩ := not_or.mp (mt List.mem_cons.mpr hkept)
      have hone := takenBy_of_kept (Ne.symm hcall) (c.serve call).2
      rw [serveAll_cons, taken, List.map_cons, String.join_cons, hone]
      simpa [taken] using ih hrest (c.serve call).1
  rw [← balance, hnone, String.empty_append]

/-! ### Which streams there are -/

/-- Text adds a stream to the list, unless there is none of it or the stream is listed. -/
theorem firstReceived_concat (texts : List (String × String)) (stream text : String) :
    firstReceived (texts ++ [(stream, text)]) =
      if text = "" ∨ stream ∈ firstReceived texts then firstReceived texts
      else firstReceived texts ++ [stream] := by
  by_cases ht : text = ""
  · simp [firstReceived, ht]
  have hone : (([(stream, text)] : List (String × String)).filter fun entry => entry.2 ≠ "").map
      (·.1) = [stream] := by simp [ht]
  rw [firstReceived, firstReceived, List.filter_append, List.map_append, hone,
    List.eraseDups_append]
  generalize (texts.filter fun entry => entry.2 ≠ "").map (·.1) = earlier
  by_cases hm : stream ∈ earlier
  · simp [List.removeAll, hm]
  · simp [List.removeAll, ht, hm, List.eraseDups_cons]

/-- A call lists the stream that it brings the first text to, and no other. -/
theorem names_serve {c : Console} {texts : List (String × String)}
    (h : c.names = firstReceived texts) (call : Call) :
    (c.serve call).1.names = firstReceived (texts ++ call.incoming c.verbose) := by
  have written : ∀ stream text,
      (c.write stream text).names = firstReceived (texts ++ [(stream, text)]) := by
    intro stream text
    rw [names_write, firstReceived_concat, ← h]
  cases call with
  | write stream text => exact written stream text
  | log stream text =>
    by_cases hv : c.verbose
    · simpa [serve, log, hv, Call.incoming] using written stream text
    · simpa [serve, log, hv, Call.incoming] using h
  | read stream clearing =>
    cases clearing with
    | false => simpa [serve, read, Call.incoming] using h
    | true => simpa [serve, read, drain, names_clear, Call.incoming] using h
  | setVerbose verbose =>
    have hsame : (c.setVerbose verbose).names = c.names := rfl
    simpa [serve, Call.incoming, hsame] using h
  | streams => simpa [serve, Call.incoming] using h

/-- **The streams of a history** are those that text came in on, in the order of their first text. -/
theorem names_serveAll (calls : List Call) {c : Console} {texts : List (String × String)}
    (h : c.names = firstReceived texts) :
    (serveAll calls c).1.names = firstReceived (texts ++ incoming c.verbose calls) := by
  induction calls generalizing c texts with
  | nil => simpa [serveAll, incoming] using h
  | cons call rest ih =>
    have hrest := ih (names_serve h call)
    rw [serve_verbose] at hrest
    rw [serveAll_cons, incoming, ← List.append_assoc]
    exact hrest

/-! ### Other streams -/

/-- A call that is about another stream, or about none, leaves a stream alone. -/
theorem serve_of_other (c : Console) {call : Call} {stream : String}
    (h : call.stream? ≠ some stream) :
    (c.serve call).1.buffered stream = c.buffered stream ∧
      (stream ∈ (c.serve call).1.names ↔ stream ∈ c.names) := by
  have written : ∀ target text, target ≠ stream →
      (c.write target text).buffered stream = c.buffered stream ∧
        (stream ∈ (c.write target text).names ↔ stream ∈ c.names) := by
    intro target text hne
    rw [buffered_write, names_write]
    refine ⟨by simp [Ne.symm hne], ?_⟩
    split
    · rfl
    · simp [Ne.symm hne]
  have other : ∀ target, call.stream? = some target → target ≠ stream :=
    fun target ht hs => h (ht.trans (congrArg some hs))
  cases call with
  | write target text => exact written target text (other target rfl)
  | log target text =>
    rw [serve, log]
    split
    · exact written target text (other target rfl)
    · exact ⟨rfl, Iff.rfl⟩
  | read target clearing =>
    cases clearing with
    | false => exact ⟨rfl, Iff.rfl⟩
    | true =>
      have hne := other target rfl
      simp [serve, read, drain, buffered_clear, names_clear, Ne.symm hne]
  | setVerbose verbose => exact ⟨rfl, Iff.rfl⟩
  | streams => exact ⟨rfl, Iff.rfl⟩

end Console

/-! ### Handles -/

/-- Consoles in memory, by number. -/
structure Consoles where
  /-- The consoles that were not created yet are blank. -/
  state : Nat → Console := fun _ => {}
  created : Nat := 0
  /-- The console that each handle refers to. -/
  handles : List Nat := []

namespace Consoles

open Console

/-- Something that is done with handles. -/
inductive Step where
  | create
  | clone (handle : Nat)
  | call (handle : Nat) (call : Call)
deriving DecidableEq

/-- A call through a handle to a console that is about a stream of it. -/
def Step.Concerns (m : Consoles) (console : Nat) (stream : String) : Step → Prop
  | .call handle request =>
    m.handles[handle]? = some console ∧ request.stream? = some stream
  | .create | .clone _ => False

/-- Takes a step. A call is entered into the log with the console that served it. -/
def perform (m : Consoles) : Step → Consoles × Option (Nat × Exchange)
  | .create => ({ m with created := m.created + 1, handles := m.handles ++ [m.created] }, none)
  | .clone handle =>
    match m.handles[handle]? with
    | some console => ({ m with handles := m.handles ++ [console] }, none)
    | none => (m, none)
  | .call handle call =>
    match m.handles[handle]? with
    | some console =>
      let (served, answer) := (m.state console).serve call
      ({ m with state := Function.update m.state console served }, some (console, call, answer))
    | none => (m, none)

/-- Takes steps in order. -/
def play : List Step → Consoles → Consoles × List (Nat × Exchange)
  | [], m => (m, [])
  | step :: rest, m =>
    let (next, entry) := m.perform step
    let (last, log) := play rest next
    (last, entry.toList ++ log)

theorem play_cons (step : Step) (rest : List Step) (m : Consoles) :
    play (step :: rest) m = ((play rest (m.perform step).1).1,
      (m.perform step).2.toList ++ (play rest (m.perform step).1).2) := rfl

/-- The calls that a console served, with their answers. -/
def history (console : Nat) (log : List (Nat × Exchange)) : List Exchange :=
  (log.filter fun entry => entry.1 = console).map (·.2)

theorem history_cons (console target : Nat) (exchange : Exchange) (log : List (Nat × Exchange)) :
    history console ((target, exchange) :: log) =
      if target = console then exchange :: history console log else history console log := by
  by_cases ht : target = console <;> simp [history, ht]

/-- A step changes one console at most, the one that serves the call. -/
theorem perform_cases (m : Consoles) (step : Step) :
    (m.perform step).2 = none ∧ (m.perform step).1.state = m.state ∨
      ∃ handle call console, step = .call handle call ∧ m.handles[handle]? = some console ∧
        (m.perform step).2 = some (console, call, ((m.state console).serve call).2) ∧
        (m.perform step).1.state =
          Function.update m.state console ((m.state console).serve call).1 := by
  cases step with
  | create => exact .inl ⟨rfl, rfl⟩
  | clone handle =>
    rw [perform]
    split <;> exact .inl ⟨rfl, rfl⟩
  | call handle call =>
    rw [perform]
    split
    · next console hc => exact .inr ⟨handle, call, console, rfl, hc, rfl, rfl⟩
    · exact .inl ⟨rfl, rfl⟩

/-- **The calls of a console are a history of its own**, through whichever handles they come. -/
theorem play_of_console (steps : List Step) (m : Consoles) (console : Nat) :
    serveAll ((history console (play steps m).2).map (·.1)) (m.state console) =
      ((play steps m).1.state console, history console (play steps m).2) := by
  induction steps generalizing m with
  | nil => rfl
  | cons step rest ih =>
    have hrest := ih (m.perform step).1
    rw [play_cons]
    rcases m.perform_cases step with ⟨hnone, hstate⟩ | ⟨_, call, target, -, -, hsome, hstate⟩
    · rw [hstate] at hrest
      rw [hnone]
      exact hrest
    · rw [hstate] at hrest
      rw [hsome, Option.toList_some, List.singleton_append, history_cons]
      by_cases ht : target = console
      · rw [ht, Function.update_self] at hrest
        rw [if_pos ht, List.map_cons, serveAll_cons, hrest, ht]
      · rw [Function.update_of_ne (Ne.symm ht)] at hrest
        rw [if_neg ht]
        exact hrest

/-- A step leaves the streams alone that it does not concern. -/
theorem perform_of_not_concerns {m : Consoles} {step : Step} {console : Nat} {stream : String}
    (h : ¬ step.Concerns m console stream) :
    ((m.perform step).1.state console).buffered stream = (m.state console).buffered stream ∧
      (stream ∈ ((m.perform step).1.state console).names ↔
        stream ∈ (m.state console).names) := by
  rcases m.perform_cases step with ⟨-, hstate⟩ | ⟨handle, call, target, rfl, htarget, -, hstate⟩
  · rw [hstate]
    exact ⟨rfl, Iff.rfl⟩
  · rw [hstate]
    by_cases ht : target = console
    · subst ht
      rw [Function.update_self]
      exact serve_of_other _ fun hs => h ⟨htarget, hs⟩
    · rw [Function.update_of_ne (Ne.symm ht)]
      exact ⟨rfl, Iff.rfl⟩

/-- **Console text is neither lost nor repeated.** Take any steps: consoles are created, handles are
cloned, and any calls are made through any of them. Of each console and each of its streams, what
was taken out by the reads that empty it, followed by what is still held, is what came in: the texts
that were written, and those that were logged while the console was verbose, in the order of the
calls. The streams it lists are those that text came in on, in the order of their first text. A read
that does not empty a stream changes nothing, and the next one that empties it, through whichever
handle, returns the same text, followed by what has come in between. A step that does not concern a
stream leaves it alone. -/
theorem text_accounted (steps : List Step) (console : Nat) :
    let m := (play steps {}).1
    let served := history console (play steps {}).2
    let texts := incoming false (served.map (·.1))
    let c := m.state console
    (∀ stream, taken stream served ++ c.buffered stream = received stream texts) ∧
      c.serve .streams = (c, .names (firstReceived texts)) ∧
      (∀ stream, c.serve (.read stream false) = (c, .text (c.buffered stream)) ∧
        ∀ more, let between := (history console (play more m).2).map (·.1)
          .read stream true ∉ between →
            (((play more m).1.state console).serve (.read stream true)).2 =
              .text (c.buffered stream ++ received stream (incoming c.verbose between))) ∧
      ∀ step stream, ¬ step.Concerns m console stream →
        ((m.perform step).1.state console).buffered stream = c.buffered stream ∧
          (stream ∈ ((m.perform step).1.state console).names ↔ stream ∈ c.names) := by
  intro m served texts c
  have hserved : serveAll (served.map (·.1)) {} = (c, served) := play_of_console steps {} console
  have hbalance : ∀ stream, taken stream served ++ c.buffered stream = received stream texts := by
    intro stream
    have h := balance (served.map (·.1)) {} stream
    rw [hserved] at h
    exact h.trans (String.empty_append)
  have hnames : c.names = firstReceived texts := by
    have hnone : ({} : Console).names = firstReceived [] := rfl
    have h := names_serveAll (served.map (·.1)) hnone
    rwa [hserved] at h
  refine ⟨hbalance, ?_, fun stream => ⟨rfl, ?_⟩, fun step stream h => ?_⟩
  · rw [serve, hnames]
  · intro more between hkept
    have hmore : serveAll between c = ((play more m).1.state console,
        history console (play more m).2) := play_of_console more m console
    have hheld := buffered_serveAll_of_kept hkept c
    rw [hmore] at hheld
    rw [← hheld]
    rfl
  · exact perform_of_not_concerns h

/-- Two handles to one console: what is logged through the clone is kept once the console is verbose,
and it can be read through both. -/
theorem text_accounted_of_clone :
    let m := (play [.create, .clone 0, .call 1 (.log "stderr" "quiet"), .call 0 (.setVerbose true),
      .call 1 (.log "stderr" "oops"), .call 0 (.write "stdout" ""), .call 1 (.write "stdout" "ok")]
      {}).1
    let more : List Step := [.call 1 (.read "stdout" true), .call 0 (.log "stderr" "!")]
    .read "stderr" true ∉ (history 0 (play more m).2).map (·.1) ∧
      (((play more m).1.state 0).serve (.read "stderr" true)).2 = .text ("oops" ++ "!") ∧
      ((m.state 0).serve .streams).2 = .names ["stderr", "stdout"] := by
  intro m more
  have hkept : .read "stderr" true ∉ (history 0 (play more m).2).map (·.1) := by decide
  obtain ⟨-, hnames, hread, -⟩ := text_accounted [.create, .clone 0,
    .call 1 (.log "stderr" "quiet"), .call 0 (.setVerbose true), .call 1 (.log "stderr" "oops"),
    .call 0 (.write "stdout" ""), .call 1 (.write "stdout" "ok")] 0
  refine ⟨hkept, ((hread "stderr").2 more hkept).trans ?_, (congrArg Prod.snd hnames).trans ?_⟩
  · decide
  · decide

end Consoles
end LiveSketch
