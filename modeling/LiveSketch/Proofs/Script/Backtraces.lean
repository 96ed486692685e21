import LiveSketch.Script.Fault
import Mathlib.Logic.ExistsUnique

/-!
# Backtraces list the whole chain of calls

A fault is wrapped by every call that it leaves. So one meets the outermost call first on the way to
the reason, and a backtrace, which begins with the innermost call, lists them the other way round.

## Chains

A fault is a chain: the calls that it came through, outermost first, around a reason that was raised
at some place or at none. Every fault is such a chain in exactly one way, so what is shown of all
chains, by induction on their calls, holds of all faults, and no call of a fault is missed.

The innermost reason has a line of its own, if its place is known. It was raised in the body of the
function that was called last, so it is this call that names the source text, which is the last one
of the chain.

## Main definitions

* `Fault.Call`, `Fault.Call.line` — a call in a chain, and its line in a backtrace.
* `Fault.through` — a chain of calls around a fault.
* `Fault.calls` — the calls of a fault.

## Main results

* `Fault.existsUnique_through` — every fault is a chain in exactly one way.
* `Fault.calls_leaving` — what a call adds to the chain.
* `Fault.toFailure_through` — the failure of a chain: class, message and backtrace.
-/

namespace LiveSketch
namespace Fault

/-- A call that a fault came through. -/
structure Call where
  function : String
  /-- The name of the source text that the function belongs to. -/
  source : String
  /-- Where it was called. -/
  place : Option Place
deriving DecidableEq

/-- The line of a call in a backtrace. -/
def Call.line (call : Call) : String := s!"{placeText call.source call.place} in `{call.function}`"

/-- A fault after it came through calls, outermost first. -/
def through (calls : List Call) (inner : Fault) : Fault :=
  calls.foldr (fun call fault => inCall call.function call.source fault call.place) inner

/-- The calls that a fault came through, outermost first. -/
def calls : Fault → List Call
  | raised _ _ => []
  | inCall function source inner place => ⟨function, source, place⟩ :: inner.calls

/-! ### Chains -/

theorem through_cons (call : Call) (rest : List Call) (inner : Fault) :
    through (call :: rest) inner =
      inCall call.function call.source (through rest inner) call.place := rfl

/-- Calls do not hide the reason. -/
theorem cause_through (calls : List Call) (inner : Fault) :
    (through calls inner).cause = inner.cause := by
  induction calls with
  | nil => rfl
  | cons call rest ih => exact ih

/-- Nor do they hide its place. -/
theorem origin_through (calls : List Call) (inner : Fault) :
    (through calls inner).origin = inner.origin := by
  induction calls with
  | nil => rfl
  | cons call rest ih => exact ih

theorem calls_through (outer : List Call) (inner : Fault) :
    (through outer inner).calls = outer ++ inner.calls := by
  induction outer with
  | nil => rfl
  | cons call rest ih => rw [through_cons, calls, ih, List.cons_append]

/-- A fault is put together from its calls, its reason and its place. -/
theorem through_calls (fault : Fault) :
    through fault.calls (raised fault.cause fault.origin) = fault := by
  induction fault with
  | raised cause place => rfl
  | inCall function source inner place ih =>
    rw [calls, through_cons]
    exact congrArg (inCall function source · place) ih

/-- **Every fault is a chain in exactly one way.** -/
theorem existsUnique_through (fault : Fault) :
    ∃! chain : List Call × Cause × Option Place,
      through chain.1 (raised chain.2.1 chain.2.2) = fault := by
  refine ⟨(fault.calls, fault.cause, fault.origin), through_calls fault, ?_⟩
  rintro ⟨outer, cause, place⟩ rfl
  dsimp only
  rw [calls_through, cause_through, origin_through, calls, List.append_nil]
  rfl

/-- **A fault that leaves a call gains this call**, as the outermost one, unless the fault lies with
the whole run. -/
theorem calls_leaving (function source : String) (callPlace : Option Place) (fault : Fault) :
    (fault.leaving function source callPlace).calls =
      if fault.calls = [] ∧ fault.cause.isGlobal then []
      else ⟨function, source, callPlace⟩ :: fault.calls := by
  cases fault with
  | raised cause place =>
    rw [leaving]
    split <;> simp_all [calls, Fault.cause]
  | inCall name text inner place => simp [leaving, calls]

/-! ### Backtraces -/

/-- One line per call, from the innermost to the outermost. -/
theorem callLines_eq (fault : Fault) : fault.callLines = fault.calls.reverse.map Call.line := by
  induction fault with
  | raised cause place => rfl
  | inCall function source inner place ih =>
    rw [callLines, ih, calls, List.reverse_cons, List.map_append]
    rfl

/-- The source text of the reason is the one of the last call. -/
theorem innermostSource_eq (fault : Fault) (default : String) :
    fault.innermostSource default = (fault.calls.getLast?.map Call.source).getD default := by
  induction fault generalizing default with
  | raised cause place => rfl
  | inCall function source inner place ih =>
    rw [innermostSource, ih, calls, List.getLast?_cons]
    cases inner.calls.getLast? <;> rfl

/-- **The failure of a chain.** Take any calls, outermost first, around a reason that was raised at
some place or at none. Class and message are those of the reason. The backtrace has a line for the
reason exactly if its place is known, in the source text of the innermost call, or in `script` if
there is none. After that it has one line per call, from the innermost to the outermost, with the
source text, the place and the name of the function of this call. -/
theorem toFailure_through (calls : List Call) (cause : Cause) (place : Option Place) :
    let failure := (through calls (raised cause place)).toFailure
    let source := (calls.getLast?.map Call.source).getD "script"
    failure.className = cause.className ∧
      failure.message = cause.message ++ Place.suffix place ∧
      failure.backtrace = (place.toList.map fun p => placeText source (some p)) ++
        calls.reverse.map Call.line ∧
      failure.backtrace.length = (if place.isSome then 1 else 0) + calls.length := by
  intro failure source
  have hcalls : (through calls (raised cause place)).calls = calls := by
    rw [calls_through, Fault.calls, List.append_nil]
  have horigin : (through calls (raised cause place)).originLine =
      place.toList.map fun p => placeText source (some p) := by
    rw [originLine, origin_through, innermostSource_eq, hcalls]
    cases place <;> rfl
  have hbacktrace : failure.backtrace =
      (place.toList.map fun p => placeText source (some p)) ++ calls.reverse.map Call.line := by
    show (through calls (raised cause place)).originLine ++ _ = _
    rw [horigin, callLines_eq, hcalls]
  have hfirst : (place.toList.map fun p => placeText source (some p)).length =
      if place.isSome then 1 else 0 := by
    cases place <;> rfl
  refine ⟨congrArg Cause.className (cause_through calls _), ?_, hbacktrace, ?_⟩
  · show (through calls (raised cause place)).cause.message ++
      Place.suffix (through calls (raised cause place)).origin = _
    rw [cause_through, origin_through]
    rfl
  · rw [hbacktrace, List.length_append, hfirst, List.length_map, List.length_reverse]

/-- A function calls another one, which is in another file and fails there. -/
example : (through [⟨"outer", "main", none⟩, ⟨"inner", "lib", some ⟨3, 5⟩⟩]
    (raised (.unknownVariable "x") (some ⟨7, 9⟩))).toFailure.backtrace =
      ["lib:7:9", "lib:3:5 in `inner`", "main in `outer`"] := by
  decide

end Fault
end LiveSketch
