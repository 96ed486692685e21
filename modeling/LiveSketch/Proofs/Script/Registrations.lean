import LiveSketch.Proofs.Script.Definitions
import LiveSketch.Script.SketchLanguage

/-!
# Hooks and entry points that exist

Hooks are asked for while a source text is loaded and while code runs, they are known to the engine
and kept by the context, and an evaluation can fail at any point in between. Still the two copies
agree, every hook is there once, and neither a hook nor an entry point names a function that the
script does not have.

## Why this holds

The engine registers a hook only if there is a function for it, and takes no function away except in
a reset, which clears the hooks and the entry points as well. Merging replaces a function by one of
the same name and number of parameters, so what existed goes on existing.

`Registered` says this of a bench together with all the hooks that were asked for since the last
reset. Every building block keeps it, so every operation does.

## Main definitions

* `EngineCall`, `EngineCall.perform` — what can be done to an engine and its context, and the hooks
  that were asked for since the last reset.
* `ScriptEngine.Registered` — the hooks and the entry points of a bench are in order.

## Main results

* `ScriptEngine.traced_registered` — source texts and requests keep them in order.
* `EngineCall.registered_of_calls` — so does everything that is done to an engine.
-/

namespace LiveSketch

/-- The hooks of a phase, before or after its entry point. -/
def Hooks.around {η : Type} (hooks : Hooks η) (phase : Phase) : HookKind → List η
  | .pre => hooks.pre phase
  | .post => hooks.post phase

/-- The functions that are to be called before or after the entry point of a phase. -/
def HookRequest.names (phase : Phase) (kind : HookKind) (hooks : List HookRequest) : List String :=
  (hooks.filter fun hook => hook.phase = phase ∧ hook.kind = kind).map (·.name)

namespace HookRequest

theorem mem_names {phase : Phase} {kind : HookKind} {hooks : List HookRequest} {name : String} :
    name ∈ names phase kind hooks ↔ ⟨phase, kind, name⟩ ∈ hooks := by
  simp only [names, List.mem_map, List.mem_filter, decide_eq_true_eq]
  constructor
  · rintro ⟨⟨p, k, n⟩, ⟨hmem, rfl, rfl⟩, rfl⟩
    exact hmem
  · intro hmem
    exact ⟨⟨phase, kind, name⟩, ⟨hmem, rfl, rfl⟩, rfl⟩

theorem nodup_names (phase : Phase) (kind : HookKind) {hooks : List HookRequest}
    (h : hooks.Nodup) : (names phase kind hooks).Nodup := by
  refine List.pairwise_map.mpr ((List.Pairwise.filter _ h).imp_of_mem ?_)
  rintro ⟨p, k, n⟩ ⟨p', k', n'⟩ hmem hmem' hne hnn
  simp only [List.mem_filter, decide_eq_true_eq] at hmem hmem'
  obtain ⟨-, rfl, rfl⟩ := hmem
  obtain ⟨-, rfl, rfl⟩ := hmem'
  exact hne (congrArg _ hnn)

theorem names_concat (phase : Phase) (kind : HookKind) (hooks : List HookRequest)
    (hook : HookRequest) : names phase kind (hooks ++ [hook]) =
      names phase kind hooks ++
        if hook.phase = phase ∧ hook.kind = kind then [hook.name] else [] := by
  unfold names
  rw [List.filter_append, List.map_append]
  split <;> simp_all

end HookRequest

namespace ScriptEngine

variable {L : Language} {b b' : Bench L}

theorem addHook_around (hook : HookRequest) (hooks : Hooks ScriptHandle) (phase : Phase)
    (kind : HookKind) : (addHook hook hooks).around phase kind = hooks.around phase kind ++
      (if hook.phase = phase ∧ hook.kind = kind then [hook.name] else []).map .function := by
  obtain ⟨p, k, name⟩ := hook
  by_cases hp : p = phase <;> cases k <;> cases kind <;>
    simp [addHook, Hooks.around, Hooks.addPre, Hooks.addPost, hp, eq_comm]

/-- The callable of an entry point calls a function of the script that has its name and number of
parameters. The built-in `defaults` does that at its end, or it calls none. -/
def NamesFunction (s : ScriptState L) (entry : Entry) (handle : ScriptHandle) : Prop :=
  handle = .function entry.name ∧ s.hasFunction entry.name entry.arity ∨
    entry = .defaults ∧ ∃ scripted, handle = .defaults scripted ∧
      (scripted → s.hasFunction entry.name entry.arity)

/-- The hooks and the entry points of a bench are in order, and so are the hooks that were asked for
since the last reset. -/
structure Registered (b : Bench L) (asked : List HookRequest) : Prop where
  /-- The engine knows each hook that was asked for, in the order in which it was first. -/
  known : b.1.engine.registered = asked.eraseDups
  distinct : b.1.engine.registered.Nodup
  /-- The context has the same hooks in the same order. -/
  hooks : ∀ phase kind, b.2.hooks.around phase kind =
    (HookRequest.names phase kind b.1.engine.registered).map .function
  /-- Every hook names a function without parameters. -/
  named : ∀ hook ∈ b.1.engine.registered, b.1.engine.hasFunction hook.name 0
  entries : ∀ entry handle, b.2.entries.get entry = some handle →
    NamesFunction b.1.engine entry handle

namespace Registered

variable {asked : List HookRequest}

/-- Functions may be added, and replaced. -/
theorem congr (h : Registered b asked) (hr : b'.1.engine.registered = b.1.engine.registered)
    (hf : ∀ name arity, b.1.engine.hasFunction name arity → b'.1.engine.hasFunction name arity)
    (hh : b'.2.hooks = b.2.hooks) (he : b'.2.entries = b.2.entries) : Registered b' asked where
  known := hr.trans h.known
  distinct := hr ▸ h.distinct
  hooks phase kind := by
    rw [hh, hr]
    exact h.hooks phase kind
  named hook hmem := hf _ _ (h.named hook (hr ▸ hmem))
  entries entry handle hget := by
    rw [he] at hget
    exact (h.entries entry handle hget).imp (fun ⟨hn, hs⟩ => ⟨hn, hf _ _ hs⟩)
      fun ⟨hd, scripted, hn, hs⟩ => ⟨hd, scripted, hn, fun hsc => hf _ _ (hs hsc)⟩

/-- A hook that can be registered is put behind the others, unless it is there already. -/
theorem register (h : Registered b asked) (hook : HookRequest)
    (hok : (registerHook hook b).2 = .ok ()) :
    Registered (registerHook hook b).1 (asked ++ [hook]) := by
  have hmem : hook ∈ b.1.engine.registered ↔ hook ∈ asked := by
    rw [h.known, List.mem_eraseDups]
  have hdups : (asked ++ [hook]).eraseDups =
      asked.eraseDups ++ if hook ∈ asked then [] else [hook] := by
    rw [List.eraseDups_append]
    congr 1
    by_cases ha : hook ∈ asked <;> simp [List.removeAll, List.eraseDups_cons, ha]
  unfold registerHook at hok ⊢
  dsimp only at hok ⊢
  split at hok
  · cases hok
  · next hfun =>
    have hexists : b.1.engine.hasFunction hook.name 0 := by simpa using hfun
    rw [if_neg hfun]
    split
    · next hknown =>
      have ha := hmem.mp (List.contains_iff_mem.mp hknown)
      refine { h with known := ?_ }
      rw [hdups, if_pos ha, List.append_nil]
      exact h.known
    · next hnew =>
      have hnot : hook ∉ b.1.engine.registered := fun hm => hnew (List.contains_iff_mem.mpr hm)
      have ha : hook ∉ asked := fun hm => hnot (hmem.mpr hm)
      exact {
        known := by
          rw [hdups, if_neg ha]
          exact congrArg (· ++ [hook]) h.known
        distinct := List.nodup_append.mpr ⟨h.distinct, by simp, by
          intro a hmem' c hc
          rw [List.mem_singleton.mp hc]
          exact fun hac => hnot (hac ▸ hmem')⟩
        hooks := by
          intro phase kind
          show (addHook hook b.2.hooks).around phase kind =
            (HookRequest.names phase kind (b.1.engine.registered ++ [hook])).map .function
          rw [addHook_around, HookRequest.names_concat, List.map_append, h.hooks]
        named := by
          intro hook' hmem'
          obtain hmem' | hmem' := List.mem_append.mp hmem'
          · exact h.named hook' hmem'
          · rw [List.mem_singleton.mp hmem']
            exact hexists
        entries := h.entries }

/-- The entry points that are looked for are functions of the script. -/
theorem discover (h : Registered b asked) : Registered (discoverEntries b) asked where
  known := h.known
  distinct := h.distinct
  hooks := h.hooks
  named := h.named
  entries entry handle hget := by
    have hpoint : b.1.engine.entryPoints.get entry = some handle := hget
    unfold ScriptState.entryPoints at hpoint
    dsimp only at hpoint
    split at hpoint
    · cases hpoint
      exact .inr ⟨rfl, _, rfl, id⟩
    · split at hpoint
      · next hs =>
        cases hpoint
        exact .inl ⟨rfl, hs⟩
      · cases hpoint

/-- A session in which nothing is defined is in order. -/
theorem of_empty (env : FrameEnv) (he : b.1.engine = .empty env) (hh : b.2.hooks = .empty)
    (hn : b.2.entries = .none) : Registered b [] where
  known := by
    rw [he]
    rfl
  distinct := by
    rw [he]
    exact List.nodup_nil
  hooks phase kind := by
    rw [hh, he]
    cases kind <;> rfl
  named hook hmem := by
    rw [he] at hmem
    cases hmem
  entries entry handle hget := by
    rw [hn] at hget
    cases hget

end Registered

/-- The hooks and the entry points are in order afterwards if they were before, counting the hooks
that were asked for meanwhile. -/
def KeepsRegistered (b : Bench L) (deeds : List Deed) (b' : Bench L) : Prop :=
  ∀ asked, Registered b asked → Registered b' (asked ++ Deed.hooks deeds)

theorem KeepsRegistered.of_same {deeds : List Deed} (hd : Deed.hooks deeds = [])
    (hr : b'.1.engine.registered = b.1.engine.registered)
    (hf : ∀ name arity, b.1.engine.hasFunction name arity → b'.1.engine.hasFunction name arity)
    (hh : b'.2.hooks = b.2.hooks) (he : b'.2.entries = b.2.entries) :
    KeepsRegistered b deeds b' := by
  intro asked h
  rw [hd, List.append_nil]
  exact h.congr hr hf hh he

/-- **Source texts and requests keep the hooks and the entry points in order**, whether they fail or
not. -/
theorem traced_registered : Traced (KeepsRegistered (L := L)) where
  refl b := .of_same rfl rfl (fun _ _ hf => hf) rfl rfl
  trans h h' asked hb := by
    rw [Deed.hooks_append, ← List.append_assoc]
    exact h' _ (h asked hb)
  env _ _ := .of_same rfl rfl (fun _ _ hf => hf) rfl rfl
  note _ _ _ := .of_same rfl rfl (fun _ _ hf => hf) rfl rfl
  found path b := by
    rw [request_eq]
    exact .of_same rfl rfl (fun _ _ hf => hf) rfl rfl
  mark path b := by
    rw [mark_eq]
    exact .of_same rfl rfl (fun _ _ hf => hf) rfl rfl
  hooked hook b hok _ h := h.register hook hok
  takeRequests b := by
    rw [takeRequests_eq]
    exact .of_same rfl rfl (fun _ _ hf => hf) rfl rfl
  merged {_ program} origin b _ := by
    have hf : ∀ name arity, b.1.engine.hasFunction name arity →
        (merged program origin b).1.engine.hasFunction name arity :=
      fun _ _ => merged_hasFunction program origin
    rw [merged_eq] at hf ⊢
    exact .of_same rfl rfl hf rfl rfl
  refused _ _ _ := .of_same rfl rfl (fun _ _ hf => hf) rfl rfl
  runProgram _ _ := .of_same rfl rfl (fun _ _ hf => hf) rfl rfl
  discoverEntries b asked h := by
    rw [show Deed.hooks [] = [] from rfl, List.append_nil]
    exact h.discover

/-- The entry points after a successful evaluation are those that the script has. -/
theorem applySource_entries {files : FileTree} {depth : Nat} {text : String} {origin : Path}
    (hok : (applySource files depth text origin b).2 = .ok ()) :
    (applySource files depth text origin b).1.2.entries =
      (applySource files depth text origin b).1.1.engine.entryPoints := by
  cases depth with
  | zero => cases hok
  | succ depth =>
    obtain ⟨program, c, d, -, -, -, heq⟩ := applySource_ok hok
    rw [heq]
    rfl

end ScriptEngine

open ScriptEngine

variable {L : Language}

/-- Something that is done to an engine and its context. -/
inductive EngineCall where
  | evaluate (source : String) (origin : Path) (resetting : Bool) (files : FileTree)
  | loadDependency (path : Path) (files : FileTree)
  | sync (env : FrameEnv) (files : FileTree)
  | invoke (handle : ScriptHandle) (args : List Value)
  | processError (failure : Failure)
  | flush (canvas : Canvas)
  /-- The lifecycle sets what it shares with the engine besides hooks and entry points. -/
  | share (verbose : Bool) (dataPath : Option Path) (loadPath : LoadPath)
    (dependencies : List Path)

namespace EngineCall

/-- What becomes of an engine and its context. -/
def serve : EngineCall → Bench L → Bench L
  | evaluate source origin resetting files, b =>
    (ScriptEngine.evaluate source origin resetting files b).1
  | loadDependency path files, b => (ScriptEngine.loadDependency path files b).1
  | sync env files, b => ScriptEngine.sync env files b
  | invoke handle args, b => ((ScriptEngine.invoke handle args b.1).1, b.2)
  | processError failure, b => ((ScriptEngine.processError failure b.1).1, b.2)
  | flush canvas, b => ((ScriptEngine.flush b.1 canvas).1, b.2)
  | share verbose dataPath loadPath dependencies, b =>
    withContext (fun ctx => { ctx with verbose, dataPath, loadPath, dependencies }) b

/-- What the engine does meanwhile. -/
def deeds : EngineCall → Bench L → List Deed
  | evaluate source origin resetting files, b =>
    sourceDeeds files (includeDepth files) source origin (evaluationStart origin resetting b)
  | loadDependency path files, b =>
    fileDeeds files (sourceDeeds files (includeDepth files)) path (mark path b)
  | sync env files, b =>
    settleDeeds files (apply files) (sourceDeeds files (includeDepth files))
      (withState (fun s => { s with env }) b)
  | _, _ => []

/-- Whether everything is discarded first. -/
def resets : EngineCall → Bool
  | evaluate _ _ resetting _ => resetting
  | _ => false

/-- One call, with the hooks that were asked for since the last reset. -/
def perform (call : EngineCall) (x : Bench L × List HookRequest) : Bench L × List HookRequest :=
  (call.serve x.1, (if call.resets then [] else x.2) ++ Deed.hooks (call.deeds x.1))

/-- Several calls to a new engine with a new context. -/
def performAll (calls : List EngineCall) : Bench L × List HookRequest :=
  calls.foldl (fun x call => call.perform x) (({ engine := .empty {} }, {}), [])

theorem invoke_registered (handle : ScriptHandle) (args : List Value) {b : Bench L}
    {asked : List HookRequest} (h : Registered b asked) :
    Registered ((ScriptEngine.invoke handle args b.1).1, b.2) asked := by
  cases handle with
  | function name => exact h.congr rfl (fun _ _ hf => hf) rfl rfl
  | defaults scripted =>
    unfold ScriptEngine.invoke
    dsimp only
    split <;> exact h.congr rfl (fun _ _ hf => hf) rfl rfl

/-- Every call keeps the hooks and the entry points in order. -/
theorem perform_registered (call : EngineCall) {x : Bench L × List HookRequest}
    (h : Registered x.1 x.2) : Registered (call.perform x).1 (call.perform x).2 := by
  obtain ⟨b, asked⟩ := x
  cases call with
  | evaluate source origin resetting files =>
    have hstart : Registered (evaluationStart origin resetting b)
        (if resetting then [] else asked) := by
      have hmark : ∀ {c : Bench L} {asked}, Registered c asked → Registered (mark origin c) asked :=
        fun hc => by
          rw [mark_eq]
          exact hc.congr rfl (fun _ _ hf => hf) rfl rfl
      cases resetting with
      | true => exact hmark (.of_empty b.1.engine.env rfl rfl rfl)
      | false => exact hmark h
    exact traced_registered.applySource files _ source origin _ _ hstart
  | loadDependency path files =>
    refine traced_registered.loadFile files (traced_registered.applySource files _) path
      (mark path b) asked ?_
    rw [mark_eq]
    exact h.congr rfl (fun _ _ hf => hf) rfl rfl
  | sync env files => exact traced_registered.sync env files b asked h
  | invoke handle args =>
    have hi := invoke_registered handle args h
    simpa [perform, serve, deeds, resets] using hi
  | processError failure =>
    have hi := invoke_registered (.function formatterName) [.str failure.message] h
    have hp : Registered ((ScriptEngine.processError failure b.1).1, b.2) asked := by
      unfold ScriptEngine.processError
      split
      · exact hi
      · exact h
    simpa [perform, serve, deeds, resets] using hp
  | flush canvas =>
    have hf : Registered ((ScriptEngine.flush b.1 canvas).1, b.2) asked :=
      h.congr rfl (fun _ _ hf => hf) rfl rfl
    simpa [perform, serve, deeds, resets] using hf
  | share verbose dataPath loadPath dependencies =>
    have hs : Registered (withContext
        (fun ctx => { ctx with verbose, dataPath, loadPath, dependencies }) b) asked :=
      h.congr rfl (fun _ _ hf => hf) rfl rfl
    simpa [perform, serve, deeds, resets] using hs

theorem performAll_registered (calls : List EngineCall) :
    Registered (performAll (L := L) calls).1 (performAll (L := L) calls).2 := by
  have h : ∀ {x : Bench L × List HookRequest}, Registered x.1 x.2 →
      let y := calls.foldl (fun x call => call.perform x) x
      Registered y.1 y.2 := by
    induction calls with
    | nil => exact fun h => h
    | cons call rest ih => exact fun h => ih (call.perform_registered h)
  exact h (.of_empty {} rfl rfl rfl)

/-- **Hooks are unique, and neither a hook nor an entry point dangles**, whatever was done to an
engine and its context and however it ended. The hooks of a phase are those that were asked for
since the last reset, in the order in which each was asked for first, and the engine knows exactly
the hooks that the context has. After a successful evaluation the entry points that are present are
`defaults` and those for which the script has a function. -/
theorem registered_of_calls (L : Language) (calls : List EngineCall) :
    let b := (performAll (L := L) calls).1
    let asked := (performAll (L := L) calls).2
    (∀ phase kind, ((b.2.hooks.around phase kind).map ScriptHandle.label).Nodup ∧
      b.2.hooks.around phase kind =
        (HookRequest.names phase kind asked.eraseDups).map .function) ∧
    (∀ hook, hook ∈ b.1.engine.registered ↔
      .function hook.name ∈ b.2.hooks.around hook.phase hook.kind) ∧
    (∀ phase kind handle, handle ∈ b.2.hooks.around phase kind →
      ∃ name, handle = .function name ∧ b.1.engine.hasFunction name 0) ∧
    (∀ entry handle, b.2.entries.get entry = some handle →
      NamesFunction b.1.engine entry handle) ∧
    ∀ source origin resetting files,
      let evaluated := ScriptEngine.evaluate source origin resetting files b
      let scripted (entry : Entry) := evaluated.1.1.engine.hasFunction entry.name entry.arity
      evaluated.2 = .ok () →
        evaluated.1.2.entries.get .defaults = some (.defaults (scripted .defaults)) ∧
        ∀ entry ≠ .defaults, evaluated.1.2.entries.get entry =
          if scripted entry then some (.function entry.name) else none := by
  intro b asked
  have h : Registered b asked := performAll_registered calls
  have hmem : ∀ phase kind handle, handle ∈ b.2.hooks.around phase kind ↔
      ∃ name, ⟨phase, kind, name⟩ ∈ b.1.engine.registered ∧ handle = .function name := by
    intro phase kind handle
    simp only [h.hooks, List.mem_map, HookRequest.mem_names, eq_comm]
  refine ⟨fun phase kind => ⟨?_, ?_⟩, fun hook => ?_, fun phase kind handle hhandle => ?_,
    h.entries, ?_⟩
  · have hlabels : (b.2.hooks.around phase kind).map ScriptHandle.label =
        HookRequest.names phase kind b.1.engine.registered := by
      rw [h.hooks, List.map_map]
      exact List.map_id _
    rw [hlabels]
    exact HookRequest.nodup_names phase kind h.distinct
  · rw [h.hooks, h.known]
  · rw [hmem]
    constructor
    · exact fun hr => ⟨hook.name, hr, rfl⟩
    · rintro ⟨name, hr, hname⟩
      cases hname
      exact hr
  · obtain ⟨name, hr, rfl⟩ := (hmem phase kind handle).mp hhandle
    exact ⟨name, rfl, h.named _ hr⟩
  · intro source origin resetting files evaluated scripted hok
    have he : evaluated.1.2.entries = evaluated.1.1.engine.entryPoints := applySource_entries hok
    rw [he]
    refine ⟨rfl, fun entry hne => ?_⟩
    cases entry
    case defaults => exact absurd rfl hne
    all_goals rfl

/-- A sketch that asks for the same hook whenever it draws, and is then replaced by one without
hooks. -/
theorem registered_of_hooked_sketch :
    let hooked := "fn t() { } fn draw() \x7b prehook(\"draw\", \"t\"); \x7d"
    let calls : List EngineCall :=
      [.evaluate hooked ⟨"/s/main"⟩ true {}, .invoke (.function "draw") [], .sync {} {},
        .invoke (.function "draw") [], .sync {} {}]
    let reached := performAll (L := sketchLanguage) calls
    let evaluated := ScriptEngine.evaluate "fn draw() { }" ⟨"/s/main"⟩ true {} reached.1
    reached.2.length = 2 ∧ reached.1.2.hooks.around .draw .pre = [.function "t"] ∧
      evaluated.2 = .ok () ∧ evaluated.1.2.entries.get .draw = some (.function "draw") ∧
      evaluated.1.2.entries.get .setup = none := by
  intro hooked calls reached evaluated
  have hasked : reached.2.length = 2 ∧
      HookRequest.names .draw .pre reached.2.eraseDups = ["t"] := by decide +kernel
  have hok : evaluated.2 = .ok () ∧
      evaluated.1.1.engine.hasFunction Entry.draw.name Entry.draw.arity ∧
      ¬ evaluated.1.1.engine.hasFunction Entry.setup.name Entry.setup.arity := by decide +kernel
  obtain ⟨hhooks, -, -, -, hentries⟩ := registered_of_calls sketchLanguage calls
  have hdraw := (hhooks .draw .pre).2
  rw [hasked.2] at hdraw
  have hpoints := hentries "fn draw() { }" ⟨"/s/main"⟩ true {}
  subst evaluated reached
  generalize ScriptEngine.evaluate "fn draw() { }" ⟨"/s/main"⟩ true {} (performAll calls).1 =
    evaluated at hok hpoints ⊢
  have hothers := (hpoints hok.1).2
  exact ⟨hasked.1, hdraw, hok.1, (hothers .draw nofun).trans (if_pos hok.2.1),
    (hothers .setup nofun).trans (if_neg hok.2.2)⟩

end EngineCall

end LiveSketch
