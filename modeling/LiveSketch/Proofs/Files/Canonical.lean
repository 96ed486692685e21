import LiveSketch.Files.Tree

/-!
# Canonical paths name what they came from

The canonical form of a path spells out the place that the path leads to. Read again, it leads to
the same place, or nowhere: no link is met on the way, and no name is taken for a separator or left
out. It leads nowhere only if a name holds a character that no path may hold.

## Why this holds

A place that was reached by following an absolute path is *plain*: every directory on the way is
one, nothing on the way is a link, and every name could be a piece of a path. Following keeps the
place plain at every step, so an induction on the links and the names gives it for the place at the
end. Following the names of a plain place from the root takes every one of them as it is.

## Main definitions

* `Path.Plain` — a name that can be a piece of a path and leads downwards.
* `FileTree.Direct` — a place that is reached from the root name by name.

## Main results

* `Path.names_ofRoot` — the names of a path that spells out a place.
* `FileTree.direct_of_locate` — an absolute path leads to a direct place.
* `FileTree.locate_ofRoot` — its canonical form leads nowhere else.
-/

namespace LiveSketch

namespace Path

/-! ### Pieces -/

/-- A piece of a path that names something. -/
def Plain (name : String) : Prop := name ≠ "" ∧ name ≠ "." ∧ '/' ∉ name.toList

theorem splitSlash_ne_nil (cs : List Char) : splitSlash cs ≠ [] := by
  cases cs with
  | nil => simp [splitSlash]
  | cons c rest =>
    unfold splitSlash
    split
    · simp
    · split <;> simp

/-- No piece holds a slash. -/
theorem not_mem_splitSlash {cs piece : List Char} (h : piece ∈ splitSlash cs) : '/' ∉ piece := by
  induction cs generalizing piece with
  | nil =>
    rw [splitSlash, List.mem_singleton] at h
    simp [h]
  | cons c rest ih =>
    unfold splitSlash at h
    split at h
    · next hnil => exact absurd hnil (splitSlash_ne_nil rest)
    · next first more hsplit =>
      rw [hsplit] at ih
      split at h
      · obtain rfl | h := List.mem_cons.mp h
        · simp
        · exact ih h
      · next hc =>
        obtain rfl | h := List.mem_cons.mp h
        · have hfirst := ih List.mem_cons_self
          simp only [List.mem_cons, not_or]
          exact ⟨fun hslash => hc hslash.symm, hfirst⟩
        · exact ih (List.mem_cons_of_mem _ h)

theorem splitSlash_of_not_mem {cs : List Char} (h : '/' ∉ cs) : splitSlash cs = [cs] := by
  induction cs with
  | nil => rfl
  | cons c rest ih =>
    simp only [List.mem_cons, not_or] at h
    unfold splitSlash
    rw [ih h.2]
    exact if_neg fun hc : c = '/' => h.1 hc.symm

/-- A slash ends the first piece. -/
theorem splitSlash_append {cs : List Char} (h : '/' ∉ cs) (rest : List Char) :
    splitSlash (cs ++ '/' :: rest) = cs :: splitSlash rest := by
  induction cs with
  | nil =>
    rcases hs : splitSlash rest with _ | ⟨first, more⟩
    · exact absurd hs (splitSlash_ne_nil rest)
    · simp [splitSlash, hs]
  | cons c cs ih =>
    simp only [List.mem_cons, not_or] at h
    rw [List.cons_append, splitSlash, ih h.2]
    exact if_neg fun hc : c = '/' => h.1 hc.symm

/-- Pieces that are put together with slashes come apart again. -/
theorem splitSlash_intercalate {pieces : List (List Char)} (hne : pieces ≠ [])
    (h : ∀ piece ∈ pieces, '/' ∉ piece) : splitSlash (['/'].intercalate pieces) = pieces := by
  induction pieces with
  | nil => exact absurd rfl hne
  | cons first rest ih =>
    have hfirst := h first List.mem_cons_self
    cases rest with
    | nil =>
      rw [List.intercalate_singleton]
      exact splitSlash_of_not_mem hfirst
    | cons second more =>
      have hrest := ih (by simp) fun piece hp => h piece (List.mem_cons_of_mem _ hp)
      rw [List.intercalate_cons_cons, List.append_assoc, List.singleton_append,
        splitSlash_append hfirst, hrest]

theorem plain_of_mem_names {p : Path} {name : String} (h : name ∈ FileTree.names p) :
    Plain name := by
  simp only [FileTree.names, pieces, List.mem_filter, List.mem_map, decide_eq_true_eq] at h
  obtain ⟨⟨cs, hcs, rfl⟩, hne, hdot⟩ := h
  refine ⟨hne, hdot, ?_⟩
  rw [String.toList_ofList]
  exact not_mem_splitSlash hcs

/-- The pieces of a path that spells out a place, after the one before the root. -/
theorem pieces_ofRoot {place : List String} (hne : place ≠ []) (h : ∀ name ∈ place, Plain name) :
    (ofRoot place).pieces = "" :: place := by
  have htext : (ofRoot place).text.toList =
      [] ++ '/' :: ['/'].intercalate (place.map String.toList) := by
    simp [ofRoot, String.toList_append, String.toList_intercalate]
  have hsplit : splitSlash (['/'].intercalate (place.map String.toList)) =
      place.map String.toList := by
    refine splitSlash_intercalate (by simpa using hne) fun piece hp => ?_
    obtain ⟨name, hname, rfl⟩ := List.mem_map.mp hp
    exact (h name hname).2.2
  unfold pieces
  rw [htext, splitSlash_append (by simp), hsplit]
  simp

theorem names_ofRoot {place : List String} (h : ∀ name ∈ place, Plain name) :
    FileTree.names (ofRoot place) = place := by
  by_cases hne : place = []
  · subst hne
    rfl
  · unfold FileTree.names
    rw [pieces_ofRoot hne h, List.filter_cons_of_neg (by simp)]
    refine List.filter_eq_self.mpr fun name hname => ?_
    have hp := h name hname
    simp [hp.1, hp.2.1]

end Path

namespace FileTree

variable {t : FileTree} {here place : List String} {name : String}
  {jump : List String → List String → Except IoError (List String)}

/-! ### Places without links on the way -/

/-- A place that is reached from the root name by name. -/
inductive Direct (t : FileTree) : List String → Prop where
  | root : Direct t []
  | step {here : List String} {name : String} {time : Int} {node : FileNode} : Direct t here →
    t.node? here = some (.directory time) → Path.Plain name → name ≠ ".." →
    ¬ maxNameLength < name.utf8ByteSize → t.node? (here ++ [name]) = some node →
    (∀ target, node ≠ .link target) → Direct t (here ++ [name])

namespace Direct

theorem plain (h : Direct t place) : ∀ name ∈ place, Path.Plain name := by
  induction h with
  | root => simp
  | step _ _ hplain _ _ _ _ ih =>
    intro name hname
    obtain hname | hname := List.mem_append.mp hname
    · exact ih name hname
    · rw [List.mem_singleton.mp hname]
      exact hplain

theorem dropLast (h : Direct t place) : Direct t place.dropLast := by
  cases h with
  | root => exact .root
  | step hhere => rwa [List.dropLast_concat]

/-- So are the places on the way. -/
theorem of_append {rest : List String} (h : Direct t (here ++ rest)) : Direct t here := by
  generalize hplace : here ++ rest = place at h
  induction h generalizing rest with
  | root =>
    rw [(List.append_eq_nil_iff.mp hplace).1]
    exact .root
  | @step there name time node hthere hdir hplain hup hlen hnode hlink ih =>
    obtain rfl | ⟨rest, last, rfl⟩ := List.eq_nil_or_concat rest
    · rw [List.append_nil] at hplace
      rw [hplace]
      exact .step hthere hdir hplain hup hlen hnode hlink
    · rw [List.concat_eq_append, ← List.append_assoc] at hplace
      exact ih (List.append_inj' hplace rfl).1

end Direct

/-- Following names from a direct place leads to a direct place, if the jumps do. -/
theorem followNames_direct (hjump : ∀ here rest place, Direct t here →
    (∀ name ∈ rest, Path.Plain name) → jump here rest = .ok place → Direct t place)
    {rest : List String} (hhere : Direct t here) (hplain : ∀ name ∈ rest, Path.Plain name)
    (h : t.followNames true jump here rest = .ok place) : Direct t place := by
  induction rest generalizing here with
  | nil =>
    cases h
    exact hhere
  | cons name rest ih =>
    have hrest : ∀ name ∈ rest, Path.Plain name := fun n hn => hplain n (List.mem_cons_of_mem _ hn)
    unfold followNames at h
    split at h
    case h_1 | h_2 | h_3 => cases h
    case h_4 time hdir =>
      split at h
      · exact ih hhere.dropLast hrest h
      · next hup =>
        split at h
        · cases h
        · next hlen =>
          split at h
          · cases h
          · next target hlink =>
            -- a link is followed from the directory it lies in, or from the root
            simp only [Bool.not_true, Bool.and_false, Bool.false_eq_true, if_false] at h
            refine hjump _ _ place ?_ ?_ h
            · split
              · exact .root
              · exact hhere
            · intro n hn
              obtain hn | hn := List.mem_append.mp hn
              · exact Path.plain_of_mem_names hn
              · exact hrest n hn
          · next node hlink hnode =>
            have hname := hplain name List.mem_cons_self
            exact ih (.step hhere hdir hname hup hlen hnode hlink) hrest h

theorem follow_direct {links : Nat} {rest : List String} (hhere : Direct t here)
    (hplain : ∀ name ∈ rest, Path.Plain name) (h : t.follow links here rest true = .ok place) :
    Direct t place := by
  induction links generalizing here rest place with
  | zero => exact followNames_direct (fun _ _ _ _ _ hj => by cases hj) hhere hplain h
  | succ links ih => exact followNames_direct (fun _ _ _ hd hp hj => ih hd hp hj) hhere hplain h

/-- A path that leads somewhere is followed to there. -/
theorem follow_of_locate {p : Path} (h : t.locate p = .ok place) :
    t.follow linkBudget (if p.isAbsolute then [] else t.workingDirectory) (names p) true =
      .ok place := by
  unfold locate at h
  split at h
  · cases h
  · split at h
    · cases h
    · generalize t.follow _ _ _ _ = followed at h ⊢
      cases followed with
      | error e => cases h
      | ok found =>
        dsimp only at h
        split at h
        · cases h
        · split at h
          · cases h
          · exact h
        · exact h

/-- **An absolute path leads to a direct place.** -/
theorem direct_of_locate {p : Path} (habs : p.isAbsolute) (h : t.locate p = .ok place) :
    Direct t place := by
  have hf := follow_of_locate h
  rw [if_pos habs] at hf
  exact follow_direct .root (fun name hname => Path.plain_of_mem_names hname) hf

/-- The names on the way to a direct place lead there. -/
theorem followNames_of_direct {rest : List String} (h : Direct t (here ++ rest)) :
    t.followNames true jump here rest = .ok (here ++ rest) := by
  induction rest generalizing here with
  | nil => simp [followNames]
  | cons name rest ih =>
    rw [List.append_cons] at h
    have hstep : Direct t (here ++ [name]) := h.of_append
    have hrest := ih h
    generalize hplace : here ++ [name] = next at hstep
    cases hstep with
    | root => simp at hplace
    | step hhere hdir hplain hup hlen hnode hlink =>
      obtain ⟨rfl, hname⟩ := List.append_inj' hplace rfl
      obtain rfl := List.singleton_inj.mp hname
      rw [List.append_cons, ← hrest, followNames]
      simp only [hdir, if_neg hup, if_neg hlen, hnode]

/-- **The canonical form of an absolute path leads nowhere else.** -/
theorem locate_ofRoot {p : Path} (habs : p.isAbsolute) (h : t.locate p = .ok place)
    {place' : List String} (h' : t.locate (.ofRoot place) = .ok place') : place' = place := by
  have hd := direct_of_locate habs h
  have hf := follow_of_locate h'
  have hroot : (Path.ofRoot place).isAbsolute := by
    simp [Path.isAbsolute, Path.ofRoot, String.toList_append]
  rw [if_pos hroot, Path.names_ofRoot hd.plain] at hf
  have hplace : t.follow linkBudget [] place true = .ok ([] ++ place) :=
    followNames_of_direct hd
  exact Except.ok.inj (hf.symm.trans hplace)

end FileTree

end LiveSketch
