import LiveSketch.Yaml.Node

/-!
# Merge keys

A mapping can take entries over from other mappings, under the key `<<`.

## Main definitions

* `Node.merged` — a node with all its merge keys expanded.

## Implementation notes

The value of a merge key is a mapping or a sequence of mappings. An entry of the mapping itself wins
over one that is taken over, and an earlier mapping over a later one. Taking the merge key out moves
the last entry into its place. Nodes with a tag of their own are left alone.
-/

namespace LiveSketch
namespace Yaml
namespace Node

/-- The key whose value is merged into a mapping. -/
def mergeKey : Node := .text "<<"

/-- Adds the entries whose keys are not there yet. -/
def addMissing (entries more : List (Node × Node)) : List (Node × Node) :=
  more.foldl (fun entries entry =>
    if (find? entries entry.1).isSome then entries else entries ++ [entry]) entries

/-- The entries that the value of a merge key stands for, if it can be merged. -/
def mergeable? : Node → Option (List (Node × Node))
  | mapping entries => some entries
  | sequence items =>
    items.foldlM (fun entries item =>
      match item with
      | mapping more => some (addMissing entries more)
      | _ => none) []
  | _ => none

/-- Removes an entry; the last one takes its place. -/
def removeEntry (entries : List (Node × Node)) (i : Nat) : List (Node × Node) :=
  match entries.getLast? with
  | some last => (entries.set i last).dropLast
  | none => entries

/-- Takes over what the merge key of a mapping asks for. -/
def takeOver? (entries : List (Node × Node)) : Option Node :=
  match position? entries mergeKey with
  | none => some (.mapping entries)
  | some i =>
    match (entries[i]?.map (·.2)).bind mergeable? with
    | some more => some (.mapping (addMissing (removeEntry entries i) more))
    | none => none

mutual

/-- A node with its merge keys expanded, innermost first; nothing if one of them has a value that
cannot be merged. -/
def merged : Node → Option Node
  | sequence items => (mergedItems items).map sequence
  | mapping entries => (mergedEntries entries []).bind takeOver?
  | node => some node

/-- The items of a sequence, expanded. -/
def mergedItems : List Node → Option (List Node)
  | [] => some []
  | item :: rest =>
    match merged item with
    | none => none
    | some item => (mergedItems rest).map (item :: ·)

/-- The entries of a mapping, expanded; `done` are those that already are. -/
def mergedEntries : List (Node × Node) → List (Node × Node) → Option (List (Node × Node))
  | [], done => some done
  | (key, value) :: rest, done =>
    match merged key, merged value with
    | some key, some value => mergedEntries rest (Node.insert done key value)
    | _, _ => none

end

end Node
end Yaml
end LiveSketch
