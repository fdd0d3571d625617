import CallScript.Yaml.Node

/-!
# Merging mappings

An entry whose key is tagged for merging is replaced by the entries of the mapping, or of the
sequence of mappings, that it holds; they come before those that the mapping has itself.  Merging
changes the graph, so a mapping that is met again has its entries already.
-/

namespace CallScript
namespace Yaml

/-- Entries of mappings, by the places of their keys and values. -/
abbrev Entries := List (Nat × Nat)

/-- Changing the nodes of a graph. -/
abbrev Merging := StateT (Array Node) (Except Trouble)

namespace Merging

/-- The tag of the node at a place. -/
def tagAt (nodes : Array Node) (place : Nat) : Tag :=
  (nodes[place]?.map (·.tag)).getD .foreign

/-- The entries of the mapping at a place, if one is there. -/
def entriesAt? (nodes : Array Node) (place : Nat) : Option Entries :=
  match nodes[place]? with
  | some ⟨_, .mapping entries⟩ => some entries
  | _ => none

/-- The entries of the mapping at a place. -/
def entriesAt (nodes : Array Node) (place : Nat) : Entries :=
  (entriesAt? nodes place).getD []

/-- Holds of the entries that merge. -/
def isMerge (nodes : Array Node) (entry : Nat × Nat) : Bool :=
  tagAt nodes entry.1 = .merge

/-- Put other entries into the mapping at a place. -/
def setEntries (place : Nat) (entries : Entries) : Merging Unit :=
  modify fun nodes => nodes.modify place fun node => { node with content := .mapping entries }

/-- Among the keys of a mapping, the sign for a value is a text like any other. -/
def tagKeysAsTexts (entries : Entries) : Merging Unit :=
  modify fun nodes => entries.foldl (fun nodes entry =>
    nodes.modify entry.1 fun node =>
      if node.tag = .value then { node with tag := .text } else node) nodes

/-- The entries of the mapping at a place, and how many from an index on do not merge. -/
def passFrom (place index : Nat) : Merging (Entries × Nat) :=
  modifyGet fun nodes =>
    let entries := entriesAt nodes place
    let passed := (entries.drop index).takeWhile fun entry => !isMerge nodes entry
    ((entries, passed.length), nodes)

/-- The places of the mappings that a merge of the node at a place brings in. -/
def broughtIn (nodes : Array Node) (place : Nat) : Except Trouble (List Nat) :=
  match nodes[place]? with
  | some ⟨_, .mapping _⟩ => .ok [place]
  | some ⟨_, .sequence items⟩ => .ok items
  | _ => .error .malformed

/--
Merge into the mapping at a place, from the entry with an index on, after which the given entries
are put in front of its own.  Every further step takes one entry away that merges, so the number of
those entries bounds the steps.
-/
def flattenFrom : Nat → Nat → Nat → Entries → Merging Unit
  | 0, _, _, _ => pure ()
  | fuel + 1, place, index, merged => do
      let (entries, passed) ← passFrom place index
      tagKeysAsTexts ((entries.drop index).take passed)
      let index := index + passed
      match entries.drop index with
      | [] => setEntries place (merged ++ entries)
      | (_, content) :: rest =>
          setEntries place (entries.take index ++ rest)
          let sources ← broughtIn (← get) content
          let found ← sources.mapM fun source => do
            if (entriesAt? (← get) source).isNone then
              throw .malformed
            flattenFrom fuel source 0 []
            return entriesAt (← get) source
          flattenFrom fuel place index (merged ++ found.reverse.flatten)

/-- The number of entries that merge. -/
def count (nodes : Array Node) : Nat :=
  nodes.foldl (fun n node =>
    match node.content with
    | .mapping entries => n + (entries.filter (isMerge nodes)).length
    | _ => n) 0

/-- Merge into the mapping at a place, and give its entries; `merges` entries merge at the most. -/
def flatten (merges place : Nat) : Merging Entries := do
  flattenFrom (merges + 1) place 0 []
  return entriesAt (← get) place

end Merging
end Yaml
end CallScript
