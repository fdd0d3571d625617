import CallScript.Yaml.Knot
import CallScript.Yaml.Merge
import CallScript.Yaml.Scalar
import CallScript.Yaml.Seating
import Std.Data.HashMap

/-!
# Values of YAML

The value of a document.  Every node is made into a value once, however many aliases stand for it.
Collections are begun when they are met and filled in the order in which they were begun, so a
fault in one that was begun earlier is told first.
-/

namespace CallScript
namespace Yaml

/-- The state of making values. -/
structure Making where
  nodes : Array Node
  /-- What a node has been made into. -/
  made : Array (Option Member)
  drafts : Drafts
  /-- The collections that were begun: the place of the node and that of the draft. -/
  begun : Array (Nat × Nat)

/-- Making values. -/
abbrev Maker := StateT Making (Except Trouble)

namespace Maker

/-- Holds of the tags of collections. -/
def isCollection (tag : Tag) : Bool :=
  [Tag.list, .map, .set, .ordered, .pairs].contains tag

/--
The text of a scalar.  A mapping may stand for one: it has the text of what its sign for a value
holds.
-/
def textAt (nodes : Array Node) : Nat → Nat → Except Trouble Text
  | 0, _ => .error (.fault .tooDeep)
  | fuel + 1, place =>
      match nodes[place]? with
      | some ⟨_, .scalar text⟩ => .ok text
      | some ⟨_, .mapping entries⟩ =>
          match entries.find? fun entry => Merging.tagAt nodes entry.1 = .value with
          | some (_, content) => textAt nodes fuel content
          | none => .error .malformed
      | _ => .error .malformed

/-- A new draft. -/
def newDraft (cell : Cell) : Maker Nat := do
  let place := (← get).drafts.size
  modify fun s => { s with drafts := s.drafts.push (.cell cell) }
  return place

/-- The value of the scalar at a place. -/
def scalarAt (place : Nat) (node : Node) : Maker Member := do
  if node.tag = .merge || node.tag = .value || node.tag = .foreign then
    throw .malformed
  let nodes := (← get).nodes
  let text ← textAt nodes (nodes.size + 1) place
  let own :=
    match node.content with
    | .scalar _ => true
    | _ => false
  return .value (← Scalar.read node.tag own text)

/-- Begin the collection at a place. -/
def beginAt (place : Nat) : Maker Member := do
  let draft ← newDraft (.list [])
  modify fun s => { s with begun := s.begun.push (place, draft) }
  return .cell draft

/-- What the node at a place is made into. -/
def make (place : Nat) : Maker Member := do
  let s ← get
  match s.made[place]?, s.nodes[place]? with
  | some (some member), _ => return member
  | _, none => throw .malformed
  | _, some node =>
      let member ← if isCollection node.tag then beginAt place else scalarAt place node
      modify fun s => { s with made := s.made.setIfInBounds place (some member) }
      return member

/-- A key, and what tells it from all keys that are not equal to themselves. -/
structure Key where
  value : Value
  identity : Nat

/-- Holds of keys of which a mapping has only one. -/
def Key.same (x y : Key) : Bool :=
  x.value.sameKey y.value ||
    match x.value, y.value with
    | .real .nan, .real .nan => x.identity = y.identity
    | _, _ => false

/-- The key at a place, which may be no collection.  All that are spelled `.nan` are the same. -/
def keyAt (place : Nat) : Maker Key := do
  match ← make place with
  | .cell _ => throw .malformed
  | .value value =>
      let nodes := (← get).nodes
      match textAt nodes (nodes.size + 1) place with
      | .ok text => return ⟨value, if Scalar.namesNaN text then nodes.size else place⟩
      | .error _ => return ⟨value, place⟩

/-- The entries of a mapping, and the place among them of every key that is a text. -/
structure Rows where
  rows : Array (Key × Member)
  places : Std.HashMap Text Nat

/-- No entries. -/
def Rows.empty : Rows := ⟨#[], ∅⟩

/-- The place of a key that is there. -/
def Rows.find? (rows : Rows) (key : Key) : Option Nat :=
  match key.value with
  | .text t => rows.places[t]?
  | _ => rows.rows.findIdx? fun row => row.1.same key

/-- Entries after one has been set: a key that is there keeps its place and spelling. -/
def Rows.put (rows : Rows) (key : Key) (member : Member) : Rows :=
  match rows.find? key with
  | some place =>
      { rows with rows := rows.rows.modify place fun row => (row.1, member) }
  | none =>
      { rows := rows.rows.push (key, member)
        places :=
          match key.value with
          | .text t => rows.places.insert t rows.rows.size
          | _ => rows.places }

/-- The entries of a mapping in order. -/
def mapEntries (entries : Entries) : Maker (List (Value × Member)) := do
  let found ← entries.foldlM (fun found entry => do
    let key ← keyAt entry.1
    let member ← make entry.2
    return Rows.put found key member) Rows.empty
  return found.rows.toList.map fun row => (row.1.value, row.2)

/-- The entries of the mapping at a place after all merges. -/
def flattened (merges place : Nat) : Maker Entries := do
  let nodes ← modifyGet fun s => (s.nodes, { s with nodes := #[] })
  let (entries, nodes) ← (Merging.flatten merges place).run nodes
  modify fun s => { s with nodes := nodes }
  return entries

/-- A pair: a mapping of one entry. -/
def pairAt (place : Nat) : Maker Member := do
  match Merging.entriesAt? (← get).nodes place with
  | some [(key, content)] => do
      let key ← make key
      let content ← make content
      return .cell (← newDraft (.group [key, content]))
  | _ => throw .malformed

/-- What a collection holds; the tag has to fit the form of the node. -/
def contentOf (merges place : Nat) (node : Node) : Maker Draft := do
  match node.tag, node.content with
  | .list, .sequence items => return .cell (.list (← items.mapM make))
  | .map, .mapping _ => return .cell (.map (← mapEntries (← flattened merges place)))
  | .set, .mapping _ =>
      let entries ← mapEntries (← flattened merges place)
      return .done (.distinct (Seating.arrange (entries.map (·.1))))
  | .ordered, .sequence items | .pairs, .sequence items =>
      return .cell (.list (← items.mapM pairAt))
  | _, _ => throw .malformed

/-- Fill the collections that were begun, from the one with an index on. -/
def fillFrom (merges : Nat) : Nat → Nat → Maker Unit
  | 0, _ => pure ()
  | fuel + 1, index => do
      let s ← get
      match s.begun[index]? with
      | none => pure ()
      | some (place, draft) =>
          let content ← contentOf merges place (s.nodes[place]?.getD default)
          modify fun s => { s with drafts := s.drafts.setIfInBounds draft content }
          fillFrom merges fuel (index + 1)

/-- What the document is made into. -/
def document (root : Nat) : Maker Member := do
  let nodes := (← get).nodes
  let member ← make root
  fillFrom (Merging.count nodes) (nodes.size + 1) 0
  return member

end Maker

/-- The value of a text; a text without a document has the value of nothing. -/
def read (text : String) : Except Trouble Value := do
  match ← Graph.ofText? text with
  | none => return .null
  | some graph =>
      let start : Making :=
        { nodes := graph.nodes
          made := Array.replicate graph.nodes.size none
          drafts := #[]
          begun := #[] }
      let (member, final) ← (Maker.document graph.root).run start
      return final.drafts.valueOf member

end Yaml
end CallScript
