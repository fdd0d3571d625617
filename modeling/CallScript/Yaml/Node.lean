import CallScript.Yaml.Tag
import CallScript.Yaml.Token

/-!
# Nodes of YAML

The document in a row of tokens as a graph of scalars, sequences and mappings, each with its tag.
A text holds at most one document.  Anchors name a node once; an alias stands for the node that
its anchor has named before, which may be one that the alias itself lies in.
-/

namespace CallScript
namespace Yaml

/-- What a node holds; the nodes in it are named by their places in the graph. -/
inductive Content where
  | scalar (text : Text)
  | sequence (items : List Nat)
  | mapping (entries : List (Nat × Nat))
  deriving Repr, DecidableEq, Inhabited

/-- A node. -/
structure Node where
  tag : Tag
  content : Content
  deriving Repr, DecidableEq, Inhabited

/-- A document. -/
structure Graph where
  nodes : Array Node
  root : Nat

/-- The state of reading nodes. -/
structure Parse where
  tokens : List Token
  /-- What it means that the tokens run out. -/
  trouble : Trouble
  handles : List (String × String)
  nodes : Array Node
  anchors : List (String × Nat)
  /-- The number of nodes around the next one. -/
  depth : Nat

/-- Reading nodes. -/
abbrev Parsing := StateT Parse (Except Trouble)

namespace Parsing

/-- The text is not well-formed. -/
def fail {α : Type} : Parsing α :=
  throw .malformed

/-- The next token. -/
def peek : Parsing Token := do
  let s ← get
  match s.tokens with
  | token :: _ => return token
  | [] => throw s.trouble

/-- Go on after the next token. -/
def drop : Parsing Unit :=
  modify fun s => { s with tokens := s.tokens.drop 1 }

/-- Go on after the next token if it is the given one; tells whether it is. -/
def accept (token : Token) : Parsing Bool := do
  if (← peek) = token then
    drop
    return true
  else
    return false

/-- Whether the next token is one of the given ones. -/
def isNext (tokens : List Token) : Parsing Bool := do
  return tokens.contains (← peek)

/-- The handles that every document knows. -/
def commonHandles : List (String × String) :=
  [("!", "!"), ("!!", "tag:yaml.org,2002:")]

/-- The anchor and the tag in front of a node. -/
structure Properties where
  anchor : Option String
  tag : Option (Option String × String)

/-- An anchor, if one is next. -/
def takeAnchor : Parsing (Option String) := do
  match ← peek with
  | .anchor name =>
      drop
      return some name
  | _ => return none

/-- A tag, if one is next. -/
def takeTag : Parsing (Option (Option String × String)) := do
  match ← peek with
  | .tag handle suffix =>
      drop
      return some (handle, suffix)
  | _ => return none

/-- The properties of a node: an anchor and a tag in any order, both of which may be missing. -/
def takeProperties : Parsing Properties := do
  match ← takeAnchor with
  | some name => return ⟨some name, ← takeTag⟩
  | none =>
      match ← takeTag with
      | some tag => return ⟨← takeAnchor, some tag⟩
      | none => return ⟨none, none⟩

/-- The full tag of a node. -/
def fullTag : Option (Option String × String) → Parsing (Option String)
  | none => return none
  | some (none, suffix) => return some suffix
  | some (some handle, suffix) => do
      match (← get).handles.lookup handle with
      | some start => return some (start ++ suffix)
      | none => fail

/-- The greatest number of nodes inside one another. -/
def deepest : Nat := 487

/-- Read a node inside the current one. -/
def nested {α : Type} (inner : Parsing α) : Parsing α := do
  if deepest < (← get).depth then
    throw (.fault .tooDeep)
  modify fun s => { s with depth := s.depth + 1 }
  let result ← inner
  modify fun s => { s with depth := s.depth - 1 }
  return result

/-- Begin a node, which its anchor names from now on; an anchor names only one. -/
def openNode (anchor : Option String) (tag : Tag) : Parsing Nat := do
  let place := (← get).nodes.size
  modify fun s => { s with nodes := s.nodes.push ⟨tag, .scalar []⟩ }
  match anchor with
  | none => return place
  | some name =>
      if ((← get).anchors.lookup name).isSome then
        fail
      modify fun s => { s with anchors := (name, place) :: s.anchors }
      return place

/-- End a node with what it holds. -/
def closeNode (place : Nat) (content : Content) : Parsing Nat := do
  modify fun s =>
    { s with nodes := s.nodes.modify place fun node => { node with content := content } }
  return place

/-- The node that an alias stands for. -/
def resolveAlias (name : String) : Parsing Nat := do
  match (← get).anchors.lookup name with
  | some place => return place
  | none => fail

/-- The tag of a scalar; the single exclamation mark makes it plain, whatever its form. -/
def scalarTag (tag : Option String) (plain : Bool) (text : Text) : Tag :=
  match tag with
  | none => if plain then .ofPlain text else .text
  | some name => if name = "!" then .ofPlain text else .ofName name

/-- The tag of a collection, which is the common one of its kind if it is not told. -/
def collectionTag (common : Tag) (tag : Option String) : Tag :=
  match tag with
  | none => common
  | some name => if name = "!" then common else .ofName name

/-- A scalar. -/
def scalar (anchor tag : Option String) (plain : Bool) (text : Text) : Parsing Nat := do
  let place ← openNode anchor (scalarTag tag plain text)
  closeNode place (.scalar text)

/-- The node of nothing. -/
def emptyNode : Parsing Nat :=
  scalar none none true []

/-- The node of an anchor or a tag without content. -/
def bare (anchor tag : Option String) : Parsing Nat :=
  if anchor.isNone && tag.isNone then
    fail
  else
    scalar anchor tag true []

/-- A sequence of the items that are read after it has begun. -/
def sequence (anchor tag : Option String) (items : Parsing (List Nat)) : Parsing Nat := do
  let place ← openNode anchor (collectionTag .list tag)
  closeNode place (.sequence (← items))

/-- A mapping of the entries that are read after it has begun. -/
def mapping (anchor tag : Option String) (entries : Parsing (List (Nat × Nat))) :
    Parsing Nat := do
  let place ← openNode anchor (collectionTag .map tag)
  closeNode place (.mapping (← entries))

mutual

/-- A node; only in a block context a block may begin, and only after a key a bare row of items. -/
def node (block bareRow : Bool) : Nat → Parsing Nat
  | 0 => fail
  | fuel + 1 => nested do
      match ← peek with
      | .alias name =>
          drop
          resolveAlias name
      | _ =>
          let properties ← takeProperties
          let tag ← fullTag properties.tag
          let anchor := properties.anchor
          match ← peek with
          | .scalar text plain =>
              drop
              scalar anchor tag plain text
          | .flowSequenceStart => sequence anchor tag (do drop; flowItems true fuel)
          | .flowMappingStart => mapping anchor tag (do drop; flowEntries true fuel)
          | .blockEntry =>
              if bareRow then sequence anchor tag (rowItems fuel) else bare anchor tag
          | .blockSequenceStart =>
              if block then
                sequence anchor tag (do drop; blockItems fuel)
              else
                bare anchor tag
          | .blockMappingStart =>
              if block then
                mapping anchor tag (do drop; blockEntries fuel)
              else
                bare anchor tag
          | _ => bare anchor tag

/-- The items of a block sequence up to its end. -/
def blockItems : Nat → Parsing (List Nat)
  | 0 => fail
  | fuel + 1 => do
      if ← accept .blockEntry then
        let item ←
          if ← isNext [.blockEntry, .blockEnd] then emptyNode else node true false fuel
        return item :: (← blockItems fuel)
      else if ← accept .blockEnd then
        return []
      else
        fail

/-- The items of a sequence that is not indented, up to something else. -/
def rowItems : Nat → Parsing (List Nat)
  | 0 => fail
  | fuel + 1 => do
      if ← accept .blockEntry then
        let item ←
          if ← isNext [.blockEntry, .key, .value, .blockEnd] then
            emptyNode
          else
            node true false fuel
        return item :: (← rowItems fuel)
      else
        return []

/-- The entries of a block mapping up to its end. -/
def blockEntries : Nat → Parsing (List (Nat × Nat))
  | 0 => fail
  | fuel + 1 => do
      if ← accept .key then
        let key ←
          if ← isNext [.key, .value, .blockEnd] then
            emptyNode
          else
            node true true fuel
        let value ← blockValue fuel
        return (key, value) :: (← blockEntries fuel)
      else if ← accept .blockEnd then
        return []
      else
        fail

/-- The value after a key of a block mapping. -/
def blockValue : Nat → Parsing Nat
  | 0 => fail
  | fuel + 1 => do
      if ← accept .value then
        if ← isNext [.key, .value, .blockEnd] then
          emptyNode
        else
          node true true fuel
      else
        emptyNode

/-- The items of a sequence in brackets up to its end; a key begins a mapping of one entry. -/
def flowItems (first : Bool) : Nat → Parsing (List Nat)
  | 0 => fail
  | fuel + 1 => do
      if ← accept .flowSequenceEnd then
        return []
      else
        if !first then
          if !(← accept .flowEntry) then
            fail
        if ← accept .flowSequenceEnd then
          return []
        else
          let item ←
            if ← accept .key then
              nested <| mapping none none do
                let key ←
                  if ← isNext [.value, .flowEntry, .flowSequenceEnd] then
                    emptyNode
                  else
                    node false false fuel
                return [(key, ← flowValue .flowSequenceEnd fuel)]
            else
              node false false fuel
          return item :: (← flowItems false fuel)

/-- The entries of a mapping in brackets up to its end. -/
def flowEntries (first : Bool) : Nat → Parsing (List (Nat × Nat))
  | 0 => fail
  | fuel + 1 => do
      if ← accept .flowMappingEnd then
        return []
      else
        if !first then
          if !(← accept .flowEntry) then
            fail
        if ← accept .flowMappingEnd then
          return []
        else
          let entry ←
            if ← accept .key then do
              let key ←
                if ← isNext [.value, .flowEntry, .flowMappingEnd] then
                  emptyNode
                else
                  node false false fuel
              pure (key, ← flowValue .flowMappingEnd fuel)
            else
              pure (← node false false fuel, ← emptyNode)
          return entry :: (← flowEntries false fuel)

/-- The value after a key in brackets, which end with the given token. -/
def flowValue (closing : Token) : Nat → Parsing Nat
  | 0 => fail
  | fuel + 1 => do
      if ← accept .value then
        if ← isNext [.flowEntry, closing] then
          emptyNode
        else
          node false false fuel
      else
        emptyNode

end

/-- The directives in front of a document. -/
structure Directives where
  hasVersion : Bool
  handles : List (String × String)

/-- Read the directives in front of a document. -/
def directives : Nat → Directives → Parsing Directives
  | 0, _ => fail
  | fuel + 1, found => do
      match ← peek with
      | .versionDirective major =>
          drop
          if found.hasVersion || major ≠ 1 then
            fail
          directives fuel { found with hasVersion := true }
      | .tagDirective handle start =>
          drop
          if (found.handles.lookup handle).isSome then
            fail
          directives fuel { found with handles := (handle, start) :: found.handles }
      | .otherDirective =>
          drop
          directives fuel found
      | _ => return found

/-- Go on after the marks at the end of a document. -/
def dropEnds : Nat → Parsing Unit
  | 0 => fail
  | fuel + 1 => do
      if ← accept .documentEnd then
        dropEnds fuel

/-- The node of a document that begins with a mark. -/
def markedDocument (fuel : Nat) : Parsing Nat := do
  let found ← directives fuel ⟨false, []⟩
  if !(← accept .documentStart) then
    fail
  modify fun s => { s with handles := found.handles ++ commonHandles }
  match ← peek with
  | .versionDirective _ | .tagDirective _ _ | .otherDirective | .documentStart | .documentEnd
  | .streamEnd => emptyNode
  | _ => node true false fuel

/-- Whether a document begins with a mark or a directive, or the text is over. -/
def beginsMarked : Parsing Bool := do
  match ← peek with
  | .versionDirective _ | .tagDirective _ _ | .otherDirective | .documentStart
  | .streamEnd => return true
  | _ => return false

/-- The only document of a text; a text without one has no node. -/
def document (fuel : Nat) : Parsing (Option Nat) := do
  let root ←
    if ← beginsMarked then do
      dropEnds fuel
      if ← isNext [.streamEnd] then
        pure none
      else
        some <$> markedDocument fuel
    else
      some <$> node true false fuel
  if root.isSome then
    let _ ← accept .documentEnd
    dropEnds fuel
  if ← isNext [.streamEnd] then
    return root
  else
    let _ ← directives fuel ⟨false, []⟩
    fail

end Parsing

/-- The document in a text, if there is one. -/
def Graph.ofText? (text : String) : Except Trouble (Option Graph) :=
  let cs := Text.unifyBreaks text.toList
  if cs.all isAllowed then
    let tokens := Tokens.ofChars cs
    let start : Parse :=
      { tokens := tokens.tokens
        trouble := tokens.trouble
        handles := Parsing.commonHandles
        nodes := #[]
        anchors := []
        depth := 0 }
    ((Parsing.document (4 * tokens.tokens.length + 8)).run start).map fun found =>
      found.1.map fun root => ⟨found.2.nodes, root⟩
  else
    .error .malformed

end Yaml
end CallScript
