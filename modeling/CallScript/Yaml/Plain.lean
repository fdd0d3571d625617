import CallScript.Yaml.Cursor

/-!
# Plain scalars

Scalars without quotes.  They end at a comment, at a colon before a gap, and inside brackets also
at the signs that brackets use; they may go on over lines that are indented deeply enough.
-/

namespace CallScript
namespace Yaml
namespace Plain

/-- Holds of the signs that end a plain scalar inside brackets. -/
def isFlowSign (c : Char) : Bool :=
  [',', '[', ']', '\x7b', '\x7d'].contains c

/-- A piece of a plain scalar without gaps. -/
def piece (inFlow : Bool) : List Char → List Char
  | [] => []
  | c :: rest =>
      let next := rest.headD endMark
      if isGap c then
        []
      else if c = ':' && (isGap next || (inFlow && isFlowSign next)) then
        []
      else if inFlow && (isFlowSign c || c = '?') then
        []
      else
        c :: piece inFlow rest

/-- The breaks of blank lines and the place after them; nothing where a document ends. -/
def blankLines : Nat → List Char → Cursor → Option (List Char × Cursor)
  | 0, breaks, c => some (breaks, c)
  | fuel + 1, breaks, c =>
      if c.peek = ' ' then
        blankLines fuel breaks c.step
      else
        match c.lineBreak? with
        | none => some (breaks, c)
        | some (ch, c) =>
            if c.atSeparator then none else blankLines fuel (breaks ++ [ch]) c

/-- What the gap after a piece stands for, the place after it, and whether it had a break. -/
structure Gap where
  text : List Char
  cursor : Cursor
  broken : Bool

/-- The gap after a piece: spaces stay, one break becomes a space, blank lines become breaks. -/
def gap (c : Cursor) : Gap :=
  let (spaces, c) := c.takeWhile (· = ' ')
  match c.lineBreak? with
  | none => ⟨spaces, c, false⟩
  | some (first, c) =>
      if c.atSeparator then
        ⟨[], c, true⟩
      else
        match blankLines c.left [] c with
        | none => ⟨[], c, true⟩
        | some (breaks, after) =>
            if first ≠ '\n' then
              ⟨first :: breaks, after, true⟩
            else if breaks.isEmpty then
              ⟨[' '], after, true⟩
            else
              ⟨breaks, after, true⟩

/-- A plain scalar, the place after it, and whether it ended with a line break. -/
structure Scalar where
  text : List Char
  cursor : Cursor
  broken : Bool

/--
The scalar of which `before` has been read in reverse order and then a gap, within a step bound.
-/
def more (inFlow : Bool) (indent : Int) : Nat → List Char → List Char → Bool → Cursor → Scalar
  | 0, before, _, broken, c => ⟨before.reverse, c, broken⟩
  | fuel + 1, before, pending, broken, c =>
      let word := if c.peek = '#' then [] else piece inFlow c.rest
      if word.isEmpty then
        ⟨before.reverse, c, broken⟩
      else
        let before := word.reverse ++ (pending.reverse ++ before)
        let g := gap (c.skip word.length)
        if g.text.isEmpty || g.cursor.peek = '#' ||
            (!inFlow && (g.cursor.column : Int) < indent) then
          ⟨before.reverse, g.cursor, g.broken⟩
        else
          more inFlow indent fuel before g.text g.broken g.cursor

/-- The plain scalar at a place. -/
def read (inFlow : Bool) (indent : Int) (c : Cursor) : Scalar :=
  more inFlow indent (c.left + 1) [] [] false c

end Plain
end Yaml
end CallScript
