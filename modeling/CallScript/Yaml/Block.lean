import CallScript.Yaml.Cursor

/-!
# Block scalars

Scalars that are set apart by their indentation.  A literal scalar keeps its line breaks, a folded
one joins its lines; a header says what happens to the breaks at the end and may fix the
indentation.
-/

namespace CallScript
namespace Yaml
namespace Block

/-- What happens to the breaks at the end of a scalar. -/
inductive Chomping where
  | strip
  | clip
  | keep
  deriving Repr, DecidableEq

/-- The header of a scalar. -/
structure Header where
  chomping : Chomping
  increment : Option Nat
  deriving Repr, DecidableEq

/-- The chomping that a sign asks for. -/
def chompingOf? (c : Char) : Option Chomping :=
  if c = '+' then some .keep else if c = '-' then some .strip else none

/-- The digit of an indentation. -/
def digitOf? (c : Char) : Option Nat :=
  if '0' ≤ c && c ≤ '9' then some (c.toNat - 0x30) else none

/-- The header at a place: a sign and a digit in any order, both of which may be missing. -/
def header (c : Cursor) : Except Trouble (Header × Cursor) :=
  let found : Header × Cursor :=
    match chompingOf? c.peek with
    | some chomping =>
        match digitOf? c.step.peek with
        | some n => (⟨chomping, some n⟩, c.skip 2)
        | none => (⟨chomping, none⟩, c.step)
    | none =>
        match digitOf? c.peek with
        | some n =>
            match chompingOf? c.step.peek with
            | some chomping => (⟨chomping, some n⟩, c.skip 2)
            | none => (⟨.clip, some n⟩, c.step)
        | none => (⟨.clip, none⟩, c)
  if found.1.increment = some 0 || !isSpaceOrEnd found.2.peek then
    .error .malformed
  else
    .ok found

/-- Blank lines at the start of a scalar without a fixed indentation, and their greatest column. -/
structure Lead where
  breaks : List Char
  column : Nat
  cursor : Cursor

/-- The blank lines at the start of a scalar. -/
def lead : Nat → Lead → Lead
  | 0, l => l
  | fuel + 1, l =>
      if l.cursor.peek = ' ' then
        let c := l.cursor.step
        lead fuel { l with cursor := c, column := max l.column c.column }
      else
        match l.cursor.lineBreak? with
        | none => l
        | some (ch, c) => lead fuel { l with breaks := l.breaks ++ [ch], cursor := c }

/-- The place after spaces up to an indentation. -/
def skipIndent (indent : Nat) (c : Cursor) : Cursor :=
  c.skip (min (c.rest.takeWhile (· = ' ')).length (indent - c.column))

/-- The breaks of blank lines, and the place in the first line that is not blank. -/
def breaks (indent : Nat) : Nat → List Char → Cursor → List Char × Cursor
  | 0, found, c => (found, c)
  | fuel + 1, found, c =>
      let c := skipIndent indent c
      match c.lineBreak? with
      | none => (found, c)
      | some (ch, c) => breaks indent fuel (found ++ [ch]) c

/-- The lines of a scalar in reverse order, the break after the last one, the blank lines after it,
and the end. -/
structure Body where
  before : List Char
  lastBreak : List Char
  blank : List Char
  cursor : Cursor

/-- Holds where another line of the scalar begins. -/
def continues (indent : Nat) (c : Cursor) : Bool :=
  c.column = indent && !c.rest.isEmpty

/-- Holds of the blanks that keep a line from being joined. -/
def isInset (c : Char) : Bool :=
  c = ' ' || c = '\t'

/-- The lines of a scalar from the one at the cursor, before which breaks have been passed. -/
def lines (folded : Bool) (indent : Nat) : Nat → Body → Body
  | 0, b => b
  | fuel + 1, b =>
      if continues indent b.cursor then
        let flush := !isInset b.cursor.peek
        let (line, c) := b.cursor.takeWhile (!isLineEnd ·)
        let (lastBreak, c) :=
          match c.lineBreak? with
          | none => ([], c)
          | some (ch, c) => ([ch], c)
        let (blank, c) := breaks indent (c.left + 1) [] c
        let before := line.reverse ++ (b.blank.reverse ++ b.before)
        if continues indent c then
          let joint :=
            if folded && lastBreak = ['\n'] && flush && !isInset c.peek then
              if blank.isEmpty then [' '] else []
            else
              lastBreak
          lines folded indent fuel ⟨joint ++ before, lastBreak, blank, c⟩
        else
          ⟨before, lastBreak, blank, c⟩
      else
        b

/-- The scalar whose sign is at a place inside a block with an indentation. -/
def read (folded : Bool) (indent : Int) (c : Cursor) : Except Trouble (List Char × Cursor) := do
  let (head, c) ← header c.step
  let c ← c.skipComment?
  let least := (max (indent + 1) 1).toNat
  let fuel := c.left + 1
  let start : Body × Nat :=
    match head.increment with
    | none =>
        let l := lead fuel ⟨[], 0, c⟩
        (⟨[], [], l.breaks, l.cursor⟩, max least l.column)
    | some n =>
        let column := least + n - 1
        let (blank, c) := breaks column fuel [] c
        (⟨[], [], blank, c⟩, column)
  let b := lines folded start.2 fuel start.1
  let tail :=
    match head.chomping with
    | .strip => []
    | .clip => b.lastBreak
    | .keep => b.lastBreak ++ b.blank
  return (b.before.reverse ++ tail, b.cursor)

end Block
end Yaml
end CallScript
