import CallScript.Fault

/-!
# Places in a YAML text

A cursor is the rest of a text together with the line and the column at which it begins.  Line
breaks are the line feed, the next-line character and the two Unicode separators; carriage returns
have become line feeds before a cursor is made.
-/

namespace CallScript
namespace Yaml

/-- Why a text has no value: it is not well-formed, or something in it has a fault of its own. -/
inductive Trouble where
  | malformed
  | fault (fault : Fault)
  deriving Inhabited

/-- What `peek` shows at the end of the text. -/
def endMark : Char := '\x00'

/-- The mark of byte order, which takes no room in a line. -/
def byteOrderMark : Char := Char.ofNat 0xfeff

/-- The line separator. -/
def lineSeparator : Char := Char.ofNat 0x2028

/-- The paragraph separator. -/
def paragraphSeparator : Char := Char.ofNat 0x2029

/-- Holds of the line breaks. -/
def isBreak (c : Char) : Bool :=
  c = '\n' || c = Char.ofNat 0x85 || c = lineSeparator || c = paragraphSeparator

/-- Holds of the line breaks and the end of the text. -/
def isLineEnd (c : Char) : Bool :=
  c = endMark || isBreak c

/-- Holds of the space, the line breaks and the end of the text. -/
def isSpaceOrEnd (c : Char) : Bool :=
  c = ' ' || isLineEnd c

/-- Holds of the space, the tab, the line breaks and the end of the text. -/
def isGap (c : Char) : Bool :=
  c = '\t' || isSpaceOrEnd c

/-- Holds of the characters that a text may hold. -/
def isAllowed (c : Char) : Bool :=
  let n := c.toNat
  n = 0x09 || n = 0x0a || n = 0x0d || (0x20 ≤ n && n ≤ 0x7e) || n = 0x85 ||
    (0xa0 ≤ n && n ≤ 0xd7ff) || (0xe000 ≤ n && n ≤ 0xfffd) || 0x10000 ≤ n

/-- A place in a text. -/
structure Cursor where
  rest : List Char
  /-- The number of characters in the rest. -/
  left : Nat
  index : Nat
  line : Nat
  column : Nat
  deriving Inhabited

namespace Cursor

/-- The start of a text. -/
def start (cs : List Char) : Cursor :=
  ⟨cs, cs.length, 0, 0, 0⟩

/-- The next character. -/
def peek (c : Cursor) : Char :=
  c.rest.headD endMark

/-- The character after a number of others. -/
def peekAt (c : Cursor) (n : Nat) : Char :=
  c.rest.getD n endMark

/-- The place after the next character. -/
def step (c : Cursor) : Cursor :=
  match c.rest with
  | [] => c
  | ch :: rest =>
      if isBreak ch then
        ⟨rest, c.left - 1, c.index + 1, c.line + 1, 0⟩
      else if ch = byteOrderMark then
        ⟨rest, c.left - 1, c.index + 1, c.line, c.column⟩
      else
        ⟨rest, c.left - 1, c.index + 1, c.line, c.column + 1⟩

/-- The place after a number of characters. -/
def skip : Nat → Cursor → Cursor
  | 0, c => c
  | n + 1, c => skip n c.step

/-- The characters up to the first that fails the test, and the place after them. -/
def takeWhile (c : Cursor) (p : Char → Bool) : List Char × Cursor :=
  let taken := c.rest.takeWhile p
  (taken, c.skip taken.length)

/-- The place of the first character that fails the test. -/
def skipWhile (c : Cursor) (p : Char → Bool) : Cursor :=
  (c.takeWhile p).2

/-- The place after spaces. -/
def skipSpaces (c : Cursor) : Cursor :=
  c.skipWhile (· = ' ')

/-- A line break and the place after it; the next-line character counts as a line feed. -/
def lineBreak? (c : Cursor) : Option (Char × Cursor) :=
  if isBreak c.peek then
    some (if c.peek = lineSeparator || c.peek = paragraphSeparator then c.peek else '\n', c.step)
  else
    none

/-- The place after a line break, if there is one. -/
def skipBreak (c : Cursor) : Cursor :=
  if isBreak c.peek then c.step else c

/-- Holds where three equal marks and a gap follow. -/
def atMarks (c : Cursor) (mark : Char) : Bool :=
  [mark, mark, mark].isPrefixOf c.rest && isGap (c.peekAt 3)

/-- Holds where a line begins or ends a document, if it is at the start of a line. -/
def atSeparator (c : Cursor) : Bool :=
  c.atMarks '-' || c.atMarks '.'

/-- The place at the end of the line, if only spaces and a comment are in between. -/
def skipComment? (c : Cursor) : Except Trouble Cursor :=
  let c := c.skipSpaces
  let c := if c.peek = '#' then c.skipWhile (!isLineEnd ·) else c
  if isLineEnd c.peek then .ok c.skipBreak else .error .malformed

end Cursor
end Yaml
end CallScript
