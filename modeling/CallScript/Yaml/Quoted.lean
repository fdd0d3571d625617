import CallScript.Yaml.Cursor

/-!
# Quoted scalars

Scalars between quotes.  In single quotes only a quote is written in a special way, twice; in
double quotes a backslash begins an escape.  Gaps with line breaks are folded.
-/

namespace CallScript
namespace Yaml
namespace Quoted

/-- A text that was read, and the place after it. -/
abbrev Piece := Text × Cursor

/-- The characters that the escapes of one letter stand for. -/
def escapes : List (Char × Nat) :=
  [ ('0', 0), ('a', 7), ('b', 8), ('t', 9), ('\t', 9), ('n', 10), ('v', 11), ('f', 12),
    ('r', 13), ('e', 27), (' ', 32), ('\x22', 34), ('\\', 92), ('/', 47), ('N', 0x85),
    ('_', 0xa0), ('L', 0x2028), ('P', 0x2029) ]

/-- The number of hexadecimal digits after the letters of the numbered escapes. -/
def numbered : List (Char × Nat) :=
  [('x', 2), ('u', 4), ('U', 8)]

/-- The value of a hexadecimal digit. -/
def hexValue? (c : Char) : Option Nat :=
  if '0' ≤ c && c ≤ '9' then
    some (c.toNat - 0x30)
  else if 'a' ≤ c && c ≤ 'f' then
    some (c.toNat - 0x57)
  else if 'A' ≤ c && c ≤ 'F' then
    some (c.toNat - 0x37)
  else
    none

/-- The number that hexadecimal digits stand for. -/
def hexNumber? (cs : List Char) : Option Nat :=
  cs.foldl (fun n c => n.bind fun k => (hexValue? c).map (16 * k + ·)) (some 0)

/-- The greatest number that is looked up as a character at all. -/
def greatestCode : Nat := 0x7fffffff

/-- The mark with a number. -/
def markOfCode (n : Nat) : Except Trouble Mark :=
  match Mark.ofCode? n with
  | some mark => .ok mark
  | none => .error (.fault (if greatestCode < n then .overflow else .codePoint))

/-- The line breaks of a gap after the first one; a document may not end inside a scalar. -/
def breaks : Nat → Cursor → Except Trouble Piece
  | 0, c => .ok ([], c)
  | fuel + 1, c =>
      if c.atSeparator then
        .error .malformed
      else
        let c := c.skipWhile fun ch => ch = ' ' || ch = '\t'
        match c.lineBreak? with
        | none => .ok ([], c)
        | some (ch, c) => (breaks fuel c).map fun piece => (.char ch :: piece.1, piece.2)

/-- A gap: blanks stay, one line break becomes a space, more become breaks. -/
def gap (c : Cursor) : Except Trouble Piece :=
  let (blanks, c) := c.takeWhile fun ch => ch = ' ' || ch = '\t'
  match c.lineBreak? with
  | none => if c.rest.isEmpty then .error .malformed else .ok (.ofChars blanks, c)
  | some (first, c) =>
      (breaks (c.left + 1) c).map fun piece =>
        if first ≠ '\n' then
          (.char first :: piece.1, piece.2)
        else if piece.1.isEmpty then
          ([.char ' '], piece.2)
        else
          piece

/-- An escape after its backslash. -/
def escape (c : Cursor) : Except Trouble Piece :=
  match escapes.lookup c.peek with
  | some n => .ok ([.char (Char.ofNat n)], c.step)
  | none =>
      match numbered.lookup c.peek with
      | some width =>
          let c := c.step
          let digits := c.rest.take width
          match hexNumber? digits with
          | some n =>
              if digits.length < width then
                .error .malformed
              else
                (markOfCode n).map fun mark => ([mark], c.skip width)
          | none => .error .malformed
      | none =>
          if isBreak c.peek then
            breaks (c.left + 1) c.step
          else
            .error .malformed

/-- Holds of the characters that stand for themselves in both kinds of quotes. -/
def isOrdinary (c : Char) : Bool :=
  !(c = '\x27' || c = '\x22' || c = '\\' || isGap c)

/--
Characters without a gap, up to one that ends the scalar or begins a gap.  They are put in reverse
order in front of those that were read before.
-/
def solid (double : Bool) : Nat → Text → Cursor → Except Trouble Piece
  | 0, before, c => .ok (before, c)
  | fuel + 1, before, c =>
      let (word, c) := c.takeWhile isOrdinary
      let before := (Text.ofChars word).reverse ++ before
      let ch := c.peek
      if !double && ch = '\x27' && c.peekAt 1 = '\x27' then
        solid double fuel (.char ch :: before) (c.skip 2)
      else if (double && ch = '\x27') || (!double && (ch = '\x22' || ch = '\\')) then
        solid double fuel (.char ch :: before) c.step
      else if double && ch = '\\' then
        match escape c.step with
        | .error trouble => .error trouble
        | .ok (image, c) => solid double fuel (image.reverse ++ before) c
      else
        .ok (before, c)

/-- The rest of a scalar up to its closing quote, after what was read before in reverse order. -/
def body (double : Bool) : Nat → Text → Cursor → Except Trouble Piece
  | 0, _, _ => .error .malformed
  | fuel + 1, before, c => do
      let (before, c) ← solid double (c.left + 1) before c
      if c.peek = (if double then '\x22' else '\x27') then
        return (before.reverse, c.step)
      else
        let (blanks, c) ← gap c
        body double fuel (blanks.reverse ++ before) c

/-- The scalar whose opening quote is at a place. -/
def read (double : Bool) (c : Cursor) : Except Trouble Piece :=
  body double (c.left + 1) [] c.step

end Quoted
end Yaml
end CallScript
