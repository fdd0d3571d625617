import CallScript.Yaml.Tag

/-!
# Scalars of YAML

What the text of a scalar stands for.  Where the tag of a scalar has been given and not taken from
its spelling, the text has to fit the tag.
-/

namespace CallScript
namespace Yaml

namespace Scalar

/-- A value, or what is wrong with the text of a scalar. -/
abbrev Reading := Except Trouble Value

/-- A fault of the text. -/
def faulty {α : Type} (fault : Fault) : Except Trouble α :=
  .error (.fault fault)

/-- The pieces of a text between colons. -/
def pieces : Text → List Text
  | [] => [[]]
  | mark :: rest =>
      match pieces rest with
      | [] => [[mark]]
      | first :: others =>
          if mark = .char ':' then [] :: first :: others else (mark :: first) :: others

/-- The value of a decimal digit, or of a letter beyond nine. -/
def placeValue? (c : Char) : Option Nat :=
  if Text.isAsciiDigit c then
    some (c.toNat - 0x30)
  else if 'a' ≤ c.toLower && c.toLower ≤ 'z' then
    some (c.toLower.toNat - 0x57)
  else
    none

/-- The digits of a base after the mark of that base, which may be missing. -/
def dropBaseMark (base : Nat) (cs : List Char) : List Char :=
  let mark := if base = 2 then 'b' else if base = 8 then 'o' else 'x'
  match cs with
  | '0' :: c :: rest => if c.toLower = mark then rest else cs
  | _ => cs

/-- The whole number that a text without underscores is a numeral of in a base other than ten. -/
def inBase? (base : Nat) (t : Text) : Option Int :=
  let (negative, body) := Text.takeSign (Text.trimBoth Text.isPlainBlank (Text.plainNumeral t))
  let digits := (dropBaseMark base body).map placeValue?
  if digits.isEmpty || digits.any fun d => d.isNone || base ≤ d.getD 0 then
    none
  else
    some (Binary64.signed negative (digits.foldl (fun n d => base * n + d.getD 0) 0))

/-- The whole number that a text is a numeral of in a base other than ten. -/
def wholeInBase (base : Nat) (t : Text) : Except Trouble Int :=
  match inBase? base t with
  | some n => .ok n
  | none => faulty (.notWhole base t)

/-- The whole number that a text is a decimal numeral of. -/
def wholeInTen (t : Text) : Except Trouble Int :=
  match Text.integer t with
  | .ok n => .ok n
  | .error .form => faulty (.notWhole 10 t)
  | .error (.length digits) => faulty (.numeralLong digits)

/-- The real number that a text is a numeral of. -/
def realIn (t : Text) : Except Trouble Binary64 :=
  match Text.real? t with
  | some x => .ok x
  | none => faulty (.notReal t)

/-- The text without underscores. -/
def ungrouped (t : Text) : Text :=
  t.filter (· ≠ .char '_')

/-- Holds of the text that begins with a minus. -/
def isNegative (t : Text) : Bool :=
  t.head? = some (.char '-')

/-- The text without one sign in front, which has to have something in it before that. -/
def unsigned (t : Text) : Except Trouble Text :=
  match t with
  | [] => faulty .position
  | mark :: rest => .ok (if mark = .char '-' || mark = .char '+' then rest else t)

/-- The whole number that a text without underscores and sign spells. -/
def magnitude (body : Text) : Except Trouble Int :=
  match body with
  | [] => faulty .position
  | [.char '0'] => .ok 0
  | .char '0' :: .char 'b' :: rest => wholeInBase 2 rest
  | .char '0' :: .char 'x' :: rest => wholeInBase 16 rest
  | .char '0' :: _ => wholeInBase 8 body
  | _ =>
      if body.contains (.char ':') then
        ((pieces body).mapM wholeInTen).map (·.foldl (fun n part => 60 * n + part) 0)
      else
        wholeInTen body

/-- The whole number that the text of a scalar spells. -/
def whole (t : Text) : Except Trouble Int := do
  let digits := ungrouped t
  let n ← magnitude (← unsigned digits)
  return if isNegative digits then -n else n

/-- The sum of parts in base sixty, the last one first; every sum and product is rounded. -/
def sixtySum : Int → Binary64 → List Binary64 → Except Trouble Binary64
  | _, sum, [] => .ok sum
  | base, sum, part :: rest =>
      match Binary64.ofInt base with
      | .infinite _ => faulty .overflow
      | factor => sixtySum (base * 60) (sum.add (part.mul factor)) rest

/-- Holds of the text that names the value that is not a number. -/
def namesNaN (t : Text) : Bool :=
  match unsigned (Text.lowered [] (ungrouped t)) with
  | .ok body => body = Text.ofString ".nan"
  | .error _ => false

/-- The real number that the text of a scalar spells. -/
def real (t : Text) : Except Trouble Binary64 := do
  let digits := Text.lowered [] (ungrouped t)
  let body ← unsigned digits
  let negative := isNegative digits
  if body = Text.ofString ".inf" then
    return .infinite negative
  else if body = Text.ofString ".nan" then
    return .nan
  else
    let x ←
      if body.contains (.char ':') then do
        let parts ← (pieces body).mapM realIn
        sixtySum 1 (.zero false) parts.reverse
      else
        realIn body
    return if negative then x.neg else x

/-- The truth value that the text of a scalar spells, in any case. -/
def truth (t : Text) : Except Trouble Bool :=
  match t.string?.bind fun word => Spelling.truths.lookup (Text.lower word) with
  | some b => .ok b
  | none => faulty .lookup

/-- The date or moment that the text of a scalar spells. -/
def stamp (t : Text) : Reading :=
  match t.chars?.bind fun cs => Stamp.ofChars? (Spelling.dropLineFeed cs) with
  | none => faulty .notText
  | some s =>
      match s.toValue with
      | .ok value => .ok value
      | .error misfit => faulty (.calendar misfit)

/-- The six bits of a character of the base-64 alphabet. -/
def sixBits? (c : Char) : Option Nat :=
  if 'A' ≤ c && c ≤ 'Z' then
    some (c.toNat - 65)
  else if 'a' ≤ c && c ≤ 'z' then
    some (c.toNat - 71)
  else if c.isDigit then
    some (c.toNat + 4)
  else if c = '+' then
    some 62
  else if c = '/' then
    some 63
  else
    none

/-- The state of reading base 64: characters and bits left over, signs of filling, and the bytes in
reverse order. -/
structure Sixes where
  place : Nat
  pending : Nat
  pads : Nat
  bytes : List UInt8

/-- The bytes of base-64 text, in which other characters are passed over. -/
def base64 (s : Sixes) : List Char → Except Trouble (List UInt8)
  | [] => if s.place = 0 then .ok s.bytes.reverse else .error .malformed
  | c :: rest =>
      if c = '=' then
        if 2 ≤ s.place && 4 ≤ s.place + s.pads + 1 then
          .ok s.bytes.reverse
        else
          base64 { s with pads := if 2 ≤ s.place then s.pads + 1 else s.pads } rest
      else
        match sixBits? c with
        | none => base64 s rest
        | some bits =>
            if s.place = 0 then
              base64 { s with place := 1, pending := bits, pads := 0 } rest
            else
              let all := s.pending * 64 + bits
              let left := 6 - 2 * s.place
              base64
                { place := (s.place + 1) % 4
                  pending := all % Nat.pow 2 left
                  pads := 0
                  bytes := UInt8.ofNat (all / Nat.pow 2 left) :: s.bytes } rest

/-- The bytes that the text of a scalar spells. -/
def binary (t : Text) : Except Trouble (List UInt8) :=
  match t.chars? with
  | some cs => if cs.any fun c => 0x80 ≤ c.toNat then .error .malformed else base64 ⟨0, 0, 0, []⟩ cs
  | none => .error .malformed

/-- The value of a scalar with a tag; `own` tells whether the text is its own. -/
def read (tag : Tag) (own : Bool) (t : Text) : Reading :=
  match tag with
  | .null => .ok .null
  | .bool => (truth t).map .bool
  | .whole => (whole t).map .integer
  | .real => (real t).map .real
  | .timestamp => if own then stamp t else faulty .argument
  | .binary => (binary t).map .bytes
  | .text => .ok (.text t)
  | _ => .error .malformed

end Scalar
end Yaml
end CallScript
