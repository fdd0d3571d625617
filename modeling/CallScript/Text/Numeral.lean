import CallScript.Binary64
import CallScript.Text.Blank
import CallScript.Text.DecimalDigit

/-!
# Numerals

How a text is read as a number.  A numeral may stand between blanks, has at most one sign, may
use the decimal digits of any script, and may have single underscores between digits.  Real
numerals also have a fraction, an exponent, and the names of the infinity and of the value that
is not a number.
-/

namespace CallScript
namespace Text

/-- The longest whole numeral that is read. -/
def longestNumeral : Nat := 4300

/-- What is wrong with a text that is no whole numeral: its form, or the number of its digits. -/
inductive Misnumeral where
  | form
  | length (digits : Nat)
  deriving Repr, DecidableEq

/-- A character of a numeral in plain ASCII; no numeral holds the characters that stay wide. -/
def plainDigit (c : Char) : Char :=
  if c.toNat < 0x80 then
    c
  else if isWideBlank c then
    ' '
  else
    match digitValue? c with
    | some value => Char.ofNat (0x30 + value)
    | none => c

/-- The characters of a numeral in plain ASCII: blanks as spaces, digits of all scripts as `0` to
`9`. -/
def plainNumeral (t : Text) : List Char :=
  t.chars.map plainDigit

/-- A leading sign and the rest; `true` stands for the minus. -/
def takeSign : List Char → Bool × List Char
  | '-' :: rest => (true, rest)
  | '+' :: rest => (false, rest)
  | rest => (false, rest)

/-- Holds of the decimal digits `0` to `9`. -/
def isAsciiDigit (c : Char) : Bool :=
  (asciiDigit? c).isSome

/-- Holds of digits and underscores. -/
def isGrouped (c : Char) : Bool :=
  isAsciiDigit c || c = '_'

/-- Holds of a character and the next one, if an underscore among them stands beside a digit. -/
def joinsDigits (pair : Char × Char) : Bool :=
  (pair.1 ≠ '_' || isAsciiDigit pair.2) && (pair.2 ≠ '_' || isAsciiDigit pair.1)

/-- The characters without underscores, each of which must stand between two digits. -/
def ungrouped? (cs : List Char) : Option (List Char) :=
  if cs.head? = some '_' || cs.getLast? = some '_' || !((cs.zip (cs.drop 1)).all joinsDigits) then
    none
  else
    some (cs.filter (· ≠ '_'))

/-- The number that decimal digits stand for. -/
def digitsToNat (cs : List Char) : Nat :=
  cs.foldl (fun n c => 10 * n + (c.toNat - 0x30)) 0

/--
The whole number that a text is a numeral of.  The digits at the front are counted before anything
is said about what follows them.
-/
def integer (t : Text) : Except Misnumeral Int :=
  let (negative, body) := takeSign ((plainNumeral t).dropWhile isPlainBlank)
  let front := body.takeWhile isGrouped
  match ungrouped? front with
  | none => .error .form
  | some digits =>
      if longestNumeral < digits.length then
        .error (.length digits.length)
      else if digits.isEmpty || !((body.drop front.length).all isPlainBlank) then
        .error .form
      else
        .ok (Binary64.signed negative (digitsToNat digits))

/-- The text a number of times in a row. -/
def copies (count : Nat) (t : Text) : Text :=
  (List.replicate count t).flatten

/--
The whole number that many copies of a text are a numeral of.  A text with anything but digits is
read like three copies of it, since the digits at the front end in the first one.
-/
def integerOfCopies (count : Nat) (t : Text) : Except Misnumeral Int :=
  let characters := plainNumeral t
  if characters.isEmpty || !(characters.all isGrouped) then
    integer (copies (min count 3) t)
  else
    match ungrouped? characters with
    | none => .error .form
    | some digits =>
        if longestNumeral < count * digits.length then
          .error (.length (count * digits.length))
        else
          integer (copies count t)

/-- The number of digits that decide how a real numeral is rounded. -/
def decisiveDigits : Nat := 800

/--
The binary64 number nearest to digits times a power of ten.  Behind the decisive digits it only
matters whether any digit is not zero, since no number half-way between two binary64 numbers has
as many digits.
-/
def nearest (negative : Bool) (digits : List Char) (exponent : Int) : Binary64 :=
  let digits := digits.dropWhile (· = '0')
  let rest := digits.drop decisiveDigits
  if rest.isEmpty then
    Binary64.ofDecimal negative (digitsToNat digits) exponent
  else
    let last := if rest.any (· ≠ '0') then '1' else '0'
    Binary64.ofDecimal negative (digitsToNat (digits.take decisiveDigits ++ [last]))
      (exponent + rest.length - 1)

/-- The number of digits of an exponent beyond which it makes no difference. -/
def longestExponent : Nat := 20

/-- The exponent part of a real numeral: nothing, or a mark, a sign and digits up to the end. -/
def exponentPart? : List Char → Option Int
  | [] => some 0
  | c :: rest =>
      if c = 'e' || c = 'E' then
        let (negative, digits) := takeSign rest
        if digits.isEmpty || !(digits.all isAsciiDigit) then
          none
        else
          let digits := (digits.dropWhile (· = '0')).take longestExponent
          some (Binary64.signed negative (digitsToNat digits))
      else
        none

/-- A real numeral without sign: digits with at most one point, and an exponent. -/
def unsignedReal? (negative : Bool) (cs : List Char) : Option Binary64 :=
  let whole := cs.takeWhile isAsciiDigit
  let rest := cs.dropWhile isAsciiDigit
  let (fraction, rest) :=
    match rest with
    | '.' :: tail => (tail.takeWhile isAsciiDigit, tail.dropWhile isAsciiDigit)
    | _ => ([], rest)
  if whole.isEmpty && fraction.isEmpty then
    none
  else
    (exponentPart? rest).map fun exponent =>
      nearest negative (whole ++ fraction) (exponent - fraction.length)

/-- The ASCII letters in lower case. -/
def lowerAscii (cs : List Char) : List Char :=
  cs.map Char.toLower

/-- The number that a whole list of characters is a real numeral of, without blanks around it. -/
def realNumeral? (cs : List Char) : Option Binary64 :=
  let (negative, body) := takeSign cs
  let name := String.ofList (lowerAscii body)
  if name = "inf" || name = "infinity" then
    some (.infinite negative)
  else if name = "nan" then
    some .nan
  else
    unsignedReal? negative body

/-- The number that a text is a real numeral of. -/
def real? (t : Text) : Option Binary64 :=
  match ungrouped? (trimBoth isPlainBlank (plainNumeral t)) with
  | none => none
  | some body => realNumeral? body

end Text
end CallScript
