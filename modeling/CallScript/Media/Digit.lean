import CallScript.Fault

/-!
# Digits of a telephone

The sixteen keys that dual-tone signalling knows, with their characters and their event codes.
-/

namespace CallScript
namespace Media

/-- A key: one of the ten numbers, the star, the pound sign or a letter from A to D. -/
inductive Digit where
  | number (n : Fin 10)
  | star
  | pound
  | letter (n : Fin 4)
  deriving Repr, DecidableEq, Inhabited

namespace Digit

/-- The character on a key. -/
def symbol : Digit → Char
  | .number n => Char.ofNat (0x30 + n.val)
  | .star => '*'
  | .pound => '#'
  | .letter n => Char.ofNat (0x41 + n.val)

/-- The code of a key in a telephone event. -/
def code : Digit → Nat
  | .number n => n.val
  | .star => 10
  | .pound => 11
  | .letter n => 12 + n.val

/-- All keys in the order of their codes. -/
def all : List Digit :=
  (List.finRange 10).map number ++ [star, pound] ++ (List.finRange 4).map letter

/-- The key with a character. -/
def ofChar? (c : Char) : Option Digit :=
  all.find? (·.symbol = c)

/-- The key with a code. -/
def ofCode? (n : Nat) : Option Digit :=
  all.find? (·.code = n)

/-- The key that a text of one character names. -/
def ofText? : Text → Option Digit
  | [.char c] => ofChar? c
  | _ => none

/-- The event code of the key that a text names. -/
def codeOfText (text : Text) : Except Fault Nat :=
  match ofText? text with
  | some digit => .ok digit.code
  | none => .error (.eventUnknown text)

/-- The marks of a text that are no keys, in order. -/
def invalid (text : Text) : List Mark :=
  text.filter fun mark => (ofText? [mark]).isNone

end Digit
end Media
end CallScript
