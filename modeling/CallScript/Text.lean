/-!
# Texts

A text is a row of marks.  Nearly all marks are characters; an escape in a manifest can also name
one half of a surrogate pair, which is no character.  Such a half is kept and shown like any other
mark, but a text that holds one has no byte form.
-/

namespace CallScript

/-- A mark of a text: a character, or the half of a surrogate pair with the code `0xd800 + n`. -/
inductive Mark where
  | char (c : Char)
  | half (n : Fin 2048)
  deriving Repr, DecidableEq, Inhabited

namespace Mark

/-- The code of a mark. -/
def code : Mark → Nat
  | char c => c.toNat
  | half n => 0xd800 + n.val

instance : Hashable Mark where
  hash mark := hash mark.code

/-- The mark with a code, if there is one. -/
def ofCode? (n : Nat) : Option Mark :=
  if h : 0xd800 ≤ n ∧ n < 0xe000 then
    some (half ⟨n - 0xd800, by omega⟩)
  else if n < 0x110000 then
    some (char (Char.ofNat n))
  else
    none

/-- Holds of the characters that satisfy a test, and of no half. -/
def satisfies (p : Char → Bool) : Mark → Bool
  | char c => p c
  | half _ => false

/-- The character of a mark, if it is one. -/
def char? : Mark → Option Char
  | char c => some c
  | half _ => none

end Mark

/-- A text. -/
abbrev Text := List Mark

namespace Text

/-- The text of some characters. -/
def ofChars (cs : List Char) : Text :=
  cs.map .char

/-- The text of a string. -/
def ofString (s : String) : Text :=
  ofChars s.toList

instance : Coe String Text := ⟨ofString⟩

/-- The characters of a text without halves. -/
def chars? (t : Text) : Option (List Char) :=
  t.mapM Mark.char?

/-- The string of a text without halves. -/
def string? (t : Text) : Option String :=
  t.chars?.map String.ofList

/-- What stands for a half where only characters can stand. -/
def replacement : Char := Char.ofNat 0xfffd

/-- The characters of a text, with a replacement for every half. -/
def chars (t : Text) : List Char :=
  t.map fun mark => mark.char?.getD replacement

/-- The string of a text, with a replacement for every half. -/
def string (t : Text) : String :=
  String.ofList t.chars

/-- The texts one after the other. -/
def join (texts : List Text) : Text :=
  texts.flatten

end Text
end CallScript
