import CallScript.Text

/-!
# Blank characters

Two sets of blanks are in use.  All blanks are taken off the ends of a text step, while a numeral
may stand between the blanks of a smaller set, which leaves out the four information separators.
-/

namespace CallScript
namespace Text

/-- The blanks outside the first 128 characters. -/
def isWideBlank (c : Char) : Bool :=
  [0x85, 0xa0, 0x1680, 0x2028, 0x2029, 0x202f, 0x205f, 0x3000].contains c.toNat ||
    (0x2000 ≤ c.toNat && c.toNat ≤ 0x200a)

/-- The space and the five controls from the tab to the carriage return. -/
def isPlainBlank (c : Char) : Bool :=
  c.toNat == 0x20 || (0x09 ≤ c.toNat && c.toNat ≤ 0x0d)

/-- Any blank: the plain ones, the four information separators and the wide ones. -/
def isBlank (c : Char) : Bool :=
  isPlainBlank c || (0x1c ≤ c.toNat && c.toNat ≤ 0x1f) || isWideBlank c

/-- The list without the members at its two ends that satisfy the test. -/
def trimBoth {α : Type} (p : α → Bool) (xs : List α) : List α :=
  ((xs.dropWhile p).reverse.dropWhile p).reverse

/-- The text without the blanks at its two ends. -/
def strip (t : Text) : Text :=
  trimBoth (Mark.satisfies isBlank) t

end Text
end CallScript
