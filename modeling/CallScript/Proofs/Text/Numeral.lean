import CallScript.Text.Numeral
import Mathlib.Algebra.Order.Ring.Nat
import Mathlib.Data.List.TakeWhile

/-!
# Whole numerals

A whole number that is written in decimal digits is read as itself, as long as it has no more
digits than are read.

Main statement: `Text.integer_toString`.
-/

namespace CallScript
namespace Text

section Digits

variable {c : Char} {cs : List Char}

theorem code_of_isDigit
    (h : c.isDigit = true) :
    0x30 ≤ c.toNat ∧ c.toNat ≤ 0x39 :=
  Char.isDigit_iff_toNat.mp h

theorem isAsciiDigit_of_isDigit
    (h : c.isDigit = true) :
    isAsciiDigit c = true := by
  have hcode := code_of_isDigit h
  simp [isAsciiDigit, asciiDigit?, hcode]

theorem isGrouped_of_isDigit
    (h : c.isDigit = true) :
    isGrouped c = true := by
  rw [isGrouped, isAsciiDigit_of_isDigit h, Bool.true_or]

theorem plainDigit_of_isDigit
    (h : c.isDigit = true) :
    plainDigit c = c := by
  have hcode := code_of_isDigit h
  rw [plainDigit, if_pos (by omega)]

theorem isPlainBlank_of_isDigit
    (h : c.isDigit = true) :
    isPlainBlank c = false := by
  have hcode := code_of_isDigit h
  simp only [isPlainBlank, Bool.or_eq_false_iff, beq_eq_false_iff_ne, Bool.and_eq_false_iff,
    decide_eq_false_iff_not]
  omega

theorem ne_of_isDigit
    {d : Char}
    (h : c.isDigit = true)
    (hd : d.isDigit = false) :
    c ≠ d := by
  rintro rfl
  rw [h] at hd
  cases hd

/-- Digits have no sign in front of them. -/
theorem takeSign_of_digits
    (h : ∀ c ∈ cs, c.isDigit = true) :
    takeSign cs = (false, cs) := by
  unfold takeSign
  split
  · exact absurd (h '-' (by simp)) (by decide)
  · exact absurd (h '+' (by simp)) (by decide)
  · rfl

/-- Among digits there is no underscore to be left out. -/
theorem ungrouped?_of_digits
    (h : ∀ c ∈ cs, c.isDigit = true) :
    ungrouped? cs = some cs := by
  have hbare : ∀ c ∈ cs, c ≠ '_' := fun c hc => ne_of_isDigit (h c hc) (by decide)
  have hfirst : cs.head? ≠ some '_' := fun hhead => hbare '_' (List.mem_of_head? hhead) rfl
  have hlast : cs.getLast? ≠ some '_' := fun hend =>
    hbare '_' (List.mem_of_getLast? hend) rfl
  have hjoined : (cs.zip (cs.drop 1)).all joinsDigits = true := by
    rw [List.all_eq_true]
    rintro ⟨c, d⟩ hpair
    have hc := hbare c (List.of_mem_zip hpair).1
    have hd := hbare d (List.mem_of_mem_drop (List.of_mem_zip hpair).2)
    simp [joinsDigits, hc, hd]
  have hkept : cs.filter (· ≠ '_') = cs := by
    rw [List.filter_eq_self]
    exact fun c hc => decide_eq_true (hbare c hc)
  unfold ungrouped?
  rw [hjoined, if_neg (by simp [hfirst, hlast]), hkept]

/-- Digits alone are read as the number that they stand for. -/
theorem integer_of_digits
    (hsome : cs ≠ [])
    (h : ∀ c ∈ cs, c.isDigit = true)
    (hlength : cs.length ≤ longestNumeral) :
    integer (ofChars cs) = .ok (digitsToNat cs) := by
  have hplain : plainNumeral (ofChars cs) = cs := by
    simp only [plainNumeral, chars, ofChars, List.map_map]
    exact (List.map_congr_left fun c hc => plainDigit_of_isDigit (h c hc)).trans (List.map_id cs)
  have hstart : cs.dropWhile isPlainBlank = cs := by
    obtain ⟨c, rest, rfl⟩ := List.exists_cons_of_ne_nil hsome
    exact List.dropWhile_cons_of_neg (by simp [isPlainBlank_of_isDigit (h c (by simp))])
  have hfront : cs.takeWhile isGrouped = cs :=
    List.takeWhile_eq_self_iff.mpr fun c hc => isGrouped_of_isDigit (h c hc)
  unfold integer
  rw [hplain, hstart, takeSign_of_digits h]
  dsimp only
  rw [hfront, ungrouped?_of_digits h]
  dsimp only
  rw [if_neg (by omega), if_neg (by simp [hsome])]
  rfl

end Digits

/-- **Whole numerals.**  A number that is not too long is read from its decimal digits. -/
theorem integer_toString
    {n : Nat}
    (h : n < 10 ^ longestNumeral) :
    integer (ofString (toString n)) = .ok n := by
  have hdigits : ∀ c ∈ Nat.toDigits 10 n, c.isDigit = true := fun c =>
    Nat.isDigit_of_mem_toDigits (by decide) (by decide)
  have hlength : (Nat.toDigits 10 n).length ≤ longestNumeral :=
    (Nat.length_toDigits_le_iff (by decide) (by decide)).mpr h
  have hvalue : digitsToNat (Nat.toDigits 10 n) = n :=
    Nat.ofDigitChars_toDigits (by decide) (by decide)
  have hwritten : (toString n).toList = Nat.toDigits 10 n := Nat.toList_repr
  rw [ofString, hwritten, integer_of_digits (Nat.toDigits_ne_nil) hdigits hlength, hvalue]

end Text
end CallScript
