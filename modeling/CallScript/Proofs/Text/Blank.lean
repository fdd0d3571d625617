import CallScript.Text.Blank

/-!
# Texts without blanks at their ends

A text that neither begins nor ends with a blank is what is left of it when blanks are put around
it and taken off again.

Main statement: `Text.strip_between`.
-/

namespace CallScript

/-- Holds of the blank characters. -/
abbrev Mark.isBlank (mark : Mark) : Bool :=
  mark.satisfies Text.isBlank

namespace Text

/-- Holds of the texts of blanks alone, the empty one among them. -/
def IsBlanks (t : Text) : Prop :=
  ∀ mark ∈ t, mark.isBlank = true

instance (t : Text) : Decidable t.IsBlanks :=
  inferInstanceAs (Decidable (∀ mark ∈ t, mark.isBlank = true))

/-- A text that begins and ends with a mark that is no blank. -/
structure IsTrimmed (t : Text) : Prop where
  first : ∃ mark rest, t = mark :: rest ∧ mark.isBlank = false
  last : ∃ front mark, t = front ++ [mark] ∧ mark.isBlank = false

/-- A text that is not empty and holds no blank. -/
structure IsWord (t : Text) : Prop where
  nonempty : t ≠ []
  bare : ∀ mark ∈ t, mark.isBlank = false

theorem IsWord.isTrimmed
    {t : Text}
    (h : t.IsWord) :
    t.IsTrimmed where
  first := by
    obtain ⟨mark, rest, rfl⟩ := List.exists_cons_of_ne_nil h.nonempty
    exact ⟨mark, rest, rfl, h.bare mark (by simp)⟩
  last := by
    refine ⟨t.dropLast, t.getLast h.nonempty, ?_, ?_⟩
    · exact (List.dropLast_concat_getLast h.nonempty).symm
    · exact h.bare _ (List.getLast_mem h.nonempty)

theorem IsTrimmed.append
    {first second : Text}
    (hfirst : first.IsTrimmed)
    (hsecond : second.IsTrimmed)
    (middle : Text) :
    (first ++ (middle ++ second)).IsTrimmed where
  first := by
    obtain ⟨mark, rest, rfl, hmark⟩ := hfirst.first
    exact ⟨mark, rest ++ (middle ++ second), rfl, hmark⟩
  last := by
    obtain ⟨front, mark, rfl, hmark⟩ := hsecond.last
    exact ⟨first ++ (middle ++ front), mark, by simp, hmark⟩

/-- Members that satisfy a test are dropped up to the first one that does not. -/
theorem dropWhile_append_cons
    {α : Type} {p : α → Bool} {dropped rest : List α} {a : α}
    (hdropped : ∀ x ∈ dropped, p x = true)
    (ha : p a = false) :
    (dropped ++ a :: rest).dropWhile p = a :: rest := by
  rw [List.dropWhile_append_of_pos hdropped, List.dropWhile_cons_of_neg (by simp [ha])]

/-- Blanks around a text without blanks at its ends are taken off. -/
theorem strip_between
    {before t after : Text}
    (hbefore : before.IsBlanks)
    (ht : t.IsTrimmed)
    (hafter : after.IsBlanks) :
    strip (before ++ t ++ after) = t := by
  have hreversed : ∀ mark ∈ after.reverse, mark.isBlank = true := by
    intro mark hmark
    exact hafter mark (List.mem_reverse.mp hmark)
  obtain ⟨mark, rest, hfirst, hmark⟩ := ht.first
  obtain ⟨front, final, hlast, hfinal⟩ := ht.last
  have hleft : (before ++ t ++ after).dropWhile Mark.isBlank = t ++ after := by
    rw [hfirst, List.append_assoc, List.cons_append]
    exact dropWhile_append_cons hbefore hmark
  have hright : (t ++ after).reverse.dropWhile Mark.isBlank = t.reverse := by
    rw [hlast, List.reverse_append, List.reverse_append, List.reverse_singleton,
      List.singleton_append]
    exact dropWhile_append_cons hreversed hfinal
  rw [strip, trimBoth, hleft, hright, List.reverse_reverse]

end Text
end CallScript
