import CallScript.Text.Case
import Mathlib.Data.List.Basic

/-!
# Lower case

What is left of the ASCII characters when a text is put into lower case.

Main statements:
* `Text.not_isUpper_of_mem_lowerFrom`: no capital is left, whatever the text was.
* `Text.lowerFrom_of_settled`: a text of other ASCII characters is its own lower-case form.
* `Text.lower_string`: half a surrogate pair separates words as its replacement does.
-/

namespace CallScript
namespace Text

section Characters

variable {c d : Char} {cs : List Char}

theorem isUpper_iff :
    c.isUpper = true ↔ 0x41 ≤ c.toNat ∧ c.toNat ≤ 0x5a := by
  have hcode : c.isUpper = decide ('A'.val ≤ c.val ∧ c.val ≤ 'Z'.val) := rfl
  rw [hcode, decide_eq_true_iff]
  exact and_congr UInt32.le_iff_toNat_le UInt32.le_iff_toNat_le

theorem not_isUpper_ofNat
    {n : Nat}
    (h : 0x5a < n) :
    (Char.ofNat n).isUpper = false := by
  by_cases hvalid : n.isValidChar
  · have hcode : (Char.ofNat n).toNat = n := by
      rw [Char.ofNat, dif_pos hvalid]
      rfl
    rw [Bool.eq_false_iff, ne_eq, isUpper_iff, hcode]
    omega
  · have hnone : Char.ofNat n = '\x00' := by
      rw [Char.ofNat, dif_neg hvalid]
      rfl
    rw [hnone]
    decide

/-- No run of letters goes to capitals. -/
theorem target_of_mem_lowerRuns :
    ∀ run ∈ lowerRuns, 0x5a < run.target := by
  decide +kernel

/-- Of the ASCII characters only the capitals are moved. -/
theorem source_of_mem_lowerRuns :
    ∀ run ∈ lowerRuns, 0x80 ≤ run.first ∨ (0x41 ≤ run.first ∧ run.last ≤ 0x5a) := by
  decide +kernel

/-- The lower-case form of a character holds no capital. -/
theorem not_isUpper_of_mem_lowerChar
    (h : d ∈ lowerChar c) :
    d.isUpper = false := by
  unfold lowerChar mapCase at h
  split at h
  · next images hlookup =>
      have hexpansions :
          ∀ entry ∈ lowerExpansions, ∀ n ∈ entry.2, (Char.ofNat n).isUpper = false := by
        decide
      obtain ⟨front, rest, htable, _⟩ := List.lookup_eq_some_iff.mp hlookup
      obtain ⟨n, hn, rfl⟩ := List.mem_map.mp h
      exact hexpansions (c.toNat, images) (by rw [htable]; simp) n hn
  · split at h
    · next run hfind =>
        have htarget := target_of_mem_lowerRuns run (List.mem_of_find?_eq_some hfind)
        rw [List.mem_singleton.mp h, CaseRun.image]
        exact not_isUpper_ofNat (by omega)
    · next hfind =>
        rw [List.mem_singleton.mp h, Bool.eq_false_iff, ne_eq, isUpper_iff]
        rintro ⟨hleast, hmost⟩
        have hcapitals := List.find?_eq_none.mp hfind ⟨0x41, 0x5a, 1, 0x61⟩ List.mem_cons_self
        simp only [CaseRun.covers, Nat.mod_one, beq_self_eq_true, Bool.and_true,
          Bool.and_eq_true, decide_eq_true_eq] at hcapitals
        exact hcapitals ⟨hleast, hmost⟩

/-- **Lower case.**  The lower-case form of a text holds no capital. -/
theorem not_isUpper_of_mem_lowerFrom
    (before : List Char)
    (h : d ∈ lowerFrom before cs) :
    d.isUpper = false := by
  induction cs generalizing before with
  | nil =>
      cases h
  | cons c rest ih =>
      rcases List.mem_append.mp h with himage | hrest
      · split at himage
        · split at himage <;> (rw [List.mem_singleton.mp himage]; decide)
        · exact not_isUpper_of_mem_lowerChar himage
      · exact ih _ hrest

/-- Holds of the ASCII characters that are no capitals. -/
structure IsSettled (c : Char) : Prop where
  ascii : c.toNat < 0x80
  small : c.isUpper = false

theorem lowerChar_of_isSettled
    (h : IsSettled c) :
    lowerChar c = [c] := by
  have hascii := h.ascii
  have hsmall : ¬(0x41 ≤ c.toNat ∧ c.toNat ≤ 0x5a) := fun hrange =>
    Bool.eq_false_iff.mp h.small (isUpper_iff.mpr hrange)
  have hlookup : lowerExpansions.lookup c.toNat = none := by
    rw [List.lookup_eq_none_iff]
    simp only [lowerExpansions, List.forall_mem_singleton, bne_iff_ne]
    omega
  have hfind : lowerRuns.find? (·.covers c.toNat) = none := by
    rw [List.find?_eq_none]
    intro run hrun hcovers
    simp only [CaseRun.covers, Bool.and_eq_true, decide_eq_true_eq] at hcovers
    rcases source_of_mem_lowerRuns run hrun with hfar | hcapitals <;> omega
  rw [lowerChar, mapCase, hlookup]
  dsimp only
  rw [hfind]

/-- A text of ASCII characters without capitals is its own lower-case form. -/
theorem lowerFrom_of_settled
    (before : List Char)
    (h : ∀ c ∈ cs, IsSettled c) :
    lowerFrom before cs = cs := by
  induction cs generalizing before with
  | nil =>
      rfl
  | cons c rest ih =>
      have hc := h c (by simp)
      have hascii := hc.ascii
      rw [lowerFrom, if_neg (by omega), lowerChar_of_isSettled hc,
        ih _ fun d hd => h d (by simp [hd])]
      rfl

end Characters

section Breaks

variable {mark : Char} {before cs rest : List Char}

/-- Holds of the characters that no word goes on over. -/
structure IsBreak (mark : Char) : Prop where
  alone : lowerChar mark = [mark]
  sigma : mark.toNat ≠ 0x3a3
  uncased : inRanges casedRanges mark.toNat = false
  counted : inRanges caseIgnorableRanges mark.toNat = false

theorem isBreak_replacement :
    IsBreak replacement where
  alone := by decide +kernel
  sigma := by decide
  uncased := by decide +kernel
  counted := by decide +kernel

theorem besideCased_cons (c : Char) (cs : List Char) :
    besideCased (c :: cs) =
      if inRanges caseIgnorableRanges c.toNat then
        besideCased cs
      else
        inRanges casedRanges c.toNat := by
  unfold besideCased
  rw [List.dropWhile_cons]
  cases inRanges caseIgnorableRanges c.toNat <;> rfl

/-- Behind a break no cased character is found. -/
theorem IsBreak.besideCased_append
    (h : IsBreak mark)
    (cs rest : List Char) :
    besideCased (cs ++ mark :: rest) = besideCased cs := by
  induction cs with
  | nil =>
      rw [List.nil_append, besideCased_cons, h.counted, h.uncased]
      rfl
  | cons c cs ih =>
      rw [List.cons_append, besideCased_cons, besideCased_cons, ih]

theorem IsBreak.lowerFrom_after
    (h : IsBreak mark)
    (before earlier cs : List Char) :
    lowerFrom (before ++ mark :: earlier) cs = lowerFrom before cs := by
  induction cs generalizing before with
  | nil =>
      rfl
  | cons c rest ih =>
      rw [lowerFrom, lowerFrom, h.besideCased_append, ← List.cons_append, ih]

/-- The two sides of a break are put into lower case by themselves. -/
theorem IsBreak.lowerFrom_append
    (h : IsBreak mark)
    (before cs rest : List Char) :
    lowerFrom before (cs ++ mark :: rest) = lowerFrom before cs ++ mark :: lowerFrom [] rest := by
  induction cs generalizing before with
  | nil =>
      have hafter : lowerFrom (mark :: before) rest = lowerFrom [] rest :=
        h.lowerFrom_after [] before rest
      rw [List.nil_append, lowerFrom, lowerFrom, hafter, if_neg h.sigma, h.alone]
      rfl
  | cons c cs ih =>
      rw [List.cons_append, lowerFrom, lowerFrom, h.besideCased_append, ih, List.append_assoc]

end Breaks

theorem chars_ofChars (cs : List Char) :
    (ofChars cs).chars = cs := by
  rw [chars, ofChars, List.map_map]
  exact List.map_id cs

theorem chars_append (s t : Text) :
    chars (s ++ t) = s.chars ++ t.chars := by
  exact List.map_append

theorem chars_lowered (run : List Char) (t : Text) :
    (lowered run t).chars = lowerFrom [] (run.reverse ++ t.chars) := by
  induction t generalizing run with
  | nil =>
      rw [lowered, chars_ofChars]
      simp [chars]
  | cons mark rest ih =>
      cases mark with
      | char c =>
          rw [lowered, ih, List.reverse_cons, List.append_assoc]
          rfl
      | half n =>
          have hhalf (t : Text) : chars (.half n :: t) = replacement :: t.chars := rfl
          rw [lowered, chars_append, chars_ofChars, hhalf, hhalf, ih,
            isBreak_replacement.lowerFrom_append]
          rfl

/-- The lower-case form of a text, and that of its string, in characters. -/
theorem lower_string (t : Text) :
    (lower t.string).toList = (lowered [] t).chars := by
  rw [lower, String.toList_ofList, string, String.toList_ofList, chars_lowered]
  rfl

end Text
end CallScript
