import CallScript.Media.Timeline
import Mathlib.Data.List.Basic

/-!
# Keys and timelines

Every key is found by its character and by its code, and a text without invalid marks is the text
of some keys.
-/

namespace CallScript
namespace Media

/-- The timeline of some tokens. -/
def Timeline.ofTokens (tokens : List Token) : Timeline :=
  ⟨tokens.map .token⟩

theorem Timeline.ofTokens_injective :
    Function.Injective Timeline.ofTokens := by
  intro first second hsame
  exact List.map_injective_iff.mpr (fun _ _ => Entry.token.inj) (congrArg Timeline.entries hsame)

/-- The key of a tone. -/
def Token.key? : Token → Option Digit
  | .silence _ => none
  | .tone digit => some digit

namespace Digit

/-- The text of some keys. -/
def textOf (keys : List Digit) : Text :=
  keys.map fun key => .char key.symbol

theorem textOf_append (first second : List Digit) :
    textOf (first ++ second) = textOf first ++ textOf second := by
  exact List.map_append

/-- Every key is found by its character. -/
theorem ofText?_symbol (key : Digit) :
    ofText? [.char key.symbol] = some key := by
  cases key with
  | number n =>
      revert n
      decide
  | star =>
      decide
  | pound =>
      decide
  | letter n =>
      revert n
      decide

theorem code_lt (key : Digit) :
    key.code < 16 := by
  cases key with
  | number n =>
      exact Nat.lt_of_lt_of_le n.isLt (by decide)
  | star =>
      decide
  | pound =>
      decide
  | letter n =>
      have hn := n.isLt
      change 12 + n.val < 16
      omega

/-- Every key is found by its code. -/
theorem ofCode?_code (key : Digit) :
    ofCode? key.code = some key := by
  cases key with
  | number n =>
      revert n
      decide
  | star =>
      decide
  | pound =>
      decide
  | letter n =>
      revert n
      decide

/-- A mark that names a key is the character of that key. -/
theorem eq_symbol_of_ofText?
    {mark : Mark} {key : Digit}
    (h : ofText? [mark] = some key) :
    mark = .char key.symbol := by
  cases mark with
  | half n =>
      simp [ofText?] at h
  | char c =>
      have hfound : all.find? (·.symbol = c) = some key := h
      have hsymbol := List.find?_some hfound
      simp only [decide_eq_true_eq] at hsymbol
      rw [hsymbol]

/-- A text without invalid marks is the text of some keys. -/
theorem exists_textOf_of_invalid
    {text : Text}
    (h : invalid text = []) :
    ∃ keys, text = textOf keys := by
  induction text with
  | nil =>
      exact ⟨[], rfl⟩
  | cons mark rest ih =>
      have hparts :
          ¬ (ofText? [mark]).isNone = true ∧ invalid rest = [] := by
        unfold invalid at h ⊢
        rw [List.filter_cons] at h
        split at h
        · cases h
        · exact ⟨by assumption, h⟩
      obtain ⟨keys, hkeys⟩ := ih hparts.2
      cases hmark : ofText? [mark] with
      | none =>
          exact absurd (by rw [hmark]; rfl) hparts.1
      | some key =>
          refine ⟨key :: keys, ?_⟩
          rw [hkeys, eq_symbol_of_ofText? hmark]
          rfl

end Digit
end Media
end CallScript
