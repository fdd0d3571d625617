import CallScript.Binary64
import Mathlib.Tactic.Common
import Mathlib.Logic.Basic

/-!
# Signs of double-precision numbers

Rounding never carries a number below zero: a quotient keeps its sign, and so do products and
whole numbers nearest to a number.
-/

namespace CallScript
namespace Binary64

/-- A quotient that is not zero keeps its sign, whether or not it is finite. -/
theorem ofQuotient_cases
    (negative : Bool) (numerator denominator : Nat)
    (hnumerator : numerator ≠ 0) :
    ofQuotient negative numerator denominator = .infinite negative ∨
      ∃ mantissa exponent,
        ofQuotient negative numerator denominator =
          .finite negative mantissa exponent := by
  unfold ofQuotient
  rw [if_neg hnumerator]
  refine Or.imp_right ?_ (ite_eq_or_eq _ _ _)
  intro h
  exact ⟨_, _, h⟩

/-- A rounded quotient is below zero only when it was asked to be, and is not zero. -/
theorem ofQuotient_isNegative
    {negative : Bool} {numerator denominator : Nat}
    (h : (ofQuotient negative numerator denominator).isNegative = true) :
    negative = true ∧ numerator ≠ 0 := by
  by_cases hnumerator : numerator = 0
  · subst hnumerator
    simp [ofQuotient, zero, isNegative] at h
  · refine ⟨?_, hnumerator⟩
    rcases ofQuotient_cases negative numerator denominator hnumerator with
      heq | ⟨mantissa, exponent, heq⟩
    · rw [heq] at h
      exact h
    · rw [heq] at h
      simp only [isNegative, Bool.and_eq_true] at h
      exact h.1

theorem ofInt_isNegative
    {n : Int}
    (hn : 0 ≤ n) :
    (ofInt n).isNegative = false := by
  rw [Bool.eq_false_iff]
  intro h
  have hsign := (ofQuotient_isNegative h).1
  simp only [decide_eq_true_eq] at hsign
  omega

/-- The product of numbers that are not below zero is not below zero. -/
theorem mul_isNegative
    {x y : Binary64}
    (hx : x.isNegative = false)
    (hy : y.isNegative = false) :
    (x.mul y).isNegative = false := by
  rw [Bool.eq_false_iff]
  intro h
  cases x with
  | nan =>
      simp [mul, isNegative] at h
  | infinite s =>
      cases y with
      | nan =>
          simp [mul, isNegative] at h
      | infinite t =>
          simp_all [mul, isNegative]
      | finite t m e =>
          by_cases hm : m = 0 <;> simp_all [mul, isNegative]
  | finite s m e =>
      cases y with
      | nan =>
          simp [mul, isNegative] at h
      | infinite t =>
          by_cases hm : m = 0 <;> simp_all [mul, isNegative]
      | finite t n f =>
          have hsign := ofQuotient_isNegative h
          cases s <;> cases t <;> simp_all [isNegative]

/-- The product of a number below zero and one that is not is not infinitely great. -/
theorem mul_ne_infinite
    {x y : Binary64}
    (hx : x.isNegative = true)
    (hy : y.isNegative = false) :
    x.mul y ≠ .infinite false := by
  intro h
  cases x with
  | nan =>
      cases hx
  | infinite s =>
      cases y with
      | nan =>
          cases h
      | infinite t =>
          simp_all [mul, isNegative]
      | finite t n f =>
          by_cases hn : n = 0 <;> simp_all [mul, isNegative]
  | finite s m e =>
      simp only [isNegative, Bool.and_eq_true, decide_eq_true_eq] at hx
      obtain ⟨rfl, hm⟩ := hx
      cases y with
      | nan =>
          cases h
      | infinite t =>
          simp_all [mul, isNegative]
      | finite t n f =>
          by_cases hn : n = 0
          · subst hn
            simp [mul, magnitude, ofQuotient, zero] at h
          · have ht : t = false := by
              simpa [isNegative, hn] using hy
            subst ht
            have hnumerator : m * n * Nat.pow 2 (e + f).toNat ≠ 0 :=
              Nat.mul_ne_zero (Nat.mul_ne_zero hm hn) (Nat.ne_of_gt (Nat.two_pow_pos _))
            rcases ofQuotient_cases true _ (Nat.pow 2 (-(e + f)).toNat) hnumerator with
              heq | ⟨mantissa, exponent, heq⟩
            · cases heq.symm.trans h
            · cases heq.symm.trans h

/-- A number that is not below zero is rounded to one that is not below zero. -/
theorem round?_nonneg
    {x : Binary64} {n : Int}
    (hx : x.isNegative = false)
    (h : x.round? = some n) :
    0 ≤ n := by
  cases x with
  | nan =>
      cases h
  | infinite s =>
      cases h
  | finite s m e =>
      cases s with
      | false =>
          cases h
          exact Int.natCast_nonneg _
      | true =>
          have hm : m = 0 := by
            simpa [isNegative] using hx
          subst hm
          simp [round?, magnitude, signed, roundQuotient] at h
          omega

end Binary64
end CallScript
