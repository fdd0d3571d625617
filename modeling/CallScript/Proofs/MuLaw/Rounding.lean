import CallScript.MuLaw
import Mathlib.Algebra.Order.Ring.Int
import Mathlib.Data.Nat.Log
import Mathlib.Tactic.Ring

/-!
# Rounding of samples

A segment is made of sixteen intervals of one width, and a biased magnitude is rounded to the
middle of its interval.  The middle stays in the segment, so magnitudes of different segments keep
their order, and within a segment the intervals are in the order of their numbers.

Main statements:
* `IsBiased.log_eq`: the search for a segment finds the place of the leading bit.
* `IsBiased.middle_le` and `IsBiased.le_middle`: rounding moves by half an interval at most.
* `rounded_le_rounded`: rounding keeps the order, also of magnitudes that are clipped.
* `decodeByte_encodeSample`: a sample comes back with its sign and its rounded magnitude.
* `decodeByte_encodeSample_decodeByte`: what comes back is not rounded a second time.
-/

namespace CallScript
namespace MuLaw

section Segments

variable {n k e : Nat}

/-- Where the search for a segment stands after a number of rounds. -/
def segmentAfter (rounds biased : Nat) : Nat :=
  (List.range rounds).foldl (fun found e => if Nat.pow 2 (e + 7) ≤ biased then e else found) 0

theorem segmentAfter_succ (rounds biased : Nat) :
    segmentAfter (rounds + 1) biased =
      if 2 ^ (rounds + 7) ≤ biased then rounds else segmentAfter rounds biased := by
  rw [segmentAfter, List.range_succ, List.foldl_append]
  rfl

theorem segmentAfter_le (rounds biased : Nat) :
    segmentAfter rounds biased ≤ rounds := by
  induction rounds with
  | zero =>
      exact Nat.le_refl 0
  | succ rounds ih =>
      rw [segmentAfter_succ]
      split <;> omega

/-- The segment is found once the rounds have passed the leading bit. -/
theorem segmentAfter_bounds
    {rounds : Nat}
    (hlow : 2 ^ 7 ≤ n)
    (hhigh : n < 2 ^ (rounds + 7)) :
    2 ^ (segmentAfter rounds n + 7) ≤ n ∧ n < 2 ^ (segmentAfter rounds n + 8) := by
  induction rounds with
  | zero =>
      omega
  | succ rounds ih =>
      rw [segmentAfter_succ]
      by_cases hreached : 2 ^ (rounds + 7) ≤ n
      · rw [if_pos hreached]
        exact ⟨hreached, hhigh⟩
      · rw [if_neg hreached]
        exact ih (Nat.lt_of_not_le hreached)

/-- Holds of the magnitudes whose leading bit is in one of the eight segments. -/
def IsBiased (n : Nat) : Prop :=
  2 ^ 7 ≤ n ∧ n < 2 ^ 15

theorem isBiased_clipped (k : Nat) :
    IsBiased (min k clip + bias) := by
  unfold IsBiased clip bias
  omega

theorem IsBiased.pow_segment_le (h : IsBiased n) :
    2 ^ (segment n + 7) ≤ n :=
  (segmentAfter_bounds h.1 (show n < 2 ^ (8 + 7) from h.2)).1

theorem IsBiased.lt_pow_segment (h : IsBiased n) :
    n < 2 ^ (segment n + 8) :=
  (segmentAfter_bounds h.1 (show n < 2 ^ (8 + 7) from h.2)).2

/-- The segment is counted from the seventh bit to the leading one. -/
theorem IsBiased.log_eq (h : IsBiased n) :
    Nat.log 2 n = segment n + 7 :=
  Nat.log_eq_of_pow_le_of_lt_pow h.pow_segment_le h.lt_pow_segment

theorem IsBiased.segment_le (h : IsBiased n) :
    segment n ≤ 7 := by
  have hpow : 2 ^ (segment n + 7) < 2 ^ 15 := lt_of_le_of_lt h.pow_segment_le h.2
  have hplace := (Nat.pow_lt_pow_iff_right (by decide)).mp hpow
  omega

/-- A greater magnitude is in the same segment or in a later one. -/
theorem IsBiased.segment_mono
    (hn : IsBiased n)
    (hk : IsBiased k)
    (hle : n ≤ k) :
    segment n ≤ segment k := by
  have hlog : Nat.log 2 n ≤ Nat.log 2 k := Nat.log_mono_right hle
  rw [hn.log_eq, hk.log_eq] at hlog
  omega

theorem IsBiased.segment_eq
    (h : IsBiased n)
    (hlow : 2 ^ (e + 7) ≤ n)
    (hhigh : n < 2 ^ (e + 8)) :
    segment n = e := by
  have hlog : Nat.log 2 n = e + 7 := Nat.log_eq_of_pow_le_of_lt_pow hlow hhigh
  rw [h.log_eq] at hlog
  omega

end Segments

section Intervals

variable {n k i : Nat}

/-- The number of the interval of a biased magnitude: sixteen in each segment. -/
def interval (n : Nat) : Nat :=
  16 * segment n + n / 2 ^ (segment n + 3) % 16

theorem interval_div (n : Nat) :
    interval n / 16 = segment n := by
  unfold interval
  omega

/-- The middle of an interval. -/
def middle (i : Nat) : Nat :=
  (8 * (i % 16) + bias) * 2 ^ (i / 16)

theorem bias_le_middle (i : Nat) :
    bias ≤ middle i :=
  le_trans (Nat.le_add_left bias _) (Nat.le_mul_of_pos_right _ (Nat.two_pow_pos _))

/-- The lower end of an interval is a multiple of its width, the sixteenth to the thirty-first. -/
theorem IsBiased.multiple_bounds (h : IsBiased n) :
    16 ≤ n / 2 ^ (segment n + 3) ∧ n / 2 ^ (segment n + 3) ≤ 31 := by
  have hwidth : 0 < 2 ^ (segment n + 3) := Nat.two_pow_pos _
  have hlow := h.pow_segment_le
  have hhigh := h.lt_pow_segment
  constructor
  · rw [Nat.le_div_iff_mul_le hwidth]
    calc 16 * 2 ^ (segment n + 3) = 2 ^ (segment n + 7) := by ring
      _ ≤ n := hlow
  · rw [← Nat.lt_succ_iff, Nat.div_lt_iff_lt_mul hwidth]
    calc n < 2 ^ (segment n + 8) := hhigh
      _ = 32 * 2 ^ (segment n + 3) := by ring

/-- The interval of a biased magnitude goes half a width to both sides of its middle. -/
theorem IsBiased.middle_interval (h : IsBiased n) :
    middle (interval n) =
      n / 2 ^ (segment n + 3) * 2 ^ (segment n + 3) + 2 ^ (segment n + 2) := by
  obtain ⟨hlow, hhigh⟩ := h.multiple_bounds
  obtain ⟨rest, hrest⟩ := Nat.exists_eq_add_of_le hlow
  have hmantissa : interval n % 16 = rest := by
    unfold interval
    omega
  rw [middle, hmantissa, interval_div, hrest, bias]
  ring

/-- Rounding goes up by half an interval at most. -/
theorem IsBiased.middle_le (h : IsBiased n) :
    middle (interval n) ≤ n + 2 ^ (segment n + 2) := by
  rw [h.middle_interval]
  exact Nat.add_le_add_right (Nat.div_mul_le_self n _) _

/-- Rounding goes down by less than half an interval. -/
theorem IsBiased.le_middle (h : IsBiased n) :
    n ≤ middle (interval n) + 2 ^ (segment n + 2) := by
  have hrest : n < n / 2 ^ (segment n + 3) * 2 ^ (segment n + 3) + 2 ^ (segment n + 3) :=
    Nat.lt_div_mul_add (Nat.two_pow_pos _)
  have hhalf : 2 ^ (segment n + 3) = 2 ^ (segment n + 2) + 2 ^ (segment n + 2) := by
    ring
  rw [h.middle_interval]
  omega

/-- The middle of an interval is in the segment of the interval. -/
theorem middle_bounds (i : Nat) :
    2 ^ (i / 16 + 7) ≤ middle i ∧ middle i < 2 ^ (i / 16 + 8) := by
  have hpow : 0 < 2 ^ (i / 16) := Nat.two_pow_pos _
  unfold middle bias
  constructor
  · calc 2 ^ (i / 16 + 7) = 128 * 2 ^ (i / 16) := by ring
      _ ≤ (8 * (i % 16) + 132) * 2 ^ (i / 16) := Nat.mul_le_mul_right _ (by omega)
  · calc (8 * (i % 16) + 132) * 2 ^ (i / 16) < 256 * 2 ^ (i / 16) :=
          Nat.mul_lt_mul_of_pos_right (by omega) hpow
      _ = 2 ^ (i / 16 + 8) := by ring

theorem isBiased_middle (h : i < 128) :
    IsBiased (middle i) := by
  obtain ⟨hlow, hhigh⟩ := middle_bounds i
  have hfirst : 2 ^ 7 ≤ 2 ^ (i / 16 + 7) := Nat.pow_le_pow_right (by decide) (by omega)
  have hlast : 2 ^ (i / 16 + 8) ≤ 2 ^ 15 := Nat.pow_le_pow_right (by decide) (by omega)
  exact ⟨le_trans hfirst hlow, lt_of_lt_of_le hhigh hlast⟩

theorem IsBiased.interval_lt (h : IsBiased n) :
    interval n < 128 := by
  have hsegment := h.segment_le
  unfold interval
  omega

/-- Rounding keeps the order of magnitudes. -/
theorem IsBiased.middle_mono
    (hn : IsBiased n)
    (hk : IsBiased k)
    (hle : n ≤ k) :
    middle (interval n) ≤ middle (interval k) := by
  rcases Nat.lt_or_eq_of_le (hn.segment_mono hk hle) with hlater | hsame
  · -- The ends of segments lie between middles of different segments.
    have hbelow := (middle_bounds (interval n)).2
    have habove := (middle_bounds (interval k)).1
    rw [interval_div] at hbelow
    rw [interval_div] at habove
    have hends : 2 ^ (segment n + 8) ≤ 2 ^ (segment k + 7) :=
      Nat.pow_le_pow_right (by decide) (by omega)
    exact le_trans hbelow.le (le_trans hends habove)
  · rw [hn.middle_interval, hk.middle_interval, hsame]
    exact Nat.add_le_add_right (Nat.mul_le_mul_right _ (Nat.div_le_div_right hle)) _

/-- The middle of an interval is in this interval. -/
theorem interval_middle (h : i < 128) :
    interval (middle i) = i := by
  obtain ⟨hlow, hhigh⟩ := middle_bounds i
  have hsegment : segment (middle i) = i / 16 := (isBiased_middle h).segment_eq hlow hhigh
  have hmultiple : middle i / 2 ^ (i / 16 + 3) = i % 16 + 16 := by
    have hwidth : 2 ^ (i / 16 + 3) = 8 * 2 ^ (i / 16) := by
      ring
    rw [middle, hwidth, Nat.mul_div_mul_right _ _ (Nat.two_pow_pos _), bias]
    omega
  rw [interval, hsegment, hmultiple]
  omega

end Intervals

section Samples

/-- The magnitude that comes back for a magnitude. -/
def rounded (magnitude : Nat) : Nat :=
  middle (interval (min magnitude clip + bias)) - bias

/-- A greater magnitude does not come back as a smaller one. -/
theorem rounded_le_rounded
    {j k : Nat}
    (h : j ≤ k) :
    rounded j ≤ rounded k :=
  Nat.sub_le_sub_right
    ((isBiased_clipped j).middle_mono (isBiased_clipped k)
      (Nat.add_le_add_right (min_le_min_right clip h) bias)) bias

/-- Magnitudes that come back are rounded to themselves. -/
theorem rounded_middle
    {i : Nat}
    (h : i < 128) :
    rounded (middle i - bias) = middle i - bias := by
  have hlow := bias_le_middle i
  have hhigh := (isBiased_middle h).2
  have hclip : min (middle i - bias) clip + bias = middle i := by
    unfold clip
    unfold bias at hlow ⊢
    omega
  rw [rounded, hclip, interval_middle h]

/-- A byte holds a sign and the number of an interval. -/
theorem encodeSample_eq (x : Int) :
    encodeSample x =
      UInt8.ofNat
        (255 - ((if x < 0 then 128 else 0) + interval (min x.natAbs clip + bias))) := by
  rw [interval, ← Nat.add_assoc]
  rfl

theorem decodeByte_eq (b : UInt8) :
    decodeByte b =
      if 128 ≤ 255 - b.toNat then
        -((middle ((255 - b.toNat) % 128) - bias : Nat) : Int)
      else
        ((middle ((255 - b.toNat) % 128) - bias : Nat) : Int) := by
  have hsegment : (255 - b.toNat) % 128 / 16 = (255 - b.toNat) / 16 % 8 := by
    omega
  have hmantissa : (255 - b.toNat) % 128 % 16 = (255 - b.toNat) % 16 := by
    omega
  rw [Nat.cast_sub (bias_le_middle _), middle, hsegment, hmantissa]
  rfl

/-- A sample comes back with its sign and its magnitude rounded. -/
theorem decodeByte_encodeSample (x : Int) :
    decodeByte (encodeSample x) =
      if x < 0 then -(rounded x.natAbs : Int) else rounded x.natAbs := by
  have hinterval := (isBiased_clipped x.natAbs).interval_lt
  rw [decodeByte_eq, encodeSample_eq, UInt8.toNat_ofNat', rounded]
  generalize interval (min x.natAbs clip + bias) = i at hinterval ⊢
  by_cases hnegative : x < 0
  · have hinverted : 255 - (255 - (128 + i)) % 2 ^ 8 = 128 + i := by
      omega
    have hnumber : (128 + i) % 128 = i := by
      omega
    rw [if_pos hnegative, if_pos hnegative, hinverted, if_pos (by omega), hnumber]
  · have hinverted : 255 - (255 - (0 + i)) % 2 ^ 8 = i := by
      omega
    have hnumber : i % 128 = i := by
      omega
    rw [if_neg hnegative, if_neg hnegative, hinverted, if_neg (by omega), hnumber]

/-- Samples that come back are not rounded a second time. -/
theorem decodeByte_encodeSample_decodeByte (b : UInt8) :
    decodeByte (encodeSample (decodeByte b)) = decodeByte b := by
  have hmagnitude : rounded (decodeByte b).natAbs = (decodeByte b).natAbs := by
    have hrounded := rounded_middle (Nat.mod_lt (255 - b.toNat) (by decide : 0 < 128))
    rw [decodeByte_eq]
    split
    · rw [Int.natAbs_neg, Int.natAbs_natCast, hrounded]
    · rw [Int.natAbs_natCast, hrounded]
  rw [decodeByte_encodeSample, hmagnitude]
  split <;> omega

/-- A sample comes back with its sign, or as zero. -/
theorem sign_decodeByte_encodeSample (x : Int) :
    decodeByte (encodeSample x) = 0 ∨ (decodeByte (encodeSample x)).sign = x.sign := by
  rw [decodeByte_encodeSample]
  rcases Nat.eq_zero_or_pos (rounded x.natAbs) with hzero | hpos
  · left
    rw [hzero]
    split <;> rfl
  · right
    rcases lt_trichotomy x 0 with hnegative | hsilent | hpositive
    · rw [if_pos hnegative, Int.sign_eq_neg_one_of_neg hnegative]
      exact Int.sign_eq_neg_one_of_neg (by omega)
    · -- Silence comes back as silence.
      subst hsilent
      exact absurd hpos (by decide)
    · rw [if_neg (by omega), Int.sign_eq_one_of_pos hpositive]
      exact Int.sign_eq_one_of_pos (by omega)

/-- Samples come back in their order. -/
theorem decodeByte_encodeSample_mono
    {x x' : Int}
    (h : x ≤ x') :
    decodeByte (encodeSample x) ≤ decodeByte (encodeSample x') := by
  rw [decodeByte_encodeSample, decodeByte_encodeSample]
  by_cases hnegative : x < 0
  · rw [if_pos hnegative]
    by_cases hnegative' : x' < 0
    · -- Of two negative samples the lower one has the greater magnitude.
      have hrounded : rounded x'.natAbs ≤ rounded x.natAbs := rounded_le_rounded (by omega)
      rw [if_pos hnegative']
      omega
    · rw [if_neg hnegative']
      omega
  · have hrounded : rounded x.natAbs ≤ rounded x'.natAbs := rounded_le_rounded (by omega)
    rw [if_neg hnegative, if_neg (by omega)]
    omega

/-- The magnitude that comes back is half an interval away from the clipped one at most. -/
theorem abs_decodeByte_encodeSample (x : Int) :
    |(|decodeByte (encodeSample x)| - min |x| clip)| ≤
      2 ^ (segment (min x.natAbs clip + bias) + 2) := by
  have hbiased := isBiased_clipped x.natAbs
  have hup := hbiased.middle_le
  have hdown := hbiased.le_middle
  have hlow := bias_le_middle (interval (min x.natAbs clip + bias))
  have hmagnitude : (decodeByte (encodeSample x)).natAbs = rounded x.natAbs := by
    rw [decodeByte_encodeSample]
    split <;> omega
  have hhalf : ((2 ^ (segment (min x.natAbs clip + bias) + 2) : Nat) : Int) =
      2 ^ (segment (min x.natAbs clip + bias) + 2) :=
    Nat.cast_pow 2 _
  rw [Int.abs_eq_natAbs, Int.abs_eq_natAbs, Int.abs_eq_natAbs, hmagnitude, rounded, ← hhalf]
  omega

end Samples

end MuLaw
end CallScript
