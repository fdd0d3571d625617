import CallScript.Bytes
import Mathlib.Algebra.Order.Ring.Nat
import Mathlib.Data.List.Induction
import Mathlib.Tactic.Ring

/-!
# Numbers in byte strings

A number that is written into a field of fixed width is read back modulo the size of the field,
whichever byte comes first, and a field that has been read is written back as it was.
-/

namespace CallScript
namespace Bytes

@[simp] theorem length_bigEndian (width n : Nat) :
    (bigEndian width n).length = width := by
  induction width generalizing n with
  | zero =>
      rfl
  | succ width ih =>
      simp [bigEndian, ih]

@[simp] theorem length_littleEndian (width n : Nat) :
    (littleEndian width n).length = width := by
  induction width generalizing n with
  | zero =>
      rfl
  | succ width ih =>
      simp [littleEndian, ih]

/-- A field after others is found by what stands before it. -/
theorem take_drop_field
    {before field after : Bytes} {start width : Nat}
    (hstart : before.length = start)
    (hwidth : field.length = width) :
    ((before ++ (field ++ after)).drop start).take width = field := by
  rw [List.drop_left' hstart, List.take_left' hwidth]

theorem toNatBig_append_singleton (bs : Bytes) (b : UInt8) :
    toNatBig (bs ++ [b]) = 256 * toNatBig bs + b.toNat := by
  simp [toNatBig]

/-- A number with its most significant byte first is read back modulo the size of its field. -/
theorem toNatBig_bigEndian (width n : Nat) :
    toNatBig (bigEndian width n) = n % 256 ^ width := by
  induction width generalizing n with
  | zero =>
      simp [bigEndian, toNatBig, Nat.mod_one]
  | succ width ih =>
      have hsize : n % 256 ^ (width + 1) = n % 256 + 256 * (n / 256 % 256 ^ width) := by
        rw [pow_succ', Nat.mod_mul]
      rw [bigEndian, toNatBig_append_singleton, ih, UInt8.toNat_ofNat', hsize]
      exact Nat.add_comm _ _

theorem toNatBig_lt (bs : Bytes) :
    toNatBig bs < 256 ^ bs.length := by
  induction bs using List.reverseRecOn with
  | nil =>
      decide
  | append_singleton bs b ih =>
      have hb := b.toNat_lt
      rw [toNatBig_append_singleton, List.length_append, List.length_singleton, pow_succ]
      omega

/-- Bytes that have been read as a number are written back. -/
theorem bigEndian_toNatBig (bs : Bytes) :
    bigEndian bs.length (toNatBig bs) = bs := by
  induction bs using List.reverseRecOn with
  | nil =>
      rfl
  | append_singleton bs b ih =>
      have hb := b.toNat_lt
      have hquotient : (256 * toNatBig bs + b.toNat) / 256 = toNatBig bs := by
        omega
      have hlowest : UInt8.ofNat (256 * toNatBig bs + b.toNat) = b := by
        apply UInt8.toNat_inj.mp
        rw [UInt8.toNat_ofNat']
        omega
      rw [List.length_append, List.length_singleton, toNatBig_append_singleton, bigEndian,
        hquotient, hlowest, ih]

/-- A number with its least significant byte first is read back modulo the size of its field. -/
theorem toNatLittle_littleEndian (width n : Nat) :
    toNatLittle (littleEndian width n) = n % 256 ^ width := by
  induction width generalizing n with
  | zero =>
      simp [littleEndian, toNatLittle, Nat.mod_one]
  | succ width ih =>
      have hcons :
          toNatLittle (littleEndian (width + 1) n) =
            (UInt8.ofNat n).toNat + 256 * toNatLittle (littleEndian width (n / 256)) := by
        rfl
      have hsize : n % 256 ^ (width + 1) = n % 256 + 256 * (n / 256 % 256 ^ width) := by
        rw [pow_succ', Nat.mod_mul]
      rw [hcons, ih, UInt8.toNat_ofNat', hsize]

theorem wrapped_lt (bits : Nat) (n : Int) :
    wrapped bits n < 2 ^ bits := by
  have hpositive : (0 : Int) < ((2 ^ bits : Nat) : Int) := by
    exact_mod_cast Nat.two_pow_pos bits
  have hlt := Int.emod_lt_of_pos n hpositive
  have hnonneg := Int.emod_nonneg n hpositive.ne'
  unfold wrapped
  rw [Nat.pow_eq]
  omega

/-- A number that is wrapped is the remainder by the size of its field. -/
theorem natCast_wrapped (bits : Nat) (n : Int) :
    (wrapped bits n : Int) = n % 2 ^ bits := by
  have hpositive : (0 : Int) < ((2 ^ bits : Nat) : Int) := by
    exact_mod_cast Nat.two_pow_pos bits
  have hnonneg := Int.emod_nonneg n hpositive.ne'
  unfold wrapped
  rw [Nat.pow_eq, Int.toNat_of_nonneg hnonneg]
  push_cast
  rfl

/-- A number below the size of its field is not changed by wrapping. -/
theorem wrapped_of_lt
    {bits n : Nat}
    (h : n < 2 ^ bits) :
    wrapped bits n = n := by
  have hsame : (wrapped bits n : Int) = n := by
    rw [natCast_wrapped]
    exact_mod_cast Nat.mod_eq_of_lt h
  exact_mod_cast hsame

/-- A field of a few bytes that has been read is written back. -/
theorem bigEndian_wrapped_toNatBig
    {bs : Bytes} {width bits : Nat}
    (hlength : bs.length = width)
    (hbits : bits = 8 * width) :
    bigEndian width (wrapped bits (toNatBig bs)) = bs := by
  have hlt : toNatBig bs < 2 ^ bits := by
    have hsize := toNatBig_lt bs
    rwa [hlength, show 256 = 2 ^ 8 by rfl, ← pow_mul, ← hbits] at hsize
  rw [wrapped_of_lt hlt, ← hlength, bigEndian_toNatBig]

/-- A number that fits into a field is not negative and below the size of the field. -/
theorem fit?_eq_some_iff {width : Nat} {n : Int} {k : Nat} :
    fit? width n = some k ↔ n = k ∧ k < 256 ^ width := by
  unfold fit?
  rw [Nat.pow_eq]
  simp only [Bool.and_eq_true, decide_eq_true_eq]
  constructor
  · intro h
    split at h
    · next hrange =>
        cases h
        omega
    · cases h
  · rintro ⟨rfl, hk⟩
    rw [if_pos (by omega)]
    simp

end Bytes
end CallScript
