import CallScript.Capture.Frame
import CallScript.Proofs.Bytes
import CallScript.Proofs.Result
import Mathlib.Data.List.Basic

/-!
# Checksums of headers

Sums of sixteen-bit words in ones' complement: the carries of a sum that is not zero leave its
remainder by 65535, between one and 65535.  A header with its own checksum in the place of a word
of zero therefore adds up to the greatest word, which is what a receiver asks of it.

Main statements:
* `exists_checksum_iff`: which byte strings have a checksum.
* `checksum_patched`: the checksum of a header that carries its checksum is zero.
-/

namespace CallScript
namespace Capture

/-- A sum without its carries. -/
theorem foldCarries_eq (total : Nat) :
    foldCarries total = if total = 0 then 0 else (total - 1) % 65535 + 1 := by
  induction total using foldCarries.induct with
  | case1 total hlarge ih =>
      -- A round takes a multiple of 65535 away and leaves more than zero.
      rw [foldCarries, dif_pos hlarge, ih]
      split <;> split <;> omega
  | case2 total hsmall =>
      rw [foldCarries, dif_neg hsmall]
      split <;> omega

/-- A sum and its inverted carries add up to the greatest word. -/
theorem foldCarries_add_inverted (total : Nat) :
    foldCarries (total + (65535 - foldCarries total)) = 65535 := by
  rw [foldCarries_eq, foldCarries_eq]
  split <;> split <;> omega

theorem wordSum?_append
    {first second : Bytes} {m n : Nat}
    (hfirst : wordSum? first = some m)
    (hsecond : wordSum? second = some n) :
    wordSum? (first ++ second) = some (m + n) := by
  induction first using wordSum?.induct generalizing m with
  | case1 =>
      cases hfirst
      rw [List.nil_append, Nat.zero_add, hsecond]
  | case2 b =>
      cases hfirst
  | case3 high low rest ih =>
      rw [wordSum?, Option.map_eq_some_iff] at hfirst
      obtain ⟨sum, hsum, rfl⟩ := hfirst
      rw [List.cons_append, List.cons_append, wordSum?, ih hsum, Option.map_some,
        Nat.add_assoc (256 * high.toNat + low.toNat)]

/-- Byte strings of even length are made of words. -/
theorem exists_wordSum?_iff (bytes : Bytes) :
    (∃ total, wordSum? bytes = some total) ↔ Even bytes.length := by
  induction bytes using wordSum?.induct with
  | case1 =>
      simp [wordSum?]
  | case2 b =>
      simp [wordSum?]
  | case3 high low rest ih =>
      rw [List.length_cons, List.length_cons, Nat.even_add_one, Nat.even_add_one, not_not, ← ih]
      simp [wordSum?]

theorem exists_word
    {n : Nat}
    (h : n < 256 ^ 2) :
    ∃ high low, Bytes.bigEndian 2 n = [high, low] ∧ Bytes.toNatBig [high, low] = n := by
  obtain ⟨high, low, hbytes⟩ := List.length_eq_two.mp (Bytes.length_bigEndian 2 n)
  have hvalue := Bytes.toNatBig_bigEndian 2 n
  rw [hbytes, Nat.mod_eq_of_lt h] at hvalue
  exact ⟨high, low, hbytes, hvalue⟩

theorem wordSum?_bigEndian
    {n : Nat}
    (h : n < 256 ^ 2) :
    wordSum? (Bytes.bigEndian 2 n) = some n := by
  obtain ⟨high, low, hbytes, hvalue⟩ := exists_word h
  simpa [hbytes, wordSum?, Bytes.toNatBig] using hvalue

/-- The checksum of a byte string that is made of words. -/
theorem checksum_eq_ok_iff
    {header : Bytes} {sum : Nat} :
    checksum header = .ok sum ↔
      ∃ total, wordSum? header = some total ∧ sum = 65535 - foldCarries total := by
  unfold checksum
  cases wordSum? header with
  | none =>
      simp
  | some total =>
      simp [eq_comm]

/-- The byte strings of even length have a checksum. -/
theorem exists_checksum_iff (header : Bytes) :
    (∃ sum, checksum header = .ok sum) ↔ Even header.length := by
  rw [← exists_wordSum?_iff]
  constructor
  · rintro ⟨sum, hsum⟩
    obtain ⟨total, htotal, _⟩ := checksum_eq_ok_iff.mp hsum
    exact ⟨total, htotal⟩
  · rintro ⟨total, htotal⟩
    exact ⟨_, checksum_eq_ok_iff.mpr ⟨total, htotal, rfl⟩⟩

/--
**Checksums verify.**  A header with a word of zero, at whatever even place, has the checksum zero
as soon as its checksum stands in the place of the word.
-/
theorem checksum_patched
    {before after : Bytes} {sum : Nat}
    (hbefore : Even before.length)
    (hafter : Even after.length)
    (h : checksum (before ++ Bytes.bigEndian 2 0 ++ after) = .ok sum) :
    checksum (before ++ Bytes.bigEndian 2 sum ++ after) = .ok 0 := by
  obtain ⟨m, hm⟩ := (exists_wordSum?_iff before).mpr hbefore
  obtain ⟨n, hn⟩ := (exists_wordSum?_iff after).mpr hafter
  have hwhole : ∀ {word : Nat}, word < 256 ^ 2 →
      wordSum? (before ++ Bytes.bigEndian 2 word ++ after) = some (m + word + n) := by
    intro word hword
    exact wordSum?_append (wordSum?_append hm (wordSum?_bigEndian hword)) hn
  obtain ⟨total, htotal, rfl⟩ := checksum_eq_ok_iff.mp h
  rw [hwhole (by decide), Option.some.injEq] at htotal
  have hzero := foldCarries_add_inverted (m + n)
  refine checksum_eq_ok_iff.mpr ⟨_, hwhole (by omega), ?_⟩
  rw [← htotal, Nat.add_zero, Nat.add_right_comm, hzero]

end Capture
end CallScript
