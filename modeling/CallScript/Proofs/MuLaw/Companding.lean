import CallScript.Proofs.MuLaw.Rounding
import Mathlib.Data.Int.Bitwise

/-!
# Companding in cells

Arrays of samples and of bytes are worked on one operation after the other, and each operation
leaves its values in cells of a fixed width.  The operations are written here once for every way
in which a cell may keep a value: it may stop at a value that does not fit, or wrap around.  No
value ever leaves its cell, so both ways come to the same bytes and to the same samples as unbounded
numbers do.

Main statements:
* `encodeWith_eq` and `decodeWith_eq`: cells that keep the values that fit are enough.
* `companding_of_samples`: samples come back in their order, half an interval away at most, and
  no value on the way leaves its cell.
-/

namespace CallScript
namespace MuLaw

/-- What the arrays consist of: bytes, samples of sixteen bits, and words of thirty-two. -/
inductive Cell where
  | byte
  | sample
  | word
  deriving Repr, DecidableEq

namespace Cell

/-- The least value of a cell. -/
def least : Cell → Int
  | byte => 0
  | sample => -2 ^ 15
  | word => -2 ^ 31

/-- How many values a cell may have. -/
def count : Cell → Int
  | byte => 2 ^ 8
  | sample => 2 ^ 16
  | word => 2 ^ 32

/-- Holds of the values of a cell. -/
def Holds (cell : Cell) (value : Int) : Prop :=
  cell.least ≤ value ∧ value < cell.least + cell.count

instance (cell : Cell) (value : Int) : Decidable (cell.Holds value) :=
  inferInstanceAs (Decidable (_ ∧ _))

/-- Keeps a value that fits, and stops at any other one. -/
def checked (cell : Cell) (value : Int) : Option Int :=
  if cell.Holds value then some value else none

/-- Wraps around: keeps the one value of the cell that is a multiple of `count` away. -/
def wrapped (cell : Cell) (value : Int) : Id Int :=
  pure (cell.least + (value - cell.least) % cell.count)

end Cell

section Operations

variable {m : Type → Type} [Monad m] (keep : Cell → Int → m Int)

/-- A round of the search for a segment. -/
def segmentRound (biased found : Int) (e : Nat) : m Int := do
  let lower ← keep .word (1 <<< (e + 7))
  keep .word (if lower ≤ biased then e else found)

/-- The last of the eight segments whose lower end a biased magnitude reaches. -/
def segmentWith (biased : Int) : m Int := do
  let first ← keep .word 0
  (List.range 8).foldlM (segmentRound keep biased) first

/-- The magnitude of a sample, clipped and shifted up. -/
def biasedWith (sample : Int) : m Int := do
  let magnitude ← keep .word sample.natAbs
  let clipped ← keep .word (min magnitude clip)
  keep .word (clipped + bias)

/-- The byte that is put together from its parts. -/
def codeWith (sign e biased : Int) : m UInt8 := do
  let shift ← keep .word (e + 3)
  let shifted ← keep .word (biased >>> shift)
  let mantissa ← keep .word (Int.land shifted 0x0F)
  let signBit ← keep .word (sign <<< 7)
  let segmentBits ← keep .word (e <<< 4)
  let upper ← keep .word (Int.lor signBit segmentBits)
  let code ← keep .word (Int.lor upper mantissa)
  let inverted ← keep .word (~~~code)
  -- The word is below zero: its lowest eight bits are the byte.
  return UInt8.ofInt inverted

/-- The byte of a sample. -/
def encodeWith (sample : Int) : m UInt8 := do
  let wide ← keep .word sample
  let sign ← keep .word (if wide < 0 then 1 else 0)
  let biased ← biasedWith keep wide
  let e ← segmentWith keep biased
  codeWith keep sign e biased

/-- The magnitude in the middle of an interval. -/
def magnitudeWith (e mantissa : Int) : m Int := do
  let wide ← keep .word mantissa
  let scaled ← keep .word (wide <<< 3)
  let raised ← keep .word (scaled + bias)
  let shift ← keep .word e
  let biased ← keep .word (raised <<< shift)
  keep .word (biased - bias)

/-- The sample of a byte. -/
def decodeWith (byte : UInt8) : m Int := do
  let inverted ← keep .byte (~~~byte).toNat
  let sign ← keep .byte (Int.land inverted 0x80)
  let segmentBits ← keep .byte (Int.land inverted 0x70)
  let e ← keep .byte (segmentBits >>> 4)
  let mantissa ← keep .byte (Int.land inverted 0x0F)
  let magnitude ← magnitudeWith keep e mantissa
  let opposite ← keep .word (-magnitude)
  let chosen ← keep .word (if sign ≠ 0 then opposite else magnitude)
  keep .sample chosen

end Operations

section Keeping

variable {m : Type → Type} [Monad m] {keep : Cell → Int → m Int}

/-- Holds of cells that keep the values that fit. -/
def Faithful (keep : Cell → Int → m Int) : Prop :=
  ∀ cell value, cell.Holds value → keep cell value = pure value

theorem faithful_checked :
    Faithful Cell.checked := by
  intro cell value h
  exact if_pos h

theorem faithful_wrapped :
    Faithful Cell.wrapped := by
  intro cell value h
  have hrest : (value - cell.least) % cell.count = value - cell.least := by
    unfold Cell.Holds at h
    exact Int.emod_eq_of_lt (by omega) (by omega)
  rw [Cell.wrapped, hrest, add_sub_cancel]

theorem holds_byte
    {n : Nat}
    (h : n < 2 ^ 8) :
    Cell.byte.Holds n := by
  change 0 ≤ (n : Int) ∧ (n : Int) < 0 + 2 ^ 8
  omega

theorem holds_sample
    {value : Int}
    (hlow : -2 ^ 15 ≤ value)
    (hhigh : value < 2 ^ 15) :
    Cell.sample.Holds value := by
  change -2 ^ 15 ≤ value ∧ value < -2 ^ 15 + 2 ^ 16
  omega

theorem holds_word
    {value : Int}
    (hlow : -2 ^ 31 ≤ value)
    (hhigh : value < 2 ^ 31) :
    Cell.word.Holds value := by
  change -2 ^ 31 ≤ value ∧ value < -2 ^ 31 + 2 ^ 32
  omega

theorem holds_word_natCast
    {n : Nat}
    (h : n < 2 ^ 31) :
    Cell.word.Holds n :=
  holds_word (by omega) (by omega)

variable [LawfulMonad m]

theorem Faithful.bind
    (hkeep : Faithful keep)
    {cell : Cell} {value : Int} {α : Type}
    (h : cell.Holds value)
    (f : Int → m α) :
    keep cell value >>= f = f value := by
  rw [hkeep cell value h, pure_bind]

section Search

variable {n : Nat}

/-- A round of the search, whatever the rounds before have found. -/
theorem segmentRound_eq
    (hkeep : Faithful keep)
    {found e : Nat}
    (hfound : found < 8)
    (he : e < 8) :
    segmentRound keep n found e = pure ((if 2 ^ (e + 7) ≤ n then e else found : Nat) : Int) := by
  have hlower : 2 ^ (e + 7) < 2 ^ 31 := Nat.pow_lt_pow_right (by decide) (by omega)
  have hround :
      (if ((2 ^ (e + 7) : Nat) : Int) ≤ n then (e : Int) else found) =
        ((if 2 ^ (e + 7) ≤ n then e else found : Nat) : Int) := by
    rw [Nat.cast_ite]
    exact if_congr Nat.cast_le rfl rfl
  have hfits : (if 2 ^ (e + 7) ≤ n then e else found) < 2 ^ 31 := by
    split <;> omega
  rw [segmentRound, Nat.one_shiftLeft, hkeep.bind (holds_word_natCast hlower), hround,
    hkeep _ _ (holds_word_natCast hfits)]

/-- Round after round, the search finds what it finds among unbounded numbers. -/
theorem foldlM_segmentRound
    (hkeep : Faithful keep)
    {rounds : Nat}
    (hrounds : rounds ≤ 8) :
    (List.range rounds).foldlM (segmentRound keep n) ((0 : Nat) : Int) =
      pure (segmentAfter rounds n : Int) := by
  induction rounds with
  | zero =>
      rfl
  | succ rounds ih =>
      have hfound : segmentAfter rounds n < 8 :=
        lt_of_le_of_lt (segmentAfter_le rounds n) hrounds
      rw [List.range_succ, List.foldlM_append, ih (Nat.le_of_succ_le hrounds), pure_bind,
        List.foldlM_cons, segmentRound_eq hkeep hfound hrounds, pure_bind, List.foldlM_nil,
        segmentAfter_succ]

theorem segmentWith_eq (hkeep : Faithful keep) :
    segmentWith keep n = pure (segment n : Int) := by
  rw [segmentWith, ← Nat.cast_zero, hkeep.bind (holds_word_natCast (by decide))]
  exact foldlM_segmentRound hkeep le_rfl

end Search

section Bits

theorem shiftLeft_eq_mul (n k : Nat) :
    (n : Int) <<< (k : Int) = (n * 2 ^ k : Nat) := by
  rw [Int.shiftLeft_natCast, Nat.shiftLeft_eq]

theorem shiftRight_eq_div (n k : Nat) :
    (n : Int) >>> (k : Int) = (n / 2 ^ k : Nat) := by
  rw [Int.shiftRight_natCast, Nat.shiftRight_eq_div_pow]

/-- The sign of a byte is its highest bit, and the segment stands in the next three. -/
theorem and_places
    {n : Nat}
    (h : n < 2 ^ 8) :
    (n &&& 0x80 ≠ 0 ↔ 128 ≤ n) ∧ (n &&& 0x70) / 2 ^ 4 = n % 128 / 16 := by
  have hbytes : ∀ n < 2 ^ 8,
      (n &&& 0x80 ≠ 0 ↔ 128 ≤ n) ∧ (n &&& 0x70) / 2 ^ 4 = n % 128 / 16 := by
    decide +kernel
  exact hbytes n h

theorem land_lowest (n : Nat) :
    Int.land n 0x0F = (n % 16 : Nat) :=
  congrArg Nat.cast (Nat.and_two_pow_sub_one_eq_mod n 4)

/-- Bits that stand above a number are added to it. -/
theorem lor_above
    {k n : Nat}
    (h : n < 2 ^ k)
    (above : Nat) :
    Int.lor (above * 2 ^ k : Nat) n = (above * 2 ^ k + n : Nat) := by
  rw [Nat.mul_comm]
  exact congrArg Nat.cast (Nat.two_pow_add_eq_or_of_lt h above).symm

theorem not_natCast (n : Nat) :
    ~~~(n : Int) = -n - 1 := by
  change Int.negSucc n = -n - 1
  omega

/-- The lowest eight bits of a number below zero. -/
theorem ofInt_below
    {n : Nat}
    (h : n < 2 ^ 8) :
    UInt8.ofInt (-n - 1) = UInt8.ofNat (255 - n) := by
  rw [UInt8.ofInt]
  congr 1
  omega

end Bits

theorem biasedWith_eq
    (hkeep : Faithful keep)
    {x : Int}
    (hx : x.natAbs ≤ 2 ^ 15) :
    biasedWith keep x = pure ((min x.natAbs clip + bias : Nat) : Int) := by
  have hclipped : min (x.natAbs : Int) clip = (min x.natAbs clip : Nat) := by
    omega
  have hbelow := (isBiased_clipped x.natAbs).2
  rw [biasedWith, hkeep.bind (holds_word_natCast (by omega)), hclipped,
    hkeep.bind (holds_word_natCast (by omega)), ← Nat.cast_add,
    hkeep _ _ (holds_word_natCast (by omega))]

/-- The parts of a byte are told apart by their places. -/
theorem codeWith_eq
    (hkeep : Faithful keep)
    {sign e n : Nat}
    (hsign : sign < 2)
    (he : e < 8)
    (hn : n < 2 ^ 15) :
    codeWith keep sign e n =
      pure (UInt8.ofNat (255 - (128 * sign + (16 * e + n / 2 ^ (e + 3) % 16)))) := by
  have hshift : (e : Int) + 3 = (e + 3 : Nat) := rfl
  have hshifted : n / 2 ^ (e + 3) ≤ n := Nat.div_le_self n _
  have hsignBit : (sign : Int) <<< (7 : Int) = (sign * 2 ^ 7 : Nat) := shiftLeft_eq_mul sign 7
  have hsegmentBits : (e : Int) <<< (4 : Int) = (e * 2 ^ 4 : Nat) := shiftLeft_eq_mul e 4
  have hupper : sign * 2 ^ 7 + e * 2 ^ 4 = (sign * 8 + e) * 2 ^ 4 := by
    omega
  have hcode : (sign * 8 + e) * 2 ^ 4 + n / 2 ^ (e + 3) % 16 =
      128 * sign + (16 * e + n / 2 ^ (e + 3) % 16) := by
    omega
  rw [codeWith, hshift, hkeep.bind (holds_word_natCast (by omega)), shiftRight_eq_div,
    hkeep.bind (holds_word_natCast (by omega)), land_lowest,
    hkeep.bind (holds_word_natCast (by omega)), hsignBit,
    hkeep.bind (holds_word_natCast (by omega)), hsegmentBits,
    hkeep.bind (holds_word_natCast (by omega)), lor_above (by omega),
    hkeep.bind (holds_word_natCast (by omega)), hupper, lor_above (by omega), hcode,
    hkeep.bind (holds_word_natCast (by omega)), not_natCast,
    hkeep.bind (holds_word (by omega) (by omega)), ofInt_below (by omega)]

/-- Coding a sample takes no value out of its cell. -/
theorem encodeWith_eq
    (hkeep : Faithful keep)
    {x : Int}
    (hx : Cell.sample.Holds x) :
    encodeWith keep x = pure (encodeSample x) := by
  have hbounds : -2 ^ 15 ≤ x ∧ x < -2 ^ 15 + 2 ^ 16 := hx
  have hbiased := isBiased_clipped x.natAbs
  obtain ⟨sign, hsign, hbit, hlimit⟩ :
      ∃ sign : Nat, (if x < 0 then 1 else 0 : Int) = sign ∧
        (if x < 0 then 128 else 0) = 128 * sign ∧ sign < 2 := by
    by_cases hnegative : x < 0
    · exact ⟨1, by simp [hnegative]⟩
    · exact ⟨0, by simp [hnegative]⟩
  rw [encodeWith, hkeep.bind (holds_word (by omega) (by omega)), hsign,
    hkeep.bind (holds_word_natCast (by omega)), biasedWith_eq hkeep (by omega), pure_bind,
    segmentWith_eq hkeep, pure_bind,
    codeWith_eq hkeep hlimit (Nat.lt_succ_of_le hbiased.segment_le) hbiased.2,
    encodeSample_eq, hbit, interval]

/-- The magnitude of the least sample fits into a word, but not into a sample. -/
example : Cell.checked .word 32768 = some 32768 ∧ Cell.checked .sample 32768 = none := by
  decide

theorem magnitudeWith_eq
    (hkeep : Faithful keep)
    {i : Nat}
    (hi : i < 128) :
    magnitudeWith keep (i / 16 : Nat) (i % 16 : Nat) = pure ((middle i - bias : Nat) : Int) := by
  have hlow := bias_le_middle i
  have hhigh := (isBiased_middle hi).2
  have hscaled : ((i % 16 : Nat) : Int) <<< (3 : Int) = (i % 16 * 2 ^ 3 : Nat) :=
    shiftLeft_eq_mul _ 3
  have hmiddle : (i % 16 * 2 ^ 3 + bias) * 2 ^ (i / 16) = middle i := by
    rw [middle, Nat.mul_comm (i % 16)]
    rfl
  have hraised : i % 16 * 2 ^ 3 + bias < 2 ^ 31 := by
    unfold bias
    omega
  rw [magnitudeWith, hkeep.bind (holds_word_natCast (by omega)), hscaled,
    hkeep.bind (holds_word_natCast (by omega)), ← Nat.cast_add,
    hkeep.bind (holds_word_natCast hraised), hkeep.bind (holds_word_natCast (by omega)),
    shiftLeft_eq_mul, hmiddle, hkeep.bind (holds_word_natCast (by omega)), ← Nat.cast_sub hlow,
    hkeep _ _ (holds_word_natCast (by omega))]

theorem holds_decodeByte (b : UInt8) :
    Cell.sample.Holds (decodeByte b) := by
  have hmiddle := (isBiased_middle (Nat.mod_lt (255 - b.toNat) (by decide : 0 < 128))).2
  rw [decodeByte_eq]
  split
  · exact holds_sample (by omega) (by omega)
  · exact holds_sample (by omega) (by omega)

/-- Reading a byte takes no value out of its cell. -/
theorem decodeWith_eq
    (hkeep : Faithful keep)
    (b : UInt8) :
    decodeWith keep b = pure (decodeByte b) := by
  have hinverted : (~~~b).toNat = 255 - b.toNat := UInt8.toNat_not b
  have hbyte : 255 - b.toNat < 2 ^ 8 := by
    omega
  have hsample := holds_decodeByte b
  have hword : -2 ^ 15 ≤ decodeByte b ∧ decodeByte b < -2 ^ 15 + 2 ^ 16 := hsample
  rw [decodeByte_eq] at hsample hword ⊢
  rw [decodeWith, hinverted]
  generalize 255 - b.toNat = n at hbyte hsample hword ⊢
  obtain ⟨hsign, hsegment⟩ := and_places hbyte
  have hsignBit : Int.land n 0x80 = (n &&& 0x80 : Nat) := rfl
  have hsegmentBits : Int.land n 0x70 = (n &&& 0x70 : Nat) := rfl
  have hshifted : ((n &&& 0x70 : Nat) : Int) >>> (4 : Int) = (n % 128 / 16 : Nat) := by
    rw [← hsegment]
    exact shiftRight_eq_div _ 4
  have hmantissa : n % 16 = n % 128 % 16 := by
    omega
  have hnegative : ((n &&& 0x80 : Nat) : Int) ≠ 0 ↔ 128 ≤ n := Nat.cast_ne_zero.trans hsign
  have hhigh : n &&& 0x80 ≤ n := Nat.and_le_left
  have hnext : n &&& 0x70 ≤ n := Nat.and_le_left
  have hmiddle := (isBiased_middle (Nat.mod_lt n (by decide : 0 < 128))).2
  rw [hkeep.bind (holds_byte hbyte), hsignBit, hkeep.bind (holds_byte (by omega)), hsegmentBits,
    hkeep.bind (holds_byte (by omega)), hshifted, hkeep.bind (holds_byte (by omega)),
    land_lowest, hmantissa, hkeep.bind (holds_byte (by omega)),
    magnitudeWith_eq hkeep (Nat.mod_lt n (by decide)), pure_bind,
    hkeep.bind (holds_word (by omega) (by omega)), if_congr hnegative rfl rfl,
    hkeep.bind (holds_word (by omega) (by omega)), hkeep _ _ hsample]

/-- A list goes through the cells member by member. -/
theorem mapM_eq_pure_map
    {α β : Type} {f : α → m β} {g : α → β} {xs : List α}
    (h : ∀ x ∈ xs, f x = pure (g x)) :
    xs.mapM f = pure (xs.map g) := by
  induction xs with
  | nil =>
      rfl
  | cons x xs ih =>
      have hrest := ih (fun y hy => h y (List.mem_cons_of_mem x hy))
      rw [List.mapM_cons, h x List.mem_cons_self, pure_bind, hrest, pure_bind, List.map_cons]

theorem mapM_encodeWith
    (hkeep : Faithful keep)
    {samples : List Int}
    (hsamples : ∀ x ∈ samples, Cell.sample.Holds x) :
    samples.mapM (encodeWith keep) = pure (encode samples) :=
  mapM_eq_pure_map (fun x hx => encodeWith_eq hkeep (hsamples x hx))

theorem mapM_decodeWith
    (hkeep : Faithful keep)
    (bytes : Bytes) :
    bytes.mapM (decodeWith keep) = pure (decode bytes) :=
  mapM_eq_pure_map (fun b _ => decodeWith_eq hkeep b)

theorem holds_of_mem_decode
    {bytes : Bytes} {x : Int}
    (h : x ∈ decode bytes) :
    Cell.sample.Holds x := by
  obtain ⟨b, _, rfl⟩ := List.mem_map.mp h
  exact holds_decodeByte b

end Keeping

/--
**Samples come back in order.**  Of every list of samples each one becomes a byte.  A sample comes
back with its sign, or as zero, and its magnitude is then half an interval of its segment away from
the clipped one at most; the segment is one of eight and is given by the leading bit of the biased
magnitude.  Samples come back in their order, and what bytes are read as is read again after it has
been written.  On all these ways no value leaves its cell: cells that stop at a value that does not
fit never stop, and cells whose values wrap around come to the same bytes and samples.
-/
theorem companding_of_samples
    {samples : List Int}
    (hsamples : ∀ x ∈ samples, Cell.sample.Holds x) :
    (encode samples).length = samples.length ∧
    (∀ x ∈ samples, ∃ y e,
      decode (encode [x]) = [y] ∧
      (e ≤ 7 ∧
        Nat.log 2 (min x.natAbs 32635 + 132) = e + 7 ∧
        segment (min x.natAbs 32635 + 132) = e) ∧
      (y = 0 ∨ y.sign = x.sign) ∧
      |(|y| - min |x| 32635)| ≤ 2 ^ (e + 2)) ∧
    (∀ x ∈ samples, ∀ x' ∈ samples, x ≤ x' → ∃ y y',
      decode (encode [x]) = [y] ∧ decode (encode [x']) = [y'] ∧ y ≤ y') ∧
    (samples.mapM (encodeWith Cell.checked) = some (encode samples) ∧
      Id.run (samples.mapM (encodeWith Cell.wrapped)) = encode samples) ∧
    (∀ bytes : Bytes,
      decode (encode (decode bytes)) = decode bytes ∧
      bytes.mapM (decodeWith Cell.checked) = some (decode bytes) ∧
      Id.run (bytes.mapM (decodeWith Cell.wrapped)) = decode bytes ∧
      (decode bytes).mapM (encodeWith Cell.checked) = some (encode (decode bytes))) := by
  refine ⟨List.length_map _, ?_, ?_, ⟨?_, ?_⟩, ?_⟩
  · intro x _
    have hbiased := isBiased_clipped x.natAbs
    exact ⟨_, _, rfl, ⟨hbiased.segment_le, hbiased.log_eq, rfl⟩,
      sign_decodeByte_encodeSample x, abs_decodeByte_encodeSample x⟩
  · intro x _ x' _ hle
    exact ⟨_, _, rfl, rfl, decodeByte_encodeSample_mono hle⟩
  · exact mapM_encodeWith faithful_checked hsamples
  · exact congrArg Id.run (mapM_encodeWith faithful_wrapped hsamples)
  · intro bytes
    have hagain : decode (encode (decode bytes)) = decode bytes := by
      unfold decode encode
      rw [List.map_map, List.map_map]
      exact List.map_congr_left (fun b _ => decodeByte_encodeSample_decodeByte b)
    exact ⟨hagain, mapM_decodeWith faithful_checked bytes,
      congrArg Id.run (mapM_decodeWith faithful_wrapped bytes),
      mapM_encodeWith faithful_checked (fun _ hx => holds_of_mem_decode hx)⟩

/-- The least and the greatest sample, both zeros, and samples beside the end of a segment. -/
theorem companding_of_extreme_samples :
    let samples : List Int := [-32768, -1, 0, 123, 124, 32767]
    (∀ x ∈ samples, Cell.sample.Holds x) ∧
    samples.mapM (encodeWith Cell.checked) = some [0x00, 0x7F, 0xFF, 0xF0, 0xEF, 0x80] ∧
    decode (encode samples) = [-32124, 0, 0, 120, 132, 32124] ∧
    |(|(-32124 : Int)| - min |(-32768 : Int)| 32635)| ≤ 2 ^ (7 + 2) ∧
    decode (encode [-32124, 0, 120]) = [-32124, 0, 120] := by
  intro samples
  have hsamples : ∀ x ∈ samples, Cell.sample.Holds x := by
    decide
  obtain ⟨-, hrounded, -, ⟨hchecked, -⟩, hbytes⟩ := companding_of_samples hsamples
  refine ⟨hsamples, hchecked.trans (by decide), by decide, ?_, ?_⟩
  · obtain ⟨y, e, hy, ⟨-, -, he⟩, -, hhalf⟩ := hrounded (-32768) (by decide)
    have hvalue : y = -32124 := (List.cons.inj hy).1.symm
    have hlast : e = 7 := he.symm.trans (by decide)
    rw [hvalue, hlast] at hhalf
    exact hhalf
  · have hread : decode [0x00, 0x7F, 0xF0] = [-32124, 0, 120] := by
      decide
    have hagain := (hbytes [0x00, 0x7F, 0xF0]).1
    rw [hread] at hagain
    exact hagain

end MuLaw
end CallScript
