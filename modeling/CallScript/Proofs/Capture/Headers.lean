import CallScript.Proofs.Capture.Dissection
import CallScript.Proofs.Capture.Extent
import Mathlib.Logic.Function.Iterate

/-!
# Headers that verify

Adding the carries of a sum ends after some rounds, so that every byte string of even length has a
checksum.  Written over a word of zero, at whatever even place, the checksum makes the header
verify.  A frame is built exactly where its ports and its length fit into their fields, and then
its header verifies.

Main statements:
* `wordSum?_eq_sum`: what is added up are the words of a byte string.
* `foldsTo_foldCarries`: the rounds in which carries are added come to an end.
* `checksum_patchedAt`: a header with its checksum in the place of a word of zero verifies.
* `verified_of_checksum`: both together, and what they mean for a frame.
-/

namespace CallScript
namespace Capture

/-- A sum after its carries have been added once. -/
def carryRound (total : Nat) : Nat :=
  total % 65536 + total / 65536

/-- Adding carries ends: some rounds find a carry each, and what they leave has none. -/
def FoldsTo (total folded : Nat) : Prop :=
  ∃ rounds,
    (∀ n < rounds, 65536 ≤ carryRound^[n] total) ∧
    carryRound^[rounds] total = folded ∧
    folded < 65536

/-- The words of a byte string, the most significant byte of each one first. -/
def wordsOf (bytes : Bytes) : List Nat :=
  (List.range (bytes.length / 2)).map fun k => wordAt bytes (2 * k)

/-- A header with a number in the word at a place. -/
def patchedAt (header : Bytes) (place word : Nat) : Bytes :=
  header.take place ++ Bytes.bigEndian 2 word ++ header.drop (place + 2)

section Words

theorem wordsOf_cons (high low : UInt8) (rest : Bytes) :
    wordsOf (high :: low :: rest) = (256 * high.toNat + low.toNat) :: wordsOf rest := by
  have hcount : (high :: low :: rest).length / 2 = rest.length / 2 + 1 := by
    rw [List.length_cons, List.length_cons]
    omega
  rw [wordsOf, hcount, List.range_succ_eq_map, List.map_cons, List.map_map, wordsOf]
  congr 1
  simp [wordAt, Bytes.toNatBig]

/-- What is added up are the words of a byte string of even length. -/
theorem wordSum?_eq_sum
    {bytes : Bytes}
    (h : Even bytes.length) :
    wordSum? bytes = some (wordsOf bytes).sum := by
  induction bytes using wordSum?.induct with
  | case1 =>
      rfl
  | case2 b =>
      simp at h
  | case3 high low rest ih =>
      have hrest : Even rest.length := by
        rwa [List.length_cons, List.length_cons, Nat.even_add_one, Nat.even_add_one, not_not] at h
      rw [wordSum?, ih hrest, wordsOf_cons, List.sum_cons]
      rfl

end Words

section Carries

/-- The rounds in which carries are added come to an end. -/
theorem foldsTo_foldCarries (total : Nat) :
    FoldsTo total (foldCarries total) := by
  induction total using foldCarries.induct with
  | case1 total hlarge ih =>
      obtain ⟨rounds, hcarries, hend, hlt⟩ := ih
      have hfold : foldCarries total = foldCarries (carryRound total) := by
        rw [foldCarries, dif_pos hlarge, carryRound]
      refine ⟨rounds + 1, ?_, ?_, ?_⟩
      · intro n hn
        cases n with
        | zero =>
            exact hlarge
        | succ n =>
            rw [Function.iterate_succ_apply]
            exact hcarries n (by omega)
      · rw [Function.iterate_succ_apply, hfold]
        exact hend
      · rw [hfold]
        exact hlt
  | case2 total hsmall =>
      have hfold : foldCarries total = total := by
        rw [foldCarries, dif_neg hsmall]
      rw [hfold]
      exact ⟨0, by simp, rfl, by omega⟩

/--
A byte string of even length has a checksum, which inverts what the carries leave of the sum of its
words.
-/
theorem exists_checksum
    {header : Bytes}
    (h : Even header.length) :
    ∃ total folded sum,
      wordSum? header = some total ∧
      total = (wordsOf header).sum ∧
      FoldsTo total folded ∧
      checksum header = .ok sum ∧
      sum + folded = 65535 := by
  obtain ⟨total, hwords⟩ : ∃ total, total = (wordsOf header).sum := ⟨_, rfl⟩
  have htotal : wordSum? header = some total := by
    rw [hwords]
    exact wordSum?_eq_sum h
  have hends := foldsTo_foldCarries total
  have hlt : foldCarries total < 65536 := by
    obtain ⟨_, _, _, hlt⟩ := hends
    exact hlt
  refine ⟨total, foldCarries total, 65535 - foldCarries total, htotal, hwords, hends, ?_, ?_⟩
  · exact checksum_eq_ok_iff.mpr ⟨total, htotal, rfl⟩
  · omega

end Carries

section Places

variable {header : Bytes} {place : Nat}

/-- A word of zero is two bytes of zero. -/
theorem patchedAt_zero
    (hplace : place + 2 ≤ header.length)
    (hzero : wordAt header place = 0) :
    patchedAt header place 0 = header := by
  have hlength : ((header.drop place).take 2).length = 2 := by
    simp
    omega
  have hword : Bytes.bigEndian 2 0 = (header.drop place).take 2 := by
    have hbytes := Bytes.bigEndian_toNatBig ((header.drop place).take 2)
    rwa [hlength, show Bytes.toNatBig ((header.drop place).take 2) = 0 from hzero] at hbytes
  rw [patchedAt, hword, ← List.drop_drop, List.append_assoc, List.take_append_drop,
    List.take_append_drop]

/-- A header with its checksum in the place of a word of zero verifies. -/
theorem checksum_patchedAt
    {sum : Nat}
    (heven : Even header.length)
    (hplaceEven : Even place)
    (hplace : place + 2 ≤ header.length)
    (hzero : wordAt header place = 0)
    (h : checksum header = .ok sum) :
    checksum (patchedAt header place sum) = .ok 0 := by
  apply checksum_patched
  · rw [List.length_take_of_le (by omega)]
    exact hplaceEven
  · rw [List.length_drop, Nat.even_sub hplace]
    simp [heven, hplaceEven, Nat.even_add]
  · rw [← h]
    exact congrArg checksum (patchedAt_zero hplace hzero)

end Places

section Frames

variable {source destination : Party} {payload : Bytes} {ident : Int}

/-- The header of a packet stands behind that of Ethernet. -/
theorem packetHeader_append
    {header : Bytes}
    (hlength : header.length = 20)
    (rest : Bytes) :
    packetHeader (ethernetHeader ++ header ++ rest) = header := by
  have hbefore : ethernetHeader.length = 14 := by
    rfl
  rw [packetHeader, List.append_assoc, Bytes.take_drop_field hbefore hlength]

/-- The header of a frame has twenty bytes and verifies. -/
theorem packetHeader_verifies
    {bytes : Bytes}
    (h : frame source destination payload ident = .ok bytes) :
    (packetHeader bytes).length = 20 ∧ checksum (packetHeader bytes) = .ok 0 := by
  obtain ⟨_, _, parts, sum, _, _, _, _, _, hparts, hsum, rfl⟩ := frame_eq_ok h
  have htotal := Bytes.length_bigEndian 2 (28 + payload.length)
  have hlength : (parts.withChecksum sum).length = 20 := by
    rw [← hparts]
    exact length_withChecksum htotal ident sum
  rw [List.append_assoc (ethernetHeader ++ _), packetHeader_append hlength]
  refine ⟨hlength, ?_⟩
  rw [← hparts] at hsum ⊢
  exact checksum_headerParts htotal hsum

/-- A number that does not fit is the only fault of a field. -/
theorem field_of_wordBytes
    {n : Int} {fault : Fault}
    (h : wordBytes n = .error fault) :
    fault = .field := by
  unfold wordBytes at h
  split at h <;> cases h
  rfl

/-- Every fault of a frame is that of a field. -/
theorem field_of_frame
    {fault : Fault}
    (h : frame source destination payload ident = .error fault) :
    fault = .field := by
  rcases Result.bind_eq_error h with h | ⟨_, _, h⟩
  · exact field_of_wordBytes h
  rcases Result.bind_eq_error h with h | ⟨_, _, h⟩
  · exact field_of_wordBytes h
  rcases Result.bind_eq_error h with h | ⟨_, _, h⟩
  · exact field_of_wordBytes h
  rcases Result.bind_eq_error h with h | ⟨_, htotal, h⟩
  · exact field_of_wordBytes h
  rcases Result.bind_eq_error h with h | ⟨_, _, h⟩
  · unfold checksum at h
    split at h <;> cases h
    rfl
  · cases h

/-- A frame needs two ports that fit and a payload that is short enough. -/
theorem fits_of_frame
    {bytes : Bytes}
    (h : frame source destination payload ident = .ok bytes) :
    source.HasPort ∧ destination.HasPort ∧ payload.length ≤ 65507 := by
  obtain ⟨from?, to?, _, _, hsource, hfrom, hdestination, hto, hlength, _⟩ := frame_eq_ok h
  refine ⟨⟨?_, ?_⟩, ⟨?_, ?_⟩, ?_⟩ <;> omega

end Frames

/--
**Checksums verify.**  Adding the carries of the sum of the words of a byte string of even length
comes to an end below 65536, and its checksum is what is missing to 65535.  Written over a word of
zero at an even place it makes the checksum zero.  The header of twenty bytes of every frame
verifies so; a frame is there exactly where both ports and the length fit, and everything else is
refused.
-/
theorem verified_of_checksum :
    (∀ header : Bytes, Even header.length →
      ∃ total folded sum,
        wordSum? header = some total ∧
        total = (wordsOf header).sum ∧
        FoldsTo total folded ∧
        checksum header = .ok sum ∧
        sum + folded = 65535) ∧
    (∀ (header : Bytes) (place : Nat),
      Even header.length → Even place → place + 2 ≤ header.length → wordAt header place = 0 →
      ∃ sum,
        checksum header = .ok sum ∧
        checksum (patchedAt header place sum) = .ok 0) ∧
    (∀ (source destination : Party) (payload : Bytes) (ident : Int),
      source.HasPort → destination.HasPort → payload.length ≤ 65507 →
      ∃ bytes,
        frame source destination payload ident = .ok bytes ∧
        (packetHeader bytes).length = 20 ∧
        checksum (packetHeader bytes) = .ok 0) ∧
    (∀ (source destination : Party) (payload : Bytes) (ident : Int),
      ¬ (source.HasPort ∧ destination.HasPort ∧ payload.length ≤ 65507) →
      frame source destination payload ident = .error .field) := by
  refine ⟨fun header => exists_checksum, ?_, ?_, ?_⟩
  · intro header place heven hplaceEven hplace hzero
    obtain ⟨_, _, sum, _, _, _, hsum, _⟩ := exists_checksum heven
    exact ⟨sum, hsum, checksum_patchedAt heven hplaceEven hplace hzero hsum⟩
  · intro source destination payload ident hsource hdestination hpayload
    have hlength : 28 + payload.length < 65536 := by
      omega
    obtain ⟨bytes, hframe, _⟩ := exists_frame hsource hdestination hlength ident
    exact ⟨bytes, hframe, packetHeader_verifies hframe⟩
  · intro source destination payload ident hmisfit
    cases hframe : frame source destination payload ident with
    | ok bytes =>
        exact absurd (fits_of_frame hframe) hmisfit
    | error fault =>
        rw [field_of_frame hframe]

/-- A sum whose carries carry again, and frames between the least and the greatest port. -/
theorem verified_of_checksum_with_carries :
    let header : Bytes := [0xff, 0xff, 0xff, 0xff, 0, 2, 0, 0]
    let source : Party := ⟨[10, 0, 0, 1], 0⟩
    let destination : Party := ⟨[10, 0, 0, 2], 65535⟩
    (∃ sum,
      checksum header = .ok sum ∧
      checksum (patchedAt header 6 sum) = .ok 0) ∧
    (∃ bytes,
      frame source destination [7] (-1) = .ok bytes ∧
      checksum (packetHeader bytes) = .ok 0) ∧
    frame source ⟨[10, 0, 0, 2], 65536⟩ [7] (-1) = .error .field := by
  intro header source destination
  obtain ⟨-, hpatched, hbuilt, hrefused⟩ := verified_of_checksum
  have hleast : source.HasPort := by
    constructor <;> decide
  have hgreatest : destination.HasPort := by
    constructor <;> decide
  refine ⟨?_, ?_, ?_⟩
  · exact hpatched header 6 (by decide) (by decide) (by decide) (by decide)
  · obtain ⟨bytes, hframe, -, hverified⟩ :=
      hbuilt source destination [7] (-1) hleast hgreatest (by decide)
    exact ⟨bytes, hframe, hverified⟩
  · apply hrefused
    rintro ⟨-, ⟨-, hport⟩, -⟩
    exact absurd hport (by decide)

end Capture
end CallScript
