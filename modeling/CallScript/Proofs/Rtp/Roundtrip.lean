import CallScript.Proofs.Rtp.Wire
import Mathlib.Data.Set.Function

/-!
# Packets and the byte strings that hold them

A byte string holds a packet when it has a whole header whose first byte says version 2 and
nothing else.  Such byte strings and the packets whose fields fit are two forms of one thing.

Main statements:
* `Packet.encode_of_decode`: a byte string that has been read is written back as it was.
* `Packet.codec_bijOn`: what is written and read, which byte strings are read, and that packets
  with fitting fields correspond one to one to these byte strings.
-/

namespace CallScript
namespace Rtp
namespace Packet

/-- Holds of the byte strings with a whole header that says version 2 and nothing else. -/
def HasPlainHeader (bs : Bytes) : Prop :=
  12 ≤ bs.length ∧ bs.head? = some 0x80

/-- A packet whose numbers fit into their fields. -/
structure Fits (p : Packet) : Prop where
  payloadType : 0 ≤ p.payloadType ∧ p.payloadType < 2 ^ 7
  sequence : 0 ≤ p.sequence ∧ p.sequence < 2 ^ 16
  timestamp : 0 ≤ p.timestamp ∧ p.timestamp < 2 ^ 32
  ssrc : 0 ≤ p.ssrc ∧ p.ssrc < 2 ^ 32

/-- A packet as it is read back has the remainders of its fields. -/
theorem onWire_eq (p : Packet) :
    p.onWire =
      { payloadType := p.payloadType % 2 ^ 7
        sequence := p.sequence % 2 ^ 16
        timestamp := p.timestamp % 2 ^ 32
        ssrc := p.ssrc % 2 ^ 32
        marker := p.marker
        payload := p.payload } := by
  simp only [onWire, Bytes.natCast_wrapped]

theorem fits_onWire (p : Packet) :
    p.onWire.Fits := by
  rw [onWire_eq]
  constructor <;> dsimp only <;> omega

/-- A packet that fits is read back as it is. -/
theorem onWire_of_fits
    {p : Packet}
    (h : p.Fits) :
    p.onWire = p := by
  obtain ⟨htype, hsequence, htimestamp, hssrc⟩ := h
  rw [onWire_eq, Int.emod_eq_of_lt htype.1 htype.2, Int.emod_eq_of_lt hsequence.1 hsequence.2,
    Int.emod_eq_of_lt htimestamp.1 htimestamp.2, Int.emod_eq_of_lt hssrc.1 hssrc.2]

theorem hasPlainHeader_encode (p : Packet) :
    HasPlainHeader p.encode := by
  constructor
  · rw [length_encode, headerLength]
    omega
  · rfl

/-- The first byte of a plain header is the one that says version 2 and no further features. -/
theorem eq_firstByte_iff (b : UInt8) :
    b = firstByte ↔ b.toNat / 64 = 2 ∧ b.toNat % 64 = 0 := by
  have hfirst : firstByte.toNat = 128 := by
    rfl
  rw [← UInt8.toNat_inj, hfirst]
  omega

/-- A header byte is put together again from the marker and the payload type in it. -/
theorem ofNat_markedType (b : UInt8) :
    UInt8.ofNat
        ((if (128 ≤ b.toNat : Bool) then 128 else 0) +
          Bytes.wrapped 7 ((b.toNat % 128 : Nat) : Int)) = b := by
  have hb := b.toNat_lt
  have hlow : b.toNat % 128 < 2 ^ 7 := by
    exact Nat.mod_lt _ (by decide)
  rw [Bytes.wrapped_of_lt hlow]
  apply UInt8.toNat_inj.mp
  rw [UInt8.toNat_ofNat']
  by_cases hmarker : 128 ≤ b.toNat
  · simp only [hmarker, decide_true, if_true]
    omega
  · simp only [hmarker, decide_false, Bool.false_eq_true, if_false]
    omega

/-- A byte string that has been read has a plain header. -/
theorem hasPlainHeader_of_decode
    {bs : Bytes} {p : Packet}
    (h : decode bs = .ok p) :
    HasPlainHeader bs := by
  unfold decode at h
  split at h
  · next b0 b1 rest =>
      split at h
      · cases h
      · next hlength =>
          split at h
          · cases h
          · next hversion =>
              split at h
              · cases h
              · next hfeatures =>
                  have hfirst : b0 = firstByte := by
                    exact (eq_firstByte_iff b0).mpr ⟨not_not.mp hversion, not_not.mp hfeatures⟩
                  constructor
                  · exact Nat.le_of_not_lt hlength
                  · rw [hfirst]
                    rfl
  · cases h

/-- A byte string with a plain header is read field by field. -/
theorem exists_fields
    {bs : Bytes}
    (h : HasPlainHeader bs) :
    ∃ (b : UInt8) (sequence timestamp ssrc payload : Bytes),
      sequence.length = 2 ∧ timestamp.length = 4 ∧ ssrc.length = 4 ∧
      bs = firstByte :: b :: (sequence ++ timestamp ++ ssrc ++ payload) ∧
      decode bs =
        .ok
          { payloadType := (b.toNat % 128 : Nat)
            sequence := Bytes.toNatBig sequence
            timestamp := Bytes.toNatBig timestamp
            ssrc := Bytes.toNatBig ssrc
            marker := 128 ≤ b.toNat
            payload := payload } := by
  obtain ⟨hlength, hfirst⟩ := h
  match bs, hlength, hfirst with
  | b0 :: b :: rest, hlength, hfirst =>
      obtain rfl : b0 = firstByte := Option.some.inj hfirst
      have hrest : 10 ≤ rest.length := by
        simpa using hlength
      refine ⟨b, rest.take 2, (rest.drop 2).take 4, (rest.drop 6).take 4, rest.drop 10, ?_, ?_, ?_,
        ?_, ?_⟩
      · simp
        omega
      · simp
        omega
      · simp
        omega
      · have hparts :
            rest.take 2 ++ (rest.drop 2).take 4 ++ (rest.drop 6).take 4 ++ rest.drop 10 = rest := by
          rw [← List.take_add, ← List.take_add, List.take_append_drop]
        rw [hparts]
      · obtain ⟨hversion, hfeatures⟩ := (eq_firstByte_iff firstByte).mp rfl
        unfold decode
        dsimp only
        rw [if_neg (by simp [headerLength]; omega), if_neg (not_not.mpr hversion),
          if_neg (not_not.mpr hfeatures)]

/-- A byte string that has been read is written back as it was. -/
theorem encode_of_decode
    {bs : Bytes} {p : Packet}
    (h : decode bs = .ok p) :
    p.encode = bs := by
  obtain ⟨b, sequence, timestamp, ssrc, payload, hsequence, htimestamp, hssrc, rfl, hread⟩ :=
    exists_fields (hasPlainHeader_of_decode h)
  rw [hread] at h
  cases h
  unfold encode
  rw [ofNat_markedType, Bytes.bigEndian_wrapped_toNatBig hsequence rfl,
    Bytes.bigEndian_wrapped_toNatBig htimestamp rfl, Bytes.bigEndian_wrapped_toNatBig hssrc rfl]

/-- A byte string that is not read is refused for its value. -/
theorem kind_of_decode
    {bs : Bytes} {fault : Fault}
    (h : decode bs = .error fault) :
    fault.kind = .value := by
  unfold decode at h
  split at h
  · split at h
    · cases h
      rfl
    · split at h
      · cases h
        rfl
      · split at h
        · cases h
          rfl
        · cases h
  · cases h
    rfl

/--
**Packets and their byte strings correspond.**  A packet that has been written is read back with
its fields modulo their sizes.  A byte string is read exactly when it has a whole header that
begins with `0x80`, and then the packet is written back as the same bytes; every other one is
refused for its value.  So writing takes the packets with fitting fields one to one to the byte
strings that are read.
-/
theorem codec_bijOn :
    (∀ p : Packet,
      decode p.encode =
        .ok
          { payloadType := p.payloadType % 2 ^ 7
            sequence := p.sequence % 2 ^ 16
            timestamp := p.timestamp % 2 ^ 32
            ssrc := p.ssrc % 2 ^ 32
            marker := p.marker
            payload := p.payload }) ∧
    (∀ bs : Bytes,
      match decode bs with
      | .ok p => HasPlainHeader bs ∧ p.encode = bs
      | .error fault => ¬ HasPlainHeader bs ∧ fault.kind = .value) ∧
    Set.BijOn encode {p | p.Fits} {bs | HasPlainHeader bs} := by
  refine ⟨?_, ?_, ?_, ?_, ?_⟩
  · intro p
    rw [decode_encode, onWire_eq]
  · intro bs
    cases hread : decode bs with
    | ok p =>
        exact ⟨hasPlainHeader_of_decode hread, encode_of_decode hread⟩
    | error fault =>
        refine ⟨?_, kind_of_decode hread⟩
        intro hheader
        obtain ⟨_, _, _, _, _, _, _, _, _, hok⟩ := exists_fields hheader
        rw [hread] at hok
        cases hok
  · intro p _
    exact hasPlainHeader_encode p
  · intro p hp q hq hsame
    have hread := decode_encode p
    rw [hsame, decode_encode, onWire_of_fits hp, onWire_of_fits hq] at hread
    exact (Except.ok.inj hread).symm
  · intro bs hheader
    obtain ⟨b, sequence, timestamp, ssrc, payload, _, _, _, _, hread⟩ := exists_fields hheader
    refine ⟨_, ?_, encode_of_decode hread⟩
    rw [← encode_of_decode hread, decode_encode] at hread
    rw [← Except.ok.inj hread]
    exact fits_onWire _

end Packet

namespace Event

/-- An event whose numbers fit into their fields. -/
structure Fits (e : Event) : Prop where
  code : 0 ≤ e.code ∧ e.code < 2 ^ 8
  volume : 0 ≤ e.volume ∧ e.volume < 2 ^ 6
  duration : 0 ≤ e.duration ∧ e.duration < 2 ^ 16

/-- An event as it is read back has the remainders of its fields. -/
theorem onWire_eq (e : Event) :
    e.onWire =
      { code := e.code % 2 ^ 8
        ended := e.ended
        volume := e.volume % 2 ^ 6
        duration := e.duration % 2 ^ 16 } := by
  simp only [onWire, Bytes.natCast_wrapped]

/-- An event that fits is read back as it is. -/
theorem decode_encode_of_fits
    {e : Event}
    (h : e.Fits) :
    decode e.encode = .ok e := by
  obtain ⟨hcode, hvolume, hduration⟩ := h
  rw [decode_encode, onWire_eq, Int.emod_eq_of_lt hcode.1 hcode.2,
    Int.emod_eq_of_lt hvolume.1 hvolume.2, Int.emod_eq_of_lt hduration.1 hduration.2]

end Event
end Rtp
end CallScript
