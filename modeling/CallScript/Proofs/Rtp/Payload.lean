import CallScript.Proofs.Rtp.Roundtrip

/-!
# Events and the payloads that hold them

The end mark, the reserved bit and the volume of an event share a byte, and only the first four
bytes of a payload are read.  Writing an event that has been read therefore clears the reserved
bit and drops the bytes behind.  Where there is nothing to clear and nothing to drop, events and
payloads are two forms of one thing.

Main statements:
* `Event.encode_of_decode`: what a payload becomes when it is read and written again.
* `Event.payload_bijOn`: what is written and read, which payloads are refused, and that events with
  fitting fields correspond one to one to the plain payloads.
-/

namespace CallScript
namespace Rtp
namespace Event

/-- Holds of the payloads of four bytes whose reserved bit is zero. -/
def IsPlain (bs : Bytes) : Prop :=
  ∃ code flags high low : UInt8, bs = [code, flags, high, low] ∧ flags &&& 0x40 = 0

/-- The four bytes of a payload that are read, with the reserved bit cleared. -/
def plainPart (bs : Bytes) : Bytes :=
  (bs.take 4).modify 1 (· &&& 0xbf)

section Flags

/-- Without its reserved bit, a byte is its highest bit and its lowest six. -/
theorem toNat_and_used (flags : UInt8) :
    (flags &&& 0xbf).toNat = (if 128 ≤ flags.toNat then 128 else 0) + flags.toNat % 64 := by
  have hbytes : ∀ n < 256, n &&& 0xbf = (if 128 ≤ n then 128 else 0) + n % 64 := by
    decide +kernel
  rw [UInt8.toNat_and]
  exact hbytes flags.toNat flags.toNat_lt

/-- Clearing the reserved bit of a byte leaves it alone exactly when the bit is zero. -/
theorem and_used_eq_self_iff (flags : UInt8) :
    flags &&& 0xbf = flags ↔ flags &&& 0x40 = 0 := by
  have hbytes : ∀ n < 256, n &&& 0xbf = n ↔ n &&& 0x40 = 0 := by
    decide +kernel
  rw [← UInt8.toNat_inj, ← UInt8.toNat_inj, UInt8.toNat_and, UInt8.toNat_and]
  exact hbytes flags.toNat flags.toNat_lt

/-- A second byte is put together again from the end mark and the volume in it. -/
theorem ofNat_markedVolume (flags : UInt8) :
    UInt8.ofNat
        ((if (128 ≤ flags.toNat : Bool) then 128 else 0) +
          Bytes.wrapped 6 ((flags.toNat % 64 : Nat) : Int)) = flags &&& 0xbf := by
  have hlow : flags.toNat % 64 < 2 ^ 6 := by
    omega
  apply UInt8.toNat_inj.mp
  rw [Bytes.wrapped_of_lt hlow, toNat_flagged _ (by omega), toNat_and_used]
  simp only [decide_eq_true_eq]

end Flags

section Reading

variable {bs : Bytes} {e : Event} {fault : Fault}

/-- A payload that is read has four bytes, and these are the fields. -/
theorem decode_eq_ok
    (h : decode bs = .ok e) :
    ∃ code flags high low rest,
      bs = code :: flags :: high :: low :: rest ∧
      e =
        { code := code.toNat
          ended := 128 ≤ flags.toNat
          volume := (flags.toNat % 64 : Nat)
          duration := Bytes.toNatBig [high, low] } := by
  match bs with
  | code :: flags :: high :: low :: rest =>
      cases h
      exact ⟨code, flags, high, low, rest, rfl, rfl⟩
  | [] | [_] | [_, _] | [_, _, _] =>
      cases h

/-- A payload that is not read is too short, and it is refused for its value. -/
theorem short_of_decode
    (h : decode bs = .error fault) :
    bs.length < 4 ∧ fault.kind = .value := by
  match bs with
  | _ :: _ :: _ :: _ :: _ =>
      cases h
  | [] | [_] | [_, _] | [_, _, _] =>
      cases h
      simp [Fault.kind]

/-- A payload that has been read is written back without its reserved bit and what is behind. -/
theorem encode_of_decode
    (h : decode bs = .ok e) :
    e.encode = plainPart bs := by
  obtain ⟨code, flags, high, low, rest, rfl, rfl⟩ := decode_eq_ok h
  have hcode : UInt8.ofNat (Bytes.wrapped 8 code.toNat) = code := by
    rw [Bytes.wrapped_of_lt code.toNat_lt, UInt8.ofNat_toNat]
  have hduration :
      Bytes.bigEndian 2 (Bytes.wrapped 16 (Bytes.toNatBig [high, low])) = [high, low] := by
    exact Bytes.bigEndian_wrapped_toNatBig rfl rfl
  rw [encode, hcode, ofNat_markedVolume, hduration]
  rfl

/-- The numbers of an event that has been read fit into their fields. -/
theorem fits_of_decode
    (h : decode bs = .ok e) :
    e.Fits := by
  obtain ⟨code, flags, high, low, rest, rfl, rfl⟩ := decode_eq_ok h
  have hcode := code.toNat_lt
  have hduration : Bytes.toNatBig [high, low] < 256 ^ 2 := Bytes.toNatBig_lt [high, low]
  constructor <;> dsimp only <;> omega

/-- An event is read back as it is exactly when its numbers fit into their fields. -/
theorem decode_encode_eq_iff (e : Event) :
    decode e.encode = .ok e ↔ e.Fits :=
  ⟨fits_of_decode, decode_encode_of_fits⟩

/-- Nothing of a plain payload is cleared or dropped. -/
theorem plainPart_eq_self_iff
    (h : 4 ≤ bs.length) :
    plainPart bs = bs ↔ IsPlain bs := by
  match bs with
  | code :: flags :: high :: low :: rest =>
      have hpart :
          plainPart (code :: flags :: high :: low :: rest) = [code, flags &&& 0xbf, high, low] := by
        rfl
      rw [hpart]
      constructor
      · intro hsame
        simp only [List.cons.injEq] at hsame
        obtain ⟨-, hflags, -, -, rfl⟩ := hsame
        exact ⟨code, flags, high, low, rfl, (and_used_eq_self_iff flags).mp hflags⟩
      · rintro ⟨_, _, _, _, hbytes, hflags⟩
        cases hbytes
        rw [(and_used_eq_self_iff flags).mpr hflags]

/-- A payload is written back as it was exactly when it is plain. -/
theorem exists_encode_eq_iff (bs : Bytes) :
    (∃ e, decode bs = .ok e ∧ e.encode = bs) ↔ IsPlain bs := by
  constructor
  · rintro ⟨e, hread, hsame⟩
    have hpart := encode_of_decode hread
    obtain ⟨_, _, _, _, rest, rfl, -⟩ := decode_eq_ok hread
    rw [hsame] at hpart
    exact (plainPart_eq_self_iff (by simp)).mp hpart.symm
  · intro hplain
    have hlength : 4 ≤ bs.length := by
      obtain ⟨_, _, _, _, rfl, -⟩ := hplain
      simp
    cases hread : decode bs with
    | ok e =>
        refine ⟨e, rfl, ?_⟩
        rw [encode_of_decode hread]
        exact (plainPart_eq_self_iff hlength).mpr hplain
    | error fault =>
        have hshort := short_of_decode hread
        omega

end Reading

/--
**Events and their payloads correspond.**  An event that has been written is read back with its
numbers modulo the sizes of their fields.  A payload is refused, for its value, exactly when it has
fewer than four bytes; from every other one an event is read, and written again it gives the first
four bytes without the reserved bit.  So an event survives writing and reading exactly when its
numbers fit, a payload survives reading and writing exactly when it is plain, and these events and
payloads correspond one to one.
-/
theorem payload_bijOn :
    (∀ e : Event,
      decode e.encode =
        .ok
          { code := e.code % 2 ^ 8
            ended := e.ended
            volume := e.volume % 2 ^ 6
            duration := e.duration % 2 ^ 16 }) ∧
    (∀ bs : Bytes,
      match decode bs with
      | .ok e => 4 ≤ bs.length ∧ e.encode = plainPart bs
      | .error fault => bs.length < 4 ∧ fault.kind = .value) ∧
    (∀ e : Event, decode e.encode = .ok e ↔ e.Fits) ∧
    (∀ bs : Bytes, (∃ e, decode bs = .ok e ∧ e.encode = bs) ↔ IsPlain bs) ∧
    Set.BijOn encode {e | e.Fits} {bs | IsPlain bs} := by
  refine ⟨?_, ?_, decode_encode_eq_iff, exists_encode_eq_iff, ?_, ?_, ?_⟩
  · intro e
    rw [decode_encode, onWire_eq]
  · intro bs
    cases hread : decode bs with
    | ok e =>
        obtain ⟨_, _, _, _, _, rfl, -⟩ := decode_eq_ok hread
        exact ⟨by simp, encode_of_decode hread⟩
    | error fault =>
        exact short_of_decode hread
  · intro e hfits
    exact (exists_encode_eq_iff e.encode).mp ⟨e, decode_encode_of_fits hfits, rfl⟩
  · intro e hfits other hother hsame
    have hread := decode_encode_of_fits hfits
    rw [hsame, decode_encode_of_fits hother] at hread
    exact (Except.ok.inj hread).symm
  · intro bs hplain
    obtain ⟨e, hread, hsame⟩ := (exists_encode_eq_iff bs).mpr hplain
    exact ⟨e, fits_of_decode hread, hsame⟩

/-- The reserved bit is cleared, and what is behind the four bytes is dropped. -/
example : (decode [0x0b, 0xff, 0x07, 0xd0, 0x99]).map encode = .ok [0x0b, 0xbf, 0x07, 0xd0] := by
  rfl

end Event
end Rtp
end CallScript
