import CallScript.Proofs.Bytes
import CallScript.Rtp.Event
import CallScript.Rtp.Packet
import Mathlib.Data.List.Basic

/-!
# Packets and events on the wire

What a reader finds in a packet or an event that has been written: every field modulo its size.
-/

namespace CallScript
namespace Rtp

/-- The second byte of a packet or an event holds a flag above a number of up to seven bits. -/
theorem toNat_flagged
    (flag : Bool) {low : Nat}
    (h : low < 128) :
    (UInt8.ofNat ((if flag then 128 else 0) + low)).toNat = (if flag then 128 else 0) + low := by
  rw [UInt8.toNat_ofNat']
  apply Nat.mod_eq_of_lt
  cases flag <;> simp <;> omega

namespace Packet

/-- The packet as it is read back: its fields modulo their sizes. -/
def onWire (p : Packet) : Packet where
  payloadType := Bytes.wrapped 7 p.payloadType
  sequence := Bytes.wrapped 16 p.sequence
  timestamp := Bytes.wrapped 32 p.timestamp
  ssrc := Bytes.wrapped 32 p.ssrc
  marker := p.marker
  payload := p.payload

theorem length_encode (p : Packet) :
    p.encode.length = headerLength + p.payload.length := by
  simp [encode, headerLength]
  omega

/-- A packet that has been written is read back. -/
theorem decode_encode (p : Packet) :
    decode p.encode = .ok p.onWire := by
  have htype := Bytes.wrapped_lt 7 p.payloadType
  have hsequence : Bytes.wrapped 16 p.sequence < 256 ^ 2 := Bytes.wrapped_lt 16 _
  have htimestamp : Bytes.wrapped 32 p.timestamp < 256 ^ 4 := Bytes.wrapped_lt 32 _
  have hssrc : Bytes.wrapped 32 p.ssrc < 256 ^ 4 := Bytes.wrapped_lt 32 _
  have hmarked := toNat_flagged p.marker htype
  have hfirst : firstByte.toNat = 128 := by
    rfl
  unfold encode decode
  dsimp only
  rw [hfirst, hmarked, if_neg (by simp [headerLength]; omega), if_neg (by decide),
    if_neg (by decide)]
  unfold onWire
  simp only [List.append_assoc, Except.ok.injEq, Packet.mk.injEq]
  refine ⟨?_, ?_, ?_, ?_, ?_, ?_⟩
  · cases p.marker <;> simp <;> omega
  · rw [List.take_left' (Bytes.length_bigEndian 2 _), Bytes.toNatBig_bigEndian,
      Nat.mod_eq_of_lt hsequence]
  · rw [Bytes.take_drop_field (Bytes.length_bigEndian 2 _) (Bytes.length_bigEndian 4 _),
      Bytes.toNatBig_bigEndian, Nat.mod_eq_of_lt htimestamp]
  · rw [← List.append_assoc, Bytes.take_drop_field (by simp) (Bytes.length_bigEndian 4 _),
      Bytes.toNatBig_bigEndian, Nat.mod_eq_of_lt hssrc]
  · cases p.marker with
    | false =>
        simp
        omega
    | true =>
        simp
  · rw [← List.append_assoc, ← List.append_assoc]
    exact List.drop_left' (by simp)

end Packet

namespace Event

/-- The event as it is read back: its fields modulo their sizes. -/
def onWire (e : Event) : Event where
  code := Bytes.wrapped 8 e.code
  ended := e.ended
  volume := Bytes.wrapped 6 e.volume
  duration := Bytes.wrapped 16 e.duration

theorem length_encode (e : Event) :
    e.encode.length = 4 := by
  simp [encode]

/-- An event that has been written is read back. -/
theorem decode_encode (e : Event) :
    decode e.encode = .ok e.onWire := by
  have hcode := Bytes.wrapped_lt 8 e.code
  have hvolume := Bytes.wrapped_lt 6 e.volume
  have hduration : Bytes.wrapped 16 e.duration < 256 ^ 2 := Bytes.wrapped_lt 16 _
  have hmarked := toNat_flagged e.ended (hvolume.trans (by decide))
  have hlength := Bytes.length_bigEndian 2 (Bytes.wrapped 16 e.duration)
  have hvalue := Bytes.toNatBig_bigEndian 2 (Bytes.wrapped 16 e.duration)
  obtain ⟨high, low, hbytes⟩ := List.length_eq_two.mp hlength
  rw [hbytes, Nat.mod_eq_of_lt hduration] at hvalue
  unfold encode
  rw [hbytes]
  unfold decode onWire
  simp only [hmarked, hvalue, Except.ok.injEq, Event.mk.injEq]
  refine ⟨?_, ?_, ?_, trivial⟩
  · rw [UInt8.toNat_ofNat', Nat.mod_eq_of_lt hcode]
  · cases e.ended with
    | false =>
        simp
        omega
    | true =>
        simp
  · cases e.ended with
    | false =>
        simp
        omega
    | true =>
        simp
        omega

end Event
end Rtp
end CallScript
