import CallScript.Bytes
import CallScript.Fault

/-!
# RTP packets

Packets of the Real-time Transport Protocol with the plain header of twelve bytes: version 2, no
padding, no extension, no contributing sources.
-/

namespace CallScript
namespace Rtp

/-- A packet.  Its header fields are whole numbers, which are written modulo their size. -/
structure Packet where
  payloadType : Int
  sequence : Int
  timestamp : Int
  ssrc : Int
  marker : Bool
  payload : Bytes
  deriving Repr, DecidableEq

namespace Packet

/-- The first byte of every packet: version 2 and no further features. -/
def firstByte : UInt8 := 0x80

/-- The length of the header. -/
def headerLength : Nat := 12

/-- The bytes of a packet. -/
def encode (p : Packet) : Bytes :=
  firstByte ::
    UInt8.ofNat ((if p.marker then 128 else 0) + Bytes.wrapped 7 p.payloadType) ::
      (Bytes.bigEndian 2 (Bytes.wrapped 16 p.sequence) ++
        Bytes.bigEndian 4 (Bytes.wrapped 32 p.timestamp) ++
        Bytes.bigEndian 4 (Bytes.wrapped 32 p.ssrc) ++ p.payload)

/-- The packet in the given bytes. -/
def decode (bs : Bytes) : Except Fault Packet :=
  match bs with
  | b0 :: b1 :: rest =>
      if bs.length < headerLength then
        .error .packetShort
      else if b0.toNat / 64 ≠ 2 then
        .error (.packetVersion (b0.toNat / 64))
      else if b0.toNat % 64 ≠ 0 then
        .error .packetFeatures
      else
        .ok
          { payloadType := (b1.toNat % 128 : Nat)
            sequence := Bytes.toNatBig (rest.take 2)
            timestamp := Bytes.toNatBig ((rest.drop 2).take 4)
            ssrc := Bytes.toNatBig ((rest.drop 6).take 4)
            marker := 128 ≤ b1.toNat
            payload := rest.drop 10 }
  | _ => .error .packetShort

end Packet
end Rtp
end CallScript
