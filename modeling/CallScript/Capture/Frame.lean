import CallScript.Bytes
import CallScript.Fault

/-!
# Network frames

A payload inside a datagram of the User Datagram Protocol, inside an IPv4 packet, inside an
Ethernet frame.  The IPv4 header carries its checksum, the datagram carries none.
-/

namespace CallScript
namespace Capture

/-- One end of a datagram: the bytes of the address and the port. -/
structure Party where
  address : Bytes
  port : Int
  deriving Repr, DecidableEq

/-- The sum of the carries of a sum of sixteen-bit words is added until none is left. -/
def foldCarries (total : Nat) : Nat :=
  if h : 65536 ≤ total then
    foldCarries (total % 65536 + total / 65536)
  else
    total
termination_by total
decreasing_by omega

/-- The sum of the sixteen-bit words of a byte string of even length. -/
def wordSum? : Bytes → Option Nat
  | [] => some 0
  | [_] => none
  | high :: low :: rest => (wordSum? rest).map (256 * high.toNat + low.toNat + ·)

/-- The checksum of a header: the inverted sum of its words in ones' complement. -/
def checksum (header : Bytes) : Except Fault Nat :=
  match wordSum? header with
  | some total => .ok (65535 - foldCarries total)
  | none => .error .field

/-- A number in a field of two bytes, which it has to fit into. -/
def wordBytes (n : Int) : Except Fault Bytes :=
  match Bytes.fit? 2 n with
  | some k => .ok (Bytes.bigEndian 2 k)
  | none => .error .field

/-- The fields of an IPv4 header around its checksum. -/
structure HeaderParts where
  before : Bytes
  after : Bytes

/-- The header with a checksum in its place. -/
def HeaderParts.withChecksum (parts : HeaderParts) (sum : Nat) : Bytes :=
  parts.before ++ Bytes.bigEndian 2 sum ++ parts.after

/-- The parts of the header of a packet: no options, not to be split, 64 hops, a datagram. -/
def headerParts (source destination : Bytes) (totalLength : Bytes) (ident : Int) :
    HeaderParts where
  before :=
    [0x45, 0] ++ totalLength ++ Bytes.bigEndian 2 (Bytes.wrapped 16 ident) ++
      [0x40, 0, 64, 17]
  after := Bytes.fill 4 source ++ Bytes.fill 4 destination

/-- The Ethernet header: no addresses, and IPv4 inside. -/
def ethernetHeader : Bytes :=
  List.replicate 12 0 ++ [0x08, 0x00]

/-- The frame of a datagram. -/
def frame (source destination : Party) (payload : Bytes) (ident : Int) : Except Fault Bytes := do
  let sourcePort ← wordBytes source.port
  let destinationPort ← wordBytes destination.port
  let datagramLength ← wordBytes (8 + payload.length)
  let totalLength ← wordBytes (28 + payload.length)
  let parts := headerParts source.address destination.address totalLength ident
  let sum ← checksum (parts.withChecksum 0)
  return ethernetHeader ++ parts.withChecksum sum ++
    (sourcePort ++ destinationPort ++ datagramLength ++ [0, 0]) ++ payload

end Capture
end CallScript
