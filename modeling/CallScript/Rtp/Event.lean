import CallScript.Bytes
import CallScript.Fault

/-!
# Telephone events

The payload of four bytes that reports a key: its event code, whether the event has ended, the
volume and the duration so far in samples.
-/

namespace CallScript
namespace Rtp

/-- A telephone event.  Its fields are whole numbers, which are written modulo their size. -/
structure Event where
  code : Int
  ended : Bool
  volume : Int
  duration : Int
  deriving Repr, DecidableEq

namespace Event

/-- The bytes of an event; the reserved bit is zero. -/
def encode (e : Event) : Bytes :=
  UInt8.ofNat (Bytes.wrapped 8 e.code) ::
    UInt8.ofNat ((if e.ended then 128 else 0) + Bytes.wrapped 6 e.volume) ::
      Bytes.bigEndian 2 (Bytes.wrapped 16 e.duration)

/-- The event in the first four of the given bytes; the reserved bit is not looked at. -/
def decode : Bytes → Except Fault Event
  | code :: flags :: high :: low :: _ =>
      .ok
        { code := code.toNat
          ended := 128 ≤ flags.toNat
          volume := (flags.toNat % 64 : Nat)
          duration := Bytes.toNatBig [high, low] }
  | _ => .error .eventShort

end Event
end Rtp
end CallScript
