import CallScript.Rtp.Packet

/-!
# RTP streams

The clock of one outgoing stream.  The sequence number counts packets, the timestamp counts
samples; both go round at the size of their fields.
-/

namespace CallScript
namespace Rtp

/-- The state of an outgoing stream. -/
structure Stream where
  ssrc : Int
  sequence : Int
  timestamp : Int
  deriving Repr, DecidableEq

namespace Stream

/-- The next packet of the stream and the stream after it; a given timestamp is used as it is. -/
def packet (s : Stream) (payloadType : Int) (payload : Bytes) (marker : Bool)
    (timestamp : Option Int) : Packet × Stream :=
  ({ payloadType := payloadType
     sequence := s.sequence
     timestamp := timestamp.getD s.timestamp
     ssrc := s.ssrc
     marker := marker
     payload := payload },
   { s with sequence := (Bytes.wrapped 16 (s.sequence + 1) : Nat) })

/-- The stream after a number of samples has passed. -/
def advance (s : Stream) (samples : Int) : Stream :=
  { s with timestamp := (Bytes.wrapped 32 (s.timestamp + samples) : Nat) }

end Stream
end Rtp
end CallScript
