import CallScript.Proofs.Rtp.Roundtrip
import CallScript.Rtp.Stream
import Mathlib.Algebra.BigOperators.Group.List.Basic
import Mathlib.Data.Int.ModEq

/-!
# Packets of a stream by their numbers

A stream sends packets and lets samples pass, in any order.  Its sequence number counts the
packets alone and its timestamp counts the samples alone, each from wherever it starts and modulo
the size of its field.

Main statements:
* `Stream.reaches_run`: how far some turns take the clocks of a stream.
* `Stream.numbering_of_run`: what is read from the packet with a number among those that are sent.
-/

namespace CallScript
namespace Rtp

/-- What can be done with a stream: send a packet, or let samples pass. -/
inductive Turn where
  | packet (payloadType : Int) (payload : Bytes) (marker : Bool) (timestamp : Option Int)
  | advance (samples : Int)

namespace Turn

/-- Holds of the turns that send a packet. -/
def sends : Turn → Bool
  | packet .. => true
  | advance _ => false

/-- The samples that pass in a turn. -/
def samples : Turn → Int
  | packet .. => 0
  | advance samples => samples

/-- The number of packets that some turns send. -/
def packetCount (turns : List Turn) : Nat :=
  turns.countP sends

/-- The samples that pass in some turns. -/
def totalSamples (turns : List Turn) : Int :=
  (turns.map samples).sum

end Turn

open Turn

namespace Stream

/-- The stream after a turn. -/
def follow (s : Stream) : Turn → Stream
  | .packet payloadType payload marker timestamp =>
      (s.packet payloadType payload marker timestamp).2
  | .advance samples => s.advance samples

/-- The byte strings that a turn sends. -/
def sentBy (s : Stream) : Turn → List Bytes
  | .packet payloadType payload marker timestamp =>
      [(s.packet payloadType payload marker timestamp).1.encode]
  | .advance _ => []

/-- The stream after some turns. -/
def run (s : Stream) : List Turn → Stream
  | [] => s
  | turn :: rest => (s.follow turn).run rest

/-- The byte strings that some turns send, in their order. -/
def sent (s : Stream) : List Turn → List Bytes
  | [] => []
  | turn :: rest => s.sentBy turn ++ (s.follow turn).sent rest

/-- The clocks of a stream that has sent some packets and let some samples pass. -/
structure Reaches (s : Stream) (packets : Nat) (samples : Int) (after : Stream) : Prop where
  ssrc : after.ssrc = s.ssrc
  sequence : after.sequence ≡ s.sequence + packets [ZMOD 2 ^ 16]
  timestamp : after.timestamp ≡ s.timestamp + samples [ZMOD 2 ^ 32]

namespace Reaches

variable {s middle after : Stream}

theorem refl (s : Stream) :
    s.Reaches 0 0 s := by
  constructor <;> simp [Int.ModEq]

theorem trans
    {m n : Nat} {first second : Int}
    (hfirst : s.Reaches m first middle)
    (hsecond : middle.Reaches n second after) :
    s.Reaches (m + n) (first + second) after where
  ssrc := hsecond.ssrc.trans hfirst.ssrc
  sequence := by
    have hsum := hsecond.sequence.trans (hfirst.sequence.add_right (n : Int))
    rwa [Int.add_assoc, ← Nat.cast_add] at hsum
  timestamp := by
    have hsum := hsecond.timestamp.trans (hfirst.timestamp.add_right second)
    rwa [Int.add_assoc] at hsum

end Reaches

section Runs

variable (s : Stream)

/-- A turn moves the one clock by its packet or the other by its samples. -/
theorem reaches_follow (turn : Turn) :
    s.Reaches (packetCount [turn]) turn.samples (s.follow turn) := by
  cases turn with
  | packet payloadType payload marker timestamp =>
      constructor
      · rfl
      · simp [follow, Stream.packet, packetCount, sends, Bytes.natCast_wrapped, Int.ModEq]
      · simp [follow, Stream.packet, Turn.samples, Int.ModEq]
  | advance samples =>
      constructor
      · rfl
      · simp [follow, Stream.advance, packetCount, sends, Int.ModEq]
      · simp [follow, Stream.advance, Turn.samples, Bytes.natCast_wrapped, Int.ModEq]

/-- Some turns move the clocks by their packets and by their samples. -/
theorem reaches_run (turns : List Turn) :
    s.Reaches (packetCount turns) (totalSamples turns) (s.run turns) := by
  induction turns generalizing s with
  | nil =>
      exact .refl s
  | cons turn rest ih =>
      have hboth := (s.reaches_follow turn).trans (ih (s.follow turn))
      have hcount : packetCount (turn :: rest) = packetCount [turn] + packetCount rest := by
        simp [packetCount, List.countP_cons, Nat.add_comm]
      rwa [hcount, totalSamples, List.map_cons, List.sum_cons]

theorem length_sentBy (turn : Turn) :
    (s.sentBy turn).length = packetCount [turn] := by
  cases turn <;> rfl

/-- As many byte strings are sent as there are turns that send a packet. -/
theorem length_sent (turns : List Turn) :
    (s.sent turns).length = packetCount turns := by
  induction turns generalizing s with
  | nil =>
      rfl
  | cons turn rest ih =>
      rw [sent, List.length_append, ih, length_sentBy]
      simp [packetCount, List.countP_cons, Nat.add_comm]

theorem sent_append (first second : List Turn) :
    s.sent (first ++ second) = s.sent first ++ (s.run first).sent second := by
  induction first generalizing s with
  | nil =>
      rfl
  | cons turn rest ih =>
      simp [sent, run, ih]

variable {s} in
/-- Packets, with a timestamp of their own or not, leave the clock of the samples as it is. -/
theorem timestamp_run_eq
    {other : Stream}
    (h : s.timestamp = other.timestamp)
    (turns : List Turn) :
    (s.run turns).timestamp = (other.run (turns.filter (!·.sends))).timestamp := by
  induction turns generalizing s other with
  | nil =>
      exact h
  | cons turn rest ih =>
      cases turn with
      | packet payloadType payload marker timestamp =>
          exact ih h
      | advance samples =>
          apply ih
          simp [follow, Stream.advance, h]

variable {s} in
/-- Samples that pass leave the number of the next packet as it is. -/
theorem sequence_run_eq
    {other : Stream}
    (h : s.sequence = other.sequence)
    (turns : List Turn) :
    (s.run turns).sequence = (other.run (turns.filter sends)).sequence := by
  induction turns generalizing s other with
  | nil =>
      exact h
  | cons turn rest ih =>
      cases turn with
      | packet payloadType payload marker timestamp =>
          apply ih
          simp [follow, Stream.packet, h]
      | advance samples =>
          exact ih h

variable {s} in
/-- What is read from the packet that is sent after some turns. -/
theorem decode_packet
    {before : Stream} {packets : Nat} {samples : Int}
    (h : s.Reaches packets samples before)
    (payloadType : Int) (payload : Bytes) (marker : Bool) (timestamp : Option Int) :
    Packet.decode (before.packet payloadType payload marker timestamp).1.encode =
      .ok
        { payloadType := payloadType % 2 ^ 7
          sequence := (s.sequence + packets) % 2 ^ 16
          timestamp := timestamp.getD (s.timestamp + samples) % 2 ^ 32
          ssrc := s.ssrc % 2 ^ 32
          marker := marker
          payload := payload } := by
  have hclock :
      timestamp.getD before.timestamp % 2 ^ 32 =
        timestamp.getD (s.timestamp + samples) % 2 ^ 32 := by
    cases timestamp with
    | none =>
        exact h.timestamp
    | some given =>
        rfl
  rw [Packet.decode_encode, Packet.onWire_eq]
  simp only [Stream.packet, h.ssrc, hclock, h.sequence.eq]

end Runs

/--
**Packets are numbered.**  In every run of packets and advances, the packet with a number is read
with its place in the sequence, the source of the stream, and its own timestamp if it is given one,
or else the time of all samples that have passed before it.  There are no other packets; packets
never move the clock of the samples, and samples that pass never move the sequence.
-/
theorem numbering_of_run (s : Stream) :
    (∀ before payloadType payload marker timestamp after,
      ∃ bytes,
        (s.sent (before ++ .packet payloadType payload marker timestamp :: after))[
          packetCount before]? = some bytes ∧
        Packet.decode bytes =
          .ok
            { payloadType := payloadType % 2 ^ 7
              sequence := (s.sequence + packetCount before) % 2 ^ 16
              timestamp := timestamp.getD (s.timestamp + totalSamples before) % 2 ^ 32
              ssrc := s.ssrc % 2 ^ 32
              marker := marker
              payload := payload }) ∧
    ∀ turns,
      (s.sent turns).length = packetCount turns ∧
      s.Reaches (packetCount turns) (totalSamples turns) (s.run turns) ∧
      (s.run turns).timestamp = (s.run (turns.filter (!·.sends))).timestamp ∧
      (s.run turns).sequence = (s.run (turns.filter sends)).sequence := by
  constructor
  · intro before payloadType payload marker timestamp after
    refine ⟨_, ?_, decode_packet (s.reaches_run before) payloadType payload marker timestamp⟩
    rw [sent_append, List.getElem?_append_right (s.length_sent before).le, length_sent,
      Nat.sub_self]
    rfl
  · intro turns
    exact ⟨s.length_sent turns, s.reaches_run turns, timestamp_run_eq rfl turns,
      sequence_run_eq rfl turns⟩

/-- Both clocks go round, and a timestamp that is given moves neither. -/
example :
    ((sent ⟨1, 65535, -3⟩
        [.packet 0 [7] false none, .advance 160, .packet 101 [] true (some 9), .advance (-5),
          .packet 0 [] false none]).map
      fun bytes => (Packet.decode bytes).toOption.map fun p => (p.sequence, p.timestamp)) =
      [some (65535, 4294967293), some (0, 9), some (1, 152)] := by
  decide

end Stream
end Rtp
end CallScript
