import CallScript.Proofs.Capture.Checksum
import CallScript.Proofs.Capture.Schedule
import Mathlib.Data.Int.ModEq

/-!
# Captures read back

A capture is read back record by record, and every frame in it layer by layer: the Ethernet type,
the fields of the IPv4 header with its checksum, the ports and the length of the datagram, and the
packet with its place in the stream.

Main statements:
* `frame_headers`: what the headers of a frame say.
* `Clocks.carries_schedule`: the cues of a timeline follow each other in one stream.
* `Encoder.records_of_encode`: what every record of a capture holds.
-/

namespace CallScript
namespace Capture

open Media

/-- The number in a word of a frame. -/
def wordAt (frame : Bytes) (offset : Nat) : Nat :=
  Bytes.toNatBig ((frame.drop offset).take 2)

/-- The IPv4 header of a frame. -/
def packetHeader (frame : Bytes) : Bytes :=
  (frame.drop 14).take 20

/-- The headers of a frame between two ends, with a number among the frames. -/
structure Headers (frame : Bytes) (source destination : Party) (number : Nat) : Prop where
  etherType : wordAt frame 12 = 0x0800
  packetLength : wordAt frame 16 + 14 = frame.length
  ident : wordAt frame 18 = number % 2 ^ 16
  checksum : checksum (packetHeader frame) = .ok 0
  sourceAddress : (frame.drop 26).take 4 = source.address
  destinationAddress : (frame.drop 30).take 4 = destination.address
  sourcePort : (wordAt frame 34 : Int) = source.port
  destinationPort : (wordAt frame 36 : Int) = destination.port
  datagramLength : wordAt frame 38 + 34 = frame.length

section Framing

/-- The checksum of the header of a packet verifies. -/
theorem checksum_headerParts
    {source destination totalLength : Bytes} {ident : Int} {sum : Nat}
    (hlength : totalLength.length = 2)
    (h : checksum ((headerParts source destination totalLength ident).withChecksum 0) = .ok sum) :
    checksum ((headerParts source destination totalLength ident).withChecksum sum) = .ok 0 := by
  refine checksum_patched ?_ ?_ h
  · simp only [headerParts, List.length_append, hlength, Bytes.length_bigEndian]
    decide
  · simp only [headerParts, List.length_append, length_fill]
    decide

/-- The headers of a frame are those of its ends, its length and its number. -/
theorem frame_headers
    {source destination : Party} {payload bytes : Bytes} {number : Nat}
    (hsource : source.address.length = 4)
    (hdestination : destination.address.length = 4)
    (h : frame source destination payload number = .ok bytes) :
    Headers bytes source destination number := by
  obtain ⟨sourcePort, destinationPort, parts, sum, hfirst, hfirst', hsecond, hsecond', hlength,
    rfl, hsum, rfl⟩ := frame_eq_ok h
  have hverified := checksum_headerParts (Bytes.length_bigEndian 2 _) hsum
  -- Once every field is written out byte by byte, it is found by computation.
  obtain ⟨l, l', hpacket, htotal⟩ := exists_word hlength
  obtain ⟨i, i', hident, hnumber⟩ := exists_word (Bytes.wrapped_lt 16 number)
  obtain ⟨c, c', hchecksum⟩ := List.length_eq_two.mp (Bytes.length_bigEndian 2 sum)
  obtain ⟨p, p', hport, hfrom⟩ := exists_word hfirst'
  obtain ⟨q, q', hother, hto⟩ := exists_word hsecond'
  obtain ⟨u, u', hdatagram, hinner⟩ := exists_word (show 8 + payload.length < 256 ^ 2 by omega)
  obtain ⟨s₁, s₂, s₃, s₄, hs⟩ := List.length_eq_four.mp hsource
  obtain ⟨d₁, d₂, d₃, d₄, hd⟩ := List.length_eq_four.mp hdestination
  simp only [headerParts, HeaderParts.withChecksum, hpacket, hident, hchecksum, hport, hother,
    hdatagram, hs, hd] at hverified ⊢
  exact
    { etherType := rfl
      packetLength := by
        change Bytes.toNatBig [l, l'] + 14 = payload.length + 42
        omega
      ident := by
        change Bytes.toNatBig [i, i'] = _
        rw [hnumber]
        exact_mod_cast Bytes.natCast_wrapped 16 number
      checksum := hverified
      sourceAddress := hs.symm
      destinationAddress := hd.symm
      sourcePort := by
        change (Bytes.toNatBig [p, p'] : Int) = _
        rw [hfrom, hfirst]
      destinationPort := by
        change (Bytes.toNatBig [q, q'] : Int) = _
        rw [hto, hsecond]
      datagramLength := by
        change Bytes.toNatBig [u, u'] + 34 = payload.length + 42
        omega }

end Framing

/-- A packet of a stream, with a number among the packets that follow a state of the stream. -/
structure InStream (profile : Profile) (s : Rtp.Stream) (number : Nat) (packet : Rtp.Packet) :
    Prop where
  sequence : packet.sequence ≡ s.sequence + number [ZMOD 2 ^ 16]
  ssrc : packet.ssrc = s.ssrc
  payloadType :
    packet.payloadType = profile.audioPayloadType ∨ packet.payloadType = profile.eventPayloadType

/-- The cues that a stream carries from one of its states to another. -/
structure Carries (profile : Profile) (s : Rtp.Stream) (cues : List Cue) (after : Rtp.Stream) :
    Prop where
  each : ∀ number cue, cues[number]? = some cue → InStream profile s number cue.packet
  sequence : after.sequence ≡ s.sequence + cues.length [ZMOD 2 ^ 16]
  ssrc : after.ssrc = s.ssrc

namespace Carries

variable {profile : Profile} {s middle after : Rtp.Stream}

theorem nil
    (hsequence : after.sequence = s.sequence)
    (hssrc : after.ssrc = s.ssrc) :
    Carries profile s [] after where
  each := by
    intro number cue hcue
    cases hcue
  sequence := by
    simp [hsequence]
  ssrc := hssrc

/-- A packet takes the stream to its next state. -/
theorem one
    {cue : Cue}
    (hsequence : cue.packet.sequence = s.sequence)
    (hssrc : cue.packet.ssrc = s.ssrc)
    (hpayload : cue.packet.payloadType = profile.audioPayloadType ∨
      cue.packet.payloadType = profile.eventPayloadType) :
    Carries profile s [cue] s.next where
  each := by
    intro number other hother
    obtain ⟨rfl, rfl⟩ : number = 0 ∧ cue = other := by
      simpa [List.getElem?_singleton] using hother
    exact ⟨by simp [hsequence], hssrc, hpayload⟩
  sequence := by
    rw [Rtp.Stream.next, Bytes.natCast_wrapped]
    exact Int.mod_modEq _ _
  ssrc := rfl

theorem append
    {first second : List Cue}
    (hfirst : Carries profile s first middle)
    (hsecond : Carries profile middle second after) :
    Carries profile s (first ++ second) after where
  each := by
    intro number cue hcue
    by_cases hbefore : number < first.length
    · rw [List.getElem?_append_left hbefore] at hcue
      exact hfirst.each number cue hcue
    · rw [List.getElem?_append_right (by omega)] at hcue
      obtain ⟨hsequence, hssrc, hpayload⟩ := hsecond.each _ cue hcue
      refine ⟨?_, hssrc.trans hfirst.ssrc, hpayload⟩
      have hshifted :=
        hsequence.trans (hfirst.sequence.add_right ((number - first.length : Nat) : Int))
      rwa [Int.add_assoc, ← Nat.cast_add, Nat.add_sub_cancel' (by omega)] at hshifted
  sequence := by
    have hlength := hsecond.sequence.trans (hfirst.sequence.add_right (second.length : Int))
    rwa [Int.add_assoc, ← Nat.cast_add, ← List.length_append] at hlength
  ssrc := hsecond.ssrc.trans hfirst.ssrc

/-- Samples that pass leave the numbers of a stream alone. -/
theorem advance
    {cues : List Cue}
    (h : Carries profile s cues after)
    (samples : Int) :
    Carries profile s cues (after.advance samples) :=
  ⟨h.each, h.sequence, h.ssrc⟩

end Carries

namespace Clocks

theorem carries_audioCues (profile : Profile) (c : Clocks) (audios : List Bytes) :
    Carries profile c.stream (c.audioCues profile audios) (audios.foldl afterAudio c).stream := by
  induction audios generalizing c with
  | nil =>
      exact .nil rfl rfl
  | cons audio rest ih =>
      have hfirst : Carries profile c.stream [c.audioCue profile audio] (c.afterAudio audio).stream :=
        (Carries.one rfl rfl (.inl rfl)).advance _
      exact hfirst.append (ih (c.afterAudio audio))

theorem carries_reportCues
    (profile : Profile) (digit : Digit) (c : Clocks) (first : Bool) (durations : List Nat) :
    Carries profile c.stream (c.reportCues profile digit first durations)
      (c.afterReports durations).stream := by
  induction durations generalizing c first with
  | nil =>
      exact .nil rfl rfl
  | cons duration rest ih =>
      have hfirst : Carries profile c.stream [c.reportCue profile digit first duration]
          c.afterReport.stream :=
        .one rfl rfl (.inr rfl)
      exact hfirst.append (ih c.afterReport false)

theorem carries_cues (profile : Profile) (c : Clocks) (token : Token) :
    Carries profile c.stream (c.cues profile token) (c.after profile token).stream := by
  cases token with
  | silence milliseconds =>
      exact carries_audioCues profile c (audios profile milliseconds)
  | tone digit =>
      exact (carries_reportCues profile digit c true (reports profile)).advance _

/-- The cues of a timeline follow each other in one stream. -/
theorem carries_schedule (profile : Profile) (c : Clocks) (tokens : List Token) :
    Carries profile c.stream (c.schedule profile tokens).flatten
      (c.afterAll profile tokens).stream := by
  induction tokens generalizing c with
  | nil =>
      exact .nil rfl rfl
  | cons token rest ih =>
      rw [schedule, List.flatten_cons]
      exact (carries_cues profile c token).append (ih (c.after profile token))

end Clocks

namespace Session

variable (session : Session)

/-- A record of a written cue holds the frame of its packet. -/
theorem records_of_writeAll
    {index : Nat} {cues : List Cue} {written : List Bytes}
    (h : session.writeAll index cues = .ok written) :
    ∃ records,
      readRecords? written.flatten = some records ∧
      records.length = cues.length ∧
      ∀ number record, records[number]? = some record →
        ∃ cue datagram,
          cues[number]? = some cue ∧
          frame session.source session.destination cue.packet.encode (index + number : Nat) =
            .ok datagram ∧
          record = recordOf datagram (session.timeAt cue.place) := by
  induction cues generalizing index written with
  | nil =>
      cases h
      refine ⟨[], ?_, rfl, ?_⟩
      · rw [List.flatten_nil, readRecords?]
        rfl
      · intro number record hrecord
        cases hrecord
  | cons cue rest ih =>
      obtain ⟨bytes, hbytes, h⟩ := Result.bind_eq_ok h
      obtain ⟨others, hothers, h⟩ := Result.bind_eq_ok h
      cases h
      obtain ⟨datagram, hframe, hrecord⟩ := Result.bind_eq_ok hbytes
      obtain ⟨records, hread, hlength, heach⟩ := ih hothers
      refine ⟨recordOf datagram (session.timeAt cue.place) :: records, ?_, ?_, ?_⟩
      · rw [List.flatten_cons, readRecords?_append hrecord, hread, Option.map_some]
      · rw [List.length_cons, List.length_cons, hlength]
      · intro number record hfound
        cases number with
        | zero =>
            cases hfound
            exact ⟨cue, datagram, rfl, hframe, rfl⟩
        | succ number =>
            obtain ⟨other, inner, hother, hinner, hsame⟩ := heach number record hfound
            rw [Nat.add_assoc, Nat.add_comm 1] at hinner
            exact ⟨other, inner, hother, hinner, hsame⟩

end Session

namespace Encoder

/-- What a record of a capture holds, by its number among the records. -/
structure Holds (encoder : Encoder) (clock : Clock) (number : Nat) (record : Record) : Prop where
  captured : record.captured = record.onWire
  length : record.captured = record.frame.length
  headers : Headers record.frame encoder.source encoder.destination number
  packet : ∃ packet,
    Rtp.Packet.decode (record.frame.drop payloadOffset) = .ok packet ∧
    packet.sequence = (clock.sequence + number) % 2 ^ 16 ∧
    packet.ssrc = (encoder.stream clock).ssrc % 2 ^ 32 ∧
    (packet.payloadType = encoder.profile.audioPayloadType % 2 ^ 7 ∨
      packet.payloadType = encoder.profile.eventPayloadType % 2 ^ 7)

/--
**Captures read back.**  A capture is a row of records to its end, and the record with a number
holds a frame between the two ends of the encoder whose packet has that place in its stream.
-/
theorem records_of_encode
    {encoder : Encoder} {clock : Clock} {tokens : List Token} {encoded : Encoded}
    (hsource : encoder.source.address.length = 4)
    (hdestination : encoder.destination.address.length = 4)
    (h : encoder.encode clock (.ofTokens tokens) = .ok encoded) :
    ∃ records,
      read? encoded.bytes = some records ∧
      records.length = encoded.packets ∧
      ∀ number record, records[number]? = some record → encoder.Holds clock number record := by
  obtain ⟨startUsec, header, written, _, hheader, _, hwritten, hbytes, hpackets⟩ := encode_eq_ok h
  obtain ⟨records, hread, hlength, heach⟩ := Session.records_of_writeAll _ hwritten
  refine ⟨records, ?_, ?_, ?_⟩
  · rw [hbytes, read?_append (fileHeader_eq_ok hheader), hread]
  · rw [hlength, hpackets, Session.length_of_writeAll _ hwritten]
  · intro number record hrecord
    obtain ⟨cue, datagram, hcue, hframe, rfl⟩ := heach number record hrecord
    rw [Nat.zero_add] at hframe
    have hstream :=
      (Clocks.carries_schedule encoder.profile (encoder.start clock) tokens).each number cue hcue
    refine ⟨rfl, rfl, frame_headers hsource hdestination hframe, cue.packet.onWire, ?_, ?_, ?_, ?_⟩
    · have hpayload := drop_frame hframe
      rw [recordOf, hpayload, Rtp.Packet.decode_encode]
    · exact (Bytes.natCast_wrapped 16 _).trans hstream.sequence
    · have hssrc : cue.packet.ssrc = (encoder.stream clock).ssrc := hstream.ssrc
      rw [← hssrc]
      exact Bytes.natCast_wrapped 32 _
    · refine hstream.payloadType.imp ?_ ?_
      · intro haudio
        rw [← haudio]
        exact Bytes.natCast_wrapped 7 _
      · intro hevent
        rw [← hevent]
        exact Bytes.natCast_wrapped 7 _

/-- A silence in one packet and a key in five, while the numbers of the packets go round. -/
theorem records_of_encode_while_wrapping :
    let encoder : Encoder :=
      .between "10.0.0.1" 4000 "example.org" 65535 { Profile.standard with packetMs := 100 }
    let clock : Clock := ⟨2 ^ 32 + 7, 65533, 0, .integer 0⟩
    let tokens : List Token := [.silence 11, .tone .pound]
    encoder.source.address.length = 4 ∧
    encoder.destination.address.length = 4 ∧
    ∃ encoded, encoder.encode clock (.ofTokens tokens) = .ok encoded ∧ encoded.packets = 6 ∧
      ∃ records,
        read? encoded.bytes = some records ∧
        records.length = encoded.packets ∧
        ∀ number record, records[number]? = some record →
          encoder.Holds clock number record := by
  intro encoder clock tokens
  have hpackets :
      (encoder.encode clock (.ofTokens tokens)).toOption.map Encoded.packets = some 6 := by
    decide +kernel
  obtain ⟨encoded, hencoded, hcount⟩ := Result.toOption_map_eq_some hpackets
  exact ⟨rfl, rfl, encoded, hencoded, hcount, records_of_encode rfl rfl hencoded⟩

end Encoder
end Capture
end CallScript
