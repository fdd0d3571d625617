import CallScript.Proofs.Capture.Checksum
import CallScript.Proofs.Capture.Tiling

/-!
# Extents of captures

An encoder between two ports takes every timeline whose times fit into the fields of a record.
Every packet fits into its headers, and the length of the capture is that of its header and of the
packets of its tokens.

Main statements:
* `Session.exists_write`: which cues can be written, and into how many bytes.
* `Clocks.extent_cues`: how many bytes the packets of a token take.
* `Encoder.exists_encode`: which timelines have a capture, and how many bytes it has.
-/

namespace CallScript
namespace Capture

open Media

section Fields

theorem fit?_eq_some
    (width : Nat)
    {n : Int}
    (hn : 0 ≤ n)
    (hfits : n < (256 ^ width : Nat)) :
    Bytes.fit? width n = some n.toNat := by
  exact Bytes.fit?_eq_some_iff.mpr ⟨by omega, by omega⟩

theorem exists_fieldBytes
    (width : Nat)
    {n : Int}
    (hn : 0 ≤ n)
    (hfits : n < (256 ^ width : Nat)) :
    ∃ bytes, fieldBytes width n = .ok bytes ∧ bytes.length = width := by
  rw [fieldBytes, fit?_eq_some width hn hfits]
  exact ⟨_, rfl, Bytes.length_littleEndian width _⟩

theorem exists_wordBytes
    {n : Int}
    (hn : 0 ≤ n)
    (hfits : n < 65536) :
    ∃ bytes, wordBytes n = .ok bytes ∧ bytes.length = 2 := by
  rw [wordBytes, fit?_eq_some 2 hn hfits]
  exact ⟨_, rfl, Bytes.length_bigEndian 2 _⟩

/-- The end of a datagram with a port that fits into its field. -/
def Party.HasPort (party : Party) : Prop :=
  0 ≤ party.port ∧ party.port < 65536

/-- The header of a packet has twenty bytes. -/
theorem length_withChecksum
    {source destination totalLength : Bytes}
    (hlength : totalLength.length = 2)
    (ident : Int) (sum : Nat) :
    ((headerParts source destination totalLength ident).withChecksum sum).length = 20 := by
  simp [headerParts, HeaderParts.withChecksum, hlength]

/-- A payload that is short enough has a frame between two ports. -/
theorem exists_frame
    {source destination : Party} {payload : Bytes}
    (hsource : source.HasPort)
    (hdestination : destination.HasPort)
    (hpayload : 28 + payload.length < 65536)
    (ident : Int) :
    ∃ bytes,
      frame source destination payload ident = .ok bytes ∧
      bytes.length = payloadOffset + payload.length := by
  obtain ⟨first, hfirst, hfirst'⟩ := exists_wordBytes hsource.1 hsource.2
  obtain ⟨second, hsecond, hsecond'⟩ := exists_wordBytes hdestination.1 hdestination.2
  obtain ⟨inner, hinner, hinner'⟩ :=
    exists_wordBytes (n := 8 + payload.length) (by omega) (by omega)
  obtain ⟨outer, houter, houter'⟩ :=
    exists_wordBytes (n := 28 + payload.length) (by omega) (by omega)
  have hheader : ∀ sum,
      ((headerParts source.address destination.address outer ident).withChecksum sum).length =
        20 := by
    exact length_withChecksum houter' ident
  have heven : Even
      ((headerParts source.address destination.address outer ident).withChecksum 0).length := by
    rw [hheader]
    decide
  obtain ⟨sum, hsum⟩ := (exists_checksum_iff _).mpr heven
  rw [frame, hfirst, hsecond, hinner, houter]
  simp only [Result.ok_bind]
  rw [hsum, Result.ok_bind]
  refine ⟨_, rfl, ?_⟩
  simp only [List.length_append, hheader, hfirst', hsecond', hinner', ethernetHeader,
    List.length_replicate, List.length_cons, List.length_nil, payloadOffset]

/-- The first time that does not fit into the fields of a record. -/
def timeLimit : Int :=
  2 ^ 32 * microseconds

/-- A frame that is short enough has a record at a time that fits. -/
theorem exists_record
    {frame : Bytes} {time : Int}
    (hframe : frame.length < 2 ^ 32)
    (htime : 0 ≤ time)
    (hlimit : time < timeLimit) :
    ∃ bytes,
      record frame time = .ok bytes ∧
      bytes.length = recordHeaderLength + frame.length := by
  have hseconds : Int.fdiv time microseconds = time / 1000000 := by
    exact Int.fdiv_eq_ediv_of_nonneg time (by decide)
  have hrest : Int.fmod time microseconds = time % 1000000 := by
    exact Int.fmod_eq_emod_of_nonneg time (by decide)
  unfold timeLimit microseconds at hlimit
  obtain ⟨first, hfirst, hfirst'⟩ :=
    exists_fieldBytes 4 (n := time / 1000000) (by omega) (by omega)
  obtain ⟨second, hsecond, hsecond'⟩ :=
    exists_fieldBytes 4 (n := time % 1000000) (by omega) (by omega)
  obtain ⟨third, hthird, hthird'⟩ :=
    exists_fieldBytes 4 (n := frame.length) (by omega) (by omega)
  rw [record, hseconds, hrest, hfirst, hsecond, hthird]
  refine ⟨_, rfl, ?_⟩
  simp only [List.length_append, hfirst', hsecond', hthird', recordHeaderLength]

end Fields

/-- The number of bytes around the payload of a packet, from the header of its record on. -/
def overhead : Nat :=
  recordHeaderLength + payloadOffset + Rtp.Packet.headerLength

/-- The number of bytes that a cue takes in a capture. -/
def Cue.extent (cue : Cue) : Nat :=
  overhead + cue.packet.payload.length

/--
The number of bytes that a token takes in a capture with packets of some milliseconds: seventy
around each packet, one for each sample of audio, and four for each report of a tone.
-/
def extentOf (packetMs : Nat) : Token → Nat
  | .silence milliseconds =>
      8 * milliseconds + 70 * ((milliseconds + packetMs - 1) / packetMs)
  | .tone _ => 74 * ((250 + packetMs - 1) / packetMs + 2)

namespace Session

/-- A cue that a session can write: its payload is short, and its time fits into a record. -/
structure Takes (session : Session) (cue : Cue) : Prop where
  payload : cue.packet.payload.length ≤ 800
  nonneg : 0 ≤ session.timeAt cue.place
  limit : session.timeAt cue.place < timeLimit

variable {session : Session}

/-- A cue with a short payload and a time that fits is written between two ports. -/
theorem exists_write
    (hsource : session.source.HasPort)
    (hdestination : session.destination.HasPort)
    {cue : Cue}
    (h : session.Takes cue)
    (index : Nat) :
    ∃ bytes, session.write index cue = .ok bytes ∧ bytes.length = cue.extent := by
  have hpayload := h.payload
  have hlength := cue.packet.length_encode
  have hheader : Rtp.Packet.headerLength = 12 := by
    rfl
  have hoffset : payloadOffset = 42 := by
    rfl
  have hfits : 28 + cue.packet.encode.length < 65536 := by
    omega
  obtain ⟨datagram, hframe, hdatagram⟩ := exists_frame hsource hdestination hfits index
  have hshort : datagram.length < 2 ^ 32 := by
    omega
  obtain ⟨bytes, hrecord, hbytes⟩ := exists_record hshort h.nonneg h.limit
  rw [write, hframe, Result.ok_bind, hrecord]
  refine ⟨bytes, rfl, ?_⟩
  rw [hbytes, hdatagram, hlength, Cue.extent, overhead]
  omega

theorem exists_writeAll
    (hsource : session.source.HasPort)
    (hdestination : session.destination.HasPort)
    {cues : List Cue}
    (h : ∀ cue ∈ cues, session.Takes cue)
    (index : Nat) :
    ∃ written,
      session.writeAll index cues = .ok written ∧
      written.flatten.length = (cues.map Cue.extent).sum := by
  induction cues generalizing index with
  | nil =>
      exact ⟨[], rfl, rfl⟩
  | cons cue rest ih =>
      obtain ⟨hcue, hrest⟩ := List.forall_mem_cons.mp h
      obtain ⟨bytes, hbytes, hlength⟩ := exists_write hsource hdestination hcue index
      obtain ⟨others, hothers, hlengths⟩ := ih hrest (index + 1)
      refine ⟨bytes :: others, ?_, ?_⟩
      · rw [writeAll, hbytes, Result.ok_bind, hothers]
        rfl
      · rw [List.flatten_cons, List.length_append, hlength, hlengths, List.map_cons, List.sum_cons]

end Session

namespace Clocks

variable {profile : Profile} {packetMs : Nat}

theorem sum_extent (cues : List Cue) :
    (cues.map Cue.extent).sum =
      overhead * cues.length + (cues.map fun cue => cue.packet.payload).flatten.length := by
  induction cues with
  | nil =>
      rfl
  | cons cue rest ih =>
      rw [List.map_cons, List.sum_cons, ih, Cue.extent, List.length_cons, List.map_cons,
        List.flatten_cons, List.length_append, Nat.mul_succ]
      omega

theorem reports_eq
    (h : Admitted profile packetMs) :
    reports profile = Session.durations 2000 (8 * packetMs) := by
  rw [reports, h.toneSamples_eq, h.frameSamples_eq, if_neg (by decide)]
  rfl

/-- A tone is reported once for each packet that it takes, and twice more at its end. -/
theorem length_reports
    (h : Admitted profile packetMs) :
    (reports profile).length = (250 + packetMs - 1) / packetMs + 2 := by
  have hleast := h.least
  have hfull : (2000 - 1) / (8 * packetMs) = 249 / packetMs := by
    rw [← Nat.div_div_eq_div_mul]
  have hrounded : (250 + packetMs - 1) / packetMs = 249 / packetMs + 1 := by
    rw [show 250 + packetMs - 1 = 249 + packetMs by omega, Nat.add_div_right 249 (by omega)]
  rw [reports_eq h, hrounded]
  simp only [Session.durations, List.length_append, List.length_map, List.length_range,
    List.length_replicate, hfull]
  rfl

/-- The reports of a tone have payloads of four bytes. -/
theorem length_payload_of_mem_reportCues
    {c : Clocks} {digit : Digit} {first : Bool} {durations : List Nat} {cue : Cue}
    (hcue : cue ∈ c.reportCues profile digit first durations) :
    cue.packet.payload.length = 4 := by
  obtain ⟨duration, _, _, _, _, _, hpayload⟩ := report_of_mem_reportCues hcue
  rw [hpayload, Rtp.Event.length_encode]

/-- The packets of a token take the bytes of the token. -/
theorem extent_cues
    (h : Admitted profile packetMs)
    (c : Clocks)
    (token : Token) :
    ((c.cues profile token).map Cue.extent).sum = extentOf packetMs token := by
  have hleast := h.least
  cases token with
  | silence milliseconds =>
      have hpayloads := payloads_audioCues profile c (audios profile milliseconds)
      have hpositive : 0 < packetMs := by
        omega
      have hfills := Session.fills_silentAudio hpositive milliseconds
      rw [← h.audios_eq, ← hpayloads] at hfills
      have hcount := hfills.count
      rw [List.length_map] at hcount
      rw [cues, sum_extent, hfills.whole, hcount, Nat.add_comm]
      rfl
  | tone digit =>
      have hextent : ∀ cue ∈ c.reportCues profile digit true (reports profile), cue.extent = 74 := by
        intro cue hcue
        rw [Cue.extent, length_payload_of_mem_reportCues hcue]
        rfl
      rw [cues, List.map_congr_left hextent, List.map_const', List.sum_replicate_nat,
        length_reportCues, length_reports h, Nat.mul_comm]
      rfl

/-- The payloads of the packets of some tokens are short. -/
theorem length_payload_of_mem_schedule
    (h : Admitted profile packetMs)
    {c : Clocks} {tokens : List Token} {cue : Cue}
    (hcue : cue ∈ (c.schedule profile tokens).flatten) :
    cue.packet.payload.length ≤ 800 := by
  have hmost := h.most
  induction tokens generalizing c with
  | nil =>
      cases hcue
  | cons token rest ih =>
      rw [schedule, List.flatten_cons] at hcue
      rcases List.mem_append.mp hcue with hhead | hrest
      · cases token with
        | silence milliseconds =>
            have hpayload : cue.packet.payload ∈ audios profile milliseconds := by
              rw [← payloads_audioCues profile c (audios profile milliseconds)]
              exact List.mem_map_of_mem hhead
            have hle := (length_of_mem_audios h hpayload).2
            omega
        | tone digit =>
            rw [length_payload_of_mem_reportCues hhead]
            decide
      · exact ih hrest

end Clocks

namespace Session

variable {session : Session} {packetMs : Nat}

/-- An encoder takes some tokens when it can write their cues. -/
theorem exists_entries
    (hprofile : Admitted session.profile packetMs)
    (hsource : session.source.HasPort)
    (hdestination : session.destination.HasPort)
    (records : Array Bytes)
    {c : Clocks} {tokens : List Token}
    (h : ∀ cue ∈ (c.schedule session.profile tokens).flatten, session.Takes cue) :
    ∃ written : List Bytes,
      (tokens.map Entry.token).foldlM session.entry (c.progress records) =
        .ok ((c.afterAll session.profile tokens).progress (records ++ written.toArray)) ∧
      written.flatten.length = (tokens.map (extentOf packetMs)).sum := by
  induction tokens generalizing c records with
  | nil =>
      exact ⟨[], by simp [Clocks.afterAll, pure, Except.pure], rfl⟩
  | cons token rest ih =>
      rw [Clocks.schedule, List.flatten_cons] at h
      obtain ⟨hhead, hrest⟩ := List.forall_mem_append.mp h
      obtain ⟨first, hfirst, hlength⟩ := exists_writeAll hsource hdestination hhead records.size
      have hentry := session.entry_eq c records token (.inl hprofile.playable.frame)
      rw [hfirst, Result.map_ok] at hentry
      obtain ⟨second, hsecond, hlengths⟩ := ih (records ++ first.toArray) hrest
      refine ⟨first ++ second, ?_, ?_⟩
      · rw [List.map_cons, List.foldlM_cons, hentry, Result.ok_bind, hsecond]
        simp [Clocks.afterAll]
      · rw [List.flatten_append, List.length_append, hlength, hlengths, List.map_cons,
          List.sum_cons, Clocks.extent_cues hprofile]

/-- The time of a place of an admitted profile: eight samples take a millisecond. -/
theorem timeAt_eq
    (hprofile : Admitted session.profile packetMs)
    (milliseconds : Int) :
    session.timeAt (8 * milliseconds) = session.startUsec + 1000 * milliseconds := by
  unfold timeAt microseconds
  rw [hprofile.rate, Int.fdiv_eq_ediv_of_nonneg _ (by decide)]
  omega

end Session

namespace Encoder

variable {encoder : Encoder} {clock : Clock} {packetMs : Nat} {startUsec : Int}

/-- The cues of a timeline that ends in time can all be written. -/
theorem takes_schedule
    (hprofile : Admitted encoder.profile packetMs)
    {tokens : List Token}
    (hstart : 0 ≤ startUsec)
    (hend : startUsec + 1000 * (Timeline.ofTokens tokens).nominalMs 250 < timeLimit) :
    ∀ cue ∈ ((encoder.start clock).schedule encoder.profile tokens).flatten,
      (encoder.session startUsec).Takes cue := by
  intro cue hcue
  have hrate := hprofile.playable.rate
  have hbegin : 0 ≤ cue.place := by
    exact Clocks.le_place_of_mem_schedule hprofile.playable hcue
  have hstop := Clocks.place_le_of_mem_schedule hprofile.playable hcue
  rw [Clocks.elapsed_afterAll hprofile.playable, hprofile.totalSamples_eq, start, zero_add]
    at hstop
  have hfirst := (encoder.session startUsec).timeAt_le hrate hbegin
  have hlast := (encoder.session startUsec).timeAt_le hrate hstop
  have hzero : (encoder.session startUsec).timeAt 0 = startUsec + 1000 * 0 := by
    exact Session.timeAt_eq hprofile 0
  rw [Session.timeAt_eq hprofile] at hlast
  change _ ≤ startUsec + _ at hlast
  exact ⟨Clocks.length_payload_of_mem_schedule hprofile hcue, by omega, by omega⟩

/--
**Encoders do not fail.**  Between two ports and with an admitted profile, every timeline that ends
in time has a capture, whose length is that of a header and of the packets of its tokens.
-/
theorem exists_encode
    (hprofile : Admitted encoder.profile packetMs)
    (hsource : encoder.source.HasPort)
    (hdestination : encoder.destination.HasPort)
    (htime : toMicroseconds (encoder.startTimeOf clock) = .ok startUsec)
    {tokens : List Token}
    (hstart : 0 ≤ startUsec)
    (hend : startUsec + 1000 * (Timeline.ofTokens tokens).nominalMs 250 < timeLimit) :
    ∃ encoded,
      encoder.encode clock (.ofTokens tokens) = .ok encoded ∧
      encoded.bytes.length =
        fileHeaderLength + (tokens.map (extentOf packetMs)).sum := by
  have htakes : ∀ cue ∈ ((encoder.start clock).schedule encoder.profile tokens).flatten,
      (encoder.session startUsec).Takes cue := by
    exact takes_schedule hprofile hstart hend
  have hrate : encoder.profile.sampleRate ≠ 0 := by
    exact hprofile.playable.rate.ne'
  obtain ⟨header, hheader⟩ : ∃ header, fileHeader longestFrame ethernetLink = .ok header := by
    exact ⟨_, rfl⟩
  obtain ⟨written, hentries, hlength⟩ :=
    (encoder.session startUsec).exists_entries hprofile hsource hdestination #[] htakes
  unfold startTimeOf at htime
  unfold session start Clocks.progress at hentries
  unfold encode
  rw [htime, hheader]
  simp only [Result.ok_bind, Timeline.ofTokens]
  rw [hentries, Result.ok_bind, if_neg hrate]
  refine ⟨_, rfl, ?_⟩
  simp only [assemble, List.length_append, fileHeader_eq_ok hheader]
  simp [hlength]

end Encoder
end Capture
end CallScript
