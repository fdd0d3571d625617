import CallScript.Capture.Encoder
import CallScript.Proofs.Capture.Reading
import CallScript.Proofs.Media

/-!
# Schedules of captures

Which packets an encoding sends, and where, without the bytes around them.  A cue is a packet
together with the place at which it is sent; each token of a timeline has its cues, and the
capture holds one record for each cue.

Main statements:
* `Session.entry_eq`: an encoder takes a token by writing its cues.
* `Encoder.shares_of_encode`: what a reader sees in a capture are the cues of its tokens, and the
  share of each token is what it adds to the capture of the tokens before it.
-/

namespace CallScript

namespace Rtp.Stream

/-- The stream after one packet. -/
def next (s : Stream) : Stream :=
  { s with sequence := (Bytes.wrapped 16 (s.sequence + 1) : Nat) }

end Rtp.Stream

namespace Capture

open Media

/-- The clocks of an encoding: its stream, the samples so far, and whether sound begins anew. -/
structure Clocks where
  stream : Rtp.Stream
  elapsed : Int
  talkspurt : Bool

/-- A packet, the place that its timestamp stands for, and the place at which it is sent. -/
structure Cue where
  packet : Rtp.Packet
  origin : Int
  place : Int

namespace Clocks

/-- The progress of an encoding with these clocks. -/
def progress (c : Clocks) (records : Array Bytes) : Progress :=
  ⟨c.stream, c.elapsed, c.talkspurt, records⟩

/-- The cue of a packet of audio. -/
def audioCue (profile : Profile) (c : Clocks) (audio : Bytes) : Cue where
  packet := (c.stream.packet profile.audioPayloadType audio c.talkspurt none).1
  origin := c.elapsed
  place := c.elapsed

/-- The clocks after a packet of audio. -/
def afterAudio (c : Clocks) (audio : Bytes) : Clocks where
  stream := c.stream.next.advance audio.length
  elapsed := c.elapsed + audio.length
  talkspurt := false

/-- The cues of packets of audio in a row. -/
def audioCues (profile : Profile) (c : Clocks) : List Bytes → List Cue
  | [] => []
  | audio :: rest => c.audioCue profile audio :: audioCues profile (c.afterAudio audio) rest

/-- What is reported of a tone when some of its samples have passed. -/
def report (profile : Profile) (digit : Digit) (duration : Nat) : Rtp.Event where
  code := digit.code
  ended := (duration : Int) = profile.toneSamples
  volume := profile.volume
  duration := duration

/-- The cue of a report of a tone. -/
def reportCue (profile : Profile) (digit : Digit) (c : Clocks) (first : Bool) (duration : Nat) :
    Cue where
  packet :=
    (c.stream.packet profile.eventPayloadType (report profile digit duration).encode first
      (some c.stream.timestamp)).1
  origin := c.elapsed
  place := c.elapsed + duration

/-- The clocks after a report of a tone. -/
def afterReport (c : Clocks) : Clocks :=
  { c with stream := c.stream.next }

/-- The clocks after some reports of a tone. -/
def afterReports (c : Clocks) : List Nat → Clocks
  | [] => c
  | _ :: rest => afterReports c.afterReport rest

/-- The cues of the reports of a tone, the first one with a marker. -/
def reportCues (profile : Profile) (digit : Digit) (c : Clocks) (first : Bool) :
    List Nat → List Cue
  | [] => []
  | duration :: rest =>
      c.reportCue profile digit first duration ::
        reportCues profile digit c.afterReport false rest

/-- The audio of the packets of a silence. -/
def audios (profile : Profile) (milliseconds : Int) : List Bytes :=
  Session.silentAudio (profile.samplesFor milliseconds).toNat profile.frameSamples.toNat

/-- The durations that the packets of a tone report. -/
def reports (profile : Profile) : List Nat :=
  if profile.toneSamples ≤ 0 then
    []
  else
    Session.durations profile.toneSamples.toNat profile.frameSamples.toNat

@[simp] theorem afterReports_elapsed (c : Clocks) (durations : List Nat) :
    (c.afterReports durations).elapsed = c.elapsed := by
  induction durations generalizing c with
  | nil =>
      rfl
  | cons duration rest ih =>
      exact ih c.afterReport

@[simp] theorem afterReports_timestamp (c : Clocks) (durations : List Nat) :
    (c.afterReports durations).stream.timestamp = c.stream.timestamp := by
  induction durations generalizing c with
  | nil =>
      rfl
  | cons duration rest ih =>
      exact ih c.afterReport

/-- The cues of a token. -/
def cues (profile : Profile) (c : Clocks) : Token → List Cue
  | .silence milliseconds => c.audioCues profile (audios profile milliseconds)
  | .tone digit => c.reportCues profile digit true (reports profile)

/-- The clocks after a token. -/
def after (profile : Profile) (c : Clocks) : Token → Clocks
  | .silence milliseconds => (audios profile milliseconds).foldl afterAudio c
  | .tone _ =>
      { stream := (c.afterReports (reports profile)).stream.advance profile.toneSamples
        elapsed := c.elapsed + profile.toneSamples
        talkspurt := true }

/-- The cues of some tokens, token by token. -/
def schedule (profile : Profile) (c : Clocks) : List Token → List (List Cue)
  | [] => []
  | token :: rest => c.cues profile token :: schedule profile (c.after profile token) rest

/-- The clocks after some tokens. -/
def afterAll (profile : Profile) (c : Clocks) (tokens : List Token) : Clocks :=
  tokens.foldl (after profile) c

theorem length_schedule (profile : Profile) (c : Clocks) (tokens : List Token) :
    (c.schedule profile tokens).length = tokens.length := by
  induction tokens generalizing c with
  | nil =>
      rfl
  | cons token rest ih =>
      simp only [schedule, List.length_cons, ih]

theorem schedule_take (profile : Profile) (c : Clocks) (tokens : List Token) (k : Nat) :
    c.schedule profile (tokens.take k) = (c.schedule profile tokens).take k := by
  induction tokens generalizing c k with
  | nil =>
      simp [schedule]
  | cons token rest ih =>
      cases k with
      | zero =>
          rfl
      | succ k =>
          simp only [List.take_succ_cons, schedule, ih]

theorem schedule_append (profile : Profile) (c : Clocks) (first second : List Token) :
    c.schedule profile (first ++ second) =
      c.schedule profile first ++ (c.afterAll profile first).schedule profile second := by
  induction first generalizing c with
  | nil =>
      rfl
  | cons token rest ih =>
      exact congrArg (_ :: ·) (ih (c.after profile token))

end Clocks

/-- The number of samples of a token. -/
def samplesOf (profile : Profile) : Token → Int
  | .silence milliseconds => profile.samplesFor milliseconds
  | .tone _ => profile.toneSamples

/-- The number of samples of some tokens. -/
def totalSamples (profile : Profile) (tokens : List Token) : Int :=
  (tokens.map (samplesOf profile)).sum

namespace Session

/-- The record of a cue, which has a number among the records. -/
def write (session : Session) (index : Nat) (cue : Cue) : Except Fault Bytes := do
  let datagram ← frame session.source session.destination cue.packet.encode index
  record datagram (session.timeAt cue.place)

/-- The records of some cues, numbered from a first one. -/
def writeAll (session : Session) (index : Nat) : List Cue → Except Fault (List Bytes)
  | [] => .ok []
  | cue :: rest => do
      let bytes ← session.write index cue
      let others ← writeAll session (index + 1) rest
      return bytes :: others

/-- What is seen of a cue in a capture. -/
def sight (session : Session) (cue : Cue) : Sighting :=
  ⟨session.timeAt cue.place, cue.packet.onWire⟩

variable (session : Session)

theorem sight_payloadType (cue : Cue) :
    (session.sight cue).packet.payloadType = cue.packet.payloadType % 2 ^ 7 := by
  exact Bytes.natCast_wrapped 7 _

theorem sight_timestamp (cue : Cue) :
    (session.sight cue).packet.timestamp = cue.packet.timestamp % 2 ^ 32 := by
  exact Bytes.natCast_wrapped 32 _

theorem sight_marker (cue : Cue) :
    (session.sight cue).packet.marker = cue.packet.marker := by
  rfl

theorem sight_payload (cue : Cue) :
    (session.sight cue).packet.payload = cue.packet.payload := by
  rfl

/-- A packet is emitted by writing its cue. -/
theorem emit_eq (c : Clocks) (records : Array Bytes) (cue : Cue) :
    session.emit (c.progress records) cue.packet cue.place =
      (session.write records.size cue).map fun bytes => c.progress (records.push bytes) := by
  unfold emit write
  change (frame session.source session.destination cue.packet.encode records.size >>= _) =
    (frame session.source session.destination cue.packet.encode records.size >>= _).map _
  cases frame session.source session.destination cue.packet.encode records.size with
  | error fault =>
      rfl
  | ok datagram =>
      simp only [Result.ok_bind]
      cases record datagram (session.timeAt cue.place) with
      | error fault =>
          rfl
      | ok bytes =>
          rfl

theorem emitAudio_eq (c : Clocks) (records : Array Bytes) (audio : Bytes) :
    session.emitAudio (c.progress records) audio =
      (session.write records.size (c.audioCue session.profile audio)).map fun bytes =>
        (c.afterAudio audio).progress (records.push bytes) := by
  have hemit := session.emit_eq c.afterReport records (c.audioCue session.profile audio)
  change (session.emit (c.afterReport.progress records) (c.audioCue session.profile audio).packet
    (c.audioCue session.profile audio).place >>= _) = _
  rw [hemit]
  cases session.write records.size (c.audioCue session.profile audio) with
  | error fault =>
      rfl
  | ok bytes =>
      rfl

theorem emitEvent_eq
    (c : Clocks) (records : Array Bytes) (digit : Digit) (first : Bool) (duration : Nat) :
    session.emitEvent digit.code c.stream.timestamp session.profile.toneSamples
        (c.progress records, first) duration =
      (session.write records.size (c.reportCue session.profile digit first duration)).map
        fun bytes => (c.afterReport.progress (records.push bytes), false) := by
  have hemit :=
    session.emit_eq c.afterReport records (c.reportCue session.profile digit first duration)
  change (session.emit (c.afterReport.progress records)
    (c.reportCue session.profile digit first duration).packet
    (c.reportCue session.profile digit first duration).place >>= _) = _
  rw [hemit]
  cases session.write records.size (c.reportCue session.profile digit first duration) with
  | error fault =>
      rfl
  | ok bytes =>
      rfl

/-- Packets of audio in a row are written cue by cue. -/
theorem foldlM_emitAudio (c : Clocks) (records : Array Bytes) (audios : List Bytes) :
    audios.foldlM session.emitAudio (c.progress records) =
      (session.writeAll records.size (c.audioCues session.profile audios)).map fun written =>
        (audios.foldl Clocks.afterAudio c).progress (records ++ written.toArray) := by
  induction audios generalizing c records with
  | nil =>
      simp [Clocks.audioCues, writeAll, pure, Except.pure]
  | cons audio rest ih =>
      rw [List.foldlM_cons, emitAudio_eq, Clocks.audioCues, writeAll]
      cases session.write records.size (c.audioCue session.profile audio) with
      | error fault =>
          rfl
      | ok bytes =>
          simp only [Result.map_ok, Result.ok_bind, ih, Array.size_push, List.foldl_cons]
          cases session.writeAll (records.size + 1)
              ((c.afterAudio audio).audioCues session.profile rest) with
          | error fault =>
              rfl
          | ok written =>
              simp [pure, Except.pure]

/-- The reports of a tone are written cue by cue. -/
theorem foldlM_emitEvent
    (c : Clocks) (records : Array Bytes) (digit : Digit) (first : Bool) (durations : List Nat) :
    (durations.map Int.ofNat).foldlM
        (session.emitEvent digit.code c.stream.timestamp session.profile.toneSamples)
        (c.progress records, first) =
      (session.writeAll records.size (c.reportCues session.profile digit first durations)).map
        fun written =>
          ((c.afterReports durations).progress
            (records ++ written.toArray), first && durations.isEmpty) := by
  induction durations generalizing c records first with
  | nil =>
      simp [Clocks.reportCues, Clocks.afterReports, writeAll, pure, Except.pure]
  | cons duration rest ih =>
      rw [List.map_cons, List.foldlM_cons, Int.ofNat_eq_natCast, emitEvent_eq, Clocks.reportCues,
        writeAll]
      cases session.write records.size
          (c.reportCue session.profile digit first duration) with
      | error fault =>
          rfl
      | ok bytes =>
          have hrest := ih c.afterReport (records.push bytes) false
          have htimestamp : c.afterReport.stream.timestamp = c.stream.timestamp := by
            rfl
          rw [htimestamp] at hrest
          simp only [Result.map_ok, Result.ok_bind, hrest, Array.size_push]
          cases session.writeAll (records.size + 1)
              (c.afterReport.reportCues session.profile digit false rest) with
          | error fault =>
              rfl
          | ok written =>
              simp [Clocks.afterReports, pure, Except.pure]

/-- A silence is sent packet by packet, unless its frames have no length. -/
theorem silence_eq
    (progress : Progress) (milliseconds : Int)
    (hframe : 0 < session.profile.frameSamples ∨ session.profile.samplesFor milliseconds ≤ 0) :
    session.silence progress milliseconds =
      (Clocks.audios session.profile milliseconds).foldlM session.emitAudio progress := by
  unfold silence Clocks.audios
  by_cases htotal : session.profile.samplesFor milliseconds ≤ 0
  · rw [if_pos htotal, Int.toNat_eq_zero.mpr htotal]
    simp [silentAudio]
  · have hframe := hframe.resolve_right htotal
    rw [if_neg htotal, if_neg (by omega), if_neg (by omega)]

/-- An encoder takes a token by writing its cues. -/
theorem entry_eq
    (c : Clocks) (records : Array Bytes) (token : Token)
    (hframe : 0 < session.profile.frameSamples ∨ samplesOf session.profile token ≤ 0) :
    session.entry (c.progress records) (.token token) =
      (session.writeAll records.size (c.cues session.profile token)).map fun written =>
        (c.after session.profile token).progress (records ++ written.toArray) := by
  cases token with
  | silence milliseconds =>
      rw [entry, silence_eq session _ _ hframe, foldlM_emitAudio]
      rfl
  | tone digit =>
      simp only [entry, tone, Clocks.cues, Clocks.after, Clocks.reports]
      by_cases htotal : session.profile.toneSamples ≤ 0
      · rw [if_pos htotal, if_pos htotal]
        simp [Clocks.reportCues, Clocks.afterReports, Clocks.progress, writeAll, pure, Except.pure]
      · have hframe := hframe.resolve_right htotal
        rw [if_neg htotal, if_neg (by omega), if_neg (by omega), if_neg htotal]
        have hreports :=
          session.foldlM_emitEvent c records digit true
            (durations session.profile.toneSamples.toNat session.profile.frameSamples.toNat)
        have hstream : (c.progress records).stream = c.stream := by
          rfl
        rw [hstream, hreports]
        cases session.writeAll records.size (c.reportCues session.profile digit true
            (durations session.profile.toneSamples.toNat session.profile.frameSamples.toNat)) with
        | error fault =>
            rfl
        | ok written =>
            simp only [Result.map_ok, Result.ok_bind, pure, Except.pure, Clocks.progress,
              Clocks.afterReports_elapsed]

/-- A token that an encoder has taken has no samples, or is sent in frames of positive length. -/
theorem frame_of_entry
    {progress after : Progress} {token : Token}
    (h : session.entry progress (.token token) = .ok after) :
    0 < session.profile.frameSamples ∨ samplesOf session.profile token ≤ 0 := by
  by_contra hneither
  push Not at hneither
  obtain ⟨hframe, hsamples⟩ := hneither
  cases token with
  | silence milliseconds =>
      simp only [entry, silence] at h
      rw [if_neg (by exact not_le.mpr hsamples)] at h
      split at h
      · cases h
      · split at h
        · obtain ⟨_, _, h⟩ := Result.bind_eq_ok h
          cases h
        · omega
  | tone digit =>
      simp only [entry, tone] at h
      rw [if_neg (by exact not_le.mpr hsamples)] at h
      split at h
      · cases h
      · split at h
        · obtain ⟨_, _, h⟩ := Result.bind_eq_ok h
          cases h
        · omega

/-- An encoder that has taken a token has written its cues. -/
theorem entry_eq_ok
    {c : Clocks} {records : Array Bytes} {token : Token} {after : Progress}
    (h : session.entry (c.progress records) (.token token) = .ok after) :
    ∃ written,
      session.writeAll records.size (c.cues session.profile token) = .ok written ∧
      after = (c.after session.profile token).progress (records ++ written.toArray) := by
  rw [entry_eq session c records token (frame_of_entry session h)] at h
  obtain ⟨written, hwritten, hafter⟩ := Result.map_eq_ok h
  exact ⟨written, hwritten, hafter.symm⟩

theorem length_of_writeAll
    {index : Nat} {cues : List Cue} {written : List Bytes}
    (h : session.writeAll index cues = .ok written) :
    written.length = cues.length := by
  induction cues generalizing index written with
  | nil =>
      cases h
      rfl
  | cons cue rest ih =>
      obtain ⟨bytes, _, h⟩ := Result.bind_eq_ok h
      obtain ⟨others, hothers, h⟩ := Result.bind_eq_ok h
      cases h
      simp [ih hothers]

/-- Records are written for cues in a row when they are written for both parts. -/
theorem writeAll_append
    {index : Nat} {first second : List Cue} {before behind : List Bytes}
    (hfirst : session.writeAll index first = .ok before)
    (hsecond : session.writeAll (index + first.length) second = .ok behind) :
    session.writeAll index (first ++ second) = .ok (before ++ behind) := by
  induction first generalizing index before with
  | nil =>
      cases hfirst
      exact hsecond
  | cons cue rest ih =>
      obtain ⟨bytes, hbytes, h⟩ := Result.bind_eq_ok hfirst
      obtain ⟨others, hothers, h⟩ := Result.bind_eq_ok h
      cases h
      have hindex : index + 1 + rest.length = index + (cue :: rest).length := by
        simp only [List.length_cons]
        omega
      rw [List.cons_append, writeAll, hbytes, Result.ok_bind, ih hothers (by rw [hindex, hsecond])]
      rfl

/-- The records of some cues begin with those of the first cues. -/
theorem writeAll_append_eq_ok
    {index : Nat} {first second : List Cue} {written : List Bytes}
    (h : session.writeAll index (first ++ second) = .ok written) :
    ∃ before behind, written = before ++ behind ∧ session.writeAll index first = .ok before := by
  induction first generalizing index written with
  | nil =>
      exact ⟨[], written, rfl, rfl⟩
  | cons cue rest ih =>
      obtain ⟨bytes, hbytes, h⟩ := Result.bind_eq_ok h
      obtain ⟨others, hothers, h⟩ := Result.bind_eq_ok h
      cases h
      obtain ⟨before, behind, rfl, hbefore⟩ := ih hothers
      refine ⟨bytes :: before, behind, rfl, ?_⟩
      rw [writeAll, hbytes, Result.ok_bind, hbefore]
      rfl

/-- An encoder that has taken some tokens has written their cues. -/
theorem entries_eq_ok
    {c : Clocks} {records : Array Bytes} {tokens : List Token} {after : Progress}
    (h : (tokens.map Entry.token).foldlM session.entry (c.progress records) = .ok after) :
    ∃ written,
      session.writeAll records.size (c.schedule session.profile tokens).flatten = .ok written ∧
      after = (c.afterAll session.profile tokens).progress (records ++ written.toArray) := by
  induction tokens generalizing c records with
  | nil =>
      cases h
      exact ⟨[], rfl, by simp [Clocks.afterAll]⟩
  | cons token rest ih =>
      rw [List.map_cons, List.foldlM_cons] at h
      obtain ⟨_, hentry, h⟩ := Result.bind_eq_ok h
      obtain ⟨first, hfirst, rfl⟩ := session.entry_eq_ok hentry
      obtain ⟨second, hsecond, rfl⟩ := ih h
      refine ⟨first ++ second, ?_, ?_⟩
      · have hsize :
            (records ++ first.toArray).size =
              records.size + (c.cues session.profile token).length := by
          simp [session.length_of_writeAll hfirst]
        rw [hsize] at hsecond
        exact session.writeAll_append hfirst hsecond
      · simp [Clocks.afterAll]

/-- What is read in the records of some cues is what is seen of these cues. -/
theorem sightings_of_writeAll
    {index : Nat} {cues : List Cue} {written : List Bytes}
    (h : session.writeAll index cues = .ok written) :
    ((readRecords? written.flatten).bind fun records => records.mapM Record.sighting?) =
      some (cues.map session.sight) := by
  induction cues generalizing index written with
  | nil =>
      cases h
      rw [List.flatten_nil, readRecords?]
      rfl
  | cons cue rest ih =>
      obtain ⟨bytes, hbytes, h⟩ := Result.bind_eq_ok h
      obtain ⟨others, hothers, h⟩ := Result.bind_eq_ok h
      cases h
      obtain ⟨datagram, hframe, hrecord⟩ := Result.bind_eq_ok hbytes
      have hsighting := sighting?_recordOf hframe hrecord
      have hrest := ih hothers
      rw [List.flatten_cons, readRecords?_append hrecord]
      cases hread : readRecords? others.flatten with
      | none =>
          rw [hread] at hrest
          cases hrest
      | some records =>
          rw [hread, Option.bind_some] at hrest
          simp [List.mapM_cons, hsighting, hrest, sight]

end Session

namespace Encoder

/-- The fixed part of an encoding that starts at a time. -/
def session (encoder : Encoder) (startUsec : Int) : Session where
  source := encoder.source
  destination := encoder.destination
  profile := encoder.profile
  startUsec := startUsec

/-- The clocks with which an encoding begins. -/
def start (encoder : Encoder) (clock : Clock) : Clocks where
  stream := encoder.stream clock
  elapsed := 0
  talkspurt := true

/-- The time at which an encoding starts, as it is given. -/
def startTimeOf (encoder : Encoder) (clock : Clock) : Value :=
  if encoder.startTime.isNull then clock.time else encoder.startTime

/-- What sightings make up the share of each token: they are what the token adds to a capture. -/
structure Shares (encoder : Encoder) (clock : Clock) (tokens : List Token)
    (shares : List (List Sighting)) : Prop where
  /-- Every token has a share. -/
  length : shares.length = tokens.length
  /-- The capture of the first tokens shows their shares. -/
  parts : ∀ k ≤ tokens.length, ∃ before,
    encoder.encode clock (.ofTokens (tokens.take k)) = .ok before ∧
    before.packets = (shares.take k).flatten.length ∧
    sightings? before.bytes = some (shares.take k).flatten

variable {encoder : Encoder} {clock : Clock} {tokens : List Token} {encoded : Encoded}

/-- The shares of all tokens make up what is seen in their capture. -/
theorem Shares.sightings
    {shares : List (List Sighting)}
    (hshares : encoder.Shares clock tokens shares)
    (hencoded : encoder.encode clock (.ofTokens tokens) = .ok encoded) :
    sightings? encoded.bytes = some shares.flatten := by
  obtain ⟨before, hbefore, _, hsightings⟩ := hshares.parts tokens.length le_rfl
  rw [List.take_length, hencoded] at hbefore
  rw [Except.ok.inj hbefore, hsightings, ← hshares.length, List.take_length]

/-- A capture holds a header and the records of its cues. -/
theorem encode_eq_ok
    (h : encoder.encode clock (.ofTokens tokens) = .ok encoded) :
    ∃ (startUsec : Int) (header : Bytes) (written : List Bytes),
      toMicroseconds (encoder.startTimeOf clock) = .ok startUsec ∧
      fileHeader longestFrame ethernetLink = .ok header ∧
      encoder.profile.sampleRate ≠ 0 ∧
      (encoder.session startUsec).writeAll 0
          ((encoder.start clock).schedule encoder.profile tokens).flatten = .ok written ∧
      encoded.bytes = header ++ written.flatten ∧
      encoded.packets = written.length := by
  unfold encode at h
  obtain ⟨startUsec, htime, h⟩ := Result.bind_eq_ok h
  obtain ⟨header, hheader, h⟩ := Result.bind_eq_ok h
  obtain ⟨progress, hentries, h⟩ := Result.bind_eq_ok h
  have hstart :
      (tokens.map Entry.token).foldlM (encoder.session startUsec).entry
        ((encoder.start clock).progress #[]) = .ok progress := by
    exact hentries
  obtain ⟨written, hwritten, rfl⟩ := (encoder.session startUsec).entries_eq_ok hstart
  split at h
  · cases h
  · next hrate =>
      cases h
      refine ⟨startUsec, header, written, htime, hheader, hrate, hwritten, ?_, ?_⟩
      · simp [assemble, Clocks.progress]
      · simp [Clocks.progress]

/-- The tokens at the beginning of a timeline that has a capture have one too. -/
theorem encode_of_append
    {first second : List Token}
    (h : encoder.encode clock (.ofTokens (first ++ second)) = .ok encoded) :
    ∃ before, encoder.encode clock (.ofTokens first) = .ok before := by
  unfold encode at h ⊢
  obtain ⟨startUsec, htime, h⟩ := Result.bind_eq_ok h
  obtain ⟨header, hheader, h⟩ := Result.bind_eq_ok h
  obtain ⟨progress, hentries, h⟩ := Result.bind_eq_ok h
  rw [Timeline.ofTokens, List.map_append, List.foldlM_append] at hentries
  obtain ⟨middle, hfirst, _⟩ := Result.bind_eq_ok hentries
  split at h
  · cases h
  · next hrate =>
      rw [htime, hheader]
      simp only [Result.ok_bind, Timeline.ofTokens]
      rw [hfirst, Result.ok_bind, if_neg hrate]
      exact ⟨_, rfl⟩

/-- What is seen in a capture are its cues. -/
theorem sightings_of_encode
    (h : encoder.encode clock (.ofTokens tokens) = .ok encoded) :
    ∃ startUsec,
      toMicroseconds (encoder.startTimeOf clock) = .ok startUsec ∧
      encoded.packets = ((encoder.start clock).schedule encoder.profile tokens).flatten.length ∧
      sightings? encoded.bytes =
        some (((encoder.start clock).schedule encoder.profile tokens).flatten.map
          (encoder.session startUsec).sight) := by
  obtain ⟨startUsec, header, written, htime, hheader, _, hwritten, hbytes, hpackets⟩ :=
    encode_eq_ok h
  refine ⟨startUsec, htime, ?_, ?_⟩
  · rw [hpackets, Session.length_of_writeAll _ hwritten]
  · rw [hbytes, sightings?, read?_append (fileHeader_eq_ok hheader),
      Session.sightings_of_writeAll _ hwritten]

/--
**A capture shows its schedule.**  What is seen in a capture are the cues of its tokens, each at
the time of its place, and the cues of a token are what it adds to the capture of those before it.
-/
theorem shares_of_encode
    (h : encoder.encode clock (.ofTokens tokens) = .ok encoded) :
    ∃ startUsec,
      toMicroseconds (encoder.startTimeOf clock) = .ok startUsec ∧
      encoder.Shares clock tokens
        (((encoder.start clock).schedule encoder.profile tokens).map
          (List.map (encoder.session startUsec).sight)) := by
  obtain ⟨startUsec, htime, _⟩ := sightings_of_encode h
  refine ⟨startUsec, htime, ?_, ?_⟩
  · rw [List.length_map, Clocks.length_schedule]
  · intro k _
    rw [← List.take_append_drop k tokens] at h
    obtain ⟨before, hbefore⟩ := encode_of_append h
    obtain ⟨startUsec', htime', hpackets, hsightings⟩ := sightings_of_encode hbefore
    rw [htime] at htime'
    cases htime'
    have hshares :
        ((((encoder.start clock).schedule encoder.profile tokens).map
            (List.map (encoder.session startUsec).sight)).take k).flatten =
          ((encoder.start clock).schedule encoder.profile (tokens.take k)).flatten.map
            (encoder.session startUsec).sight := by
      rw [← List.map_take, ← Clocks.schedule_take, List.map_flatten]
    refine ⟨before, hbefore, ?_, ?_⟩
    · rw [hshares, List.length_map, hpackets]
    · rw [hshares, hsightings]

end Encoder
end Capture
end CallScript
