import CallScript.Proofs.Capture.Dissection
import CallScript.Proofs.Capture.Timing

/-!
# Composing captures

What an encoding does with one part of a timeline depends on the parts before it by the clocks
only.  So the capture of a timeline begins with the captures of its beginnings, and silence may be
cut where packets end.  Cut anywhere else it takes more packets, and nothing behind it but the
sequence numbers can tell.

Main statements:
* `Clocks.Ahead.schedule`: clocks that agree but for the number of packets have schedules that
  agree but for the sequence numbers.
* `Encoder.encode_composes`: what a beginning, an empty silence and a silence cut in two do to the
  capture of a timeline.
-/

namespace CallScript
namespace Capture

open Media

/-- What is seen of a packet when some more packets have been sent before it. -/
def Sighting.ahead (packets : Int) (s : Sighting) : Sighting :=
  { s with packet := { s.packet with sequence := (s.packet.sequence + packets) % 2 ^ 16 } }

namespace Session

/-- Silent audio begins with that of some full packets. -/
theorem silentAudio_add
    {frame first : Nat} (second : Nat)
    (hframe : 0 < frame)
    (hfirst : frame ∣ first) :
    silentAudio (first + second) frame = silentAudio first frame ++ silentAudio second frame := by
  obtain ⟨packets, rfl⟩ := hfirst
  have hquotient : (frame * packets + second) / frame = packets + second / frame := by
    exact Nat.mul_add_div hframe packets second
  have hremainder : (frame * packets + second) % frame = second % frame := by
    exact Nat.mul_add_mod frame packets second
  rw [silentAudio, hquotient, hremainder, ← List.replicate_append_replicate, List.append_assoc]
  simp [silentAudio, hframe]

/-- Only silence without samples has no packets. -/
theorem silentAudio_eq_nil_iff (total frame : Nat) :
    silentAudio total frame = [] ↔ total = 0 := by
  constructor
  · intro hempty
    rw [← length_silentAudio total frame, hempty]
    rfl
  · rintro rfl
    simp [silentAudio]

end Session

namespace Clocks

variable {profile : Profile} {packets : Int} {c d : Clocks}

/--
The clocks of two encodings that differ in how many packets they have sent: the first one has sent
some more.  The clocks that go round are compared as far as packets show them.
-/
structure Ahead (packets : Int) (c d : Clocks) : Prop where
  sequence : c.stream.sequence ≡ d.stream.sequence + packets [ZMOD 2 ^ 16]
  timestamp : c.stream.timestamp ≡ d.stream.timestamp [ZMOD 2 ^ 32]
  ssrc : c.stream.ssrc = d.stream.ssrc
  elapsed : c.elapsed = d.elapsed
  talkspurt : c.talkspurt = d.talkspurt

namespace Ahead

/-- The clocks stay ahead while both send a packet. -/
theorem afterReport
    (h : Ahead packets c d) :
    Ahead packets c.afterReport d.afterReport where
  sequence := by
    have hsequence := h.sequence
    simp only [Clocks.afterReport, Rtp.Stream.next, Bytes.natCast_wrapped, Int.ModEq] at *
    omega
  timestamp := h.timestamp
  ssrc := h.ssrc
  elapsed := h.elapsed
  talkspurt := h.talkspurt

/-- The clocks stay ahead while the same samples pass on both. -/
theorem advance
    (h : Ahead packets c d)
    (samples : Int) (talkspurt : Bool) :
    Ahead packets
      ⟨c.stream.advance samples, c.elapsed + samples, talkspurt⟩
      ⟨d.stream.advance samples, d.elapsed + samples, talkspurt⟩ where
  sequence := h.sequence
  timestamp := by
    have htimestamp := h.timestamp
    simp only [Rtp.Stream.advance, Bytes.natCast_wrapped, Int.ModEq] at *
    omega
  ssrc := h.ssrc
  elapsed := congrArg (· + samples) h.elapsed
  talkspurt := rfl

theorem afterAudio
    (h : Ahead packets c d)
    (audio : Bytes) :
    Ahead packets (c.afterAudio audio) (d.afterAudio audio) :=
  h.afterReport.advance audio.length false

theorem afterAudios
    (h : Ahead packets c d)
    (audios : List Bytes) :
    Ahead packets (audios.foldl Clocks.afterAudio c) (audios.foldl Clocks.afterAudio d) := by
  induction audios generalizing c d with
  | nil =>
      exact h
  | cons audio rest ih =>
      exact ih (h.afterAudio audio)

theorem afterReports
    (h : Ahead packets c d)
    (durations : List Nat) :
    Ahead packets (c.afterReports durations) (d.afterReports durations) := by
  induction durations generalizing c d with
  | nil =>
      exact h
  | cons duration rest ih =>
      exact ih h.afterReport

/-- The clocks stay ahead while both take a token. -/
theorem after
    (h : Ahead packets c d)
    (token : Token) :
    Ahead packets (c.after profile token) (d.after profile token) := by
  cases token with
  | silence milliseconds =>
      exact h.afterAudios (audios profile milliseconds)
  | tone digit =>
      have hafter := (h.afterReports (reports profile)).advance profile.toneSamples true
      rw [afterReports_elapsed, afterReports_elapsed] at hafter
      exact hafter

/-- A packet that both send is seen at one place, with different sequence numbers. -/
theorem sight_packet
    (h : Ahead packets c d)
    (session : Session)
    {payloadType : Int} {payload : Bytes} {first second : Bool} {origin start place elsewhere : Int}
    (hmarker : first = second)
    (hplace : place = elsewhere) :
    session.sight ⟨(c.stream.packet payloadType payload first none).1, origin, place⟩ =
      (session.sight
        ⟨(d.stream.packet payloadType payload second none).1, start, elsewhere⟩).ahead packets := by
  have hclocks :
      c.stream.sequence % 2 ^ 16 = (d.stream.sequence + packets) % 2 ^ 16 ∧
        c.stream.timestamp % 2 ^ 32 = d.stream.timestamp % 2 ^ 32 := by
    exact ⟨h.sequence, h.timestamp⟩
  simpa [Session.sight, Sighting.ahead, Rtp.Packet.onWire, Rtp.Stream.packet,
    Bytes.natCast_wrapped, h.ssrc, hmarker, hplace] using hclocks

/-- The packets of audio in a row look the same but for their sequence numbers. -/
theorem audioCues
    (h : Ahead packets c d)
    (session : Session) (audios : List Bytes) :
    (c.audioCues profile audios).map session.sight =
      ((d.audioCues profile audios).map session.sight).map (Sighting.ahead packets) := by
  induction audios generalizing c d with
  | nil =>
      rfl
  | cons audio rest ih =>
      exact congrArg₂ List.cons (h.sight_packet session h.talkspurt h.elapsed)
        (ih (h.afterAudio audio))

/-- The reports of a tone look the same but for their sequence numbers. -/
theorem reportCues
    (h : Ahead packets c d)
    (session : Session) (digit : Digit) (first : Bool) (durations : List Nat) :
    (c.reportCues profile digit first durations).map session.sight =
      ((d.reportCues profile digit first durations).map session.sight).map
        (Sighting.ahead packets) := by
  induction durations generalizing c d first with
  | nil =>
      rfl
  | cons duration rest ih =>
      have hplace : c.elapsed + duration = d.elapsed + duration := by
        rw [h.elapsed]
      exact congrArg₂ List.cons (h.sight_packet session rfl hplace) (ih h.afterReport false)

theorem cues
    (h : Ahead packets c d)
    (session : Session) (token : Token) :
    (c.cues profile token).map session.sight =
      ((d.cues profile token).map session.sight).map (Sighting.ahead packets) := by
  cases token with
  | silence milliseconds =>
      exact h.audioCues session (audios profile milliseconds)
  | tone digit =>
      exact h.reportCues session digit true (reports profile)

/-- The same tokens look the same but for the sequence numbers of their packets. -/
theorem schedule
    (h : Ahead packets c d)
    (profile : Profile) (session : Session) (tokens : List Token) :
    (c.schedule profile tokens).map (List.map session.sight) =
      ((d.schedule profile tokens).map (List.map session.sight)).map
        (List.map (Sighting.ahead packets)) := by
  induction tokens generalizing c d with
  | nil =>
      rfl
  | cons token rest ih =>
      exact congrArg₂ List.cons (h.cues session token) (ih (h.after token))

end Ahead

/-- A talkspurt is still due when no audio has been sent. -/
theorem talkspurt_afterAudios (c : Clocks) (audios : List Bytes) :
    (audios.foldl afterAudio c).talkspurt = (c.talkspurt && audios.isEmpty) := by
  induction audios generalizing c with
  | nil =>
      simp
  | cons audio rest ih =>
      rw [List.foldl_cons, ih]
      simp [afterAudio]

/-- Silence is cut into packets of as many samples as its milliseconds have. -/
theorem audios_eq
    (hrate : profile.sampleRate = 8000)
    (milliseconds : Nat) :
    audios profile milliseconds =
      Session.silentAudio (8 * milliseconds) profile.frameSamples.toNat := by
  rw [audios, samplesFor_eq hrate]
  rfl

/-- Only silence without milliseconds has no packets. -/
theorem isEmpty_audios
    (hrate : profile.sampleRate = 8000)
    (milliseconds : Nat) :
    (audios profile milliseconds).isEmpty = decide (milliseconds = 0) := by
  rw [audios_eq hrate, Bool.eq_iff_iff, List.isEmpty_iff, Session.silentAudio_eq_nil_iff,
    decide_eq_true_iff]
  omega

/-- Silence that ends with a full packet may go on in another token. -/
theorem audios_add
    (hrate : profile.sampleRate = 8000)
    (hpacket : 1 ≤ profile.packetMs)
    {a : Nat} (b : Nat)
    (ha : profile.packetMs ∣ a) :
    audios profile (a + b : Nat) = audios profile a ++ audios profile b := by
  obtain ⟨packetMs, hmilliseconds⟩ : ∃ packetMs : Nat, profile.packetMs = packetMs := by
    exact ⟨profile.packetMs.toNat, by omega⟩
  have hframe : profile.frameSamples.toNat = 8 * packetMs := by
    rw [Profile.frameSamples, samplesFor_eq hrate, hmilliseconds]
    rfl
  rw [hmilliseconds, Int.natCast_dvd_natCast] at ha
  rw [audios_eq hrate, audios_eq hrate, audios_eq hrate, hframe, Nat.mul_add]
  exact Session.silentAudio_add (8 * b) (by omega) (Nat.mul_dvd_mul_left 8 ha)

/-- A silence cut in two leaves the clocks ahead of the whole one by the packets it takes more. -/
theorem ahead_of_divided
    (hrate : profile.sampleRate = 8000)
    {timestamp : Int}
    (hcoupled : c.Coupled timestamp)
    (a b : Nat) :
    Ahead
      ((((c.cues profile (.silence a)) ++
          (c.after profile (.silence a)).cues profile (.silence b)).length : Int) -
        (c.cues profile (.silence (a + b))).length)
      ((c.after profile (.silence a)).after profile (.silence b))
      (c.after profile (.silence (a + b))) := by
  have hdivided :=
    (carries_cues profile c (.silence a)).append (carries_cues profile _ (.silence b))
  have hwhole := carries_cues profile c (.silence (a + b))
  have helapsed :
      ((c.after profile (.silence a)).after profile (.silence b)).elapsed =
        (c.after profile (.silence (a + b))).elapsed := by
    simp only [after, elapsed_afterAudios, audios_eq hrate, Session.length_silentAudio]
    omega
  refine ⟨?_, ?_, hdivided.ssrc.trans hwhole.ssrc.symm, helapsed, ?_⟩
  · have hsequence := hdivided.sequence
    have hother := hwhole.sequence
    simp only [Int.ModEq] at *
    omega
  · have hafter :
        ((c.after profile (.silence a)).after profile (.silence b)).Coupled timestamp := by
      exact coupled_after (coupled_after hcoupled _) _
    have hother : (c.after profile (.silence (a + b))).Coupled timestamp := by
      exact coupled_after hcoupled _
    unfold Coupled at hafter hother
    rw [helapsed] at hafter
    exact hafter.trans hother.symm
  · simp only [after, talkspurt_afterAudios, isEmpty_audios hrate, Nat.add_eq_zero_iff,
      Bool.decide_and, Bool.and_assoc]

/-- What follows a silence that is cut in two looks the same but for the sequence numbers. -/
theorem schedule_of_divided
    (hrate : profile.sampleRate = 8000)
    {timestamp : Int}
    (hcoupled : c.Coupled timestamp)
    (session : Session) (a b : Nat) (tokens : List Token) :
    let divided := c.schedule profile (.silence a :: .silence b :: tokens)
    let merged := c.schedule profile (.silence (a + b) :: tokens)
    (divided.map (List.map session.sight)).drop 2 =
      ((merged.map (List.map session.sight)).drop 1).map
        (List.map (Sighting.ahead (divided.flatten.length - merged.flatten.length))) := by
  intro divided merged
  have hahead := ahead_of_divided hrate hcoupled a b
  have hlater := hahead.schedule profile session tokens
  have hlength := congrArg (fun shares => shares.flatten.length) hlater
  simp only [← List.map_flatten, List.length_map] at hlength
  have hmore :
      (divided.flatten.length : Int) - merged.flatten.length =
        (c.cues profile (.silence a) ++
            (c.after profile (.silence a)).cues profile (.silence b)).length -
          (c.cues profile (.silence (a + b))).length := by
    simp only [divided, merged, schedule, List.flatten_cons, List.length_append]
    omega
  rw [hmore]
  exact hlater

end Clocks

namespace Encoder

variable {encoder : Encoder} {clock : Clock} {first second : List Token}

/-- Some tokens may be put in place of others that leave an encoding where these leave it. -/
theorem encode_congr
    (middle other : List Token)
    (h : ∀ startUsec progress,
      (middle.map Entry.token).foldlM (encoder.session startUsec).entry progress =
        (other.map Entry.token).foldlM (encoder.session startUsec).entry progress) :
    encoder.encode clock (.ofTokens (first ++ (middle ++ second))) =
      encoder.encode clock (.ofTokens (first ++ (other ++ second))) := by
  have hentries (startUsec : Int) (progress : Progress) :
      ((first ++ (middle ++ second)).map Entry.token).foldlM (encoder.session startUsec).entry
          progress =
        ((first ++ (other ++ second)).map Entry.token).foldlM (encoder.session startUsec).entry
          progress := by
    simp only [List.map_append, List.foldlM_append, h]
  unfold encode
  refine bind_congr fun startUsec => bind_congr fun header => ?_
  exact congrArg (· >>= _) (hentries startUsec _)

/-- An empty silence may stand anywhere. -/
theorem encode_empty_silence :
    encoder.encode clock (.ofTokens (first ++ .silence 0 :: second)) =
      encoder.encode clock (.ofTokens (first ++ second)) := by
  apply encode_congr [.silence 0] []
  intro startUsec progress
  have hsamples : encoder.profile.samplesFor 0 ≤ 0 := by
    simp [Profile.samplesFor]
  have hsilence : (encoder.session startUsec).silence progress 0 = .ok progress := by
    exact if_pos hsamples
  change (encoder.session startUsec).silence progress 0 >>= pure = pure progress
  rw [hsilence]
  rfl

/-- A silence may be cut in two where a packet ends. -/
theorem encode_divided_silence
    (hrate : encoder.profile.sampleRate = 8000)
    (hpacket : 1 ≤ encoder.profile.packetMs)
    {a : Nat} (b : Nat)
    (ha : encoder.profile.packetMs ∣ a) :
    encoder.encode clock (.ofTokens (first ++ .silence a :: .silence b :: second)) =
      encoder.encode clock (.ofTokens (first ++ .silence (a + b) :: second)) := by
  apply encode_congr [.silence a, .silence b] [.silence (a + b)]
  intro startUsec progress
  have hframe : 0 < encoder.profile.frameSamples := by
    rw [Profile.frameSamples, Clocks.samplesFor_eq hrate]
    omega
  have hsilence (progress : Progress) (milliseconds : Nat) :
      (encoder.session startUsec).silence progress milliseconds =
        (Clocks.audios encoder.profile milliseconds).foldlM (encoder.session startUsec).emitAudio
          progress := by
    exact (encoder.session startUsec).silence_eq progress milliseconds (.inl hframe)
  change
    ((encoder.session startUsec).silence progress a >>= fun progress =>
        (encoder.session startUsec).silence progress b >>= pure) =
      (encoder.session startUsec).silence progress (a + b : Nat) >>= pure
  simp only [hsilence, bind_pure, Clocks.audios_add hrate hpacket b ha, List.foldlM_append]

/-- The capture of a timeline begins with the captures of its beginnings. -/
theorem prefix_of_encode
    {encoded : Encoded}
    (h : encoder.encode clock (.ofTokens (first ++ second)) = .ok encoded) :
    ∃ before, encoder.encode clock (.ofTokens first) = .ok before ∧
      before.bytes <+: encoded.bytes := by
  obtain ⟨before, hbefore⟩ := encode_of_append h
  obtain ⟨startUsec, header, written, htime, hheader, _, hwritten, hbytes, _⟩ := encode_eq_ok h
  obtain ⟨startUsec', header', written', htime', hheader', _, hwritten', hbytes', _⟩ :=
    encode_eq_ok hbefore
  obtain rfl := Except.ok.inj (htime.symm.trans htime')
  obtain rfl := Except.ok.inj (hheader.symm.trans hheader')
  rw [Clocks.schedule_append, List.flatten_append] at hwritten
  obtain ⟨earlier, later, rfl, hearlier⟩ := Session.writeAll_append_eq_ok _ hwritten
  obtain rfl := Except.ok.inj (hwritten'.symm.trans hearlier)
  refine ⟨before, hbefore, later.flatten, ?_⟩
  rw [hbytes, hbytes', List.flatten_append, List.append_assoc]

/--
Cutting a silence in two anywhere leaves the packets of all later tokens as they are, but that
their sequence numbers count the packets that it takes more.
-/
theorem shares_of_divided_silence
    (hrate : encoder.profile.sampleRate = 8000)
    {a b : Nat} {divided merged : Encoded}
    (hdivided :
      encoder.encode clock (.ofTokens (first ++ .silence a :: .silence b :: second)) =
        .ok divided)
    (hmerged :
      encoder.encode clock (.ofTokens (first ++ .silence (a + b) :: second)) = .ok merged) :
    ∃ shares others : List (List Sighting),
      encoder.Shares clock (first ++ .silence a :: .silence b :: second) shares ∧
      encoder.Shares clock (first ++ .silence (a + b) :: second) others ∧
      shares.drop (first.length + 2) =
        (others.drop (first.length + 1)).map
          (List.map (Sighting.ahead (divided.packets - merged.packets))) := by
  obtain ⟨startUsec, htime, hshares⟩ := shares_of_encode hdivided
  obtain ⟨startUsec', htime', hothers⟩ := shares_of_encode hmerged
  obtain rfl := Except.ok.inj (htime.symm.trans htime')
  obtain ⟨_, _, hpackets, _⟩ := sightings_of_encode hdivided
  obtain ⟨_, _, hfewer, _⟩ := sightings_of_encode hmerged
  have hcoupled :
      ((encoder.start clock).afterAll encoder.profile first).Coupled clock.timestamp := by
    exact Clocks.coupled_afterAll (coupled_start encoder clock) first
  have hlater :=
    Clocks.schedule_of_divided hrate hcoupled (encoder.session startUsec) a b second
  have hfirst :
      (((encoder.start clock).schedule encoder.profile first).map
        (List.map (encoder.session startUsec).sight)).length = first.length := by
    rw [List.length_map, Clocks.length_schedule]
  refine ⟨_, _, hshares, hothers, ?_⟩
  rw [hpackets, hfewer, Clocks.schedule_append, Clocks.schedule_append]
  simp only [List.map_append, List.flatten_append, List.length_append, Nat.cast_add,
    add_sub_add_left_eq_sub, ← hfirst, List.drop_length_add_append]
  exact hlater

/--
**Encoding is compositional.**  The capture of a timeline begins with the captures of its
beginnings; an empty silence changes nothing; and a silence may be cut in two where a packet ends.
Cut anywhere, it leaves everything that is seen of the later tokens but the sequence numbers, which
count the packets that it takes more.
-/
theorem encode_composes
    (hrate : encoder.profile.sampleRate = 8000)
    (hpacket : 1 ≤ encoder.profile.packetMs)
    (clock : Clock) :
    (∀ first second encoded,
      encoder.encode clock (.ofTokens (first ++ second)) = .ok encoded →
      ∃ before, encoder.encode clock (.ofTokens first) = .ok before ∧
        before.bytes <+: encoded.bytes) ∧
    (∀ first second,
      encoder.encode clock (.ofTokens (first ++ .silence 0 :: second)) =
        encoder.encode clock (.ofTokens (first ++ second))) ∧
    (∀ first second (a b : Nat),
      encoder.profile.packetMs ∣ a →
      encoder.encode clock (.ofTokens (first ++ .silence a :: .silence b :: second)) =
        encoder.encode clock (.ofTokens (first ++ .silence (a + b) :: second))) ∧
    ∀ first second (a b : Nat) divided merged,
      encoder.encode clock (.ofTokens (first ++ .silence a :: .silence b :: second)) =
        .ok divided →
      encoder.encode clock (.ofTokens (first ++ .silence (a + b) :: second)) = .ok merged →
      ∃ shares others : List (List Sighting),
        encoder.Shares clock (first ++ .silence a :: .silence b :: second) shares ∧
        encoder.Shares clock (first ++ .silence (a + b) :: second) others ∧
        shares.drop (first.length + 2) =
          (others.drop (first.length + 1)).map
            (List.map (Sighting.ahead (divided.packets - merged.packets))) := by
  refine ⟨?_, ?_, ?_, ?_⟩
  · intro first second encoded hencoded
    exact prefix_of_encode hencoded
  · intro first second
    exact encode_empty_silence
  · intro first second a b ha
    exact encode_divided_silence hrate hpacket b ha
  · intro first second a b divided merged hdivided hmerged
    exact shares_of_divided_silence hrate hdivided hmerged

/-- A silence between two keys that takes a packet more when it is cut. -/
theorem encode_composes_between_keys :
    let encoder : Encoder := { sample with profile := { Profile.standard with toneMs := 1 } }
    let clock : Clock := ⟨7, 65535, 2 ^ 32 - 4, .integer 0⟩
    let first : List Token := [.tone .star]
    let second : List Token := [.tone .pound]
    ∃ divided merged,
      encoder.encode clock (.ofTokens (first ++ .silence 15 :: .silence 3 :: second)) =
        .ok divided ∧
      encoder.encode clock (.ofTokens (first ++ .silence (15 + 3) :: second)) = .ok merged ∧
      divided.packets = merged.packets + 1 ∧
      ∃ shares others : List (List Sighting),
        encoder.Shares clock (first ++ .silence 15 :: .silence 3 :: second) shares ∧
        encoder.Shares clock (first ++ .silence (15 + 3) :: second) others ∧
        shares.drop 3 = (others.drop 2).map (List.map (Sighting.ahead 1)) := by
  intro encoder clock first second
  have hdivided :
      (encoder.encode clock (.ofTokens (first ++ .silence 15 :: .silence 3 :: second))).toOption.map
        Encoded.packets = some 8 := by
    decide +kernel
  have hmerged :
      (encoder.encode clock (.ofTokens (first ++ .silence (15 + 3) :: second))).toOption.map
        Encoded.packets = some 7 := by
    decide +kernel
  obtain ⟨divided, hdivided, hmore⟩ := Result.toOption_map_eq_some hdivided
  obtain ⟨merged, hmerged, hfewer⟩ := Result.toOption_map_eq_some hmerged
  have hrate : encoder.profile.sampleRate = 8000 := by
    rfl
  have hpacket : 1 ≤ encoder.profile.packetMs := by
    decide
  obtain ⟨_, _, _, hlater⟩ := encode_composes hrate hpacket clock
  obtain ⟨shares, others, hshares, hothers, hdrop⟩ :=
    hlater first second 15 3 divided merged hdivided hmerged
  rw [hmore, hfewer] at hdrop
  exact ⟨divided, merged, hdivided, hmerged, by omega, shares, others, hshares, hothers, hdrop⟩

end Encoder
end Capture
end CallScript
