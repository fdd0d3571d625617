import CallScript.Proofs.Capture.Timing

/-!
# Tilings of timelines

The timestamps of a capture, read as places, say which samples each packet of audio and each tone
fills.  These spans follow each other without a gap and without an overlap.

Main statements:
* `Tiles.countP_covers`: in a tiling every sample lies in exactly one span.
* `Encoder.tiling_of_encode`: the spans of a capture tile its timeline, and a silence is filled
  with full packets and a rest.
-/

namespace CallScript
namespace Capture

open Media

/-- A profile that settings admit, with packets of some milliseconds. -/
structure Admitted (profile : Profile) (packetMs : Nat) : Prop where
  rate : profile.sampleRate = 8000
  tone : profile.toneMs = 250
  packet : profile.packetMs = packetMs
  least : 10 ≤ packetMs
  most : packetMs ≤ 100

/-- Samples in a row. -/
structure Span where
  start : Int
  length : Int

/-- Holds of the samples of a span. -/
def Span.covers (span : Span) (sample : Int) : Bool :=
  span.start ≤ sample && sample < span.start + span.length

/-- Spans that follow each other from a start to a stop, none of them empty. -/
inductive Tiles : Int → List Span → Int → Prop where
  | done (place : Int) : Tiles place [] place
  | span {start length stop : Int} {rest : List Span} (positive : 0 < length)
      (others : Tiles (start + length) rest stop) : Tiles start (⟨start, length⟩ :: rest) stop

namespace Tiles

variable {start middle stop : Int} {first second : List Span}

theorem append
    (hfirst : Tiles start first middle)
    (hsecond : Tiles middle second stop) :
    Tiles start (first ++ second) stop := by
  induction hfirst with
  | done place =>
      exact hsecond
  | span positive others ih =>
      exact .span positive (ih hsecond)

theorem start_le_stop
    (h : Tiles start first stop) :
    start ≤ stop := by
  induction h with
  | done place =>
      exact le_rfl
  | span positive others ih =>
      omega

/-- In a tiling every sample lies in exactly one span, and no other place lies in any. -/
theorem countP_covers
    (h : Tiles start first stop)
    (sample : Int) :
    first.countP (·.covers sample) = if start ≤ sample ∧ sample < stop then 1 else 0 := by
  induction h with
  | done place =>
      rw [if_neg (by omega)]
      rfl
  | @span start length stop rest positive others ih =>
      have hstop := others.start_le_stop
      rw [List.countP_cons, ih]
      by_cases hhere : start ≤ sample ∧ sample < start + length
      · have hcovers : Span.covers ⟨start, length⟩ sample = true := by
          simpa [Span.covers] using hhere
        rw [hcovers, if_neg (by omega), if_pos rfl, if_pos (by omega)]
      · have hcovers : Span.covers ⟨start, length⟩ sample = false := by
          simpa [Span.covers] using hhere
        rw [hcovers, if_neg Bool.false_ne_true, add_zero]
        by_cases hlater : start + length ≤ sample ∧ sample < stop
        · rw [if_pos hlater, if_pos (by omega)]
        · rw [if_neg hlater, if_neg (by omega)]

end Tiles

/-- Timestamps as places: each lies behind the one before by their difference in the field. -/
def unwrapped (timestamp place : Int) : List Int → List Int
  | [] => []
  | next :: rest =>
      (place + (next - timestamp) % 2 ^ 32) ::
        unwrapped next (place + (next - timestamp) % 2 ^ 32) rest

/-- What is seen of a record, and the place that its timestamp stands for. -/
structure Stamp where
  sighting : Sighting
  place : Int

/-- The spans of a token: the samples of each packet of audio, or two thousand for a tone. -/
def spansOf : Token → List Stamp → List Span
  | .silence _, share => share.map fun s => ⟨s.place, s.sighting.packet.payload.length⟩
  | .tone _, share => share.head?.toList.map fun s => ⟨s.place, 2000⟩

/-- Silence of some milliseconds fills packets of some milliseconds, and the last one in part. -/
structure Fills (milliseconds packetMs : Nat) (payloads : List Bytes) : Prop where
  /-- There is no packet more than it takes. -/
  count : payloads.length = (milliseconds + packetMs - 1) / packetMs
  /-- Every packet but the last one is full. -/
  full : ∀ payload ∈ payloads.dropLast, payload.length = 8 * packetMs
  /-- The last packet is not empty, and no longer than a full one. -/
  last : ∀ payload ∈ payloads.getLast?, 1 ≤ payload.length ∧ payload.length ≤ 8 * packetMs
  /-- The packets hold all samples. -/
  whole : payloads.flatten.length = 8 * milliseconds
  /-- All samples are silent. -/
  silent : ∀ byte ∈ payloads.flatten, byte = 0xFF
  /-- No time takes no packet. -/
  empty : milliseconds = 0 → payloads = []

/-- What a token sends: audio that fills its silence, or events that all start with its tone. -/
def Sends (profile : Profile) (packetMs : Nat) (share : List Stamp) : Token → Prop
  | .silence milliseconds =>
      Fills milliseconds packetMs (share.map fun s => s.sighting.packet.payload) ∧
      ∀ s ∈ share, s.sighting.packet.payloadType = profile.audioPayloadType % 2 ^ 7
  | .tone _ =>
      ∃ first later,
        share = first :: later ∧
        ∀ s ∈ share,
          s.place = first.place ∧
          s.sighting.packet.payloadType = profile.eventPayloadType % 2 ^ 7

namespace Session

theorem silentByte_eq :
    MuLaw.silentByte = 0xFF := by
  decide

/-- The packets of silent audio hold some silent samples, and no more than a frame has. -/
theorem exists_silence_of_mem
    {total frame : Nat} {audio : Bytes}
    (hframe : 0 < frame)
    (h : audio ∈ silentAudio total frame) :
    ∃ samples, 0 < samples ∧ samples ≤ frame ∧ audio = MuLaw.silence samples := by
  unfold silentAudio at h
  rcases List.mem_append.mp h with hfull | hrest
  · exact ⟨frame, hframe, le_rfl, List.eq_of_mem_replicate hfull⟩
  · split at hrest
    · cases hrest
    · next hpart =>
        exact ⟨total % frame, Nat.pos_of_ne_zero hpart, (Nat.mod_lt total hframe).le,
          List.mem_singleton.mp hrest⟩

/-- Silent audio holds silent samples only. -/
theorem eq_silent_of_mem
    {total frame : Nat} {byte : UInt8}
    (hframe : 0 < frame)
    (hbyte : byte ∈ (silentAudio total frame).flatten) :
    byte = 0xFF := by
  obtain ⟨audio, haudio, hbyte⟩ := List.mem_flatten.mp hbyte
  obtain ⟨samples, _, _, rfl⟩ := exists_silence_of_mem hframe haudio
  exact (List.eq_of_mem_replicate hbyte).trans silentByte_eq

/-- The silent audio of some milliseconds has a packet for each full frame, and one for the rest. -/
theorem silentAudio_mul (milliseconds packetMs : Nat) :
    silentAudio (8 * milliseconds) (8 * packetMs) =
      List.replicate (milliseconds / packetMs) (MuLaw.silence (8 * packetMs)) ++
        if milliseconds % packetMs = 0 then
          []
        else
          [MuLaw.silence (8 * (milliseconds % packetMs))] := by
  have hquotient : 8 * milliseconds / (8 * packetMs) = milliseconds / packetMs := by
    exact Nat.mul_div_mul_left milliseconds packetMs (by decide)
  have hremainder : 8 * milliseconds % (8 * packetMs) = 8 * (milliseconds % packetMs) := by
    exact Nat.mul_mod_mul_left 8 milliseconds packetMs
  have hzero : 8 * (milliseconds % packetMs) = 0 ↔ milliseconds % packetMs = 0 := by
    omega
  rw [silentAudio, hquotient, hremainder]
  simp only [hzero]

/-- A quotient is rounded up unless the division comes out even. -/
theorem add_sub_one_div
    {packetMs : Nat}
    (hpacket : 0 < packetMs)
    (milliseconds : Nat) :
    (milliseconds + packetMs - 1) / packetMs =
      milliseconds / packetMs + if milliseconds % packetMs = 0 then 0 else 1 := by
  have hdivision := Nat.div_add_mod milliseconds packetMs
  have hlt := Nat.mod_lt milliseconds hpacket
  split
  · exact Nat.div_eq_of_lt_le (by rw [Nat.add_zero, Nat.mul_comm]; omega)
      (by rw [Nat.add_zero, Nat.add_mul, Nat.mul_comm]; omega)
  · exact Nat.div_eq_of_lt_le (by rw [Nat.add_mul, Nat.mul_comm]; omega)
      (by rw [Nat.add_mul, Nat.add_mul, Nat.mul_comm]; omega)

theorem length_of_mem_replicate
    {count samples : Nat} {payload : Bytes}
    (h : payload ∈ List.replicate count (MuLaw.silence samples)) :
    payload.length = samples := by
  rw [List.eq_of_mem_replicate h, MuLaw.silence, List.length_replicate]

/-- The silent audio of some milliseconds fills its packets. -/
theorem fills_silentAudio
    {packetMs : Nat}
    (hpacket : 0 < packetMs)
    (milliseconds : Nat) :
    Fills milliseconds packetMs (silentAudio (8 * milliseconds) (8 * packetMs)) where
  count := by
    rw [silentAudio_mul, add_sub_one_div hpacket, List.length_append, List.length_replicate]
    split <;> rfl
  full := by
    intro payload hpayload
    rw [silentAudio_mul] at hpayload
    split at hpayload
    · rw [List.append_nil] at hpayload
      exact length_of_mem_replicate (List.dropLast_subset _ hpayload)
    · rw [List.dropLast_concat] at hpayload
      exact length_of_mem_replicate hpayload
  last := by
    intro payload hpayload
    rw [silentAudio_mul] at hpayload
    split at hpayload
    · rw [List.append_nil] at hpayload
      rw [length_of_mem_replicate (List.mem_of_getLast? hpayload)]
      omega
    · have hlt := Nat.mod_lt milliseconds hpacket
      rw [List.getLast?_concat, Option.mem_some_iff] at hpayload
      rw [← hpayload, MuLaw.silence, List.length_replicate]
      omega
  whole := by
    rw [List.length_flatten, length_silentAudio]
  silent := by
    intro byte hbyte
    exact eq_silent_of_mem (by omega) hbyte
  empty := by
    rintro rfl
    simp [silentAudio]

end Session

namespace Admitted

variable {profile : Profile} {packetMs : Nat}

theorem samplesFor_eq
    (h : Admitted profile packetMs)
    (milliseconds : Nat) :
    profile.samplesFor milliseconds = (8 * milliseconds : Nat) := by
  rw [Clocks.samplesFor_eq h.rate]
  rfl

theorem frameSamples_eq
    (h : Admitted profile packetMs) :
    profile.frameSamples = (8 * packetMs : Nat) := by
  unfold Profile.frameSamples
  rw [h.packet, h.samplesFor_eq]

theorem toneSamples_eq
    (h : Admitted profile packetMs) :
    profile.toneSamples = 2000 := by
  unfold Profile.toneSamples
  rw [h.tone]
  exact h.samplesFor_eq 250

theorem playable
    (h : Admitted profile packetMs) :
    Playable profile where
  rate := by
    rw [h.rate]
    decide
  frame := by
    have hleast := h.least
    rw [h.frameSamples_eq]
    omega
  tone := by
    rw [h.toneSamples_eq]
    decide
  reported := by
    rw [h.toneSamples_eq]
    decide

/-- The samples of some tokens are eight for each of their milliseconds. -/
theorem totalSamples_eq
    (h : Admitted profile packetMs)
    (tokens : List Token) :
    totalSamples profile tokens = 8 * (Timeline.ofTokens tokens).nominalMs 250 := by
  induction tokens with
  | nil =>
      rfl
  | cons token rest ih =>
      have htoken : samplesOf profile token = 8 * Entry.nominalMs 250 (.token token) := by
        cases token with
        | silence milliseconds =>
            rw [samplesOf, h.samplesFor_eq]
            rfl
        | tone digit =>
            exact h.toneSamples_eq
      have hrest : totalSamples profile (token :: rest) =
          samplesOf profile token + totalSamples profile rest := by
        exact List.sum_cons
      have hnominal : (Timeline.ofTokens (token :: rest)).nominalMs 250 =
          Entry.nominalMs 250 (.token token) + (Timeline.ofTokens rest).nominalMs 250 := by
        rfl
      rw [hrest, hnominal, htoken, ih, mul_add]

/-- The audio of a silence is that of its samples. -/
theorem audios_eq
    (h : Admitted profile packetMs)
    (milliseconds : Nat) :
    Clocks.audios profile milliseconds =
      Session.silentAudio (8 * milliseconds) (8 * packetMs) := by
  rw [Clocks.audios, h.samplesFor_eq, h.frameSamples_eq]
  rfl

end Admitted

/-- A place follows another one closely enough for its timestamp to tell how far. -/
def Near (a b : Int) : Prop :=
  a ≤ b ∧ b < a + 2 ^ 32

/-- Timestamps are unwrapped to the places that they stand for when these follow closely. -/
theorem unwrapped_eq
    {timestamp last place : Int} {cues : List Cue}
    (hlast : last % 2 ^ 32 = (timestamp + place) % 2 ^ 32)
    (hstamped : ∀ cue ∈ cues,
      cue.packet.timestamp % 2 ^ 32 = (timestamp + cue.origin) % 2 ^ 32)
    (hnear : (place :: cues.map Cue.origin).IsChain Near) :
    unwrapped last place (cues.map fun cue => cue.packet.onWire.timestamp) =
      cues.map Cue.origin := by
  induction cues generalizing last place with
  | nil =>
      rfl
  | cons cue rest ih =>
      have hread : cue.packet.onWire.timestamp = cue.packet.timestamp % 2 ^ 32 := by
        exact Bytes.natCast_wrapped 32 _
      have hcue := hstamped cue List.mem_cons_self
      rw [List.map_cons] at hnear
      obtain ⟨⟨hfrom, hto⟩, hrest⟩ := List.isChain_cons_cons.mp hnear
      have hplace :
          place + (cue.packet.onWire.timestamp - last) % 2 ^ 32 = cue.origin := by
        rw [hread]
        omega
      rw [List.map_cons, unwrapped, hplace, List.map_cons, List.cons.injEq]
      refine ⟨rfl, ih ?_ ?_ hrest⟩
      · rw [hread, Int.emod_emod_of_dvd _ dvd_rfl]
        exact hcue
      · intro later hlater
        exact hstamped later (List.mem_cons_of_mem cue hlater)

namespace Clocks

variable {profile : Profile} {packetMs : Nat} {timestamp : Int} {c : Clocks}

theorem isChain_audioCues
    {audios : List Bytes} {place : Int} {others : List Int}
    (hshort : ∀ audio ∈ audios, audio.length < 2 ^ 32)
    (hplace : Near place c.elapsed)
    (hothers : ∀ last, Near last (audios.foldl afterAudio c).elapsed →
      (last :: others).IsChain Near) :
    (place :: ((c.audioCues profile audios).map Cue.origin ++ others)).IsChain Near := by
  induction audios generalizing c place with
  | nil =>
      exact hothers place hplace
  | cons audio rest ih =>
      have hlength := hshort audio List.mem_cons_self
      refine List.isChain_cons_cons.mpr ⟨hplace, ih ?_ ?_ hothers⟩
      · intro later hlater
        exact hshort later (List.mem_cons_of_mem audio hlater)
      · change Near c.elapsed (c.elapsed + audio.length)
        unfold Near
        omega

theorem isChain_reportCues
    {digit : Digit} {first : Bool} {durations : List Nat} {place : Int} {others : List Int}
    (hsome : durations ≠ [])
    (hplace : Near place c.elapsed)
    (hothers : (c.elapsed :: others).IsChain Near) :
    (place :: ((c.reportCues profile digit first durations).map Cue.origin ++ others)).IsChain
      Near := by
  induction durations generalizing c place first with
  | nil =>
      exact absurd rfl hsome
  | cons duration rest ih =>
      refine List.isChain_cons_cons.mpr ⟨hplace, ?_⟩
      cases rest with
      | nil =>
          exact hothers
      | cons next later =>
          have hsame : Near c.elapsed c.afterReport.elapsed := by
            change Near c.elapsed c.elapsed
            unfold Near
            omega
          exact ih (List.cons_ne_nil next later) hsame hothers

/-- The audio of a silence comes in packets of some samples. -/
theorem length_of_mem_audios
    (h : Admitted profile packetMs)
    {milliseconds : Nat} {audio : Bytes}
    (haudio : audio ∈ audios profile milliseconds) :
    0 < audio.length ∧ audio.length ≤ 8 * packetMs := by
  have hleast := h.least
  rw [h.audios_eq] at haudio
  obtain ⟨samples, hpositive, hle, rfl⟩ := Session.exists_silence_of_mem (by omega) haudio
  rw [MuLaw.silence, List.length_replicate]
  exact ⟨hpositive, hle⟩

/-- The packets of some tokens follow each other closely. -/
theorem isChain_schedule
    (h : Admitted profile packetMs)
    {tokens : List Token} {place : Int}
    (hplace : Near place c.elapsed) :
    (place :: (c.schedule profile tokens).flatten.map Cue.origin).IsChain Near := by
  induction tokens generalizing c place with
  | nil =>
      exact .singleton place
  | cons token rest ih =>
      rw [schedule, List.flatten_cons, List.map_append]
      cases token with
      | silence milliseconds =>
          refine isChain_audioCues ?_ hplace fun last hlast => ih hlast
          intro audio haudio
          have hle := (length_of_mem_audios h haudio).2
          have hmost := h.most
          omega
      | tone digit =>
          refine isChain_reportCues (reports_ne_nil h.playable.tone) hplace (ih ?_)
          change Near c.elapsed (c.elapsed + profile.toneSamples)
          rw [h.toneSamples_eq]
          unfold Near
          omega

/-- The timestamp of every packet of some tokens stands for the place of its origin. -/
theorem origin_of_mem_schedule
    (hcoupled : c.Coupled timestamp)
    {tokens : List Token} {cue : Cue}
    (hcue : cue ∈ (c.schedule profile tokens).flatten) :
    cue.packet.timestamp % 2 ^ 32 = (timestamp + cue.origin) % 2 ^ 32 := by
  induction tokens generalizing c with
  | nil =>
      cases hcue
  | cons token rest ih =>
      rw [schedule, List.flatten_cons] at hcue
      rcases List.mem_append.mp hcue with hhead | hrest
      · cases token with
        | silence milliseconds =>
            rw [(audio_of_mem_audioCues hhead).1]
            exact stamped_of_mem_audioCues hcoupled hhead
        | tone digit =>
            obtain ⟨_, _, horigin, _, _, htimestamp, _⟩ := report_of_mem_reportCues hhead
            rw [horigin, htimestamp]
            exact hcoupled
      · exact ih (coupled_after hcoupled token) hrest

theorem tiles_audioCues
    (c : Clocks)
    {audios : List Bytes}
    (hfilled : ∀ audio ∈ audios, 0 < audio.length) :
    Tiles c.elapsed
      ((c.audioCues profile audios).map fun cue => ⟨cue.origin, cue.packet.payload.length⟩)
      (audios.foldl afterAudio c).elapsed := by
  induction audios generalizing c with
  | nil =>
      exact .done c.elapsed
  | cons audio rest ih =>
      refine .span ?_ (ih (c.afterAudio audio) ?_)
      · exact Int.natCast_pos.mpr (hfilled audio List.mem_cons_self)
      · intro later hlater
        exact hfilled later (List.mem_cons_of_mem audio hlater)

theorem payloads_audioCues (profile : Profile) (c : Clocks) (audios : List Bytes) :
    (c.audioCues profile audios).map (fun cue => cue.packet.payload) = audios := by
  induction audios generalizing c with
  | nil =>
      rfl
  | cons audio rest ih =>
      exact congrArg (audio :: ·) (ih (c.afterAudio audio))

/-- What is seen of a cue, and the place of its origin. -/
def stamp (session : Session) (cue : Cue) : Stamp :=
  ⟨session.sight cue, cue.origin⟩

/-- The spans of a token reach from the place before it to the place after it. -/
theorem tiles_cues
    (h : Admitted profile packetMs)
    (session : Session) (c : Clocks) (token : Token) :
    Tiles c.elapsed (spansOf token ((c.cues profile token).map (stamp session)))
      (c.after profile token).elapsed := by
  cases token with
  | silence milliseconds =>
      rw [spansOf, List.map_map]
      apply tiles_audioCues c
      intro audio haudio
      exact (length_of_mem_audios h haudio).1
  | tone digit =>
      obtain ⟨first, rest, hreports⟩ := List.exists_cons_of_ne_nil (reports_ne_nil h.playable.tone)
      have hafter : (c.after profile (.tone digit)).elapsed = c.elapsed + 2000 := by
        rw [elapsed_after h.playable, samplesOf, h.toneSamples_eq]
      have hspans :
          spansOf (.tone digit) ((c.cues profile (.tone digit)).map (stamp session)) =
            [⟨c.elapsed, 2000⟩] := by
        rw [cues, hreports]
        rfl
      rw [hspans, hafter]
      exact .span (by decide) (.done _)

/-- The spans of some tokens tile their samples. -/
theorem tiles_schedule
    (h : Admitted profile packetMs)
    (session : Session) (c : Clocks) (tokens : List Token) :
    Tiles c.elapsed
      (List.zipWith spansOf tokens
        ((c.schedule profile tokens).map (List.map (stamp session)))).flatten
      (c.elapsed + totalSamples profile tokens) := by
  rw [← elapsed_afterAll h.playable]
  induction tokens generalizing c with
  | nil =>
      exact .done c.elapsed
  | cons token rest ih =>
      rw [schedule, List.map_cons, List.zipWith_cons_cons, List.flatten_cons]
      exact (tiles_cues h session c token).append (ih (c.after profile token))

/-- A token sends what it should. -/
theorem sends_cues
    (h : Admitted profile packetMs)
    (session : Session) (c : Clocks) (token : Token) :
    Sends profile packetMs ((c.cues profile token).map (stamp session)) token := by
  cases token with
  | silence milliseconds =>
      have hleast := h.least
      refine ⟨?_, ?_⟩
      · have hpayloads :
            ((c.cues profile (.silence milliseconds)).map (stamp session)).map
                (fun s => s.sighting.packet.payload) =
              Session.silentAudio (8 * milliseconds) (8 * packetMs) := by
          rw [List.map_map, ← h.audios_eq]
          exact payloads_audioCues profile c (audios profile milliseconds)
        rw [hpayloads]
        exact Session.fills_silentAudio (by omega) milliseconds
      · intro s hs
        obtain ⟨cue, hcue, rfl⟩ := List.mem_map.mp hs
        rw [stamp, session.sight_payloadType, (audio_of_mem_audioCues hcue).2]
  | tone digit =>
      obtain ⟨first, rest, hreports⟩ := List.exists_cons_of_ne_nil (reports_ne_nil h.playable.tone)
      refine ⟨stamp session (c.reportCue profile digit true first),
        (c.afterReport.reportCues profile digit false rest).map (stamp session), ?_, ?_⟩
      · rw [cues, hreports]
        rfl
      · intro s hs
        obtain ⟨cue, hcue, rfl⟩ := List.mem_map.mp hs
        obtain ⟨_, _, horigin, _, htype, _⟩ := report_of_mem_reportCues hcue
        exact ⟨horigin, by rw [stamp, session.sight_payloadType, htype]⟩

end Clocks

namespace Encoder

variable {encoder : Encoder} {clock : Clock} {tokens : List Token} {encoded : Encoded}
variable {packetMs : Nat}

/--
**A capture tiles its timeline.**  Read as places from the first timestamp on, the packets of audio
and the tones fill spans of samples that follow each other from the beginning to the end of the
timeline, without a gap and without an overlap.  A silence is sent as full packets and a rest, all
of them silent.
-/
theorem tiling_of_encode
    (hprofile : Admitted encoder.profile packetMs)
    (hencoded : encoder.encode clock (.ofTokens tokens) = .ok encoded) :
    ∃ shares : List (List Stamp),
      sightings? encoded.bytes = some (shares.flatten.map Stamp.sighting) ∧
      encoder.Shares clock tokens (shares.map (List.map Stamp.sighting)) ∧
      shares.flatten.map Stamp.place =
        unwrapped clock.timestamp 0
          (shares.flatten.map fun s => s.sighting.packet.timestamp) ∧
      Tiles 0 (List.zipWith spansOf tokens shares).flatten
        (8 * (Timeline.ofTokens tokens).nominalMs 250) ∧
      ∀ (k : Nat) token share, tokens[k]? = some token → shares[k]? = some share →
        Sends encoder.profile packetMs share token := by
  obtain ⟨startUsec, _, hshares⟩ := shares_of_encode hencoded
  let session := encoder.session startUsec
  let start := encoder.start clock
  let cues := start.schedule encoder.profile tokens
  have hflatten :
      (cues.map (List.map (Clocks.stamp session))).flatten =
        cues.flatten.map (Clocks.stamp session) := by
    exact List.map_flatten.symm
  have hstamps :
      (cues.map (List.map (Clocks.stamp session))).map (List.map Stamp.sighting) =
        cues.map (List.map session.sight) := by
    simp [Clocks.stamp, Function.comp_def]
  have hstart : start.elapsed = 0 := by
    rfl
  rw [← hstamps] at hshares
  refine ⟨cues.map (List.map (Clocks.stamp session)), ?_, hshares, ?_, ?_, ?_⟩
  · rw [hshares.sightings hencoded, List.map_flatten]
  · have hcoupled := coupled_start encoder clock
    have hnear : Near 0 start.elapsed := by
      rw [hstart]
      unfold Near
      decide
    rw [hflatten, List.map_map, List.map_map]
    exact (unwrapped_eq (by rw [add_zero])
      (fun cue hcue => Clocks.origin_of_mem_schedule hcoupled hcue)
      (Clocks.isChain_schedule hprofile hnear)).symm
  · have htiles := Clocks.tiles_schedule hprofile session start tokens
    rw [hstart, zero_add, hprofile.totalSamples_eq] at htiles
    exact htiles
  · intro k token share htoken hshare
    rw [List.getElem?_map, Clocks.getElem?_schedule, htoken] at hshare
    cases hshare
    exact Clocks.sends_cues hprofile session _ token

/-- A key before a short silence, while the timestamp goes round. -/
theorem tiling_of_encode_while_wrapping :
    let encoder : Encoder :=
      .between "10.0.0.1" 4000 "10.0.0.2" 4002 { Profile.standard with packetMs := 100 }
    let clock : Clock := ⟨7, 0, 2 ^ 32 - 1000, .integer 0⟩
    let tokens : List Token := [.silence 0, .tone .pound, .silence 11]
    ∃ encoded, encoder.encode clock (.ofTokens tokens) = .ok encoded ∧ encoded.packets = 6 ∧
      ∃ shares : List (List Stamp),
        sightings? encoded.bytes = some (shares.flatten.map Stamp.sighting) ∧
        Tiles 0 (List.zipWith spansOf tokens shares).flatten 2088 := by
  intro encoder clock tokens
  have hpackets :
      (encoder.encode clock (.ofTokens tokens)).toOption.map Encoded.packets = some 6 := by
    decide +kernel
  have hprofile : Admitted encoder.profile 100 := by
    exact ⟨rfl, rfl, rfl, by decide, by decide⟩
  cases hencoded : encoder.encode clock (.ofTokens tokens) with
  | error fault =>
      rw [hencoded] at hpackets
      cases hpackets
  | ok encoded =>
      rw [hencoded] at hpackets
      obtain ⟨shares, hsightings, _, _, htiles, _⟩ := tiling_of_encode hprofile hencoded
      exact ⟨encoded, rfl, Option.some.inj hpackets, shares, hsightings, htiles⟩

end Encoder
end Capture
end CallScript
