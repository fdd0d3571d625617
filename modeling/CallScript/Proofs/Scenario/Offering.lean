import CallScript.Proofs.Capture.Tiling
import CallScript.Proofs.Scenario.Extent
import CallScript.Proofs.Sip.Offer

/-!
# Captures against the offers of their calls

An INVITE offers formats for audio and maps payload types to encodings with a clock rate.  Every
packet of a capture has a type that is mapped to the rate of its clock, but only packets of audio
have a type that the offer lists as a format.

Main statements:
* `Capture.Row.offered_of_stamped`: the types of packets against the offer of audio.
* `Capture.Clocks.keepsTime_of_mem_cues`: the packets of a token keep time at the standard rate.
* `Scenario.mapped_of_capture`: the packets of a capture against the offer of an INVITE.
* `Scenario.unlisted_of_key`: a key is sent in packets of a type that the offer does not list.
-/

namespace CallScript

open Media

namespace Capture

/--
A packet keeps time at a rate between two times in milliseconds: it is seen when the samples before
its place have passed at that rate, and its place lies between those of the two times.
-/
structure Row.KeepsTime (rate startUsec startMs stopMs : Int) (row : Row) : Prop where
  time : row.sighting.time = startUsec + Int.fdiv (row.place * 1000000) rate
  start : rate * startMs ≤ 1000 * row.place
  stop : 1000 * row.place ≤ rate * stopMs

/-- A packet of a token has a type that is mapped, and one that is listed unless it is an event. -/
theorem Row.offered_of_stamped
    {profile : Profile} {timestamp : Int} {row : Row} {token : Token}
    (haudio : profile.audioPayloadType = audioType)
    (hevent : profile.eventPayloadType = eventType)
    (h : row.Stamped profile timestamp token) :
    (row.sighting.packet.payloadType ∈ Sip.audioOffer.formats ↔ token.key? = none) ∧
    ∃ mapping ∈ Sip.audioOffer.mappings,
      mapping.payloadType = row.sighting.packet.payloadType ∧ mapping.rate = clockRate := by
  cases token with
  | silence milliseconds =>
      have htype : row.sighting.packet.payloadType = audioType := by
        rw [h.1, haudio]
        rfl
      rw [htype]
      refine ⟨by simp [Sip.audioOffer, Token.key?], ⟨audioType, "PCMU", clockRate⟩, ?_, rfl, rfl⟩
      simp [Sip.audioOffer]
  | tone digit =>
      have htype : row.sighting.packet.payloadType = eventType := by
        rw [h.1, hevent]
        rfl
      have hunlisted : eventType ∉ Sip.audioOffer.formats := by
        decide
      rw [htype]
      refine ⟨by simp [hunlisted, Token.key?], ⟨eventType, "telephone-event", clockRate⟩, ?_, rfl,
        rfl⟩
      simp [Sip.audioOffer]

namespace Clocks

variable {packetMs : Nat} (session : Session)

/-- The packets of a token keep time at the standard rate, between the tokens around it. -/
theorem keepsTime_of_mem_cues
    (hprofile : Admitted session.profile packetMs)
    {c : Clocks} {before : List Token} {token : Token} {cue : Cue}
    (helapsed : c.elapsed = totalSamples session.profile before)
    (hcue : cue ∈ c.cues session.profile token) :
    Row.KeepsTime clockRate session.startUsec
      ((Timeline.ofTokens before).nominalMs 250)
      ((Timeline.ofTokens (before ++ [token])).nominalMs 250)
      ⟨session.sight cue, cue.place⟩ := by
  obtain ⟨hstart, hstop⟩ := place_of_mem_cues hprofile.playable hcue
  have hbefore := hprofile.totalSamples_eq before
  have hbehind := hprofile.totalSamples_eq (before ++ [token])
  have htotal :
      totalSamples session.profile (before ++ [token]) =
        totalSamples session.profile before + samplesOf session.profile token := by
    simp [totalSamples]
  have hrate : clockRate = 8000 := by
    rfl
  constructor
  · change session.timeAt cue.place = _
    rw [Session.timeAt, hprofile.rate]
    rfl
  · simp only [hrate]
    omega
  · simp only [hrate]
    omega

end Clocks
end Capture

namespace Scenario

/-- The profile of a scenario with checked settings is one that settings admit. -/
theorem admitted_of_create
    {given : Settings.Source} {settings : Settings}
    {name : Option Text} {source destination fromUser : Value} {start : Scenario}
    (hsettings : Settings.ofSource given = .ok settings)
    (hstart : create settings name source destination fromUser = .ok start) :
    Capture.Admitted start.encoder.profile settings.packetIntervalMs.toNat := by
  obtain ⟨hleast, hmost⟩ := Settings.packetIntervalMs_of_ofSource hsettings
  obtain ⟨rfl, _, _⟩ := parties_of_create hstart
  refine ⟨rfl, rfl, ?_, by omega, by omega⟩
  change start.settings.packetIntervalMs = _
  omega

/--
**Captures keep to the mappings of the offer.**  Whatever was done with a scenario that has checked
settings, and whoever the caller is, an INVITE offers formats and mappings such that every packet
of the capture has a type that is mapped to the rate at which its timestamps advance.  A type is
listed as a format only when its packet carries audio.
-/
theorem mapped_of_capture
    {given : Settings.Source} {settings : Settings}
    {name : Option Text} {source destination fromUser : Value} {start : Scenario}
    (hsettings : Settings.ofSource given = .ok settings)
    (hstart : create settings name source destination fromUser = .ok start)
    (moves : List Move)
    {clock : Capture.Clock} {encoded : Capture.Encoded}
    (hcapture : (start.run moves).capture clock = .ok encoded)
    (caller : Text) :
    ∃ (offer : Sip.Offer) (tokens : List Token) (startUsec : Int)
      (rows : List (List Capture.Row)),
      Sip.offer? (Sip.invite caller) = some offer ∧
      (start.run moves).timeline = .ofTokens tokens ∧
      Capture.toMicroseconds clock.time = .ok startUsec ∧
      start.encoder.Shares clock tokens (rows.map (List.map Capture.Row.sighting)) ∧
      Capture.sightings? encoded.bytes = some (rows.flatten.map Capture.Row.sighting) ∧
      ∀ (k : Nat) token share, tokens[k]? = some token → rows[k]? = some share → ∀ row ∈ share,
        row.Stamped start.profile clock.timestamp token ∧
        (row.sighting.packet.payloadType ∈ offer.formats ↔ token.key? = none) ∧
        ∃ mapping ∈ offer.mappings,
          mapping.payloadType = row.sighting.packet.payloadType ∧
          row.KeepsTime mapping.rate startUsec
            ((Timeline.ofTokens (tokens.take k)).nominalMs 250)
            ((Timeline.ofTokens (tokens.take (k + 1))).nominalMs 250) := by
  have hprofile := admitted_of_create hsettings hstart
  obtain ⟨tokens, htimeline, hencoder⟩ := timeline_run hstart moves
  have hencoded : start.encoder.encode clock (.ofTokens tokens) = .ok encoded := by
    rw [← hcapture, capture, hencoder, htimeline]
  obtain ⟨startUsec, htime, hshares⟩ := Capture.Encoder.shares_of_encode hencoded
  let session := start.encoder.session startUsec
  let row (cue : Capture.Cue) : Capture.Row := ⟨session.sight cue, cue.place⟩
  let cues := (start.encoder.start clock).schedule start.encoder.profile tokens
  have hrows :
      (cues.map (List.map row)).map (List.map Capture.Row.sighting) =
        cues.map (List.map session.sight) := by
    simp [row, Function.comp_def]
  rw [← hrows] at hshares
  refine ⟨_, tokens, startUsec, cues.map (List.map row), Sip.offer?_invite caller, htimeline, htime,
    hshares, ?_, ?_⟩
  · rw [hshares.sightings hencoded, List.map_flatten]
  · intro k token share htoken hshare r hr
    rw [List.getElem?_map, Capture.Clocks.getElem?_schedule, htoken] at hshare
    cases hshare
    obtain ⟨cue, hcue, rfl⟩ := List.mem_map.mp hr
    have hcoupled :
        ((start.encoder.start clock).afterAll start.profile (tokens.take k)).Coupled
          clock.timestamp := by
      exact Capture.Clocks.coupled_afterAll
        (Capture.Encoder.coupled_start start.encoder clock) (tokens.take k)
    have helapsed :=
      Capture.Clocks.elapsed_afterAll hprofile.playable (start.encoder.start clock) (tokens.take k)
    rw [show (start.encoder.start clock).elapsed = 0 by rfl, zero_add] at helapsed
    have hstamped :=
      Capture.Clocks.stamped_of_mem_cues hprofile.playable hcoupled session hcue
    have hkeeps := Capture.Clocks.keepsTime_of_mem_cues session hprofile helapsed hcue
    have hnext : tokens.take (k + 1) = tokens.take k ++ [token] := by
      rw [List.take_add_one, htoken]
      rfl
    rw [← hnext] at hkeeps
    obtain ⟨hlisted, mapping, hmapping, htype, hrate⟩ :=
      Capture.Row.offered_of_stamped rfl rfl hstamped
    rw [← hrate] at hkeeps
    exact ⟨hstamped, hlisted, mapping, hmapping, htype, hkeeps⟩

/-- A course in which a call fails between an INVITE, silence and a key. -/
theorem mapped_of_capture_between_failures :
    let moves : List Move :=
      [ .call .invite ⟨[], []⟩,
        .call .sleep ⟨[.integer 1], []⟩,
        .call .sendDigits ⟨[.text "4X"], []⟩,
        .call .sendDigits ⟨[.text "#", .integer 0], []⟩ ]
    let clock : Capture.Clock := ⟨7, 65535, 2 ^ 32 - 4, .integer 0⟩
    ∃ (encoded : Capture.Encoded) (offer : Sip.Offer) (rows : List (List Capture.Row)),
      (sample.run moves).capture clock = .ok encoded ∧
      Sip.offer? (Sip.invite "sipp") = some offer ∧
      Capture.sightings? encoded.bytes = some (rows.flatten.map Capture.Row.sighting) ∧
      ∀ share, rows[1]? = some share → ∀ row ∈ share,
        row.sighting.packet.payloadType ∉ offer.formats ∧
        ∃ mapping ∈ offer.mappings,
          mapping.payloadType = row.sighting.packet.payloadType ∧
          row.KeepsTime mapping.rate 0 1000 1250 := by
  intro moves clock
  have hsettings : Settings.ofSource ⟨[], [], []⟩ = .ok .standard := by
    rfl
  have hok : ((sample.run moves).capture clock).isOk = true := by
    decide +kernel
  have htimeline :
      (sample.run moves).timeline = .ofTokens [.silence 1000, .tone .pound, .silence 0] := by
    rfl
  cases hcapture : (sample.run moves).capture clock with
  | error fault =>
      rw [hcapture] at hok
      cases hok
  | ok encoded =>
      obtain ⟨offer, tokens, startUsec, rows, hoffer, htokens, htime, _, hseen, hmapped⟩ :=
        mapped_of_capture hsettings create_sample moves hcapture "sipp"
      cases Timeline.ofTokens_injective (htimeline.symm.trans htokens)
      cases htime
      refine ⟨encoded, offer, rows, rfl, hoffer, hseen, ?_⟩
      intro share hshare row hrow
      obtain ⟨_, hlisted, hmapping⟩ := hmapped 1 (.tone .pound) share rfl hshare row hrow
      exact ⟨by simp [hlisted, Token.key?], hmapping⟩

/-- A key behind an INVITE: its packets have a type that the offer maps but does not list. -/
theorem unlisted_of_key :
    let moves : List Move :=
      [.call .invite ⟨[], []⟩, .call .sendDigits ⟨[.text "1"], []⟩]
    let clock : Capture.Clock := ⟨7, 65535, 2 ^ 32 - 4, .integer 0⟩
    ∃ (encoded : Capture.Encoded) (offer : Sip.Offer) (seen : List Capture.Sighting),
      (sample.run moves).capture clock = .ok encoded ∧
      Sip.offer? (Sip.invite "sipp") = some offer ∧
      Capture.sightings? encoded.bytes = some seen ∧
      ∃ sighting ∈ seen, sighting.packet.payloadType ∉ offer.formats := by
  intro moves clock
  have hok : ((sample.run moves).capture clock).isOk = true := by
    decide +kernel
  have htimeline :
      (sample.run moves).timeline = .ofTokens [.tone (.number 1), .silence 250] := by
    rfl
  have hencoder : (sample.run moves).encoder = sample.encoder := by
    rfl
  cases hcapture : (sample.run moves).capture clock with
  | error fault =>
      rw [hcapture] at hok
      cases hok
  | ok encoded =>
      have hencoded := hcapture
      rw [capture, htimeline, hencoder] at hencoded
      obtain ⟨startUsec, _, _, hseen⟩ := Capture.Encoder.sightings_of_encode hencoded
      have hunlisted : eventType ∉ Sip.audioOffer.formats := by
        decide
      refine ⟨encoded, _, _, rfl, Sip.offer?_invite "sipp", hseen, ?_⟩
      apply Exists.intro
      constructor
      · apply List.mem_map_of_mem
        exact List.mem_flatten_of_mem List.mem_cons_self List.mem_cons_self
      · exact hunlisted

end Scenario
end CallScript
