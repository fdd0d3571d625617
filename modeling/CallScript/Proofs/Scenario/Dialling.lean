import CallScript.Proofs.Capture.Timing
import CallScript.Proofs.Scenario.Course

/-!
# Dialled digits in captures

Each tone is announced by the first packet that reports it: of all packets of its type this one
alone has a marker.  The codes in these packets are those of the digits that were sent.

Main statements:
* `Clocks.announced_schedule`: the packets of some tokens announce the keys of their tones.
* `Scenario.dialled_of_capture`: whatever a call was built from, its capture announces exactly the
  digits that were sent, in their order.
-/

namespace CallScript

open Media

namespace Capture

namespace Sighting

/-- Holds of the packets of a type that have a marker. -/
def announces (payloadType : Int) (s : Sighting) : Bool :=
  s.packet.payloadType = payloadType && s.packet.marker

/-- The key whose code stands in the event of a packet. -/
def key? (s : Sighting) : Option Digit :=
  match Rtp.Event.decode s.packet.payload with
  | .ok event => Digit.ofCode? event.code.toNat
  | .error _ => none

end Sighting

/-- The keys that the packets of a type announce, if all of them announce keys. -/
def announced? (payloadType : Int) (seen : List Sighting) : Option (List Digit) :=
  (seen.filter (Sighting.announces payloadType)).mapM Sighting.key?

/-- The digits that a capture announces in packets of a type. -/
def dialled? (payloadType : Int) (bytes : Bytes) : Option Text :=
  ((sightings? bytes).bind (announced? payloadType)).map Digit.textOf

theorem announced?_append
    {payloadType : Int} {first second : List Sighting} {keys others : List Digit}
    (hfirst : announced? payloadType first = some keys)
    (hsecond : announced? payloadType second = some others) :
    announced? payloadType (first ++ second) = some (keys ++ others) := by
  unfold announced? at hfirst hsecond ⊢
  rw [List.filter_append, List.mapM_append, hfirst, hsecond]
  rfl

/-- Packets that announce nothing announce no keys. -/
theorem announced?_of_silent
    {payloadType : Int} {seen : List Sighting}
    (h : ∀ s ∈ seen, s.announces payloadType = false) :
    announced? payloadType seen = some [] := by
  have hnone : seen.filter (Sighting.announces payloadType) = [] := by
    rw [List.filter_eq_nil_iff]
    intro s hs
    rw [h s hs]
    exact Bool.false_ne_true
  rw [announced?, hnone]
  rfl

namespace Clocks

variable {profile : Profile} (session : Session)

/-- The first report of a tone announces its key. -/
theorem announced_reportCue
    (c : Clocks) (digit : Digit) (duration : Nat) :
    announced? (profile.eventPayloadType % 2 ^ 7)
        [session.sight (c.reportCue profile digit true duration)] = some [digit] := by
  have hannounces :
      (session.sight (c.reportCue profile digit true duration)).announces
        (profile.eventPayloadType % 2 ^ 7) = true := by
    rw [Sighting.announces, session.sight_payloadType, session.sight_marker]
    simp [reportCue, Rtp.Stream.packet]
  have hcode : (report profile digit duration).onWire.code = digit.code := by
    have hlt := digit.code_lt
    change ((Bytes.wrapped 8 (digit.code : Int) : Nat) : Int) = digit.code
    rw [Bytes.natCast_wrapped]
    omega
  have hkey :
      (session.sight (c.reportCue profile digit true duration)).key? = some digit := by
    change (match Rtp.Event.decode (report profile digit duration).encode with
      | .ok event => Digit.ofCode? event.code.toNat
      | .error _ => none) = some digit
    rw [Rtp.Event.decode_encode]
    change Digit.ofCode? (report profile digit duration).onWire.code.toNat = some digit
    rw [hcode, Int.toNat_natCast, Digit.ofCode?_code]
  rw [announced?, List.filter_cons_of_pos hannounces, List.filter_nil, List.mapM_cons, hkey]
  rfl

/-- The packets of a token announce its key, if it has one. -/
theorem announced_cues
    (htypes : profile.audioPayloadType % 2 ^ 7 ≠ profile.eventPayloadType % 2 ^ 7)
    (htone : 0 < profile.toneSamples)
    (c : Clocks) (token : Token) :
    announced? (profile.eventPayloadType % 2 ^ 7)
        ((c.cues profile token).map session.sight) = some token.key?.toList := by
  cases token with
  | silence milliseconds =>
      apply announced?_of_silent
      intro s hs
      obtain ⟨cue, hcue, rfl⟩ := List.mem_map.mp hs
      rw [Sighting.announces, session.sight_payloadType, (audio_of_mem_audioCues hcue).2,
        decide_eq_false htypes, Bool.false_and]
  | tone digit =>
      obtain ⟨first, rest, hreports⟩ := List.exists_cons_of_ne_nil (reports_ne_nil htone)
      have hcues :
          (c.cues profile (.tone digit)).map session.sight =
            [session.sight (c.reportCue profile digit true first)] ++
              (c.afterReport.reportCues profile digit false rest).map session.sight := by
        rw [cues, hreports]
        rfl
      have hsilent :
          announced? (profile.eventPayloadType % 2 ^ 7)
            ((c.afterReport.reportCues profile digit false rest).map session.sight) =
              some [] := by
        apply announced?_of_silent
        intro s hs
        obtain ⟨cue, hcue, rfl⟩ := List.mem_map.mp hs
        rw [Sighting.announces, session.sight_marker, marker_of_mem_reportCues hcue,
          Bool.and_false]
      rw [hcues]
      exact announced?_append (announced_reportCue session c digit first) hsilent

/-- The packets of some tokens announce the keys of their tones. -/
theorem announced_schedule
    (htypes : profile.audioPayloadType % 2 ^ 7 ≠ profile.eventPayloadType % 2 ^ 7)
    (htone : 0 < profile.toneSamples)
    (c : Clocks) (tokens : List Token) :
    announced? (profile.eventPayloadType % 2 ^ 7)
        ((c.schedule profile tokens).flatten.map session.sight) =
      some (tokens.filterMap Token.key?) := by
  induction tokens generalizing c with
  | nil =>
      rfl
  | cons token rest ih =>
      have hkeys :
          (token :: rest).filterMap Token.key? =
            token.key?.toList ++ rest.filterMap Token.key? := by
        cases token with
        | silence milliseconds =>
            rfl
        | tone digit =>
            rfl
      rw [schedule, List.flatten_cons, List.map_append, hkeys]
      exact announced?_append (announced_cues session htypes htone c token)
        (ih (c.after profile token))

end Clocks
end Capture

namespace Passage

/-- The tones of a passage are those of the keys that it dials. -/
theorem keys_tokens (s : Scenario) (passage : Passage) :
    (s.dialAt passage.dialled?).flatMap Dialling.digits =
      Digit.textOf (passage.tokens.filterMap Token.key?) := by
  cases passage with
  | signal steps timeless =>
      rfl
  | rest milliseconds =>
      rfl
  | dial keys gapMs =>
      have hkeys :
          (dial keys gapMs).tokens.filterMap Token.key? = keys := by
        unfold tokens
        induction keys with
        | nil =>
            rfl
        | cons key rest ih =>
            exact congrArg (key :: ·) ih
      rw [hkeys]
      exact List.append_nil _

end Passage

namespace Scenario

/-- The digits that some passages dial are the keys of their tones. -/
theorem digits_trail (s : Scenario) (passages : List Passage) :
    (s.trail passages).flatMap Dialling.digits =
      Digit.textOf ((passages.flatMap Passage.tokens).filterMap Token.key?) := by
  induction passages generalizing s with
  | nil =>
      rfl
  | cons passage rest ih =>
      rw [trail, List.flatMap_append, Passage.keys_tokens, ih, List.flatMap_cons,
        List.filterMap_append, Digit.textOf_append]

/--
**Digits survive.**  Whatever was done with a scenario, failing calls included, if it has a capture
then the packets of telephone events with a marker announce exactly the digits that were sent, as
they were written, in their order.
-/
theorem dialled_of_capture
    {settings : Settings} {name : Option Text} {source destination fromUser : Value}
    {start : Scenario}
    (hstart : Scenario.create settings name source destination fromUser = .ok start)
    (moves : List Move)
    {clock : Capture.Clock} {encoded : Capture.Encoded}
    (hcapture : (start.run moves).capture clock = .ok encoded) :
    Capture.dialled? Media.eventType encoded.bytes =
      some ((start.sent moves).flatMap Dialling.digits) := by
  obtain ⟨_, htimeline, _⟩ := fresh_of_create hstart
  obtain ⟨passages, hrun, hsent⟩ := run_eq_extended start moves
  have hencoded :
      start.encoder.encode clock (.ofTokens (passages.flatMap Passage.tokens)) =
        .ok encoded := by
    rw [hrun] at hcapture
    rw [← hcapture]
    unfold capture extended Timeline.extend
    rw [htimeline]
    rfl
  obtain ⟨startUsec, _, _, hsightings⟩ := Capture.Encoder.sightings_of_encode hencoded
  have htypes :
      start.profile.audioPayloadType % 2 ^ 7 ≠ start.profile.eventPayloadType % 2 ^ 7 := by
    change audioType % 2 ^ 7 ≠ eventType % 2 ^ 7
    decide
  have htone : 0 < start.profile.toneSamples := by
    change 0 < Profile.standard.toneSamples
    decide
  have hannounced :
      Capture.announced? eventType
          (((start.encoder.start clock).schedule start.profile
              (passages.flatMap Passage.tokens)).flatten.map
            (start.encoder.session startUsec).sight) =
        some ((passages.flatMap Passage.tokens).filterMap Token.key?) := by
    exact Capture.Clocks.announced_schedule _ htypes htone _ _
  have hprofile : start.encoder.profile = start.profile := by
    rfl
  rw [Capture.dialled?, hsightings, hsent, digits_trail, Option.bind_some, hprofile, hannounced]
  rfl

/-- A course in which a call fails between digits that are sent without silence after them. -/
theorem dialled_of_capture_between_failures :
    let moves : List Move :=
      [ .call .sendDigits ⟨[.text "1*", .integer 0], []⟩,
        .call .sendDigits ⟨[.text "4X"], []⟩,
        .manifest [.map [(.text "send_digits", .list [.text "#", .integer 0])]] ]
    let clock : Capture.Clock := ⟨7, 65535, 2 ^ 32 - 4, .integer 0⟩
    ∃ encoded,
      (sample.run moves).capture clock = .ok encoded ∧
      Capture.dialled? Media.eventType encoded.bytes = some (Text.ofString "1*#") := by
  intro moves clock
  have hok : ((sample.run moves).capture clock).isOk = true := by
    decide +kernel
  have hsent : (sample.sent moves).flatMap Dialling.digits = Text.ofString "1*#" := by
    decide +kernel
  cases hcapture : (sample.run moves).capture clock with
  | error fault =>
      rw [hcapture] at hok
      cases hok
  | ok encoded =>
      have hdialled := dialled_of_capture create_sample moves hcapture
      rw [hsent] at hdialled
      exact ⟨encoded, rfl, hdialled⟩

end Scenario
end CallScript
