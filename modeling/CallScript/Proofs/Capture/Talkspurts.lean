import CallScript.Proofs.Capture.Timing

/-!
# Talkspurts

Audio that is heard anew begins with a marker: at the start of a capture, and wherever audio
follows a tone.  Silence goes on without a marker, however it is cut into tokens.

Main statements:
* `Clocks.marked_cues`: a token sets the markers of its audio as the clocks before it ask, and
  leaves the clocks asking for what its last packet leaves.
* `Encoder.marker_of_encode`: an audio packet of a capture has a marker exactly when it is the
  first record or follows a telephone event.
-/

namespace CallScript
namespace Capture

open Media

/-- What is seen of a record, and the token that sent it. -/
structure Sending where
  token : Token
  sighting : Sighting

namespace Sending

/-- Holds of packets of audio. -/
def isAudio (sending : Sending) : Bool :=
  match sending.token with
  | .silence _ => true
  | .tone _ => false

/-- Holds of telephone events. -/
def isEvent (sending : Sending) : Bool :=
  !sending.isAudio

/-- The payload type of the packets of a token. -/
def payloadType (profile : Profile) (sending : Sending) : Int :=
  if sending.isAudio then profile.audioPayloadType else profile.eventPayloadType

/-- What each token sends, when it has a share of a capture. -/
def ofShares (tokens : List Token) (shares : List (List Sighting)) : List Sending :=
  (List.zipWith (fun token share => share.map (Sending.mk token)) tokens shares).flatten

/-- Nothing is seen but what the tokens send, when each of them has a share. -/
theorem map_sighting_ofShares
    {tokens : List Token} {shares : List (List Sighting)}
    (h : shares.length = tokens.length) :
    (ofShares tokens shares).map Sending.sighting = shares.flatten := by
  induction tokens generalizing shares with
  | nil =>
      rw [List.length_nil, List.length_eq_zero_iff] at h
      rw [h]
      rfl
  | cons token rest ih =>
      cases shares with
      | nil =>
          cases h
      | cons share others =>
          have hrest := ih (Nat.succ.inj h)
          rw [ofShares] at hrest ⊢
          simp [hrest, Function.comp_def]

/--
The markers of audio, when a talkspurt is due or not before it: the first packet has one when it is
due, and it is due again behind every telephone event and behind no audio.
-/
def Marked : Bool → List Sending → Prop
  | _, [] => True
  | due, sending :: rest =>
      (sending.isAudio = true → sending.sighting.packet.marker = due) ∧
        Marked sending.isEvent rest

/-- In a marked row, audio has a marker when it follows an event, or stands first when one is due. -/
theorem marker_of_marked
    {due : Bool} {row : List Sending} {i : Nat} {sending : Sending}
    (h : Marked due row)
    (hfound : row[i]? = some sending)
    (haudio : sending.isAudio = true) :
    sending.sighting.packet.marker = true ↔
      i = 0 ∧ due = true ∨
      ∃ j before, i = j + 1 ∧ row[j]? = some before ∧ before.isEvent = true := by
  induction row generalizing due i with
  | nil =>
      cases hfound
  | cons first rest ih =>
      obtain ⟨hfirst, hrest⟩ := h
      cases i with
      | zero =>
          obtain rfl := Option.some.inj hfound
          rw [hfirst haudio]
          simp
      | succ i =>
          rw [ih hrest hfound]
          cases i with
          | zero =>
              simp
          | succ i =>
              simp

end Sending

namespace Clocks

open Sending

variable {profile : Profile} (session : Session)

/-- What a token sends with some cues. -/
def sendings (token : Token) (cues : List Cue) : List Sending :=
  cues.map fun cue => ⟨token, session.sight cue⟩

theorem marked_audioCues
    {c : Clocks} {milliseconds : Nat} {audios : List Bytes} {rest : List Sending}
    (h : Marked (audios.foldl afterAudio c).talkspurt rest) :
    Marked c.talkspurt
      (sendings session (.silence milliseconds) (c.audioCues profile audios) ++ rest) := by
  induction audios generalizing c with
  | nil =>
      exact h
  | cons audio later ih =>
      exact ⟨fun _ => rfl, ih h⟩

theorem marked_reportCues
    {c : Clocks} {digit : Digit} {due first : Bool} {durations : List Nat} {rest : List Sending}
    (hsome : durations ≠ [])
    (h : Marked true rest) :
    Marked due
      (sendings session (.tone digit) (c.reportCues profile digit first durations) ++ rest) := by
  induction durations generalizing c due first with
  | nil =>
      exact absurd rfl hsome
  | cons duration later ih =>
      refine ⟨fun haudio => absurd haudio Bool.false_ne_true, ?_⟩
      cases later with
      | nil =>
          exact h
      | cons next others =>
          exact ih (List.cons_ne_nil next others)

/-- A token sets the markers of its audio as the clocks ask, and then asks for what is due. -/
theorem marked_cues
    (htone : 1 ≤ profile.toneSamples)
    {c : Clocks} {token : Token} {rest : List Sending}
    (h : Marked (c.after profile token).talkspurt rest) :
    Marked c.talkspurt (sendings session token (c.cues profile token) ++ rest) := by
  cases token with
  | silence milliseconds =>
      exact marked_audioCues session h
  | tone digit =>
      exact marked_reportCues session (reports_ne_nil htone) h

/-- The markers of a whole timeline are set as the clocks before it ask. -/
theorem marked_schedule
    (htone : 1 ≤ profile.toneSamples)
    (c : Clocks)
    (tokens : List Token) :
    Marked c.talkspurt
      (ofShares tokens ((c.schedule profile tokens).map (List.map session.sight))) := by
  induction tokens generalizing c with
  | nil =>
      exact trivial
  | cons token rest ih =>
      have hsendings :
          (c.cues profile token).map (Sending.mk token ∘ session.sight) =
            sendings session token (c.cues profile token) := by
        rfl
      rw [ofShares, schedule, List.map_cons, List.zipWith_cons_cons, List.flatten_cons,
        List.map_map, hsendings]
      exact marked_cues session htone (ih (c.after profile token))

/-- What is sent has the payload type of its token. -/
theorem payloadType_of_mem_schedule
    {c : Clocks} {tokens : List Token} {sending : Sending}
    (h : sending ∈ ofShares tokens ((c.schedule profile tokens).map (List.map session.sight))) :
    sending.sighting.packet.payloadType = sending.payloadType profile % 2 ^ 7 := by
  induction tokens generalizing c with
  | nil =>
      cases h
  | cons token rest ih =>
      rw [ofShares, schedule, List.map_cons, List.zipWith_cons_cons, List.flatten_cons,
        List.map_map] at h
      rcases List.mem_append.mp h with hhead | hrest
      · obtain ⟨cue, hcue, rfl⟩ := List.mem_map.mp hhead
        rw [Function.comp_apply, session.sight_payloadType]
        cases token with
        | silence milliseconds =>
            rw [(audio_of_mem_audioCues hcue).2]
            rfl
        | tone digit =>
            obtain ⟨_, _, _, _, htype, _⟩ := report_of_mem_reportCues hcue
            rw [htype]
            rfl
      · exact ih hrest

end Clocks

namespace Encoder

variable {encoder : Encoder} {clock : Clock} {tokens : List Token} {encoded : Encoded}

/--
**Markers begin talkspurts.**  An audio packet of a capture has a marker exactly when it is the
first record of the capture or the record before it is a telephone event, whatever the tokens are
and however many of them send nothing.
-/
theorem marker_of_encode
    (htone : 1 ≤ encoder.profile.toneSamples)
    (hencoded : encoder.encode clock (.ofTokens tokens) = .ok encoded) :
    ∃ shares : List (List Sighting),
      encoder.Shares clock tokens shares ∧
      sightings? encoded.bytes =
        some ((Sending.ofShares tokens shares).map Sending.sighting) ∧
      ∀ (i : Nat) sending, (Sending.ofShares tokens shares)[i]? = some sending →
        sending.sighting.packet.payloadType =
          sending.payloadType encoder.profile % 2 ^ 7 ∧
        (sending.isAudio = true →
          (sending.sighting.packet.marker = true ↔
            i = 0 ∨
            ∃ j before, i = j + 1 ∧ (Sending.ofShares tokens shares)[j]? = some before ∧
              before.isEvent = true)) := by
  obtain ⟨startUsec, _, hshares⟩ := shares_of_encode hencoded
  let session := encoder.session startUsec
  have hmarked := Clocks.marked_schedule session htone (encoder.start clock) tokens
  refine ⟨_, hshares, ?_, ?_⟩
  · rw [Sending.map_sighting_ofShares hshares.length, hshares.sightings hencoded]
  · intro i sending hfound
    have hdue : (encoder.start clock).talkspurt = true := by
      rfl
    refine ⟨?_, ?_⟩
    · exact Clocks.payloadType_of_mem_schedule session (List.mem_of_getElem? hfound)
    · intro haudio
      have hmarker := Sending.marker_of_marked hmarked hfound haudio
      rwa [hdue, and_iff_left rfl] at hmarker

/-- A key between silences, one of them empty, and another key with nothing behind it. -/
theorem marker_of_encode_around_nothing :
    let clock : Clock := ⟨7, 65535, 2 ^ 32 - 4, .integer 0⟩
    let tokens : List Token :=
      [.silence 0, .silence 5, .silence 3, .tone .star, .silence 0, .tone .pound, .silence 1,
        .silence 2]
    ∃ encoded, sample.encode clock (.ofTokens tokens) = .ok encoded ∧ encoded.packets = 15 ∧
      ∃ shares : List (List Sighting),
        sightings? encoded.bytes =
          some ((Sending.ofShares tokens shares).map Sending.sighting) ∧
        ∀ (i : Nat) sending, (Sending.ofShares tokens shares)[i]? = some sending →
          sending.isAudio = true →
            (sending.sighting.packet.marker = true ↔
              i = 0 ∨
              ∃ j before, i = j + 1 ∧ (Sending.ofShares tokens shares)[j]? = some before ∧
                before.isEvent = true) := by
  intro clock tokens
  have hpackets :
      (sample.encode clock (.ofTokens tokens)).toOption.map Encoded.packets = some 15 := by
    decide +kernel
  cases hencoded : sample.encode clock (.ofTokens tokens) with
  | error fault =>
      rw [hencoded] at hpackets
      cases hpackets
  | ok encoded =>
      rw [hencoded] at hpackets
      obtain ⟨shares, _, hsightings, hmarkers⟩ := marker_of_encode (by decide) hencoded
      refine ⟨encoded, rfl, Option.some.inj hpackets, shares, hsightings, ?_⟩
      intro i sending hfound
      exact (hmarkers i sending hfound).2

end Encoder
end Capture
end CallScript
