import CallScript.Proofs.Capture.Schedule
import Mathlib.Algebra.BigOperators.Group.List.Basic
import Mathlib.Algebra.Order.BigOperators.Group.List
import Mathlib.Algebra.Order.Ring.Int

/-!
# Timing of captures

An encoding counts samples on two clocks: the timestamp of its stream goes round at the size of
its field, the place in the capture does not.  They are coupled: the stream has advanced by the
samples that have passed.

Main statements:
* `Clocks.coupled_after`: a token keeps the clocks coupled.
* `Encoder.timing_of_encode`: the capture time and the timestamp of every packet follow from one
  place, the places never decrease, and the packets of a token lie between those around it.
-/

namespace CallScript
namespace Capture

open Media

/-- A profile with a running clock, a frame, and a tone whose length an event can report. -/
structure Playable (profile : Profile) : Prop where
  rate : 0 < profile.sampleRate
  frame : 1 ≤ profile.frameSamples
  tone : 1 ≤ profile.toneSamples
  reported : profile.toneSamples ≤ 65535

/-- What is seen of a record, and the place at which its packet was sent. -/
structure Row where
  sighting : Sighting
  place : Int

/-- A packet of a token has the type that it should, and its timestamp tells its place. -/
def Row.Stamped (profile : Profile) (timestamp : Int) (row : Row) : Token → Prop
  | .silence _ =>
      row.sighting.packet.payloadType = profile.audioPayloadType % 2 ^ 7 ∧
      row.sighting.packet.timestamp = (timestamp + row.place) % 2 ^ 32
  | .tone _ =>
      row.sighting.packet.payloadType = profile.eventPayloadType % 2 ^ 7 ∧
      ∃ event, Rtp.Event.decode row.sighting.packet.payload = .ok event ∧
        (row.sighting.packet.timestamp + event.duration) % 2 ^ 32 =
          (timestamp + row.place) % 2 ^ 32

namespace Session

/-- The silent audio of some samples has as many bytes. -/
theorem length_silentAudio (total frame : Nat) :
    ((silentAudio total frame).map List.length).sum = total := by
  have hfull :
      ((List.replicate (total / frame) (MuLaw.silence frame)).map List.length).sum =
        frame * (total / frame) := by
    simp [MuLaw.silence, Nat.mul_comm]
  unfold silentAudio
  rw [List.map_append, List.sum_append, hfull]
  split
  · next hwhole =>
      simpa [hwhole] using Nat.div_add_mod total frame
  · simpa [MuLaw.silence] using Nat.div_add_mod total frame

/-- The durations that are reported of a tone never exceed it. -/
theorem le_of_mem_durations
    {total frame duration : Nat}
    (h : duration ∈ durations total frame) :
    duration ≤ total := by
  unfold durations at h
  rcases List.mem_append.mp h with hgrowing | hlast
  · obtain ⟨k, hk, rfl⟩ := List.mem_map.mp hgrowing
    have hlt : k < (total - 1) / frame := List.mem_range.mp hk
    calc
      (k + 1) * frame ≤ (total - 1) / frame * frame := Nat.mul_le_mul_right frame hlt
      _ ≤ total - 1 := Nat.div_mul_le_self (total - 1) frame
      _ ≤ total := Nat.sub_le total 1
  · exact (List.eq_of_mem_replicate hlast).le

/-- The durations that are reported of a tone never decrease. -/
theorem pairwise_durations (total frame : Nat) :
    (durations total frame).Pairwise (· ≤ ·) := by
  unfold durations
  apply List.pairwise_append.mpr
  refine ⟨?_, ?_, ?_⟩
  · rw [List.pairwise_map]
    apply List.pairwise_lt_range.imp
    intro i j hij
    exact Nat.mul_le_mul_right frame (Nat.succ_le_succ hij.le)
  · exact List.pairwise_replicate.mpr (Or.inr le_rfl)
  · intro growing hgrowing last hlast
    rw [List.eq_of_mem_replicate hlast]
    exact le_of_mem_durations (List.mem_append_left _ hgrowing)

end Session

namespace Clocks

/-- The stream of the clocks has advanced by the samples that have passed. -/
def Coupled (timestamp : Int) (c : Clocks) : Prop :=
  c.stream.timestamp % 2 ^ 32 = (timestamp + c.elapsed) % 2 ^ 32

variable {profile : Profile} {timestamp : Int} {c : Clocks}

/-- The stream and the place advance together. -/
theorem advance_mod
    (h : c.Coupled timestamp)
    (samples : Int) :
    (c.stream.advance samples).timestamp % 2 ^ 32 =
      (timestamp + (c.elapsed + samples)) % 2 ^ 32 := by
  unfold Coupled at h
  unfold Rtp.Stream.advance
  rw [Bytes.natCast_wrapped, Int.emod_emod_of_dvd _ dvd_rfl, ← add_assoc, Int.add_emod, h,
    ← Int.add_emod]

theorem coupled_afterAudio
    (h : c.Coupled timestamp)
    (audio : Bytes) :
    (c.afterAudio audio).Coupled timestamp := by
  exact advance_mod (c := c.afterReport) h audio.length

theorem coupled_afterAudios
    (h : c.Coupled timestamp)
    (audios : List Bytes) :
    (audios.foldl afterAudio c).Coupled timestamp := by
  induction audios generalizing c with
  | nil =>
      exact h
  | cons audio rest ih =>
      exact ih (coupled_afterAudio h audio)

/-- A token keeps the clocks coupled. -/
theorem coupled_after
    (h : c.Coupled timestamp)
    (token : Token) :
    (c.after profile token).Coupled timestamp := by
  cases token with
  | silence milliseconds =>
      exact coupled_afterAudios h (audios profile milliseconds)
  | tone digit =>
      have hreports : (c.afterReports (reports profile)).Coupled timestamp := by
        unfold Coupled
        rw [afterReports_timestamp, afterReports_elapsed]
        exact h
      have hadvance := advance_mod hreports profile.toneSamples
      rw [afterReports_elapsed] at hadvance
      exact hadvance

theorem coupled_afterAll
    (h : c.Coupled timestamp)
    (tokens : List Token) :
    (c.afterAll profile tokens).Coupled timestamp := by
  induction tokens generalizing c with
  | nil =>
      exact h
  | cons token rest ih =>
      exact ih (coupled_after h token)

theorem elapsed_afterAudios (c : Clocks) (audios : List Bytes) :
    (audios.foldl afterAudio c).elapsed =
      c.elapsed + ((audios.map List.length).sum : Nat) := by
  induction audios generalizing c with
  | nil =>
      simp
  | cons audio rest ih =>
      rw [List.foldl_cons, ih, List.map_cons, List.sum_cons, Nat.cast_add, ← add_assoc]
      rfl

/-- A clock of eight thousand samples a second counts eight for each millisecond. -/
theorem samplesFor_eq
    (hrate : profile.sampleRate = 8000)
    (milliseconds : Int) :
    profile.samplesFor milliseconds = 8 * milliseconds := by
  unfold Profile.samplesFor
  rw [hrate, Int.fdiv_eq_ediv_of_nonneg _ (by decide)]
  omega

/-- A number of milliseconds that is not negative has a number of samples that is not negative. -/
theorem samplesFor_nonneg
    (hrate : 0 < profile.sampleRate)
    (milliseconds : Nat) :
    0 ≤ profile.samplesFor milliseconds := by
  unfold Profile.samplesFor
  rw [Int.fdiv_eq_ediv_of_nonneg _ (by decide)]
  exact Int.ediv_nonneg (Int.mul_nonneg hrate.le (Int.natCast_nonneg milliseconds)) (by decide)

theorem samplesOf_nonneg
    (hprofile : Playable profile)
    (token : Token) :
    0 ≤ samplesOf profile token := by
  cases token with
  | silence milliseconds =>
      exact samplesFor_nonneg hprofile.rate milliseconds
  | tone digit =>
      exact le_trans (by decide) hprofile.tone

theorem totalSamples_nonneg
    (hprofile : Playable profile)
    (tokens : List Token) :
    0 ≤ totalSamples profile tokens := by
  apply List.sum_nonneg
  intro samples hsamples
  obtain ⟨token, _, rfl⟩ := List.mem_map.mp hsamples
  exact samplesOf_nonneg hprofile token

/-- A token takes its samples. -/
theorem elapsed_after
    (hprofile : Playable profile)
    (c : Clocks)
    (token : Token) :
    (c.after profile token).elapsed = c.elapsed + samplesOf profile token := by
  cases token with
  | silence milliseconds =>
      have hnonneg := samplesFor_nonneg hprofile.rate milliseconds
      simp only [after, audios, samplesOf, elapsed_afterAudios, Session.length_silentAudio,
        Int.toNat_of_nonneg hnonneg]
  | tone digit =>
      rfl

/-- Tokens take their samples one after the other. -/
theorem elapsed_afterAll
    (hprofile : Playable profile)
    (c : Clocks)
    (tokens : List Token) :
    (c.afterAll profile tokens).elapsed = c.elapsed + totalSamples profile tokens := by
  induction tokens generalizing c with
  | nil =>
      simp [afterAll, totalSamples]
  | cons token rest ih =>
      have hrest := ih (c.after profile token)
      rw [elapsed_after hprofile, add_assoc] at hrest
      rw [totalSamples, List.map_cons, List.sum_cons]
      exact hrest

/-- Packets of audio are sent while their samples pass. -/
theorem place_of_mem_audioCues
    {audios : List Bytes} {cue : Cue}
    (hcue : cue ∈ c.audioCues profile audios) :
    c.elapsed ≤ cue.place ∧ cue.place ≤ (audios.foldl afterAudio c).elapsed := by
  induction audios generalizing c with
  | nil =>
      cases hcue
  | cons audio rest ih =>
      have hnext : (c.afterAudio audio).elapsed = c.elapsed + audio.length := by
        rfl
      rcases List.mem_cons.mp hcue with rfl | hrest
      · have hfold := elapsed_afterAudios (c.afterAudio audio) rest
        refine ⟨le_rfl, ?_⟩
        change c.elapsed ≤ (rest.foldl afterAudio (c.afterAudio audio)).elapsed
        omega
      · obtain ⟨hstart, hstop⟩ := ih hrest
        exact ⟨by omega, hstop⟩

theorem pairwise_audioCues (c : Clocks) (audios : List Bytes) :
    (c.audioCues profile audios).Pairwise fun a b => a.place ≤ b.place := by
  induction audios generalizing c with
  | nil =>
      exact .nil
  | cons audio rest ih =>
      refine List.pairwise_cons.mpr ⟨?_, ih (c.afterAudio audio)⟩
      intro cue hcue
      have hstart := (place_of_mem_audioCues hcue).1
      change c.elapsed ≤ cue.place
      change c.elapsed + audio.length ≤ cue.place at hstart
      omega

/-- A packet of audio is sent at the place that its timestamp stands for. -/
theorem audio_of_mem_audioCues
    {audios : List Bytes} {cue : Cue}
    (hcue : cue ∈ c.audioCues profile audios) :
    cue.origin = cue.place ∧ cue.packet.payloadType = profile.audioPayloadType := by
  induction audios generalizing c with
  | nil =>
      cases hcue
  | cons audio rest ih =>
      rcases List.mem_cons.mp hcue with rfl | hrest
      · exact ⟨rfl, rfl⟩
      · exact ih hrest

theorem stamped_of_mem_audioCues
    (h : c.Coupled timestamp)
    {audios : List Bytes} {cue : Cue}
    (hcue : cue ∈ c.audioCues profile audios) :
    cue.packet.timestamp % 2 ^ 32 = (timestamp + cue.place) % 2 ^ 32 := by
  induction audios generalizing c with
  | nil =>
      cases hcue
  | cons audio rest ih =>
      rcases List.mem_cons.mp hcue with rfl | hrest
      · exact h
      · exact ih (coupled_afterAudio h audio) hrest

/-- A report of a tone is stamped with the start of the tone and sent when its duration is over. -/
theorem report_of_mem_reportCues
    {digit : Digit} {first : Bool} {durations : List Nat} {cue : Cue}
    (hcue : cue ∈ c.reportCues profile digit first durations) :
    ∃ duration ∈ durations,
      cue.origin = c.elapsed ∧
      cue.place = c.elapsed + duration ∧
      cue.packet.payloadType = profile.eventPayloadType ∧
      cue.packet.timestamp = c.stream.timestamp ∧
      cue.packet.payload = (report profile digit duration).encode := by
  induction durations generalizing c first with
  | nil =>
      cases hcue
  | cons duration rest ih =>
      rcases List.mem_cons.mp hcue with rfl | hrest
      · exact ⟨duration, List.mem_cons_self, rfl, rfl, rfl, rfl, rfl⟩
      · obtain ⟨later, hlater, hcue⟩ := ih hrest
        exact ⟨later, List.mem_cons_of_mem duration hlater, hcue⟩

theorem length_reportCues
    (profile : Profile) (digit : Digit) (c : Clocks) (first : Bool) (durations : List Nat) :
    (c.reportCues profile digit first durations).length = durations.length := by
  induction durations generalizing c first with
  | nil =>
      rfl
  | cons duration rest ih =>
      rw [reportCues, List.length_cons, ih, List.length_cons]

/-- The later reports of a tone have no marker. -/
theorem marker_of_mem_reportCues
    {digit : Digit} {durations : List Nat} {cue : Cue}
    (hcue : cue ∈ c.reportCues profile digit false durations) :
    cue.packet.marker = false := by
  induction durations generalizing c with
  | nil =>
      cases hcue
  | cons duration rest ih =>
      rcases List.mem_cons.mp hcue with rfl | hrest
      · rfl
      · exact ih hrest

theorem pairwise_reportCues
    (c : Clocks) (digit : Digit) (first : Bool)
    {durations : List Nat}
    (h : durations.Pairwise (· ≤ ·)) :
    (c.reportCues profile digit first durations).Pairwise fun a b => a.place ≤ b.place := by
  induction durations generalizing c first with
  | nil =>
      exact .nil
  | cons duration rest ih =>
      obtain ⟨hfirst, hrest⟩ := List.pairwise_cons.mp h
      refine List.pairwise_cons.mpr ⟨?_, ih c.afterReport false hrest⟩
      intro cue hcue
      obtain ⟨later, hlater, _, hplace, _⟩ := report_of_mem_reportCues hcue
      have hle := hfirst later hlater
      change c.elapsed + duration ≤ cue.place
      change cue.place = c.elapsed + later at hplace
      omega

/-- A tone with samples is reported. -/
theorem reports_ne_nil
    (htone : 0 < profile.toneSamples) :
    reports profile ≠ [] := by
  unfold reports Session.durations
  rw [if_neg (by omega)]
  simp [endReports]

theorem le_of_mem_reports
    (hprofile : Playable profile)
    {duration : Nat}
    (h : duration ∈ reports profile) :
    (duration : Int) ≤ profile.toneSamples := by
  have htone := hprofile.tone
  unfold reports at h
  rw [if_neg (by omega)] at h
  have hle := Session.le_of_mem_durations h
  omega

/-- The packets of a token are sent while its samples pass. -/
theorem place_of_mem_cues
    (hprofile : Playable profile)
    {token : Token} {cue : Cue}
    (hcue : cue ∈ c.cues profile token) :
    c.elapsed ≤ cue.place ∧ cue.place ≤ c.elapsed + samplesOf profile token := by
  cases token with
  | silence milliseconds =>
      rw [← elapsed_after hprofile]
      exact place_of_mem_audioCues hcue
  | tone digit =>
      obtain ⟨duration, hduration, _, hplace, _⟩ := report_of_mem_reportCues hcue
      have hle := le_of_mem_reports hprofile hduration
      change c.elapsed ≤ cue.place ∧ cue.place ≤ c.elapsed + profile.toneSamples
      omega

theorem pairwise_cues (c : Clocks) (token : Token) :
    (c.cues profile token).Pairwise fun a b => a.place ≤ b.place := by
  cases token with
  | silence milliseconds =>
      exact pairwise_audioCues c (audios profile milliseconds)
  | tone digit =>
      apply pairwise_reportCues
      unfold reports
      split
      · exact .nil
      · exact Session.pairwise_durations _ _

/-- What is seen of a packet of a token tells its place. -/
theorem stamped_of_mem_cues
    (hprofile : Playable profile)
    (h : c.Coupled timestamp)
    (session : Session)
    {token : Token} {cue : Cue}
    (hcue : cue ∈ c.cues profile token) :
    Row.Stamped profile timestamp ⟨session.sight cue, cue.place⟩ token := by
  cases token with
  | silence milliseconds =>
      obtain ⟨_, htype⟩ := audio_of_mem_audioCues hcue
      have hplace := stamped_of_mem_audioCues h hcue
      exact ⟨by rw [session.sight_payloadType, htype], by rw [session.sight_timestamp, hplace]⟩
  | tone digit =>
      obtain ⟨duration, hduration, _, hplace, htype, htimestamp, hpayload⟩ :=
        report_of_mem_reportCues hcue
      have hle := le_of_mem_reports hprofile hduration
      have hreported := hprofile.reported
      have hdecoded :
          Rtp.Event.decode (session.sight cue).packet.payload =
            .ok (report profile digit duration).onWire := by
        rw [session.sight_payload, hpayload, Rtp.Event.decode_encode]
      have hduration :
          ((report profile digit duration).onWire.duration : Int) = duration := by
        change ((Bytes.wrapped 16 (duration : Int) : Nat) : Int) = duration
        rw [Bytes.natCast_wrapped]
        omega
      refine ⟨by rw [session.sight_payloadType, htype], _, hdecoded, ?_⟩
      rw [hduration, session.sight_timestamp, htimestamp, h]
      change _ = (timestamp + cue.place) % 2 ^ 32
      rw [hplace]
      omega

/-- The cues of a token of a timeline follow the clocks after the tokens before it. -/
theorem getElem?_schedule (profile : Profile) (c : Clocks) (tokens : List Token) (k : Nat) :
    (c.schedule profile tokens)[k]? =
      tokens[k]?.map ((c.afterAll profile (tokens.take k)).cues profile) := by
  induction tokens generalizing c k with
  | nil =>
      simp [schedule]
  | cons token rest ih =>
      cases k with
      | zero =>
          rfl
      | succ k =>
          exact ih (c.after profile token) k

/-- No packet of some tokens is sent before they begin. -/
theorem le_place_of_mem_schedule
    (hprofile : Playable profile)
    {tokens : List Token} {cue : Cue}
    (hcue : cue ∈ (c.schedule profile tokens).flatten) :
    c.elapsed ≤ cue.place := by
  induction tokens generalizing c with
  | nil =>
      cases hcue
  | cons token rest ih =>
      rw [schedule, List.flatten_cons] at hcue
      rcases List.mem_append.mp hcue with hhead | hrest
      · exact (place_of_mem_cues hprofile hhead).1
      · have hle := ih hrest
        have hnonneg := samplesOf_nonneg hprofile token
        rw [elapsed_after hprofile] at hle
        omega

/-- All packets of some tokens are sent before they are over. -/
theorem place_le_of_mem_schedule
    (hprofile : Playable profile)
    {tokens : List Token} {cue : Cue}
    (hcue : cue ∈ (c.schedule profile tokens).flatten) :
    cue.place ≤ (c.afterAll profile tokens).elapsed := by
  induction tokens generalizing c with
  | nil =>
      cases hcue
  | cons token rest ih =>
      rw [schedule, List.flatten_cons] at hcue
      rcases List.mem_append.mp hcue with hhead | hrest
      · have hle := (place_of_mem_cues hprofile hhead).2
        have hlater := elapsed_afterAll hprofile (c.after profile token) rest
        have hnonneg := totalSamples_nonneg hprofile rest
        rw [elapsed_after hprofile] at hlater
        change cue.place ≤ ((c.after profile token).afterAll profile rest).elapsed
        omega
      · exact ih hrest

/-- The packets of some tokens are sent one after the other. -/
theorem pairwise_schedule
    (hprofile : Playable profile)
    (c : Clocks)
    (tokens : List Token) :
    (c.schedule profile tokens).flatten.Pairwise fun a b => a.place ≤ b.place := by
  induction tokens generalizing c with
  | nil =>
      exact .nil
  | cons token rest ih =>
      rw [schedule, List.flatten_cons]
      refine List.pairwise_append.mpr ⟨pairwise_cues c token, ih (c.after profile token), ?_⟩
      intro a ha b hb
      calc
        a.place ≤ c.elapsed + samplesOf profile token := (place_of_mem_cues hprofile ha).2
        _ = (c.after profile token).elapsed := (elapsed_after hprofile c token).symm
        _ ≤ b.place := le_place_of_mem_schedule hprofile hb

end Clocks

namespace Session

/-- The capture time never decreases while the place does not. -/
theorem timeAt_le
    (session : Session)
    {a b : Int}
    (hrate : 0 < session.profile.sampleRate)
    (h : a ≤ b) :
    session.timeAt a ≤ session.timeAt b := by
  unfold timeAt microseconds
  rw [Int.fdiv_eq_ediv_of_nonneg _ hrate.le, Int.fdiv_eq_ediv_of_nonneg _ hrate.le]
  exact Int.add_le_add_left (Int.ediv_le_ediv hrate (by omega)) _

end Session

namespace Encoder

variable {encoder : Encoder} {clock : Clock} {tokens : List Token} {encoded : Encoded}

theorem coupled_start (encoder : Encoder) (clock : Clock) :
    (encoder.start clock).Coupled clock.timestamp := by
  unfold Clocks.Coupled start stream
  simp

/--
**Both clocks agree on every packet.**  Every packet has one place: its capture time is the start
and the time of that place, and the timestamp of audio, or that of an event with its duration
added, is the first timestamp and that place, modulo the size of the field.  The places and the
capture times never decrease, and the packets of a token lie between the samples of the tokens
before it and those with it.
-/
theorem timing_of_encode
    (hprofile : Playable encoder.profile)
    (hencoded : encoder.encode clock (.ofTokens tokens) = .ok encoded) :
    ∃ (startUsec : Int) (rows : List (List Row)),
      toMicroseconds (encoder.startTimeOf clock) = .ok startUsec ∧
      sightings? encoded.bytes = some (rows.flatten.map Row.sighting) ∧
      encoder.Shares clock tokens (rows.map (List.map Row.sighting)) ∧
      (∀ row ∈ rows.flatten,
        row.sighting.time =
          startUsec + Int.fdiv (row.place * 1000000) encoder.profile.sampleRate) ∧
      rows.flatten.Pairwise
        (fun a b => a.place ≤ b.place ∧ a.sighting.time ≤ b.sighting.time) ∧
      ∀ k token share, tokens[k]? = some token → rows[k]? = some share → ∀ row ∈ share,
        row.Stamped encoder.profile clock.timestamp token ∧
        totalSamples encoder.profile (tokens.take k) ≤ row.place ∧
        row.place ≤ totalSamples encoder.profile (tokens.take (k + 1)) := by
  obtain ⟨startUsec, htime, hshares⟩ := shares_of_encode hencoded
  let session := encoder.session startUsec
  let row (cue : Cue) : Row := ⟨session.sight cue, cue.place⟩
  let cues := (encoder.start clock).schedule encoder.profile tokens
  have hflatten : (cues.map (List.map row)).flatten = cues.flatten.map row := by
    exact List.map_flatten.symm
  have hrows :
      (cues.map (List.map row)).map (List.map Row.sighting) = cues.map (List.map session.sight) := by
    simp [row, Function.comp_def]
  rw [← hrows] at hshares
  refine ⟨startUsec, cues.map (List.map row), htime, ?_, hshares, ?_, ?_, ?_⟩
  · rw [hshares.sightings hencoded, List.map_flatten]
  · intro r hr
    rw [hflatten] at hr
    obtain ⟨cue, _, rfl⟩ := List.mem_map.mp hr
    rfl
  · rw [hflatten, List.pairwise_map]
    apply (Clocks.pairwise_schedule hprofile (encoder.start clock) tokens).imp
    intro a b hab
    exact ⟨hab, session.timeAt_le hprofile.rate hab⟩
  · intro k token share htoken hshare r hr
    rw [List.getElem?_map, Clocks.getElem?_schedule, htoken] at hshare
    cases hshare
    obtain ⟨cue, hcue, rfl⟩ := List.mem_map.mp hr
    have hcoupled :
        ((encoder.start clock).afterAll encoder.profile (tokens.take k)).Coupled
          clock.timestamp := by
      exact Clocks.coupled_afterAll (coupled_start encoder clock) (tokens.take k)
    have helapsed := Clocks.elapsed_afterAll hprofile (encoder.start clock) (tokens.take k)
    have hzero : (encoder.start clock).elapsed = 0 := by
      rfl
    obtain ⟨hfrom, hto⟩ := Clocks.place_of_mem_cues hprofile hcue
    have hnext :
        totalSamples encoder.profile (tokens.take (k + 1)) =
          totalSamples encoder.profile (tokens.take k) + samplesOf encoder.profile token := by
      simp [totalSamples, List.take_add_one, htoken]
    rw [helapsed, hzero, zero_add] at hfrom hto
    refine ⟨Clocks.stamped_of_mem_cues hprofile hcoupled session hcue, hfrom, ?_⟩
    rw [hnext]
    exact hto

/-- An encoder whose packets and tones have a few samples, one in each millisecond. -/
def sample : Encoder :=
  .between "10.0.0.1" 4000 "10.0.0.2" 4002
    { sampleRate := 1000
      packetMs := 2
      audioPayloadType := 0
      eventPayloadType := 101
      toneMs := 3
      volume := 10 }

/-- A key between two silences, while the timestamp goes round. -/
theorem timing_of_encode_while_wrapping :
    let clock : Clock := ⟨7, 65535, 2 ^ 32 - 4, .integer 0⟩
    let tokens : List Token := [.silence 5, .tone .star, .silence 1]
    ∃ encoded, sample.encode clock (.ofTokens tokens) = .ok encoded ∧ encoded.packets = 8 ∧
      ∃ rows : List (List Row),
        sightings? encoded.bytes = some (rows.flatten.map Row.sighting) ∧
        rows.flatten.Pairwise
          (fun a b => a.place ≤ b.place ∧ a.sighting.time ≤ b.sighting.time) := by
  intro clock tokens
  have hpackets :
      (sample.encode clock (.ofTokens tokens)).toOption.map Encoded.packets = some 8 := by
    decide +kernel
  cases hencoded : sample.encode clock (.ofTokens tokens) with
  | error fault =>
      rw [hencoded] at hpackets
      cases hpackets
  | ok encoded =>
      rw [hencoded] at hpackets
      obtain ⟨_, rows, _, hsightings, _, _, hordered, _⟩ :=
        timing_of_encode ⟨by decide, by decide, by decide, by decide⟩ hencoded
      exact ⟨encoded, rfl, Option.some.inj hpackets, rows, hsightings, hordered⟩

end Encoder
end Capture
end CallScript
