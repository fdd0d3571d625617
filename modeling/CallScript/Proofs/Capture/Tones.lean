import CallScript.Proofs.Capture.Timing
import CallScript.Proofs.Rtp.Roundtrip

/-!
# Tones in captures

A tone is sent as telephone events that all start with it and report its growing duration, one
frame more each time.  The packet that reaches its end is sent three times, and only the first
packet of all has a marker.

Main statements:
* `Clocks.isTone_cues`: the cues of a tone report it.
* `Encoder.isTone_of_encode`: wherever a tone stands in a timeline, the packets that it adds to a
  capture report it, and the clock of the stream has advanced by its samples.
-/

namespace CallScript
namespace Capture

open Media

/-- A profile whose frames hold samples, and whose tones and volume an event can report. -/
structure Reportable (profile : Profile) : Prop where
  frame : 1 ≤ profile.frameSamples
  tone : 1 ≤ profile.toneSamples
  reported : profile.toneSamples ≤ 65535
  loud : 0 ≤ profile.volume
  quiet : profile.volume ≤ 63

/-- The event that reports a duration of the tone of a key, or its end. -/
def eventOf (profile : Profile) (digit : Digit) (ended : Bool) (duration : Int) : Rtp.Event where
  code := digit.code
  ended := ended
  volume := profile.volume
  duration := duration

/-- What is seen of the tone of a key that starts at a timestamp. -/
structure IsTone (profile : Profile) (digit : Digit) (timestamp : Int) (seen : List Sighting) :
    Prop where
  /-- There is a packet for each frame that is begun, and two more repeat the end. -/
  count :
    (seen.length : Int) =
      (profile.toneSamples + profile.frameSamples - 1) / profile.frameSamples + 2
  /-- All packets carry events and the timestamp of the start. -/
  stamped : ∀ s ∈ seen,
    s.packet.payloadType = profile.eventPayloadType % 2 ^ 7 ∧
    s.packet.timestamp = timestamp % 2 ^ 32
  /-- The first packet has a marker, and no other one has. -/
  marked :
    seen.map (fun s => s.packet.marker) = true :: List.replicate (seen.length - 1) false
  /-- The durations grow frame by frame below the end, and three packets report the end. -/
  events : ∃ growing : List Int,
    (∀ (k : Nat) duration, growing[k]? = some duration →
      duration = (k + 1) * profile.frameSamples) ∧
    growing.Pairwise (· < ·) ∧
    (∀ duration ∈ growing, duration < profile.toneSamples) ∧
    seen.map (fun s => Rtp.Event.decode s.packet.payload) =
      (growing.map (eventOf profile digit false) ++
        List.replicate 3 (eventOf profile digit true profile.toneSamples)).map .ok

namespace Session

/-- Before the end of a tone its packets report less than all of it. -/
theorem mul_lt_of_lt_div
    {total frame k : Nat}
    (htotal : 0 < total)
    (hk : k < (total - 1) / frame) :
    (k + 1) * frame < total := by
  have hle : (k + 1) * frame ≤ total - 1 := by
    exact (Nat.mul_le_mul_right frame hk).trans (Nat.div_mul_le_self (total - 1) frame)
  omega

theorem length_durations
    {total frame : Nat}
    (htotal : 0 < total)
    (hframe : 0 < frame) :
    (durations total frame).length = (total + frame - 1) / frame + 2 := by
  have hbegun : (total + frame - 1) / frame = (total - 1) / frame + 1 := by
    rw [show total + frame - 1 = total - 1 + frame by omega, Nat.add_div_right _ hframe]
  simp [durations, endReports, hbegun]

end Session

/-- A tone and a frame have natural numbers of samples. -/
theorem Reportable.exists_samples
    {profile : Profile}
    (h : Reportable profile) :
    ∃ total frame : Nat,
      0 < total ∧ 0 < frame ∧
      profile.toneSamples = total ∧ profile.frameSamples = frame := by
  have hframe := h.frame
  have htone := h.tone
  exact ⟨profile.toneSamples.toNat, profile.frameSamples.toNat, by omega, by omega, by omega,
    by omega⟩

namespace Clocks

variable {profile : Profile} (session : Session)

theorem payloads_reportCues
    (c : Clocks) (digit : Digit) (first : Bool) (durations : List Nat) :
    (c.reportCues profile digit first durations).map (fun cue => cue.packet.payload) =
      durations.map fun duration => (report profile digit duration).encode := by
  induction durations generalizing c first with
  | nil =>
      rfl
  | cons duration rest ih =>
      exact congrArg (_ :: ·) (ih c.afterReport false)

/-- The first of some reports of a tone has a marker when it is the first of all. -/
theorem markers_reportCues
    (c : Clocks) (digit : Digit) (first : Bool) (duration : Nat) (rest : List Nat) :
    (c.reportCues profile digit first (duration :: rest)).map (fun cue => cue.packet.marker) =
      first :: List.replicate rest.length false := by
  have hlater :
      (c.afterReport.reportCues profile digit false rest).map (fun cue => cue.packet.marker) =
        List.replicate rest.length false := by
    rw [List.eq_replicate_iff, List.length_map, length_reportCues]
    refine ⟨rfl, ?_⟩
    intro marker hmarker
    obtain ⟨cue, hcue, rfl⟩ := List.mem_map.mp hmarker
    exact marker_of_mem_reportCues hcue
  rw [reportCues, List.map_cons, hlater]
  rfl

/-- A report of a tone is read back as it is. -/
theorem decode_report
    (h : Reportable profile)
    (digit : Digit)
    {duration : Nat}
    (hduration : (duration : Int) ≤ profile.toneSamples) :
    Rtp.Event.decode (report profile digit duration).encode =
      .ok (eventOf profile digit ((duration : Int) = profile.toneSamples) duration) := by
  have hcode := digit.code_lt
  have hreported := h.reported
  have hloud := h.loud
  have hquiet := h.quiet
  apply Rtp.Event.decode_encode_of_fits
  constructor <;> dsimp only [report] <;> omega

/-- The reports of a tone are events of growing duration, and three of its end. -/
theorem events_reports
    (h : Reportable profile)
    (digit : Digit) :
    ∃ growing : List Int,
      (∀ (k : Nat) duration, growing[k]? = some duration →
        duration = (k + 1) * profile.frameSamples) ∧
      growing.Pairwise (· < ·) ∧
      (∀ duration ∈ growing, duration < profile.toneSamples) ∧
      (reports profile).map
          (fun duration => Rtp.Event.decode (report profile digit duration).encode) =
        (growing.map (eventOf profile digit false) ++
          List.replicate 3 (eventOf profile digit true profile.toneSamples)).map .ok := by
  obtain ⟨total, frame, hsome, hbegun, htotal, hframe⟩ := h.exists_samples
  have hbelow : ∀ k < (total - 1) / frame, (k + 1) * frame < total := by
    intro k hk
    exact Session.mul_lt_of_lt_div hsome hk
  refine ⟨(List.range ((total - 1) / frame)).map fun k => ((k + 1) * frame : Nat), ?_, ?_, ?_, ?_⟩
  · intro k duration hduration
    rw [List.getElem?_map, Option.map_eq_some_iff] at hduration
    obtain ⟨j, hj, rfl⟩ := hduration
    obtain ⟨_, rfl⟩ := List.getElem?_eq_some_iff.mp hj
    rw [hframe, List.getElem_range]
    push_cast
    rfl
  · rw [List.pairwise_map]
    apply List.pairwise_lt_range.imp
    intro i j hij
    exact_mod_cast Nat.mul_lt_mul_of_pos_right (Nat.succ_lt_succ hij) hbegun
  · intro duration hduration
    obtain ⟨k, hk, rfl⟩ := List.mem_map.mp hduration
    rw [htotal]
    exact_mod_cast hbelow k (List.mem_range.mp hk)
  · rw [reports, if_neg (by omega), htotal, hframe]
    simp only [Session.durations, Int.toNat_natCast, List.map_append, List.map_map, endReports,
      List.map_replicate]
    congr 1
    · apply List.map_congr_left
      intro k hk
      have hlt := hbelow k (List.mem_range.mp hk)
      have hopen : ¬ (((k + 1) * frame : Nat) : Int) = profile.toneSamples := by
        omega
      simp only [Function.comp_apply]
      rw [decode_report h digit (by omega), decide_eq_false hopen]
    · rw [decode_report h digit htotal.ge, htotal, decide_eq_true rfl]

/-- The cues of a tone report it. -/
theorem isTone_cues
    (h : Reportable profile)
    (c : Clocks)
    (digit : Digit) :
    IsTone profile digit c.stream.timestamp
      ((c.cues profile (.tone digit)).map session.sight) where
  count := by
    obtain ⟨total, frame, hsome, hbegun, htotal, hframe⟩ := h.exists_samples
    have hsum : (total : Int) + frame - 1 = (total + frame - 1 : Nat) := by
      omega
    rw [List.length_map, cues, length_reportCues, reports, if_neg (by omega), htotal, hframe, hsum]
    simp only [Int.toNat_natCast, Session.length_durations hsome hbegun]
    push_cast
    rfl
  stamped := by
    intro s hs
    obtain ⟨cue, hcue, rfl⟩ := List.mem_map.mp hs
    obtain ⟨_, _, _, _, htype, htimestamp, _⟩ := report_of_mem_reportCues hcue
    rw [session.sight_payloadType, session.sight_timestamp, htype, htimestamp]
    exact ⟨rfl, rfl⟩
  marked := by
    obtain ⟨first, rest, hreports⟩ := List.exists_cons_of_ne_nil (reports_ne_nil h.tone)
    rw [List.map_map, List.length_map, cues, length_reportCues, hreports]
    exact markers_reportCues c digit true first rest
  events := by
    obtain ⟨growing, hframes, hgrowing, hbelow, hevents⟩ := events_reports h digit
    refine ⟨growing, hframes, hgrowing, hbelow, ?_⟩
    rw [← hevents, cues, List.map_map]
    have hpayloads :
        (c.reportCues profile digit true (reports profile)).map (fun cue => cue.packet.payload) =
          (reports profile).map fun duration => (report profile digit duration).encode := by
      exact payloads_reportCues c digit true (reports profile)
    calc
      _ = ((c.reportCues profile digit true (reports profile)).map
            fun cue => cue.packet.payload).map Rtp.Event.decode := by
        rw [List.map_map]
        rfl
      _ = _ := by
        rw [hpayloads, List.map_map]
        rfl

/-- After a tone the clock of the stream has advanced by its samples. -/
theorem timestamp_after_tone (c : Clocks) (digit : Digit) :
    (c.after profile (.tone digit)).stream.timestamp =
      (c.stream.timestamp + profile.toneSamples) % 2 ^ 32 := by
  rw [after, Rtp.Stream.advance, afterReports_timestamp, Bytes.natCast_wrapped]

end Clocks

namespace Encoder

variable {encoder : Encoder} {clock : Clock} {encoded : Encoded}
variable {before behind : List Token}

/-- The progress with which an encoding begins. -/
def outset (encoder : Encoder) (clock : Clock) : Progress :=
  (encoder.start clock).progress #[]

/--
An encoding passes through the progress before each token and the one after it, and a capture
shows what stands in the first, then what the token adds, and then the rest.
-/
theorem exists_passage
    {token : Token}
    (h : encoder.encode clock (.ofTokens (before ++ token :: behind)) = .ok encoded) :
    let c := (encoder.start clock).afterAll encoder.profile before
    ∃ (startUsec : Int) (first second : Array Bytes) (seen later : List Sighting),
      toMicroseconds (encoder.startTimeOf clock) = .ok startUsec ∧
      (before.map Entry.token).foldlM (encoder.session startUsec).entry (encoder.outset clock) =
        .ok (c.progress first) ∧
      (encoder.session startUsec).entry (c.progress first) (.token token) =
        .ok ((c.after encoder.profile token).progress second) ∧
      first.size = seen.length ∧
      second.size = seen.length + (c.cues encoder.profile token).length ∧
      sightings? encoded.bytes =
        some (seen ++
          ((c.cues encoder.profile token).map (encoder.session startUsec).sight ++ later)) := by
  intro c
  obtain ⟨startUsec, htime, _, hsightings⟩ := sightings_of_encode h
  rw [Clocks.schedule_append, Clocks.schedule, List.flatten_append, List.flatten_cons,
    List.map_append, List.map_append] at hsightings
  unfold encode at h
  obtain ⟨_, htime', h⟩ := Result.bind_eq_ok h
  obtain rfl := Except.ok.inj (htime.symm.trans htime')
  obtain ⟨_, _, h⟩ := Result.bind_eq_ok h
  obtain ⟨progress, hentries, _⟩ := Result.bind_eq_ok h
  rw [Timeline.ofTokens, List.map_append, List.map_cons, List.foldlM_append] at hentries
  obtain ⟨entered, hentered, hentries⟩ := Result.bind_eq_ok hentries
  rw [List.foldlM_cons] at hentries
  obtain ⟨left, hleft, _⟩ := Result.bind_eq_ok hentries
  have hbegin :
      (before.map Entry.token).foldlM (encoder.session startUsec).entry (encoder.outset clock) =
        .ok entered := by
    exact hentered
  obtain ⟨written, hwritten, rfl⟩ := (encoder.session startUsec).entries_eq_ok hbegin
  obtain ⟨added, hadded, rfl⟩ := (encoder.session startUsec).entry_eq_ok hleft
  have hlength := (encoder.session startUsec).length_of_writeAll hwritten
  have hmore := (encoder.session startUsec).length_of_writeAll hadded
  have hfirst : ((#[] : Array Bytes) ++ written.toArray).size = written.length := by
    simp
  have hsecond :
      ((#[] : Array Bytes) ++ written.toArray ++ added.toArray).size =
        written.length + added.length := by
    simp
  refine ⟨startUsec, _, _, _, _, htime, hbegin, hleft, ?_, ?_, hsightings⟩
  · rw [List.length_map]
    exact hfirst.trans hlength
  · rw [hsecond, hlength, hmore, List.length_map]
    rfl

/--
**Tones are reported.**  Wherever a tone stands in a timeline that has a capture, the records that
an encoding adds while it takes the tone report that tone from the timestamp of the stream before
it, and the timestamp has then advanced by the samples of the tone.
-/
theorem isTone_of_encode
    {digit : Digit}
    (hprofile : Reportable encoder.profile)
    (hencoded :
      encoder.encode clock (.ofTokens (before ++ .tone digit :: behind)) = .ok encoded) :
    ∃ (startUsec : Int) (entered left : Progress) (seen reports later : List Sighting),
      toMicroseconds (encoder.startTimeOf clock) = .ok startUsec ∧
      (before.map Entry.token).foldlM (encoder.session startUsec).entry (encoder.outset clock) =
        .ok entered ∧
      (encoder.session startUsec).entry entered (.token (.tone digit)) = .ok left ∧
      sightings? encoded.bytes = some (seen ++ (reports ++ later)) ∧
      seen.length = entered.records.size ∧
      seen.length + reports.length = left.records.size ∧
      IsTone encoder.profile digit entered.stream.timestamp reports ∧
      left.stream.timestamp =
        (entered.stream.timestamp + encoder.profile.toneSamples) % 2 ^ 32 := by
  obtain ⟨startUsec, first, second, seen, later, htime, hentered, hleft, hseen, hadded,
    hsightings⟩ := exists_passage hencoded
  refine ⟨startUsec, _, _, seen, _, later, htime, hentered, hleft, hsightings, hseen.symm, ?_, ?_,
    ?_⟩
  · rw [List.length_map]
    exact hadded.symm
  · exact Clocks.isTone_cues _ hprofile _ digit
  · exact Clocks.timestamp_after_tone _ digit

/-- A tone of three frames and a half between two silences, while the timestamp goes round. -/
theorem isTone_of_encode_over_frames :
    let encoder : Encoder := { sample with profile := { sample.profile with toneMs := 7 } }
    let clock : Clock := ⟨7, 65535, 2 ^ 32 - 4, .integer 0⟩
    Reportable encoder.profile ∧
    ∃ encoded,
      encoder.encode clock (.ofTokens ([.silence 5] ++ .tone .star :: [.silence 1])) =
        .ok encoded ∧
      ∃ (entered left : Progress) (seen reports later : List Sighting),
        sightings? encoded.bytes = some (seen ++ (reports ++ later)) ∧
        IsTone encoder.profile .star entered.stream.timestamp reports ∧
        reports.map (fun s => Rtp.Event.decode s.packet.payload) =
          ([2, 4, 6].map (eventOf encoder.profile .star false) ++
            List.replicate 3 (eventOf encoder.profile .star true 7)).map .ok ∧
        left.stream.timestamp = (entered.stream.timestamp + 7) % 2 ^ 32 := by
  intro encoder clock
  have hprofile : Reportable encoder.profile := by
    constructor <;> decide
  have hok :
      (encoder.encode clock (.ofTokens ([.silence 5] ++ .tone .star :: [.silence 1]))).isOk =
        true := by
    decide +kernel
  cases hencoded :
      encoder.encode clock (.ofTokens ([.silence 5] ++ .tone .star :: [.silence 1])) with
  | error fault =>
      rw [hencoded] at hok
      cases hok
  | ok encoded =>
      obtain ⟨_, entered, left, seen, reports, later, _, _, _, hsightings, _, _, htone, hleft⟩ :=
        isTone_of_encode hprofile hencoded
      obtain ⟨growing, hframes, _, _, hevents⟩ := htone.events
      have hcount : (reports.length : Int) = 6 := htone.count
      have hthree : growing.length = 3 := by
        have hlength := congrArg List.length hevents
        simp only [List.length_map, List.length_append, List.length_replicate] at hlength
        omega
      obtain ⟨first, second, third, rfl⟩ := List.length_eq_three.mp hthree
      obtain rfl : first = 2 := hframes 0 first rfl
      obtain rfl : second = 4 := hframes 1 second rfl
      obtain rfl : third = 6 := hframes 2 third rfl
      exact ⟨hprofile, encoded, rfl, entered, left, seen, reports, later, hsightings, htone,
        hevents, hleft⟩

end Encoder
end Capture
end CallScript
