import CallScript.Proofs.Capture.Headers

/-!
# Loops of an encoder

A silence is written in rounds that each take a frame of what is left, and a tone in rounds that
each move one frame on, up to its end.  The packets of both are also given in closed form.  Here
the loops are written out round by round, and they come to the same.

Main statements:
* `Session.silentAudio_of_pos`, `Session.durations_of_lt`, `Session.durations_of_le`: what one round
  takes of the closed forms.
* `Loop.WorksOff.ends`: a loop whose rounds take a list part by part comes to what the list does.
* `Session.silence_eq_iff`, `Session.tone_eq_of_gives`: a silence and a tone are what their loops come
  to, and they are endless where the loops never end.
-/

namespace CallScript
namespace Capture

open Media

/-- A loop with a counter, which says whether it goes on; a round changes what is worked on. -/
structure Loop (α : Type) where
  goesOn : Int → Prop
  round : α → Int → Except Fault (α × Int)

namespace Loop

variable {α β : Type} {loop : Loop α} {a : α} {n : Int}

/-- A loop ends with what its rounds have made, or with the fault of one of them. -/
inductive Ends (loop : Loop α) : α → Int → Except Fault α → Prop where
  | done {a : α} {n : Int}
      (stops : ¬ loop.goesOn n) :
      Ends loop a n (.ok a)
  | failed {a : α} {n : Int} {fault : Fault}
      (goes : loop.goesOn n)
      (fails : loop.round a n = .error fault) :
      Ends loop a n (.error fault)
  | next {a b : α} {n m : Int} {result : Except Fault α}
      (goes : loop.goesOn n)
      (runs : loop.round a n = .ok (b, m))
      (others : Ends loop b m result) :
      Ends loop a n result

/-- A result of a loop: it ends with it, or it never ends, which counts as a fault. -/
def Gives (loop : Loop α) (a : α) (n : Int) (result : Except Fault α) : Prop :=
  loop.Ends a n result ∨ (result = .error .endless ∧ ∀ other, ¬ loop.Ends a n other)

/-- A loop ends in one way at most. -/
theorem Ends.unique
    {first second : Except Fault α}
    (hfirst : loop.Ends a n first)
    (hsecond : loop.Ends a n second) :
    first = second := by
  induction hfirst with
  | done stops =>
      cases hsecond with
      | done _ =>
          rfl
      | failed goes _ =>
          exact absurd goes stops
      | next goes _ _ =>
          exact absurd goes stops
  | failed goes fails =>
      cases hsecond with
      | done stops =>
          exact absurd goes stops
      | failed _ fails' =>
          rw [fails] at fails'
          cases fails'
          rfl
      | next _ runs _ =>
          rw [fails] at runs
          cases runs
  | next goes runs others ih =>
      cases hsecond with
      | done stops =>
          exact absurd goes stops
      | failed _ fails =>
          rw [runs] at fails
          cases fails
      | next _ runs' others' =>
          rw [runs] at runs'
          cases runs'
          exact ih others'

/-- Every loop has one result at most. -/
theorem Gives.unique
    {first second : Except Fault α}
    (hfirst : loop.Gives a n first)
    (hsecond : loop.Gives a n second) :
    first = second := by
  rcases hfirst with hfirst | ⟨rfl, hnever⟩ <;> rcases hsecond with hsecond | ⟨rfl, hnever'⟩
  · exact hfirst.unique hsecond
  · exact absurd hfirst (hnever' first)
  · exact absurd hsecond (hnever second)
  · rfl

/-- A loop never ends when a round that goes on can always follow. -/
theorem not_ends_of_invariant
    (keeps : α → Int → Prop)
    (hround : ∀ a n, keeps a n →
      loop.goesOn n ∧ ∃ b m, loop.round a n = .ok (b, m) ∧ keeps b m)
    (hkeeps : keeps a n)
    (result : Except Fault α) :
    ¬ loop.Ends a n result := by
  intro hends
  induction hends with
  | done stops =>
      exact stops (hround _ _ hkeeps).1
  | failed goes fails =>
      obtain ⟨_, _, _, hruns, _⟩ := hround _ _ hkeeps
      rw [fails] at hruns
      cases hruns
  | next goes runs others ih =>
      obtain ⟨_, _, _, hruns, hnext⟩ := hround _ _ hkeeps
      rw [runs] at hruns
      cases hruns
      exact ih hnext

/-- A loop that works off a list: every round takes the first items that are left. -/
structure WorksOff (loop : Loop α) (act : α → β → Except Fault α) (items : Int → List β) :
    Prop where
  /-- Nothing is left when the loop stops. -/
  stops : ∀ n, ¬ loop.goesOn n → items n = []
  /-- A round takes some items and leaves the others. -/
  takes : ∀ n, loop.goesOn n → ∃ part m,
    part ≠ [] ∧
    items n = part ++ items m ∧
    ∀ a, loop.round a n = (part.foldlM act a).map fun b => (b, m)

/-- A loop that works off a list comes to what the items of the list come to. -/
theorem WorksOff.ends
    {act : α → β → Except Fault α} {items : Int → List β}
    (h : loop.WorksOff act items)
    (a : α) (n : Int) :
    loop.Ends a n ((items n).foldlM act a) := by
  -- The induction is on the number of items that are left.
  generalize hleft : (items n).length = left
  induction left using Nat.strong_induction_on generalizing a n with
  | _ left ih =>
      by_cases hgoes : loop.goesOn n
      · obtain ⟨part, m, hpart, hitems, hround⟩ := h.takes n hgoes
        have hfewer : (items m).length < left := by
          have hpositive := List.length_pos_iff.mpr hpart
          rw [hitems, List.length_append] at hleft
          omega
        rw [hitems, List.foldlM_append]
        cases hacts : part.foldlM act a with
        | error fault =>
            exact .failed hgoes (by rw [hround, hacts]; rfl)
        | ok b =>
            exact .next hgoes (by rw [hround, hacts]; rfl) (ih _ hfewer b m rfl)
      · rw [h.stops n hgoes]
        exact .done hgoes

end Loop

namespace Session

section Rounds

variable {total frame : Nat}

/-- Silence of no samples takes no packet. -/
theorem silentAudio_zero (frame : Nat) :
    silentAudio 0 frame = [] := by
  simp [silentAudio]

/-- Silence is a packet of one frame, or of what is left of one, and the silence after it. -/
theorem silentAudio_of_pos
    (htotal : 0 < total)
    (hframe : 0 < frame) :
    silentAudio total frame =
      MuLaw.silence (min frame total) :: silentAudio (total - min frame total) frame := by
  unfold silentAudio
  by_cases hle : frame ≤ total
  · have hdiv : total / frame = (total - frame) / frame + 1 := by
      exact Nat.div_eq_sub_div hframe hle
    have hmod : total % frame = (total - frame) % frame := by
      exact Nat.mod_eq_sub_mod hle
    rw [min_eq_left hle, hdiv, hmod, List.replicate_succ, List.cons_append]
  · have hlt : total < frame := by
      omega
    rw [min_eq_right hlt.le, Nat.div_eq_of_lt hlt, Nat.mod_eq_of_lt hlt, if_neg (by omega)]
    simp

/-- A tone that ends within a frame is reported with its end alone. -/
theorem durations_of_le
    (htotal : 0 < total)
    (hle : total ≤ frame) :
    durations total frame = List.replicate endReports total := by
  have hnone : (total - 1) / frame = 0 := by
    exact Nat.div_eq_of_lt (by omega)
  rw [durations, hnone]
  rfl

/-- A tone longer than a frame is reported after one frame, and then like the rest of it. -/
theorem durations_of_lt
    (hframe : 0 < frame)
    (hlt : frame < total) :
    durations total frame = frame :: (durations (total - frame) frame).map (frame + ·) := by
  have hdiv : (total - 1) / frame = (total - frame - 1) / frame + 1 := by
    rw [Nat.div_eq_sub_div hframe (by omega), Nat.sub_right_comm]
  have hend : frame + (total - frame) = total := by
    omega
  rw [durations, durations, hdiv, List.range_succ_eq_map, List.map_cons, List.map_map,
    List.map_append, List.map_map, List.map_replicate, hend]
  simp only [Nat.zero_add, Nat.one_mul, List.cons_append, List.cons.injEq, true_and]
  congr 1
  apply List.map_congr_left
  intro k _
  simp only [Function.comp_apply, Nat.succ_eq_add_one]
  ring

end Rounds

section Emission

variable {session : Session} {progress after : Progress} {packet : Rtp.Packet} {place : Int}

/-- What it takes to send a packet with a payload of some bytes at a place. -/
structure CanSend (session : Session) (length : Nat) (place : Int) : Prop where
  source : session.source.HasPort
  destination : session.destination.HasPort
  short : Rtp.Packet.headerLength + length ≤ 65507
  nonneg : 0 ≤ session.timeAt place
  limit : session.timeAt place < timeLimit

/-- A packet is sent whatever has been written so far, if its ports, length and time fit. -/
theorem exists_emit_iff :
    (∃ after, session.emit progress packet place = .ok after) ↔
      session.CanSend packet.payload.length place := by
  have hencode := packet.length_encode
  constructor
  · rintro ⟨after, h⟩
    obtain ⟨datagram, hframe, h⟩ := Result.bind_eq_ok h
    obtain ⟨bytes, hrecord, _⟩ := Result.bind_eq_ok h
    obtain ⟨hsource, hdestination, hshort⟩ := fits_of_frame hframe
    obtain ⟨seconds, rest, hseconds, hlimit, hrest, hrest', _, _⟩ := record_eq_ok hrecord
    have htime := Int.fdiv_mul_add_fmod (session.timeAt place) microseconds
    have hless : Int.fmod (session.timeAt place) microseconds < microseconds := by
      exact Int.fmod_lt_of_pos _ (by decide)
    rw [hseconds, hrest] at htime
    rw [hrest] at hless
    unfold microseconds at htime hless
    refine ⟨hsource, hdestination, hencode ▸ hshort, by omega, ?_⟩
    unfold timeLimit microseconds
    omega
  · intro h
    have hshort := h.short
    obtain ⟨datagram, hframe, hlength⟩ :=
      exists_frame h.source h.destination (by omega : 28 + packet.encode.length < 65536)
        progress.records.size
    have hoffset : payloadOffset = 42 := by
      rfl
    obtain ⟨bytes, hrecord, _⟩ :=
      exists_record (by omega : datagram.length < 2 ^ 32) h.nonneg h.limit
    rw [emit, hframe, Result.ok_bind, hrecord]
    exact ⟨_, rfl⟩

theorem elapsed_of_emit
    (h : session.emit progress packet place = .ok after) :
    after.elapsed = progress.elapsed := by
  obtain ⟨_, _, h⟩ := Result.bind_eq_ok h
  obtain ⟨_, _, h⟩ := Result.bind_eq_ok h
  cases h
  rfl

theorem field_of_fieldBytes
    {width : Nat} {n : Int} {fault : Fault}
    (h : fieldBytes width n = .error fault) :
    fault = .field := by
  unfold fieldBytes at h
  split at h <;> cases h
  rfl

theorem field_of_record
    {frame : Bytes} {time : Int} {fault : Fault}
    (h : record frame time = .error fault) :
    fault = .field := by
  rcases Result.bind_eq_error h with h | ⟨_, _, h⟩
  · exact field_of_fieldBytes h
  rcases Result.bind_eq_error h with h | ⟨_, _, h⟩
  · exact field_of_fieldBytes h
  rcases Result.bind_eq_error h with h | ⟨_, _, h⟩
  · exact field_of_fieldBytes h
  · cases h

/-- A packet that cannot be sent has a number that does not fit into its field. -/
theorem field_of_emit
    {fault : Fault}
    (h : session.emit progress packet place = .error fault) :
    fault = .field := by
  rcases Result.bind_eq_error h with h | ⟨_, _, h⟩
  · exact field_of_frame h
  rcases Result.bind_eq_error h with h | ⟨_, _, h⟩
  · exact field_of_record h
  · cases h

/-- The time of a place leaves the fields of a record where places fall without end. -/
theorem exists_lowest
    (session : Session)
    (hrate : session.profile.sampleRate ≠ 0) :
    ∃ lowest, ∀ length place, session.CanSend length place → lowest ≤ place := by
  rcases lt_or_gt_of_ne hrate with hnegative | hpositive
  · -- With a negative rate the times grow while the places fall.
    refine ⟨-((timeLimit - session.startUsec) * -session.profile.sampleRate).natAbs, ?_⟩
    intro length place h
    have hlimit := h.limit
    rw [timeAt, ← Int.neg_fdiv_neg, Int.fdiv_eq_ediv_of_nonneg _ (by omega)] at hlimit
    have hbound :=
      (Int.ediv_lt_iff_lt_mul (by omega)).mp (Int.lt_sub_left_of_add_lt hlimit)
    unfold microseconds at hbound
    omega
  · refine ⟨-(-session.startUsec * session.profile.sampleRate).natAbs, ?_⟩
    intro length place h
    have hnonneg := h.nonneg
    rw [timeAt, Int.fdiv_eq_ediv_of_nonneg _ hpositive.le, ← neg_le_iff_add_nonneg'] at hnonneg
    have hbound := (Int.le_ediv_iff_mul_le hpositive).mp hnonneg
    unfold microseconds at hbound
    omega

/-- Whether audio can be sent is a matter of its length and the place alone. -/
theorem exists_emitAudio_iff {audio : Bytes} :
    (∃ after, session.emitAudio progress audio = .ok after) ↔
      session.CanSend audio.length progress.elapsed := by
  exact Result.exists_bind_pure_iff.trans exists_emit_iff

theorem elapsed_of_emitAudio
    {audio : Bytes}
    (h : session.emitAudio progress audio = .ok after) :
    after.elapsed = progress.elapsed + audio.length := by
  obtain ⟨emitted, hemitted, h⟩ := Result.bind_eq_ok h
  cases h
  have helapsed := elapsed_of_emit hemitted
  exact congrArg (· + (audio.length : Int)) helapsed

variable {code : Nat} {timestamp total duration : Int} {first : Bool}

/-- Whether a report of a tone can be sent is a matter of its place alone. -/
theorem exists_emitEvent_iff :
    (∃ after, session.emitEvent code timestamp total (progress, first) duration = .ok after) ↔
      session.CanSend 4 (progress.elapsed + duration) := by
  exact Result.exists_bind_pure_iff.trans exists_emit_iff

theorem elapsed_of_emitEvent
    {reported : Progress × Bool}
    (h : session.emitEvent code timestamp total (progress, first) duration = .ok reported) :
    reported.1.elapsed = progress.elapsed := by
  obtain ⟨emitted, hemitted, h⟩ := Result.bind_eq_ok h
  cases h
  have helapsed := elapsed_of_emit hemitted
  exact helapsed

theorem field_of_emitEvent
    {fault : Fault}
    (h : session.emitEvent code timestamp total (progress, first) duration = .error fault) :
    fault = .field := by
  rcases Result.bind_eq_error h with h | ⟨_, _, h⟩
  · exact field_of_emit h
  · cases h

end Emission

variable (session : Session)

/-- The loop that fills a silence: each round sends a frame of what is left, or all of it. -/
def silenceLoop : Loop Progress where
  goesOn remaining := 0 < remaining
  round progress remaining := do
    let samples := min session.profile.frameSamples remaining
    if samples < 0 then
      throw .negativeLength
    let progress ← session.emitAudio progress (MuLaw.silence samples.toNat)
    return (progress, remaining - samples)

/-- The loop that reports a tone: each round moves on by a frame, and the last one to the end. -/
def toneLoop (code : Nat) (timestamp : Int) : Loop (Progress × Bool) where
  goesOn offset := offset < session.profile.toneSamples
  round progress offset := do
    let total := session.profile.toneSamples
    let offset := min (offset + session.profile.frameSamples) total
    let copies := if offset = total then endReports else 1
    let progress ←
      (List.replicate copies offset).foldlM (session.emitEvent code timestamp total) progress
    return (progress, offset)

/-- The progress behind a tone whose reports have been sent. -/
def behindTone (progress : Progress) : Progress :=
  { progress with
    stream := progress.stream.advance session.profile.toneSamples
    elapsed := progress.elapsed + session.profile.toneSamples
    talkspurt := true }

section Silence

/-- A round of a silence sends one packet, if it has no negative length. -/
theorem round_silenceLoop
    {remaining samples : Int}
    (hsamples : min session.profile.frameSamples remaining = samples)
    (hnonneg : 0 ≤ samples)
    (progress : Progress) :
    session.silenceLoop.round progress remaining =
      (session.emitAudio progress (MuLaw.silence samples.toNat)).map
        fun after => (after, remaining - samples) := by
  simp only [silenceLoop, hsamples]
  rw [if_neg (by omega)]
  cases session.emitAudio progress (MuLaw.silence samples.toNat) with
  | error fault =>
      rfl
  | ok after =>
      rfl

/-- The loop of a silence works off its packets. -/
theorem worksOff_silenceLoop
    (hframe : 0 < session.profile.frameSamples) :
    session.silenceLoop.WorksOff session.emitAudio
      fun remaining => silentAudio remaining.toNat session.profile.frameSamples.toNat where
  stops := by
    intro remaining hstops
    have hnone : remaining.toNat = 0 := by
      simp only [silenceLoop] at hstops
      omega
    rw [hnone, silentAudio_zero]
  takes := by
    intro remaining hgoes
    have hremaining : 0 < remaining := by
      exact hgoes
    obtain ⟨samples, hsamples⟩ :
        ∃ samples, min session.profile.frameSamples remaining = samples :=
      ⟨_, rfl⟩
    have hsome : (min session.profile.frameSamples.toNat remaining.toNat) = samples.toNat := by
      omega
    have hleft : remaining.toNat - samples.toNat = (remaining - samples).toNat := by
      omega
    refine ⟨[MuLaw.silence samples.toNat], remaining - samples, by simp, ?_, ?_⟩
    · rw [silentAudio_of_pos (by omega) (by omega), hsome, hleft]
      rfl
    · intro progress
      rw [session.round_silenceLoop hsamples (by omega), List.foldlM_cons]
      simp

/-- Once a packet without samples can be sent, such packets are sent for ever. -/
theorem not_ends_silenceLoop
    {progress after : Progress} {remaining : Int}
    (hframe : session.profile.frameSamples = 0)
    (hgoes : session.silenceLoop.goesOn remaining)
    (hfirst : session.emitAudio progress [] = .ok after)
    (result : Except Fault Progress) :
    ¬ session.silenceLoop.Ends progress remaining result := by
  have hsend := exists_emitAudio_iff.mp ⟨after, hfirst⟩
  have hsamples : min session.profile.frameSamples remaining = 0 := by
    have hremaining : 0 < remaining := hgoes
    omega
  -- No round changes what is left or the place at which the next packet is sent.
  refine Loop.not_ends_of_invariant
    (fun now left => left = remaining ∧ now.elapsed = progress.elapsed) ?_ ⟨rfl, rfl⟩ result
  rintro now left ⟨rfl, hplace⟩
  rw [← hplace] at hsend
  obtain ⟨later, hlater⟩ := exists_emitAudio_iff.mpr hsend
  have helapsed := elapsed_of_emitAudio hlater
  refine ⟨hgoes, later, left - 0, ?_, ?_, ?_⟩
  · rw [session.round_silenceLoop hsamples le_rfl]
    exact congrArg (Except.map _) hlater
  · omega
  · rw [helapsed, hplace]
    simp

/-- The loop of a silence comes to the silence. -/
theorem gives_silence (progress : Progress) (milliseconds : Int) :
    session.silenceLoop.Gives progress (session.profile.samplesFor milliseconds)
      (session.silence progress milliseconds) := by
  by_cases htotal : session.profile.samplesFor milliseconds ≤ 0
  · left
    rw [silence, if_pos htotal]
    exact .done (not_lt.mpr htotal)
  have hgoes : session.silenceLoop.goesOn (session.profile.samplesFor milliseconds) := by
    exact not_le.mp htotal
  rcases lt_trichotomy session.profile.frameSamples 0 with hframe | hframe | hframe
  · left
    rw [silence, if_neg htotal, if_pos hframe]
    refine .failed hgoes ?_
    simp only [silenceLoop]
    rw [if_pos (by omega)]
    rfl
  · rw [silence, if_neg htotal, if_neg (by omega), if_pos hframe]
    cases hfirst : session.emitAudio progress [] with
    | error fault =>
        left
        refine .failed hgoes ?_
        have hsamples :
            min session.profile.frameSamples (session.profile.samplesFor milliseconds) = 0 := by
          omega
        rw [session.round_silenceLoop hsamples le_rfl]
        exact congrArg (Except.map _) hfirst
    | ok after =>
        right
        exact ⟨rfl, session.not_ends_silenceLoop hframe hgoes hfirst⟩
  · left
    rw [session.silence_eq progress milliseconds (.inl hframe)]
    exact (session.worksOff_silenceLoop hframe).ends progress _

/--
**A silence is its loop.**  The packets of a silence are those that the rounds of its loop send, and
its fault is that of a round; it is endless where the loop never ends.
-/
theorem silence_eq_iff
    {progress : Progress} {milliseconds : Int} {result : Except Fault Progress} :
    session.silence progress milliseconds = result ↔
      session.silenceLoop.Gives progress (session.profile.samplesFor milliseconds) result := by
  have hgives := session.gives_silence progress milliseconds
  constructor
  · rintro rfl
    exact hgives
  · exact hgives.unique

end Silence

section Tone

variable (code : Nat) (timestamp : Int)

/-- The durations of a tone that are still to be reported when some of its samples have passed. -/
def pending (offset : Int) : List Int :=
  if offset < session.profile.toneSamples then
    (durations (session.profile.toneSamples - offset).toNat session.profile.frameSamples.toNat).map
      fun (duration : Nat) => offset + duration
  else
    []

/-- Nothing is left to report at the end of a tone. -/
theorem pending_end
    {offset : Int}
    (hstops : ¬ offset < session.profile.toneSamples) :
    session.pending offset = [] := by
  exact if_neg hstops

/-- Within a frame of the end of a tone only its end is left to report. -/
theorem pending_of_le
    {offset : Int}
    (hbefore : offset < session.profile.toneSamples)
    (hends : session.profile.toneSamples ≤ offset + session.profile.frameSamples) :
    session.pending offset = List.replicate endReports session.profile.toneSamples := by
  have hrest :
      offset + ((session.profile.toneSamples - offset).toNat : Int) =
        session.profile.toneSamples := by
    omega
  rw [pending, if_pos hbefore, durations_of_le (by omega) (by omega), List.map_replicate, hrest]

/-- Farther from its end a tone is reported one frame on, and then like what is left of it. -/
theorem pending_of_lt
    {offset : Int}
    (hframe : 0 < session.profile.frameSamples)
    (hnext : offset + session.profile.frameSamples < session.profile.toneSamples) :
    session.pending offset =
      (offset + session.profile.frameSamples) ::
        session.pending (offset + session.profile.frameSamples) := by
  have hrest :
      (session.profile.toneSamples - offset).toNat - session.profile.frameSamples.toNat =
        (session.profile.toneSamples - (offset + session.profile.frameSamples)).toNat := by
    omega
  rw [pending, pending, if_pos (by omega), if_pos hnext, durations_of_lt (by omega) (by omega),
    hrest, List.map_cons, List.map_map]
  congr 1
  · omega
  · apply List.map_congr_left
    intro duration _
    simp only [Function.comp_apply]
    omega

/-- A round of a tone sends the reports of its offset. -/
theorem round_toneLoop
    {offset reached : Int} {copies : Nat}
    (hreached : min (offset + session.profile.frameSamples) session.profile.toneSamples = reached)
    (hcopies : (if reached = session.profile.toneSamples then endReports else 1) = copies)
    (progress : Progress × Bool) :
    (session.toneLoop code timestamp).round progress offset =
      ((List.replicate copies reached).foldlM
        (session.emitEvent code timestamp session.profile.toneSamples) progress).map
          fun after => (after, reached) := by
  simp only [toneLoop, hreached, hcopies]
  cases (List.replicate copies reached).foldlM
      (session.emitEvent code timestamp session.profile.toneSamples) progress with
  | error fault =>
      rfl
  | ok after =>
      rfl

/-- The loop of a tone works off its reports. -/
theorem worksOff_toneLoop
    (hframe : 0 < session.profile.frameSamples) :
    (session.toneLoop code timestamp).WorksOff
      (session.emitEvent code timestamp session.profile.toneSamples) session.pending where
  stops := by
    intro offset hstops
    exact session.pending_end hstops
  takes := by
    intro offset hgoes
    by_cases hends : session.profile.toneSamples ≤ offset + session.profile.frameSamples
    · refine ⟨List.replicate endReports session.profile.toneSamples, session.profile.toneSamples,
        ?_, ?_, ?_⟩
      · simp [endReports]
      · rw [session.pending_of_le hgoes hends, session.pending_end (lt_irrefl _), List.append_nil]
      · exact session.round_toneLoop code timestamp (min_eq_right hends) (if_pos rfl)
    · have hnext : offset + session.profile.frameSamples < session.profile.toneSamples := by
        exact not_le.mp hends
      refine ⟨[offset + session.profile.frameSamples], offset + session.profile.frameSamples,
        ?_, ?_, ?_⟩
      · simp
      · exact session.pending_of_lt hframe hnext
      · exact session.round_toneLoop code timestamp (min_eq_left hnext.le) (if_neg hnext.ne)

/-- A round that does not reach the end of a tone sends one report. -/
theorem round_toneLoop_of_ne
    {offset reached : Int}
    (hreached : min (offset + session.profile.frameSamples) session.profile.toneSamples = reached)
    (hne : reached ≠ session.profile.toneSamples)
    (progress : Progress × Bool) :
    (session.toneLoop code timestamp).round progress offset =
      (session.emitEvent code timestamp session.profile.toneSamples progress reached).map
        fun after => (after, reached) := by
  rw [session.round_toneLoop code timestamp hreached (if_neg hne)]
  simp

/-- Once a report of nothing can be sent, such reports are sent for ever. -/
theorem not_ends_toneLoop
    {progress : Progress} {after : Progress × Bool}
    (hframe : session.profile.frameSamples = 0)
    (htotal : 0 < session.profile.toneSamples)
    (hfirst :
      session.emitEvent code timestamp session.profile.toneSamples (progress, true) 0 = .ok after)
    (result : Except Fault (Progress × Bool)) :
    ¬ (session.toneLoop code timestamp).Ends (progress, true) 0 result := by
  have hsend := exists_emitEvent_iff.mp ⟨after, hfirst⟩
  have hreached :
      min (0 + session.profile.frameSamples) session.profile.toneSamples = 0 := by
    omega
  -- Every round ends at the start of the tone again, and its report has the place of the first.
  refine Loop.not_ends_of_invariant
    (fun now offset => offset = 0 ∧ now.1.elapsed = progress.elapsed) ?_ ⟨rfl, rfl⟩ result
  rintro ⟨now, first⟩ offset ⟨rfl, hplace⟩
  have hplace : now.elapsed = progress.elapsed := hplace
  rw [← hplace] at hsend
  obtain ⟨later, hlater⟩ := exists_emitEvent_iff.mpr hsend
  refine ⟨htotal, later, 0, ?_, rfl, (elapsed_of_emitEvent hlater).trans hplace⟩
  rw [session.round_toneLoop_of_ne code timestamp hreached htotal.ne]
  exact congrArg (Except.map _) hlater

/-- Steps back leave the fields of a record at last. -/
theorem ends_toneLoop
    (hframe : session.profile.frameSamples < 0)
    (htotal : 0 < session.profile.toneSamples)
    {offset : Int}
    (hoffset : offset ≤ 0)
    (progress : Progress × Bool) :
    (session.toneLoop code timestamp).Ends progress offset (.error .field) := by
  have hrate : session.profile.sampleRate ≠ 0 := by
    intro hzero
    rw [Profile.frameSamples, Profile.samplesFor, hzero, Int.zero_mul] at hframe
    exact absurd hframe (by decide)
  obtain ⟨lowest, hlowest⟩ := session.exists_lowest hrate
  -- The induction is on the distance between the place of the last report and the lowest place.
  generalize hleft : (progress.1.elapsed + offset - lowest).toNat = left
  induction left using Nat.strong_induction_on generalizing progress offset with
  | _ left ih =>
      obtain ⟨now, first⟩ := progress
      have hgoes : (session.toneLoop code timestamp).goesOn offset := by
        exact hoffset.trans_lt htotal
      have hround := session.round_toneLoop_of_ne code timestamp
        (min_eq_left (by omega : offset + session.profile.frameSamples ≤ _)) (by omega)
        (now, first)
      cases hreport : session.emitEvent code timestamp session.profile.toneSamples (now, first)
          (offset + session.profile.frameSamples) with
      | error fault =>
          rw [hreport, field_of_emitEvent hreport] at hround
          exact .failed hgoes hround
      | ok after =>
          rw [hreport] at hround
          have hplace := hlowest _ _ (exists_emitEvent_iff.mp ⟨after, hreport⟩)
          have helapsed := elapsed_of_emitEvent hreport
          refine .next hgoes hround (ih _ ?_ (by omega) after rfl)
          rw [helapsed, ← hleft]
          dsimp only
          omega

/-- The loop of a tone comes to something, and the tone is what stands behind it. -/
theorem gives_tone (progress : Progress) (digit : Digit) :
    ∃ result,
      (session.toneLoop digit.code progress.stream.timestamp).Gives (progress, true) 0 result ∧
      session.tone progress digit = result.map fun last => session.behindTone last.1 := by
  by_cases htotal : session.profile.toneSamples ≤ 0
  · refine ⟨.ok (progress, true), .inl (.done (not_lt.mpr htotal)), ?_⟩
    rw [tone, if_pos htotal]
    rfl
  have hsome : 0 < session.profile.toneSamples := by
    exact not_le.mp htotal
  rcases lt_trichotomy session.profile.frameSamples 0 with hframe | hframe | hframe
  · refine ⟨_, .inl (session.ends_toneLoop _ _ hframe hsome le_rfl _), ?_⟩
    rw [tone, if_neg htotal, if_pos hframe]
    rfl
  · rw [tone, if_neg htotal, if_neg (by omega), if_pos hframe]
    cases hfirst : session.emitEvent digit.code progress.stream.timestamp
        session.profile.toneSamples (progress, true) 0 with
    | error fault =>
        refine ⟨.error fault, .inl (.failed hsome ?_), ?_⟩
        · rw [session.round_toneLoop_of_ne _ _ (by omega) hsome.ne]
          exact congrArg (Except.map _) hfirst
        · rfl
    | ok after =>
        exact ⟨.error .endless, .inr ⟨rfl, session.not_ends_toneLoop _ _ hframe hsome hfirst⟩, rfl⟩
  · refine ⟨_, .inl ((session.worksOff_toneLoop _ _ hframe).ends (progress, true) 0), ?_⟩
    have hall :
        session.pending 0 =
          (durations session.profile.toneSamples.toNat session.profile.frameSamples.toNat).map
            Int.ofNat := by
      rw [pending, if_pos hsome, Int.sub_zero]
      simp
    rw [tone, if_neg htotal, if_neg (by omega), if_neg (by omega), hall]
    cases ((durations session.profile.toneSamples.toNat session.profile.frameSamples.toNat).map
        Int.ofNat).foldlM
          (session.emitEvent digit.code progress.stream.timestamp session.profile.toneSamples)
          (progress, true) with
    | error fault =>
        rfl
    | ok after =>
        rfl

/--
**A tone is its loop.**  The reports of a tone are those that the rounds of its loop send, and its
fault is that of a round; where the loop never ends, the tone is endless.
-/
theorem tone_eq_of_gives
    {progress : Progress} {digit : Digit} {result : Except Fault (Progress × Bool)}
    (h : (session.toneLoop digit.code progress.stream.timestamp).Gives (progress, true) 0 result) :
    session.tone progress digit = result.map fun last => session.behindTone last.1 := by
  obtain ⟨given, hgives, htone⟩ := session.gives_tone progress digit
  rw [htone, hgives.unique h]

end Tone

end Session
end Capture
end CallScript
