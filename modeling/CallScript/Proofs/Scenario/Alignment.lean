import CallScript.Proofs.Scenario.Course
import Mathlib.Algebra.BigOperators.Group.List.Basic
import Mathlib.Tactic.Ring

/-!
# The clock of the script and the clock of the capture

The script waits and the capture plays.  A rest takes both the same time; a dialled digit takes
the script two silences and the capture a tone and one silence.

Main statement: `Scenario.clocks_of_run`.  After any course of a call the script leads the capture
by what the dialled digits have added; a lead has been warned of; and while every silence after a
digit is as long as a tone, each digit is played when the script begins to wait for it.
-/

namespace CallScript

open Media

namespace Step

@[simp] theorem totalWaitMs_append (first second : List Step) :
    totalWaitMs (first ++ second) = totalWaitMs first + totalWaitMs second := by
  simp [totalWaitMs]

end Step

namespace Media.Entry

@[simp] theorem totalMs_append (toneMs : Int) (first second : List Entry) :
    totalMs toneMs (first ++ second) = totalMs toneMs first + totalMs toneMs second := by
  induction first with
  | nil =>
      simp [totalMs]
  | cons entry rest ih =>
      simp only [List.cons_append, totalMs, ih, add_assoc]

end Media.Entry

namespace Dialling

/-- The time by which dialled digits take the script longer than the capture. -/
def driftMs (toneMs : Int) (d : Dialling) : Int :=
  d.digits.length * (d.gapMs - toneMs)

/-- One of some dialled digits is played when the script begins to wait for it. -/
structure InStep (d : Dialling) (s : Scenario) (toneMs : Int) (i : Nat) : Prop where
  /-- The tone of the digit stands in the timeline. -/
  tone : ∃ key : Digit,
    d.digits[i]? = some (.char key.symbol) ∧
    s.timeline.entries[d.entryCount + 2 * i]? = some (.token (.tone key))
  /-- The wait for the digit stands in the script. -/
  wait : s.steps[d.stepCount + i]? = some (.pause (.integer (d.gapMs * 2)))
  /-- What the script waits before takes as long as what the capture plays before. -/
  together :
    Step.totalWaitMs (s.steps.take (d.stepCount + i)) =
      Entry.totalMs toneMs (s.timeline.entries.take (d.entryCount + 2 * i))

end Dialling

namespace Passage

theorem totalWaitMs_timeless
    {steps : List Step}
    (timeless : ∀ step ∈ steps, step.isPause = false) :
    Step.totalWaitMs steps = 0 := by
  apply List.sum_eq_zero
  intro ms hms
  obtain ⟨step, hstep, rfl⟩ := List.mem_map.mp hms
  have hquiet := timeless step hstep
  cases step with
  | pause milliseconds =>
      cases hquiet
  | _ =>
      rfl

/-- The waits of a passage take whole milliseconds. -/
theorem whole_of_pause_mem
    {passage : Passage} {value : Value}
    (h : .pause value ∈ passage.steps) :
    ∃ milliseconds : Nat, value = .integer milliseconds := by
  cases passage with
  | signal steps timeless =>
      cases timeless _ h
  | rest milliseconds =>
      have heq := List.mem_singleton.mp h
      exact ⟨milliseconds, Step.pause.inj heq⟩
  | dial keys gapMs =>
      obtain ⟨key, _, heq⟩ := List.mem_map.mp h
      exact ⟨gapMs * 2, (Step.pause.inj heq).symm⟩

/-- The steps of dialled digits wait twice as long as their silences. -/
theorem totalWaitMs_dial (keys : List Digit) (gapMs : Nat) :
    Step.totalWaitMs (dial keys gapMs).steps = keys.length * (gapMs * 2) := by
  induction keys with
  | nil =>
      simp [steps, Step.totalWaitMs]
  | cons key rest ih =>
      have hsteps :
          (dial (key :: rest) gapMs).steps = [wait (gapMs * 2)] ++ (dial rest gapMs).steps := by
        rfl
      rw [hsteps, Step.totalWaitMs_append, ih]
      simp [Step.totalWaitMs, Step.waitMs, wait]
      ring

/-- Dialled digits are played as tones, each with its silence. -/
theorem totalMs_dial (toneMs : Int) (keys : List Digit) (gapMs : Nat) :
    Entry.totalMs toneMs ((dial keys gapMs).tokens.map .token) =
      keys.length * (toneMs + gapMs) := by
  induction keys with
  | nil =>
      simp [tokens, Entry.totalMs]
  | cons key rest ih =>
      have htokens :
          (dial (key :: rest) gapMs).tokens =
            [.tone key, .silence gapMs] ++ (dial rest gapMs).tokens := by
        rfl
      rw [htokens, List.map_append, Entry.totalMs_append, ih]
      simp [Entry.totalMs, Entry.nominalMs]
      ring

/-- The media of the first of some dialled digits come first. -/
theorem take_tokens_dial (keys : List Digit) (gapMs i : Nat) :
    (dial keys gapMs).tokens.take (2 * i) = (dial (keys.take i) gapMs).tokens := by
  induction keys generalizing i with
  | nil =>
      simp [tokens]
  | cons key rest ih =>
      cases i with
      | zero =>
          simp [tokens]
      | succ i =>
          have htokens :
              (dial (key :: rest) gapMs).tokens =
                .tone key :: .silence gapMs :: (dial rest gapMs).tokens := by
            rfl
          have hcount : 2 * (i + 1) = 2 * i + 1 + 1 := by
            ring
          rw [htokens, hcount, List.take_succ_cons, List.take_succ_cons, ih]
          rfl

/-- The tones of dialled digits are those of the digits, every other token from the first. -/
theorem getElem?_tokens_dial_eq_tone_iff
    (keys : List Digit) (gapMs j : Nat) (key : Digit) :
    (dial keys gapMs).tokens[j]? = some (.tone key) ↔
      ∃ i, j = 2 * i ∧ keys[i]? = some key := by
  induction keys generalizing j with
  | nil =>
      simp [tokens]
  | cons first rest ih =>
      have htokens :
          (dial (first :: rest) gapMs).tokens =
            .tone first :: .silence gapMs :: (dial rest gapMs).tokens := by
        rfl
      rw [htokens]
      cases j with
      | zero =>
          simp only [List.getElem?_cons_zero, Option.some.injEq, Token.tone.injEq]
          constructor
          · intro h
            exact ⟨0, rfl, by rw [h]; rfl⟩
          · rintro ⟨i, hi, hkey⟩
            have hzero : i = 0 := by omega
            subst hzero
            simpa using hkey
      | succ j =>
          rw [List.getElem?_cons_succ]
          cases j with
          | zero =>
              simp only [List.getElem?_cons_zero, Option.some.injEq, reduceCtorEq, false_iff]
              rintro ⟨i, hi, _⟩
              omega
          | succ j =>
              rw [List.getElem?_cons_succ, ih]
              constructor
              · rintro ⟨i, hi, hkey⟩
                exact ⟨i + 1, by omega, by simpa using hkey⟩
              · rintro ⟨i, hi, hkey⟩
                obtain ⟨k, rfl⟩ : ∃ k, i = k + 1 := ⟨i - 1, by omega⟩
                exact ⟨k, by omega, by simpa using hkey⟩

/-- A tone stands in a passage only when that dials its digit. -/
theorem exists_dial_of_tone
    {passage : Passage} {j : Nat} {key : Digit}
    (htone : passage.tokens[j]? = some (.tone key)) :
    ∃ (keys : List Digit) (gapMs i : Nat),
      passage = .dial keys gapMs ∧ j = 2 * i ∧ i < keys.length := by
  cases passage with
  | signal steps timeless =>
      cases htone
  | rest milliseconds =>
      rcases j with _ | j <;> cases htone
  | dial keys gapMs =>
      obtain ⟨i, hi, hkey⟩ := (getElem?_tokens_dial_eq_tone_iff keys gapMs j key).mp htone
      exact ⟨keys, gapMs, i, rfl, hi, (List.getElem?_eq_some_iff.mp hkey).1⟩

end Passage

namespace Scenario

/-- The time by which the script of a scenario is longer than its capture. -/
def leadMs (s : Scenario) (toneMs : Int) : Int :=
  Step.totalWaitMs s.steps - s.timeline.nominalMs toneMs

/-- A passage changes the lead by the drift of the digits that it dials. -/
theorem leadMs_passage (s : Scenario) (toneMs : Int) (passage : Passage) :
    (s.extended [passage]).leadMs toneMs =
      s.leadMs toneMs + ((s.dialAt passage.dialled?).map (Dialling.driftMs toneMs)).sum := by
  have hlead :
      (s.extended [passage]).leadMs toneMs =
        s.leadMs toneMs + (Step.totalWaitMs passage.steps -
          Entry.totalMs toneMs (passage.tokens.map .token)) := by
    simp [leadMs, extended, Timeline.nominalMs, Timeline.extend]
    ring
  rw [hlead]
  congr 1
  cases passage with
  | signal steps timeless =>
      simp only [Passage.steps, Passage.totalWaitMs_timeless timeless]
      rfl
  | rest milliseconds =>
      simp [Passage.steps, Passage.tokens, Passage.dialled?, dialAt, Passage.wait,
        Step.totalWaitMs, Step.waitMs, Entry.totalMs, Entry.nominalMs]
  | dial keys gapMs =>
      rw [Passage.totalWaitMs_dial, Passage.totalMs_dial]
      simp [Passage.dialled?, dialAt, Dialling.driftMs, Digit.textOf]
      ring

/-- Passages change the lead by the drift of the digits that they dial. -/
theorem leadMs_extended (s : Scenario) (toneMs : Int) (passages : List Passage) :
    (s.extended passages).leadMs toneMs =
      s.leadMs toneMs + ((s.trail passages).map (Dialling.driftMs toneMs)).sum := by
  induction passages generalizing s with
  | nil =>
      simp [trail]
  | cons passage rest ih =>
      have hsplit : s.extended (passage :: rest) = (s.extended [passage]).extended rest := by
        exact extended_append s [passage] rest
      rw [hsplit, ih, leadMs_passage, trail, List.map_append, List.sum_append, add_assoc]

/-- While every silence is as long as a tone, the lead stays what it was. -/
theorem leadMs_extended_of_gap
    {s : Scenario} {toneMs : Int} {passages : List Passage}
    (hgap : ∀ d ∈ s.trail passages, d.gapMs = toneMs) :
    (s.extended passages).leadMs toneMs = s.leadMs toneMs := by
  have hdrift : ((s.trail passages).map (Dialling.driftMs toneMs)).sum = 0 := by
    apply List.sum_eq_zero
    intro drift hdrift
    obtain ⟨d, hd, rfl⟩ := List.mem_map.mp hdrift
    simp [Dialling.driftMs, hgap d hd]
  rw [leadMs_extended, hdrift, add_zero]

/-- Digits whose silence is not as long as a tone have been warned of. -/
theorem warned_of_mem_trail
    {s : Scenario} {passages : List Passage} {d : Dialling}
    (hd : d ∈ s.trail passages)
    (hdrift : d.gapMs ≠ s.profile.toneMs) :
    .delayDiffers s.stem d.gapMs s.profile.toneMs ∈ (s.extended passages).journal := by
  obtain ⟨before, keys, gapMs, after, rfl, rfl⟩ := mem_trail hd
  have hwarning :
      .delayDiffers s.stem gapMs s.profile.toneMs ∈
        (Passage.dial keys gapMs).notices s.stem s.profile.toneMs := by
    refine List.mem_append_left _ ?_
    rw [Passage.warnings, if_pos hdrift]
    exact List.mem_singleton.mpr rfl
  refine List.mem_append_right _ (List.mem_flatMap.mpr ⟨.dial keys gapMs, ?_, hwarning⟩)
  exact List.mem_append_right _ (List.mem_cons_self ..)

section Digits

variable (s : Scenario) (before after : List Passage) (keys : List Digit) (gapMs : Nat)

theorem steps_extended_dial :
    (s.extended (before ++ .dial keys gapMs :: after)).steps =
      (s.extended before).steps ++
        ((Passage.dial keys gapMs).steps ++ after.flatMap Passage.steps) := by
  simp [extended]

theorem entries_extended_dial :
    (s.extended (before ++ .dial keys gapMs :: after)).timeline.entries =
      (s.extended before).timeline.entries ++
        ((Passage.dial keys gapMs).tokens.map .token ++
          (after.flatMap Passage.tokens).map .token) := by
  simp [extended, Timeline.extend]

/-- The script up to one of some dialled digits. -/
theorem take_steps_dial {i : Nat} (hi : i ≤ keys.length) :
    (s.extended (before ++ .dial keys gapMs :: after)).steps.take
        ((s.extended before).steps.length + i) =
      (s.extended (before ++ [.dial (keys.take i) gapMs])).steps := by
  have hlength : i ≤ (Passage.dial keys gapMs).steps.length := by
    simpa [Passage.steps] using hi
  rw [steps_extended_dial, List.take_length_add_append,
    List.take_append_of_le_length hlength, extended_append]
  simp [extended, Passage.steps, List.map_take]

/-- The capture up to one of some dialled digits. -/
theorem take_entries_dial {i : Nat} (hi : i ≤ keys.length) :
    (s.extended (before ++ .dial keys gapMs :: after)).timeline.entries.take
        ((s.extended before).timeline.length + 2 * i) =
      (s.extended (before ++ [.dial (keys.take i) gapMs])).timeline.entries := by
  have hlength : 2 * i ≤ ((Passage.dial keys gapMs).tokens.map Entry.token).length := by
    simp [Passage.tokens]
    omega
  rw [entries_extended_dial, Timeline.length, List.take_length_add_append,
    List.take_append_of_le_length hlength, ← List.map_take, Passage.take_tokens_dial,
    extended_append]
  simp [extended, Timeline.extend]

/-- The tone of one of some dialled digits. -/
theorem getElem?_entries_dial {i : Nat} (hi : i < keys.length) :
    (s.extended (before ++ .dial keys gapMs :: after)).timeline.entries[
        (s.extended before).timeline.length + 2 * i]? = some (.token (.tone keys[i])) := by
  have htone : (Passage.dial keys gapMs).tokens[2 * i]? = some (.tone keys[i]) := by
    rw [Passage.getElem?_tokens_dial_eq_tone_iff]
    exact ⟨i, rfl, List.getElem?_eq_getElem hi⟩
  have hlength : 2 * i < ((Passage.dial keys gapMs).tokens.map Entry.token).length := by
    rw [List.length_map]
    exact (List.getElem?_eq_some_iff.mp htone).1
  rw [entries_extended_dial, Timeline.length,
    List.getElem?_append_right (Nat.le_add_right _ _), Nat.add_sub_cancel_left,
    List.getElem?_append_left hlength, List.getElem?_map, htone]
  rfl

/-- The wait for one of some dialled digits. -/
theorem getElem?_steps_dial {i : Nat} (hi : i < keys.length) :
    (s.extended (before ++ .dial keys gapMs :: after)).steps[
        (s.extended before).steps.length + i]? = some (Passage.wait (gapMs * 2)) := by
  have hlength : i < (Passage.dial keys gapMs).steps.length := by
    simpa [Passage.steps] using hi
  rw [steps_extended_dial, List.getElem?_append_right (Nat.le_add_right _ _),
    Nat.add_sub_cancel_left, List.getElem?_append_left hlength]
  simp [Passage.steps, hi]

end Digits

/-- While every silence is as long as a tone, a scenario that was in step stays in step. -/
theorem inStep_of_mem_trail
    {s : Scenario} {toneMs : Int} {passages : List Passage}
    (hstart : s.leadMs toneMs = 0)
    (hgap : ∀ d ∈ s.trail passages, d.gapMs = toneMs)
    {d : Dialling} (hd : d ∈ s.trail passages)
    {i : Nat} (hi : i < d.digits.length) :
    d.InStep (s.extended passages) toneMs i := by
  have hd' := hgap d hd
  obtain ⟨before, keys, gapMs, after, rfl, rfl⟩ := mem_trail hd
  have hkeys : i < keys.length := by
    simpa [Digit.textOf] using hi
  -- What precedes the digit is itself a course in which every silence is as long as a tone.
  have hbefore :
      (s.extended (before ++ [.dial (keys.take i) gapMs])).leadMs toneMs = 0 := by
    rw [leadMs_extended_of_gap _, hstart]
    intro e he
    rw [trail_append] at he
    rcases List.mem_append.mp he with hearlier | hlast
    · apply hgap
      rw [trail_append]
      exact List.mem_append_left _ hearlier
    · obtain rfl := List.mem_singleton.mp hlast
      exact hd'
  refine ⟨⟨keys[i], ?_, ?_⟩, ?_, ?_⟩
  · simp [Digit.textOf, hkeys]
  · exact getElem?_entries_dial s before after keys gapMs hkeys
  · exact getElem?_steps_dial s before after keys gapMs hkeys
  · rw [take_steps_dial s before after keys gapMs hkeys.le,
      take_entries_dial s before after keys gapMs hkeys.le]
    exact sub_eq_zero.mp hbefore

/-- Every tone that passages add to a timeline is that of a digit that they dial. -/
theorem exists_dialling_of_tone
    {s : Scenario} {passages : List Passage} {j : Nat} {key : Digit}
    (htone : (s.extended passages).timeline.entries[j]? = some (.token (.tone key)))
    (hj : s.timeline.length ≤ j) :
    ∃ d ∈ s.trail passages, ∃ i < d.digits.length, j = d.entryCount + 2 * i := by
  induction passages generalizing s with
  | nil =>
      rw [extended_nil] at htone
      have hlt := (List.getElem?_eq_some_iff.mp htone).1
      exact absurd hlt (Nat.not_lt.mpr hj)
  | cons passage rest ih =>
      have hsplit : s.extended (passage :: rest) = (s.extended [passage]).extended rest := by
        exact extended_append s [passage] rest
      rw [hsplit] at htone
      by_cases hlater : (s.extended [passage]).timeline.length ≤ j
      · obtain ⟨d, hd, i, hi, heq⟩ := ih htone hlater
        exact ⟨d, List.mem_append_right _ hd, i, hi, heq⟩
      · have hentries :
            (s.extended [passage]).timeline.entries =
              s.timeline.entries ++ passage.tokens.map .token := by
          simp [extended, Timeline.extend]
        have hlt : j < (s.timeline.entries ++ passage.tokens.map Entry.token).length := by
          rw [← hentries]
          exact Nat.not_le.mp hlater
        -- The tone lies in the first passage, which therefore dials.
        have hhere : passage.tokens[j - s.timeline.length]? = some (.tone key) := by
          rw [extended, Timeline.extend, hentries, List.getElem?_append_left hlt,
            List.getElem?_append_right hj, List.getElem?_map] at htone
          obtain ⟨token, htoken, heq⟩ := Option.map_eq_some_iff.mp htone
          rw [Entry.token.injEq] at heq
          rw [← heq]
          exact htoken
        obtain ⟨keys, gapMs, i, rfl, heq, hi⟩ := Passage.exists_dial_of_tone hhere
        refine ⟨_, List.mem_append_left _ (List.mem_singleton.mpr rfl), i, ?_, ?_⟩
        · simpa [Digit.textOf] using hi
        · simp only
          omega

/--
**The script and the capture keep time.**  After any course of a call, failing calls included, the
script is longer than the capture by the drift of the digits that were sent.  If it is not of the
same length, a drift has been warned of.  If every silence after a digit was as long as a tone,
every digit that was sent is in step.  The digits that were sent are all the tones of the timeline,
and every wait of the script takes whole milliseconds.
-/
theorem clocks_of_run
    {settings : Settings} {name : Option Text} {source destination fromUser : Value}
    {start : Scenario}
    (hstart : Scenario.create settings name source destination fromUser = .ok start)
    (moves : List Move) :
    let s := start.run moves
    let sent := start.sent moves
    let toneMs := start.profile.toneMs
    Step.totalWaitMs s.steps - s.timeline.nominalMs toneMs =
        (sent.map (Dialling.driftMs toneMs)).sum ∧
      (Step.totalWaitMs s.steps - s.timeline.nominalMs toneMs ≠ 0 →
        ∃ d ∈ sent, d.gapMs ≠ toneMs ∧
          .delayDiffers start.stem d.gapMs toneMs ∈ s.journal) ∧
      ((∀ d ∈ sent, d.gapMs = toneMs) →
        ∀ d ∈ sent, ∀ i < d.digits.length, d.InStep s toneMs i) ∧
      (∀ j key, s.timeline.entries[j]? = some (.token (.tone key)) →
        ∃ d ∈ sent, ∃ i < d.digits.length, j = d.entryCount + 2 * i) ∧
      ∀ value, .pause value ∈ s.steps → ∃ milliseconds : Nat, value = .integer milliseconds := by
  obtain ⟨hsteps, htimeline, _⟩ := fresh_of_create hstart
  obtain ⟨passages, hrun, hsent⟩ := run_eq_extended start moves
  rw [hrun, hsent]
  intro s sent toneMs
  have hzero : start.leadMs toneMs = 0 := by
    simp [leadMs, hsteps, htimeline, Step.totalWaitMs, Timeline.nominalMs, Timeline.empty,
      Entry.totalMs]
  have hlead : s.leadMs toneMs = (sent.map (Dialling.driftMs toneMs)).sum := by
    rw [leadMs_extended, hzero, zero_add]
  refine ⟨hlead, ?_, ?_, ?_, ?_⟩
  · intro hdrift
    by_contra hsilent
    push Not at hsilent
    apply hdrift
    have hgap : ∀ d ∈ sent, d.gapMs = toneMs := by
      intro d hd
      by_contra hgap
      exact hsilent d hd hgap (warned_of_mem_trail hd hgap)
    exact (leadMs_extended_of_gap hgap).trans hzero
  · intro hgap d hd i hi
    exact inStep_of_mem_trail hzero hgap hd hi
  · intro j key htone
    refine exists_dialling_of_tone htone ?_
    rw [htimeline]
    exact Nat.zero_le j
  · intro value hvalue
    have hpause : .pause value ∈ start.steps ++ passages.flatMap Passage.steps := hvalue
    rw [hsteps, List.nil_append] at hpause
    obtain ⟨passage, _, hpause⟩ := List.mem_flatMap.mp hpause
    exact Passage.whole_of_pause_mem hpause

/-- A course in which a call fails between digits that are sent: all of them are in step. -/
theorem clocks_of_run_between_failures :
    let moves : List Move :=
      [ .call .sendDigits ⟨[.text "12"], []⟩,
        .call .sendDigits ⟨[.text "4X"], []⟩,
        .manifest [.map [(.text "send_digits", .text "3#")]] ]
    (sample.sent moves).map (·.digits) = [Text.ofString "12", Text.ofString "3#"] ∧
      ∀ d ∈ sample.sent moves, ∀ i < d.digits.length, d.InStep (sample.run moves) 250 i := by
  intro moves
  refine ⟨by decide +kernel, ?_⟩
  exact (clocks_of_run create_sample moves).2.2.1 (by decide +kernel)

end Scenario
end CallScript
