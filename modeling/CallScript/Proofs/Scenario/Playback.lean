import CallScript.Proofs.Scenario.Alignment
import CallScript.Proofs.Scenario.Makeup

/-!
# Playing the capture

The script starts the capture at one of its steps, and from there on the capture plays while the
script waits.  The capture holds the media of the whole call, those that belong to the time before
its start included.

Main statement: `Scenario.playback_of_run`.  While every silence after a digit is as long as a
tone, the capture plays each later digit after the script has begun to wait for it by exactly what
the script has waited before the start: the two are together only where that is no time.
-/

namespace CallScript

open Media

namespace Step

/-- The milliseconds that a script waits between two of its places. -/
def waitMsBetween (steps : List Step) (start stop : Nat) : Int :=
  totalWaitMs ((steps.take stop).drop (start + 1))

/-- What a script waits up to a place is what it waits before and after a step without a wait. -/
theorem totalWaitMs_take
    {steps : List Step} {step : Step} {start stop : Nat}
    (hstep : steps[start]? = some step)
    (hquiet : step.waitMs = 0)
    (hlater : start < stop) :
    waitMsBetween steps start stop + totalWaitMs (steps.take start) =
      totalWaitMs (steps.take stop) := by
  have hbefore : (steps.take stop).take (start + 1) = steps.take start ++ [step] := by
    rw [List.take_take, Nat.min_eq_left hlater, List.take_add_one, hstep]
    rfl
  have hsplit :
      totalWaitMs (steps.take stop) =
        totalWaitMs (steps.take start ++ [step]) + waitMsBetween steps start stop := by
    rw [← hbefore, waitMsBetween, ← totalWaitMs_append, List.take_append_drop]
  have hnone : totalWaitMs [step] = 0 := by
    simp [totalWaitMs, hquiet]
  rw [hsplit, totalWaitMs_append, hnone, add_zero, add_comm]

end Step

namespace Scenario

/--
**The capture and the script.**  After any course of a call in which every silence after a digit
was as long as a tone, every step that plays something plays the capture of the scenario.  From
there to each digit that follows, the script waits for as long as the capture takes to the tone of
the digit, less the time that the script has waited before the capture has started.  So the
capture plays the digit when the script waits for it exactly where that time is none.
-/
theorem playback_of_run
    {settings : Settings} {name : Option Text} {source destination fromUser : Value}
    {start : Scenario}
    (hstart : create settings name source destination fromUser = .ok start)
    (moves : List Move)
    (hgap : ∀ d ∈ start.sent moves, d.gapMs = start.profile.toneMs)
    {k : Nat} {capture : Value}
    (hplay : (start.run moves).steps[k]? = some (.play capture)) :
    let s := start.run moves
    let toneMs := start.profile.toneMs
    capture = .text s.captureName ∧
      ∀ d ∈ start.sent moves, ∀ i < d.digits.length, k < d.stepCount + i →
        let waitedMs := Step.waitMsBetween s.steps k (d.stepCount + i)
        let playedMs := Entry.totalMs toneMs (s.timeline.entries.take (d.entryCount + 2 * i))
        d.InStep s toneMs i ∧
          waitedMs + Step.totalWaitMs (s.steps.take k) = playedMs ∧
          (waitedMs = playedMs ↔ Step.totalWaitMs (s.steps.take k) = 0) := by
  obtain ⟨hsteps, htimeline, _⟩ := fresh_of_create hstart
  obtain ⟨passages, hrun, hsent⟩ := run_eq_extended start moves
  have hbuilt := isBuilt_of_run (isBuilt_of_create hstart) moves _ (List.mem_of_getElem? hplay)
  have hzero : start.leadMs start.profile.toneMs = 0 := by
    simp [leadMs, hsteps, htimeline, Step.totalWaitMs, Timeline.nominalMs, Timeline.empty,
      Entry.totalMs]
  intro s toneMs
  refine ⟨?_, fun d hd i hi hlater => ?_⟩
  · cases hbuilt
    rfl
  · have hinStep : d.InStep s toneMs i := by
      rw [hsent] at hd hgap
      have hstep := inStep_of_mem_trail hzero hgap hd hi
      rwa [← hrun] at hstep
    have htotal := Step.totalWaitMs_take hplay rfl hlater
    rw [hinStep.together] at htotal
    exact ⟨hinStep, htotal, by rw [← htotal, left_eq_add]⟩

/-- A call that starts its capture before it rests and sends two digits. -/
def promptStart : List Move :=
  [ .call .startMedia ⟨[], []⟩,
    .call .sleep ⟨[.integer 1], []⟩,
    .call .sendDigits ⟨[.text "12"], []⟩ ]

theorem play_promptStart :
    (sample.run promptStart).steps[0]? = some (.play (.text sample.captureName)) := by
  rfl

/-- Both digits of a call that starts its capture first are played on time. -/
theorem playback_of_promptStart :
    (sample.sent promptStart).map (·.digits) = [Text.ofString "12"] ∧
      ∀ d ∈ sample.sent promptStart, ∀ i < d.digits.length,
        Step.waitMsBetween (sample.run promptStart).steps 0 (d.stepCount + i) =
          Entry.totalMs 250
            ((sample.run promptStart).timeline.entries.take (d.entryCount + 2 * i)) := by
  have hlater : ∀ d ∈ sample.sent promptStart, 0 < d.stepCount := by
    decide +kernel
  obtain ⟨_, honTime⟩ :=
    playback_of_run create_sample promptStart (by decide +kernel) play_promptStart
  refine ⟨by decide +kernel, fun d hd i hi => ?_⟩
  exact (honTime d hd i hi (Nat.add_pos_left (hlater d hd) i)).2.2.mpr rfl

/-- A call that rests for a second before it starts its capture. -/
def earlyRest : List Move :=
  [ .call .sleep ⟨[.integer 1], []⟩,
    .call .startMedia ⟨[], []⟩,
    .call .sendDigits ⟨[.text "1"], []⟩ ]

/--
Its digit is played a second after the script has begun to wait for it, because the capture begins
with the rest.
-/
theorem late_of_earlyRest :
    (sample.run earlyRest).steps.map Step.name = ["Pause", "Exec", "Pause"] ∧
      ∃ d ∈ sample.sent earlyRest,
        d.digits = Text.ofString "1" ∧
        d.gapMs = sample.profile.toneMs ∧
        1 < d.stepCount ∧
        Step.waitMsBetween (sample.run earlyRest).steps 1 d.stepCount = 0 ∧
        Entry.totalMs 250 ((sample.run earlyRest).timeline.entries.take d.entryCount) = 1000 := by
  decide +kernel

end Scenario
end CallScript
