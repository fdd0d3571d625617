import CallScript.Proofs.Media
import CallScript.Scenario.Call
import Mathlib.Algebra.Order.Ring.Int

/-!
# Passages of a call

A successful action adds a passage to a scenario: steps that take no time, a rest, or dialled
keys.  The passage fixes what is appended to the script, to the timeline and to the journal.

Main statement: `Scenario.extended_append`, passages extend a scenario one after the other.
-/

namespace CallScript

namespace Step

/-- The milliseconds that a step waits. -/
def waitMs : Step → Int
  | .pause (.integer milliseconds) => milliseconds
  | _ => 0

/-- Holds of the steps that wait for some time. -/
def isPause : Step → Bool
  | .pause _ => true
  | _ => false

/-- The milliseconds that the waits of some steps take together. -/
def totalWaitMs (steps : List Step) : Int :=
  (steps.map waitMs).sum

end Step

open Media

/-- What a successful action adds to a scenario. -/
inductive Passage where
  /-- Steps that take no time. -/
  | signal (steps : List Step) (timeless : ∀ step ∈ steps, step.isPause = false)
  /-- A wait and as much silence. -/
  | rest (milliseconds : Nat)
  /-- Keys, with the milliseconds of silence after each of them. -/
  | dial (keys : List Digit) (gapMs : Nat)

namespace Passage

/-- The wait for a number of milliseconds. -/
def wait (milliseconds : Int) : Step :=
  .pause (.integer milliseconds)

/-- The steps of a passage: a dialled key waits twice as long as its silence. -/
def steps : Passage → List Step
  | signal steps _ => steps
  | rest milliseconds => [wait milliseconds]
  | dial keys gapMs => keys.map fun _ => wait (gapMs * 2)

/-- The media of a passage: a dialled key is a tone and a silence. -/
def tokens : Passage → List Token
  | signal _ _ => []
  | rest milliseconds => [.silence milliseconds]
  | dial keys gapMs => keys.flatMap fun key => [.tone key, .silence gapMs]

/-- The warning that a passage gives when its silence is not as long as a tone. -/
def warnings (stem : String) (toneMs : Int) : Passage → List Notice
  | dial _ gapMs => if (gapMs : Int) ≠ toneMs then [.delayDiffers stem gapMs toneMs] else []
  | _ => []

/-- What is reported about a passage. -/
def notices (stem : String) (toneMs : Int) (passage : Passage) : List Notice :=
  passage.warnings stem toneMs ++ passage.steps.map (.appended stem)

/-- The text of the keys that a passage dials and the silence after each, if it dials. -/
def dialled? : Passage → Option (Text × Int)
  | dial keys gapMs => some (Digit.textOf keys, gapMs)
  | _ => none

end Passage

namespace Scenario

/-- The scenario with some passages at its end. -/
def extended (s : Scenario) (passages : List Passage) : Scenario :=
  { s with
    steps := s.steps ++ passages.flatMap Passage.steps
    timeline := s.timeline.extend ((passages.flatMap Passage.tokens).map .token)
    journal := s.journal ++ passages.flatMap (Passage.notices s.stem s.profile.toneMs) }

@[simp] theorem extended_nil (s : Scenario) :
    s.extended [] = s := by
  simp [extended, Timeline.extend]

theorem extended_append
    (s : Scenario) (first second : List Passage) :
    s.extended (first ++ second) = (s.extended first).extended second := by
  simp [extended, Timeline.extend, Scenario.profile]

end Scenario
end CallScript
