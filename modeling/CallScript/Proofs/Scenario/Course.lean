import CallScript.Manifest
import CallScript.Proofs.Result
import CallScript.Proofs.Scenario.Outcome

/-!
# Courses of a call

A scenario is built by moves: calls of its actions, and steps of manifests.  A move may fail, and
the next one goes on from what it has left.

Main statements:
* `Manifest.applyStep_outcome`: a step of a manifest fails and changes nothing, or it adds one
  passage, which dials the digits as the manifest writes them.
* `Scenario.run_eq_extended`: whatever the moves are, they extend the scenario by passages, and
  what these dial is what the successful moves have sent.
-/

namespace CallScript

/-- What can be done with a scenario: call an action, or apply the steps of a manifest. -/
inductive Move where
  | call (action : Action) (args : Arguments)
  | manifest (steps : List Value)

/-- Digits that were sent: what stood before them, the digits and the silence after each. -/
structure Dialling where
  stepCount : Nat
  entryCount : Nat
  digits : Text
  gapMs : Int

namespace Scenario

/-- The digits that are sent at the end of a scenario, if there are some. -/
def dialAt (s : Scenario) (dialled : Option (Text × Int)) : List Dialling :=
  dialled.toList.map fun sent => ⟨s.steps.length, s.timeline.length, sent.1, sent.2⟩

end Scenario

/-- The argument of a call for its first parameter, which has the given name. -/
def Arguments.first? (args : Arguments) (name : String) : Option Value :=
  match args.positional with
  | value :: _ => some value
  | [] => Value.get? args.named name

namespace Manifest

/-- The digits of a line as they are written. -/
def Line.digits (line : Line) : Text :=
  match Arguments.first? ⟨line.positional, line.named⟩ "digits" with
  | some (.text digits) => digits
  | _ => []

/-- The digits that a step plays, as they are written, and the milliseconds after each. -/
def dialled? (settings : Settings) (step : Value) (index : Nat) : Option (Text × Int) :=
  match Line.ofValue step index with
  | .error _ => none
  | .ok line =>
      match Action.ofName? line.action with
      | some .sendDigits =>
          (Action.dialled? settings .sendDigits ⟨line.positional, line.named⟩).map fun sent =>
            (line.digits, sent.2)
      | _ => none

/-- The digits that the steps before the first failing one send. -/
def diallingsFrom (index : Nat) (s : Scenario) : List Value → List Dialling
  | [] => []
  | step :: rest =>
      match Building.on s (applyStep step index) with
      | (.error _, _) => []
      | (.ok (), after) =>
          s.dialAt (dialled? s.settings step index) ++ diallingsFrom (index + 1) after rest

end Manifest

namespace Scenario

/-- What a move comes to, and the scenario after it. -/
def follow (s : Scenario) : Move → Except Fault Unit × Scenario
  | .call action args => Building.on s (Building.call action args)
  | .manifest steps => Building.on s (Manifest.applySteps steps)

/-- The digits that a move sends. -/
def sentBy (s : Scenario) : Move → List Dialling
  | .call action args =>
      match Building.on s (Building.call action args) with
      | (.error _, _) => []
      | (.ok (), _) => s.dialAt (action.dialled? s.settings args)
  | .manifest steps => Manifest.diallingsFrom 1 s steps

/-- The scenario after some moves, whether they fail or not. -/
def run (s : Scenario) : List Move → Scenario
  | [] => s
  | move :: rest => (s.follow move).2.run rest

/-- The digits that some moves send, in their order. -/
def sent (s : Scenario) : List Move → List Dialling
  | [] => []
  | move :: rest => s.sentBy move ++ (s.follow move).2.sent rest

/-- A scenario that has been created is open and has no steps and no media. -/
theorem fresh_of_create
    {settings : Settings} {name : Option Text} {source destination fromUser : Value}
    {s : Scenario}
    (h : create settings name source destination fromUser = .ok s) :
    s.steps = [] ∧ s.timeline = .empty ∧ s.compiled = false := by
  obtain ⟨from?, _, h⟩ := Result.bind_eq_ok h
  obtain ⟨to?, _, h⟩ := Result.bind_eq_ok h
  dsimp only at h
  split at h
  · cases h
  · cases h
    exact ⟨rfl, rfl, rfl⟩

/-- A scenario between two hosts with the standard settings, as it is created. -/
def sample : Scenario where
  settings := .standard
  name := "call"
  stem := "call"
  source := ⟨"a", 1⟩
  destination := ⟨"b", 2⟩
  fromUser := .text "sipp"
  steps := []
  timeline := .empty
  compiled := false
  journal := [.hostNotNumeric "a", .hostNotNumeric "b"]

theorem create_sample :
    create .standard (some "call") (.text "a:1") (.text "b:2") .null = .ok sample := by
  rfl

/-- The digits that some passages dial. -/
def trail (s : Scenario) : List Passage → List Dialling
  | [] => []
  | passage :: rest => s.dialAt passage.dialled? ++ (s.extended [passage]).trail rest

theorem trail_append
    (s : Scenario) (first second : List Passage) :
    s.trail (first ++ second) = s.trail first ++ (s.extended first).trail second := by
  induction first generalizing s with
  | nil =>
      simp [trail]
  | cons passage rest ih =>
      have hextended :
          (s.extended [passage]).extended rest = s.extended (passage :: rest) := by
        exact (extended_append s [passage] rest).symm
      simp only [List.cons_append, trail, ih, hextended, List.append_assoc]

/-- Digits are dialled by one of the passages, after those before it. -/
theorem mem_trail
    {s : Scenario} {passages : List Passage} {d : Dialling}
    (hd : d ∈ s.trail passages) :
    ∃ (before : List Passage) (keys : List Media.Digit) (gapMs : Nat) (after : List Passage),
      passages = before ++ .dial keys gapMs :: after ∧
      d =
        { stepCount := (s.extended before).steps.length
          entryCount := (s.extended before).timeline.length
          digits := Media.Digit.textOf keys
          gapMs := gapMs } := by
  induction passages generalizing s with
  | nil =>
      cases hd
  | cons passage rest ih =>
      rcases List.mem_append.mp hd with hhead | htail
      · cases passage with
        | signal steps timeless =>
            cases hhead
        | rest milliseconds =>
            cases hhead
        | dial keys gapMs =>
            refine ⟨[], keys, gapMs, rest, rfl, ?_⟩
            rw [extended_nil]
            exact List.mem_singleton.mp hhead
      · obtain ⟨before, keys, gapMs, after, hsplit, heq⟩ := ih htail
        refine ⟨passage :: before, keys, gapMs, after, ?_, ?_⟩
        · rw [hsplit]
          rfl
        · rw [heq, ← extended_append]
          rfl

end Scenario

namespace Building

/-- A handler that only changes the fault keeps the outcome. -/
theorem Outcome.tryCatch_throw
    {s : Scenario} {action : Building Unit} {dialled : Option (Text × Int)}
    (h : Outcome s action dialled)
    (change : Fault → Fault) :
    Outcome s (tryCatch action fun fault => throw (change fault)) dialled := by
  cases h with
  | failed fault run =>
      refine .failed (change fault) ?_
      rw [on_tryCatch, run]
      rfl
  | added passage wasOpen run dials =>
      refine .added passage wasOpen ?_ dials
      rw [on_tryCatch, run]

end Building

namespace Manifest

open Building

/-- The first argument of a call that plays digits holds the digits. -/
theorem first?_of_bind
    {args : Arguments} {values : List Value}
    (h : args.bind Action.sendDigits.parameters = .ok values) :
    args.first? "digits" = values.head? := by
  unfold Arguments.first?
  unfold Arguments.bind at h
  split at h
  · cases hpositional : args.positional with
    | nil =>
        rw [hpositional] at h
        obtain ⟨digits, hdigits, hrest⟩ := Result.bind_eq_ok h
        obtain ⟨others, _, hvalues⟩ := Result.bind_eq_ok hrest
        cases hvalues
        unfold Arguments.valueOf at hdigits
        cases hnamed : Value.get? args.named "digits" with
        | none =>
            rw [hnamed] at hdigits
            cases hdigits
        | some value =>
            rw [hnamed] at hdigits
            cases hdigits
            rfl
    | cons value others =>
        simp only [hpositional, Action.parameters, Arguments.fill] at h
        split at h
        · cases h
        · obtain ⟨rest, _, hvalues⟩ := Result.map_eq_ok h
          cases hvalues
          rfl
  · cases h

/-- Digits that are required to be a text are played as they are written. -/
theorem digits_of_requireDigits
    {line : Line} {index : Nat} {digits : Value}
    (hrequired : requireDigits line index = .ok ())
    (hdigits : Arguments.first? ⟨line.positional, line.named⟩ "digits" = some digits) :
    digits.plain = line.digits := by
  have htext : ∃ text, digits = .text text := by
    unfold Arguments.first? at hdigits
    unfold requireDigits at hrequired
    cases hpositional : line.positional with
    | nil =>
        simp only [hpositional] at hrequired hdigits
        simp only [hdigits, Option.getD_some] at hrequired
        cases digits with
        | text text =>
            exact ⟨text, rfl⟩
        | _ =>
            cases hrequired
    | cons value others =>
        simp only [hpositional, Option.some.injEq] at hrequired hdigits
        subst hdigits
        cases value with
        | text text =>
            exact ⟨text, rfl⟩
        | _ =>
            cases hrequired
  obtain ⟨text, rfl⟩ := htext
  unfold Line.digits
  rw [hdigits]
  rfl

/-- A step that plays digits sends them as they are written. -/
theorem dialled?_of_call
    {settings : Settings} {line : Line} {index : Nat}
    (hrequired : requireDigits line index = .ok ()) :
    (Action.dialled? settings .sendDigits ⟨line.positional, line.named⟩).map
        (fun sent => (line.digits, sent.2)) =
      Action.dialled? settings .sendDigits ⟨line.positional, line.named⟩ := by
  unfold Action.dialled?
  cases hvalues : Arguments.bind ⟨line.positional, line.named⟩ Action.sendDigits.parameters with
  | error fault =>
      rfl
  | ok values =>
      have hfirst := first?_of_bind hvalues
      dsimp only
      unfold Action.dialling?
      split
      · next digits delay =>
          rw [← digits_of_requireDigits hrequired hfirst]
          dsimp only
          split <;> rfl
      · rfl

/-- A step of a manifest fails and changes nothing, or it adds what it names. -/
theorem applyStep_outcome (s : Scenario) (step : Value) (index : Nat) :
    Building.Outcome s (applyStep step index) (dialled? s.settings step index) := by
  unfold applyStep dialled?
  refine Building.Outcome.lift_bind ?_
  intro line hline
  rw [hline]
  dsimp only
  cases haction : Action.ofName? line.action with
  | none =>
      exact .failed _ (on_throw s _)
  | some action =>
      have hcall := call_outcome (s := s) action ⟨line.positional, line.named⟩
      by_cases hdigits : action = .sendDigits
      · subst hdigits
        refine Building.Outcome.lift_bind ?_
        intro _ hrequired
        rw [dialled?_of_call hrequired]
        exact hcall.tryCatch_throw _
      · have hnone : action.dialled? s.settings ⟨line.positional, line.named⟩ = none := by
          unfold Action.dialled? Action.dialling?
          split <;> simp_all
        rw [hnone] at hcall
        dsimp only
        rw [if_neg hdigits]
        cases action with
        | sendDigits =>
            exact absurd rfl hdigits
        | _ =>
            exact hcall.tryCatch_throw _

/-- The steps of a manifest extend a scenario by passages up to the first failing one. -/
theorem applyFrom_eq_extended (s : Scenario) (index : Nat) (steps : List Value) :
    ∃ passages,
      (on s (applyFrom index steps)).2 = s.extended passages ∧
      diallingsFrom index s steps = s.trail passages := by
  induction steps generalizing s index with
  | nil =>
      exact ⟨[], (Scenario.extended_nil s).symm, rfl⟩
  | cons step rest ih =>
      rw [applyFrom, diallingsFrom]
      cases applyStep_outcome s step index with
      | failed fault run =>
          rw [on_bind_error run, run]
          exact ⟨[], (Scenario.extended_nil s).symm, rfl⟩
      | added passage wasOpen run dials =>
          obtain ⟨passages, hafter, hsent⟩ := ih (s.extended [passage]) (index + 1)
          refine ⟨passage :: passages, ?_, ?_⟩
          · rw [on_bind_ok run, hafter, ← Scenario.extended_append]
            rfl
          · rw [run]
            simp only [hsent, ← dials]
            rfl

end Manifest

namespace Scenario

/-- A move extends a scenario by the passages that dial what it sends. -/
theorem follow_eq_extended (s : Scenario) (move : Move) :
    ∃ passages,
      (s.follow move).2 = s.extended passages ∧
      s.sentBy move = s.trail passages := by
  cases move with
  | call action args =>
      simp only [follow, sentBy]
      cases Building.call_outcome (s := s) action args with
      | failed fault run =>
          rw [run]
          exact ⟨[], (extended_nil s).symm, rfl⟩
      | added passage wasOpen run dials =>
          rw [run]
          refine ⟨[passage], rfl, ?_⟩
          simp [trail, dials]
  | manifest steps =>
      exact Manifest.applyFrom_eq_extended s 1 steps

/--
**Courses are passages.**  Whatever is done with a scenario, failing calls included, extends it by
passages, and these dial exactly what the successful calls have sent.
-/
theorem run_eq_extended (s : Scenario) (moves : List Move) :
    ∃ passages,
      s.run moves = s.extended passages ∧
      s.sent moves = s.trail passages := by
  induction moves generalizing s with
  | nil =>
      exact ⟨[], (extended_nil s).symm, rfl⟩
  | cons move rest ih =>
      obtain ⟨first, hfollow, hsentBy⟩ := follow_eq_extended s move
      obtain ⟨second, hrun, hsent⟩ := ih (s.follow move).2
      refine ⟨first ++ second, ?_, ?_⟩
      · rw [run, hrun, hfollow, extended_append]
      · rw [Scenario.sent, hsentBy, hsent, hfollow, trail_append]

end Scenario
end CallScript
