import CallScript.Proofs.Scenario.Course

/-!
# Calls as a whole

A call of an action happens as a whole or not at all, whatever its arguments are and whether the
scenario is open or compiled.

Main statement: `Building.atomic_of_call`.  A failing call leaves the script, the media and the
state of the scenario alone, a successful one only adds at their ends; and a text with a single
mark that is no key plays none of its digits.
-/

namespace CallScript
namespace Building

open Media

/-- Holds of the actions that do nothing where they fail, and else only add at the end. -/
structure Atomic (s : Scenario) (action : Building Unit) : Prop where
  failed : ∀ fault after,
    on s action = (.error fault, after) →
    after.steps = s.steps ∧ after.timeline = s.timeline ∧ after.compiled = s.compiled
  succeeded : ∀ after,
    on s action = (.ok (), after) →
    s.steps <+: after.steps ∧ s.timeline.entries <+: after.timeline.entries

variable {s : Scenario}

/-- What either fails and changes nothing or adds a passage is atomic. -/
theorem Outcome.atomic
    {action : Building Unit} {dialled : Option (Text × Int)}
    (h : Outcome s action dialled) :
    Atomic s action := by
  cases h with
  | failed fault run =>
      refine ⟨fun other after hother => ?_, fun after hafter => ?_⟩
      · rw [run] at hother
        cases hother
        exact ⟨rfl, rfl, rfl⟩
      · rw [run] at hafter
        cases hafter
  | added passage wasOpen run dials =>
      refine ⟨fun other after hother => ?_, fun after hafter => ?_⟩
      · rw [run] at hother
        cases hother
      · rw [run] at hafter
        cases hafter
        exact ⟨List.prefix_append _ _, List.prefix_append _ _⟩

/-- Digits are refused before anything is added where one of their marks is no key. -/
theorem sendDigits_of_foreign_mark
    {digits : Value} {mark : Mark}
    (hmark : mark ∈ digits.plain)
    (hforeign : Digit.ofText? [mark] = none)
    (delay : Value) :
    ∃ fault, on s (sendDigits digits delay) = (.error fault, s) := by
  unfold sendDigits
  cases hcompiled : s.compiled with
  | true =>
      have hrefused : on s ensureOpen = (.error (.alreadyCompiled s.name), s) := by
        rw [on_ensureOpen, if_pos hcompiled]
      exact ⟨_, on_bind_error hrefused _⟩
  | false =>
      have hopened : on s ensureOpen = (.ok (), s) := by
        rw [on_ensureOpen, hcompiled]
        rfl
      rw [on_bind_ok hopened]
      unfold Fault.plainText
      cases hshowable : digits.isShowable with
      | false =>
          exact ⟨_, on_bind_error (on_lift s (.error .numberLong)) _⟩
      | true =>
          have hmem : mark ∈ Digit.invalid digits.plain := by
            exact List.mem_filter.mpr ⟨hmark, by rw [hforeign]; rfl⟩
          rw [if_pos rfl, on_bind_ok (on_lift s (.ok digits.plain))]
          cases hinvalid : Digit.invalid digits.plain with
          | nil =>
              rw [hinvalid] at hmem
              cases hmem
          | cons first others =>
              exact ⟨_, on_bind_error (on_throw s _) _⟩

/-- A call that plays digits fails where one of their marks is no key. -/
theorem call_of_foreign_mark
    {args : Arguments} {digits : Value} {mark : Mark}
    (hdigits : args.first? "digits" = some digits)
    (hmark : mark ∈ digits.plain)
    (hforeign : Digit.ofText? [mark] = none) :
    ∃ fault, on s (call .sendDigits args) = (.error fault, s) := by
  unfold call
  cases hvalues : args.bind Action.sendDigits.parameters with
  | error fault =>
      exact ⟨fault, on_bind_error (on_lift s (.error fault)) _⟩
  | ok values =>
      rw [on_bind_ok (on_lift s (.ok values))]
      have hfirst := Manifest.first?_of_bind hvalues
      rw [hdigits] at hfirst
      -- Any other number of values than two is no call of the action at all.
      match values, hfirst with
      | [_], _ =>
          exact ⟨.argument, on_throw s _⟩
      | [_, delay], hfirst =>
          cases hfirst
          exact sendDigits_of_foreign_mark hmark hforeign delay
      | _ :: _ :: _ :: _, _ =>
          exact ⟨.argument, on_throw s _⟩

/--
**Calls are atomic.**  A call that fails, whatever the fault is, leaves the steps, the media and
the state of the scenario as they were, and one that succeeds keeps the old steps and media in
front of the new ones.  A single mark that is no key keeps all digits of a text from being played.
-/
theorem atomic_of_call (s : Scenario) (action : Action) (args : Arguments) :
    Atomic s (call action args) ∧
      ∀ digits mark,
        action = .sendDigits →
        args.first? "digits" = some digits →
        mark ∈ digits.plain →
        Digit.ofText? [mark] = none →
        ∃ fault, on s (call action args) = (.error fault, s) := by
  refine ⟨(call_outcome action args).atomic, ?_⟩
  rintro digits mark rfl hdigits hmark hforeign
  exact call_of_foreign_mark hdigits hmark hforeign

/-- The letter that stands between two keys here keeps both from being played. -/
theorem atomic_of_call_between_keys :
    Atomic .sample (call .sendDigits ⟨[.text "1x2"], []⟩) ∧
      ∃ fault,
        on .sample (call .sendDigits ⟨[.text "1x2"], []⟩) = (.error fault, .sample) := by
  obtain ⟨hatomic, hforeign⟩ := atomic_of_call .sample .sendDigits ⟨[.text "1x2"], []⟩
  exact ⟨hatomic, hforeign (.text "1x2") (.char 'x') rfl rfl (by decide) (by decide)⟩

end Building
end CallScript
