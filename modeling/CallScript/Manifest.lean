import CallScript.Manifest.Line
import CallScript.Scenario.Call

/-!
# Manifests

A manifest names a scenario, its two ends and its steps.  Building it creates the scenario and
calls the action of every step in turn; the first step that fails ends it.
-/

namespace CallScript
namespace Manifest

/-- Digits have to be a text, because a numeral would be read as a number. -/
def requireDigits (line : Line) (index : Nat) : Except Fault Unit :=
  let digits :=
    match line.positional with
    | value :: _ => value
    | [] => (Value.get? line.named "digits").getD (.text "")
  match digits with
  | .text _ => .ok ()
  | value => .error (Fault.showing value (.stepUnquoted index value))

/-- Holds of the faults that are reported with the step in which they happen. -/
def isWrapped (fault : Fault) : Bool :=
  [Fault.Kind.argument, .value].contains fault.kind

/-- Call the action of one step. -/
def applyStep (step : Value) (index : Nat) : Building Unit := do
  let line ← Line.ofValue step index
  match Action.ofName? line.action with
  | none => throw (.stepUnknown index line.action)
  | some action =>
      if action = .sendDigits then
        requireDigits line index
      tryCatch (Building.call action ⟨line.positional, line.named⟩) fun fault =>
        throw (if isWrapped fault then .stepFailed index line.action fault else fault)

/-- Call the actions of steps in turn, counting them from an index. -/
def applyFrom (index : Nat) : List Value → Building Unit
  | [] => pure ()
  | step :: rest => do
      applyStep step index
      applyFrom (index + 1) rest

/-- Call the actions of all steps in turn. -/
def applySteps (steps : List Value) : Building Unit :=
  applyFrom 1 steps

/-- The keys that a manifest must have, in the order in which they are looked for. -/
def requiredKeys : List String := ["name", "source", "destination"]

/-- The steps of a manifest; a value that is not set stands for none. -/
def stepsOf (data : List (Value × Value)) : Except Fault (List Value) :=
  let value := Value.get data "steps"
  match value.items? with
  | some items => .ok items
  | none => if value.isSet then .error .stepsNotList else .ok []

/-- The scenario of a manifest before its steps; the required values are put into texts first. -/
def create (data : List (Value × Value)) (settings : Except Fault Settings) :
    Except Fault Scenario := do
  let name ← Fault.plainText (Value.get data "name")
  let source ← Fault.plainText (Value.get data "source")
  let destination ← Fault.plainText (Value.get data "destination")
  let settings ← settings
  Scenario.create settings (some name) (.text source) (.text destination)
    (Value.get data "from_user")

/-- The scenario that steps lead to, with the fault that ended them, if one did. -/
def finish (s : Scenario) (steps : List Value) : Except Fault Unit × Scenario :=
  Building.on s (applySteps steps)

/-- What building a manifest comes to: a scenario or a fault, and what was reported. -/
structure Outcome where
  result : Except Fault Scenario
  journal : List Notice

/-- Build the scenario of a mapping; settings are asked for only after the keys and the steps. -/
def buildMap (data : List (Value × Value)) (settings : Except Fault Settings) : Outcome :=
  match requiredKeys.find? fun key => !(Value.get data key).isSet with
  | some key => ⟨.error (.keyMissing key), []⟩
  | none =>
      match stepsOf data with
      | .error fault => ⟨.error fault, []⟩
      | .ok steps =>
          match create data settings with
          | .error fault => ⟨.error fault, []⟩
          | .ok start =>
              match finish start steps with
              | (.error fault, s) => ⟨.error fault, s.journal⟩
              | (.ok (), s) =>
                  let s := { s with journal := s.journal ++ [.built s.name s.steps.length] }
                  ⟨.ok s, s.journal⟩

/-- Build the scenario of a manifest. -/
def build (data : Value) (settings : Except Fault Settings) : Outcome :=
  match data.entries? with
  | some entries => buildMap entries settings
  | none => ⟨.error .dataNotMapping, []⟩

end Manifest
end CallScript
