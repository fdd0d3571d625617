import CallScript.Fault
import CallScript.Text.Numeral

/-!
# Lines of a manifest

A step of a manifest is a text, with the name of an action and perhaps one argument after it, or a
mapping with one key, whose value holds the arguments.
-/

namespace CallScript
namespace Manifest

/-- A step that has been read: the name of an action and its arguments. -/
structure Line where
  action : Text
  positional : List Value
  named : List (Value × Value)
  deriving Inhabited

namespace Line

/-- Holds of the actions whose argument in a text is read as a number. -/
def isNumeric (action : Text) : Bool :=
  action = Text.ofString "sleep"

/-- The step that a text names. -/
def ofText (text : Text) (index : Nat) : Except Fault Line :=
  let body := text.strip
  let action := body.takeWhile (· ≠ .char ' ')
  let given := Text.strip (body.dropWhile (· ≠ .char ' '))
  if given.isEmpty then
    .ok ⟨action, [], []⟩
  else if isNumeric action then
    match Text.real? given with
    | some x => .ok ⟨action, [.real x], []⟩
    | none => .error (.stepNumber index action given)
  else
    .ok ⟨action, [.text given], []⟩

/-- The step of an action with a value: nothing, arguments by name or by position, or one. -/
def ofEntry (action : Text) (value : Value) : Line :=
  match value.entries?, value.items? with
  | some entries, _ => ⟨action, [], entries⟩
  | none, some items => ⟨action, items, []⟩
  | none, none => if value.isNull then ⟨action, [], []⟩ else ⟨action, [value], []⟩

/-- The step that a value names; the index is its place in the manifest, from one. -/
def ofValue (step : Value) (index : Nat) : Except Fault Line :=
  match step with
  | .text text => ofText text index
  | _ =>
      match step.entries? with
      | some [(key, value)] => (Fault.plainText key).map fun action => ofEntry action value
      | _ => .error (Fault.showing step (.stepShape index step))

end Line
end Manifest
end CallScript
