import CallScript.Script.Escape
import CallScript.Script.Section
import CallScript.Step

/-!
# The script of a call

The steps of a call as an XML document: one element for each step, in order, inside an element
that carries the name of the scenario.
-/

namespace CallScript
namespace Script

/-- What a document is made of: steps, or values that are none. -/
inductive Item where
  | step (step : Step)
  | foreign (value : Value)
  deriving Inhabited

/-- The text of a value inside an attribute: truth values are words in lower case. -/
def attributeText : Value → Except Fault Text
  | .bool b => .ok (if b then "true" else "false")
  | value => (Fault.plainText value).map escape

/-- The attributes of an element, each after a space; absent values have none. -/
def attributes : List (String × Value) → Except Fault Text
  | [] => .ok []
  | (name, value) :: rest =>
      if value.isNull then
        attributes rest
      else do
        let text ← attributeText value
        let others ← attributes rest
        return " " ++ name ++ "=\x22" ++ text ++ "\x22" ++ others

/-- The space in front of an element at a depth. -/
def indent (depth : Nat) : Text :=
  Text.join (List.replicate depth "  ")

/-- The body of a message, which has to be a text. -/
def messageText : Value → Except Fault Text
  | .text t => .ok t
  | .bytes _ | .date _ | .moment _ => .error .argument
  | _ => .error .notText

/-- The element of a step. -/
def renderStep : Step → Except Fault Text
  | .send message retrans => do
      let opening ← attributes [("retrans", retrans)]
      let body ← messageText message
      return indent 1 ++ "<send" ++ opening ++ ">\n" ++ enclose body ++ "\n" ++ indent 1 ++
        "</send>"
  | .receive response request optional rrs => do
      let opening ← attributes
        [("request", request), ("response", response), ("optional", optional),
          ("rrs", if rrs.isSet then .bool true else .null)]
      return indent 1 ++ "<recv" ++ opening ++ "/>"
  | .pause milliseconds => do
      let opening ← attributes [("milliseconds", milliseconds)]
      return indent 1 ++ "<pause" ++ opening ++ "/>"
  | .play capture => do
      let opening ← attributes [("play_pcap_audio", capture)]
      return indent 1 ++ "<nop>\n" ++ indent 2 ++ "<action>\n" ++ indent 3 ++ "<exec" ++
        opening ++ "/>\n" ++ indent 2 ++ "</action>\n" ++ indent 1 ++ "</nop>"

/-- The element of an item. -/
def renderItem : Item → Except Fault Text
  | .step step => renderStep step
  | .foreign value => .error (Fault.showing value (.stepForeign value))

/-- The document with a name and some items. -/
def renderItems (name : Value) (items : List Item) : Except Fault Text := do
  let opening ← attributes [("name", name)]
  let elements ← items.mapM renderItem
  return "<?xml version=\x221.0\x22?>\n<scenario" ++ opening ++ ">\n" ++
    Text.join (elements.map (· ++ "\n")) ++ "</scenario>\n"

/-- The document with a name and some steps. -/
def render (name : Text) (steps : List Step) : Except Fault Text :=
  renderItems (.text name) (steps.map .step)

end Script
end CallScript
