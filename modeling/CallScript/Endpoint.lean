import CallScript.Fault
import CallScript.Text.Case
import CallScript.Text.Numeral

/-!
# Endpoints

An end of a call: a host and a port, written with a colon between them.  A host that holds colons
itself may stand in square brackets.
-/

namespace CallScript

/-- A host and a port. -/
structure Endpoint where
  host : Text
  port : Int
  deriving Repr, DecidableEq, Inhabited

namespace Endpoint

/-- The texts before and after the last colon, if there is a colon. -/
def splitLastColon? (t : Text) : Option (Text × Text) :=
  let reversed := t.reverse
  match reversed.dropWhile (· ≠ .char ':') with
  | [] => none
  | _ :: before => some (before.reverse, (reversed.takeWhile (· ≠ .char ':')).reverse)

/-- The host without the square brackets around it, if it stands between them. -/
def unbracket (host : Text) : Text :=
  if host.head? = some (.char '[') && host.getLast? = some (.char ']') then
    (host.drop 1).dropLast
  else
    host

/-- The endpoint that a value names; the label says which end of the call it is. -/
def ofValue (value : Value) (label : String) : Except Fault Endpoint :=
  if !value.isSet then
    .error (.endpointMissing label)
  else do
    let text ← Fault.plainText value
    let shape := Fault.endpointShape (Text.capitalize label) value
    match splitLastColon? text with
    | none => throw shape
    | some (before, port) =>
        let host := unbracket before
        if host.isEmpty then
          throw shape
        match Text.integer port with
        | .error _ => throw (.portNotWhole (Text.capitalize label) port)
        | .ok n =>
            if 0 < n && n < 65536 then
              return ⟨host, n⟩
            else
              throw (.portOutOfRange (Text.capitalize label) n)

end Endpoint
end CallScript
