import CallScript.Fault

/-!
# Steps of a script

What the script of a call does, step by step: send a message, wait for one, wait for some time,
or play a capture.  The fields hold whatever the caller gave, as long as the checks of
`Step.receive?` and `Step.pause?` let it pass.
-/

namespace CallScript

/-- A step of a script. -/
inductive Step where
  | send (message retrans : Value)
  | receive (response request optional rrs : Value)
  | pause (milliseconds : Value)
  | play (capture : Value)
  deriving Inhabited

namespace Step

/-- A wait for either a response or a request, never both. -/
def receive? (response request optional rrs : Value) : Except Fault Step :=
  if response.isNull && request.isNull then
    .error .receiveNothing
  else if !response.isNull && !request.isNull then
    .error .receiveBoth
  else
    .ok (.receive response request optional rrs)

/-- A wait for a number of milliseconds that is not negative. -/
def pause? (milliseconds : Value) : Except Fault Step :=
  match milliseconds.number? with
  | none => .error .argument
  | some n =>
      if n.isNegative then
        .error (Fault.showing milliseconds (.pauseNegative milliseconds))
      else
        .ok (.pause milliseconds)

/-- The fields of a step in their order, by name. -/
def fields : Step → List (String × Value)
  | .send message retrans => [("message", message), ("retrans", retrans)]
  | .receive response request optional rrs =>
      [("response", response), ("request", request), ("optional", optional), ("rrs", rrs)]
  | .pause milliseconds => [("milliseconds", milliseconds)]
  | .play capture => [("play_pcap_audio", capture)]

/-- Holds of the steps of which every field has a text. -/
def isShowable (step : Step) : Bool :=
  step.fields.all fun field => field.2.isShowable

/-- The name of a step. -/
def name : Step → String
  | .send .. => "Send"
  | .receive .. => "Receive"
  | .pause .. => "Pause"
  | .play .. => "Exec"

/-- The step as a log shows it. -/
def shown (step : Step) : String :=
  step.name ++
    Value.enclosed "(" ")" (step.fields.map fun field => field.1 ++ "=" ++ field.2.shown)

end Step
end CallScript
