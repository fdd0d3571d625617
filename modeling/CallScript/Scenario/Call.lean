import CallScript.Scenario

/-!
# Calls of actions

The actions that a scenario knows by name, and how the arguments of a call are matched with the
parameters of an action.  A call has arguments by position and by name; every parameter takes at
most one of them, and a parameter without a default has to take one.
-/

namespace CallScript

/-- The actions on a scenario. -/
inductive Action where
  | invite
  | receive
  | receiveStatus (status : Nat)
  | receiveAnswer
  | ackAnswer
  | startMedia
  | sleep
  | sendDigits
  | sendBye
  | receiveBye
  | ackBye
  deriving Repr, DecidableEq, Inhabited

/-- A parameter of an action; one that takes no argument by position has to be named. -/
structure Parameter where
  name : String
  default : Option Value
  byPosition : Bool

namespace Action

/-- The names of the actions. -/
def named : List (String × Action) :=
  [ ("invite", invite),
    ("receive", receive),
    ("receive_trying", receiveStatus 100),
    ("receive_100", receiveStatus 100),
    ("receive_ringing", receiveStatus 180),
    ("receive_180", receiveStatus 180),
    ("receive_progress", receiveStatus 183),
    ("receive_183", receiveStatus 183),
    ("receive_answer", receiveAnswer),
    ("receive_200", receiveAnswer),
    ("ack_answer", ackAnswer),
    ("start_media", startMedia),
    ("sleep", sleep),
    ("send_digits", sendDigits),
    ("send_bye", sendBye),
    ("receive_bye", receiveBye),
    ("ack_bye", ackBye) ]

/-- The action with a name. -/
def ofName? (name : Text) : Option Action :=
  name.string?.bind fun known => named.lookup known

/-- The parameters of an action. -/
def parameters : Action → List Parameter
  | receive =>
      [ ⟨"response", some .null, false⟩, ⟨"request", some .null, false⟩,
        ⟨"optional", some (.bool false), false⟩, ⟨"rrs", some (.bool false), false⟩ ]
  | receiveStatus _ => [⟨"optional", some (.bool true), true⟩]
  | sleep => [⟨"seconds", none, true⟩]
  | sendDigits => [⟨"digits", none, true⟩, ⟨"delay", some .null, true⟩]
  | _ => []

end Action

/-- The arguments of a call. -/
structure Arguments where
  positional : List Value
  named : List (Value × Value)
  deriving Inhabited

namespace Arguments

/-- The value that a parameter without an argument by position takes. -/
def valueOf (named : List (Value × Value)) (parameter : Parameter) : Except Fault Value :=
  match Value.get? named parameter.name with
  | some value => .ok value
  | none =>
      match parameter.default with
      | some value => .ok value
      | none => .error .argument

/-- The values of the parameters, in their order. -/
def fill (positional : List Value) (named : List (Value × Value)) :
    List Parameter → Except Fault (List Value)
  | [] => if positional.isEmpty then .ok [] else .error .argument
  | parameter :: rest =>
      match positional with
      | value :: others =>
          if !parameter.byPosition || (Value.get? named parameter.name).isSome then
            .error .argument
          else
            (fill others named rest).map (value :: ·)
      | [] => do
          let value ← valueOf named parameter
          let values ← fill [] named rest
          return value :: values

/-- Holds of the names that some parameter has. -/
def isNameOf (parameters : List Parameter) : Value → Bool
  | .text name => parameters.any fun parameter => name = Text.ofString parameter.name
  | _ => false

/-- The values of the parameters, if the arguments fit them. -/
def bind (args : Arguments) (parameters : List Parameter) : Except Fault (List Value) :=
  if args.named.all fun entry => isNameOf parameters entry.1 then
    fill args.positional args.named parameters
  else
    .error .argument

end Arguments

namespace Building

/-- The action with the values of its parameters. -/
def perform : Action → List Value → Building Unit
  | .invite, [] => invite
  | .receive, [response, request, optional, rrs] => receive response request optional rrs
  | .receiveStatus status, [optional] => receiveStatus status optional
  | .receiveAnswer, [] => receiveAnswer
  | .ackAnswer, [] => ackAnswer
  | .startMedia, [] => startMedia
  | .sleep, [seconds] => sleep seconds
  | .sendDigits, [digits, delay] => sendDigits digits delay
  | .sendBye, [] => sendBye
  | .receiveBye, [] => receiveBye
  | .ackBye, [] => ackBye
  | _, _ => throw .argument

/-- Call an action with arguments. -/
def call (action : Action) (args : Arguments) : Building Unit := do
  let values ← args.bind action.parameters
  perform action values

end Building
end CallScript
