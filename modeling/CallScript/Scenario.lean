import CallScript.Capture.Encoder
import CallScript.Endpoint
import CallScript.Notice
import CallScript.Script.Document
import CallScript.Settings
import CallScript.Sip.Message

/-!
# Scenarios

A call under construction: the steps of its script and the media that go with them.  Actions that
take time add a wait to the script and media of the same length to the timeline, so that both stay
together.  A scenario that has been compiled takes no more actions.
-/

namespace CallScript

/-- A call under construction. -/
structure Scenario where
  settings : Settings
  name : Text
  /-- The name of its files, without an extension. -/
  stem : String
  source : Endpoint
  destination : Endpoint
  fromUser : Value
  steps : List Step
  timeline : Media.Timeline
  compiled : Bool
  /-- What has been reported so far. -/
  journal : List Notice

namespace Scenario

/-- Holds of the characters that a file name keeps: ASCII letters, digits and the underscore. -/
def isWordChar (c : Char) : Bool :=
  c.isAlphanum || c = '_'

/-- The characters with every run of others replaced by one underscore. -/
def joinWords (afterOther : Bool) : List Char → List Char
  | [] => []
  | c :: rest =>
      if isWordChar c then
        c :: joinWords false rest
      else if afterOther then
        joinWords true rest
      else
        '_' :: joinWords true rest

/-- The file name that a name yields: lower case, with other runs than words as underscores. -/
def stemOf (name : Text) : String :=
  String.ofList (joinWords false (Text.lower name.string).toList)

/-- Holds of the file names with a letter or a digit. -/
def isUsableStem (stem : String) : Bool :=
  stem.toList.any (· ≠ '_')

/-- What is reported about a host that a capture has no address for. -/
def hostNotices (host : Text) : List Notice :=
  if (Capture.address? host).isNone then [.hostNotNumeric host] else []

/-- A scenario without steps; a caller that is not set is the one of the settings. -/
def create (settings : Settings) (name : Option Text) (source destination fromUser : Value) :
    Except Fault Scenario := do
  let source ← Endpoint.ofValue source "source"
  let destination ← Endpoint.ofValue destination "destination"
  let stem := stemOf (name.getD [])
  if !isUsableStem stem then
    throw (.nameUnusable name)
  return {
    settings := settings
    name := name.getD []
    stem := stem
    source := source
    destination := destination
    fromUser := if fromUser.isSet then fromUser else .text settings.defaultFromUser
    steps := []
    timeline := .empty
    compiled := false
    journal := hostNotices source.host ++ hostNotices destination.host }

/-- The profile of the capture. -/
def profile (s : Scenario) : Media.Profile :=
  s.settings.profile

/-- The encoder of the capture. -/
def encoder (s : Scenario) : Capture.Encoder :=
  .between s.source.host s.source.port s.destination.host s.destination.port s.profile

/-- The file name of the script. -/
def scriptName (s : Scenario) : String :=
  s.stem ++ "." ++ s.settings.scriptExtension

/-- The file name of the capture. -/
def captureName (s : Scenario) : String :=
  s.stem ++ "." ++ s.settings.captureExtension

/-- The script. -/
def document (s : Scenario) : Except Fault Text :=
  Script.render s.name s.steps

/-- The capture. -/
def capture (s : Scenario) (clock : Capture.Clock) : Except Fault Capture.Encoded :=
  s.encoder.encode clock s.timeline

/-- The messages of the warnings in a journal. -/
def warningsIn (journal : List Notice) : List String :=
  (journal.filter fun notice => notice.level = .warning && notice.isShowable).map (·.message)

end Scenario

/-- An action on a scenario.  What it has done before it fails stays done. -/
abbrev Building := ExceptT Fault (StateM Scenario)

namespace Building

/-- The result of an action on a scenario, and the scenario after it. -/
def on {α : Type} (s : Scenario) (action : Building α) : Except Fault α × Scenario :=
  StateT.run (ExceptT.run action) s

/-- Report something. -/
def report (notice : Notice) : Building Unit :=
  modify fun s => { s with journal := s.journal ++ [notice] }

/-- Report some things in turn. -/
def reportAll (notices : List Notice) : Building Unit :=
  modify fun s => { s with journal := s.journal ++ notices }

/-- Refuse a scenario that has been compiled. -/
def ensureOpen : Building Unit := do
  let s ← get
  if s.compiled then
    throw (.alreadyCompiled s.name)

/-- Add a step to an open scenario. -/
def addStep (step : Step) : Building Unit := do
  ensureOpen
  modify fun s => { s with steps := s.steps ++ [step] }
  let s ← get
  report (.appended s.stem step)

/-- Add a token to the timeline. -/
def addToken (token : Media.Token) : Building Unit :=
  modify fun s => { s with timeline := s.timeline.append (.token token) }

/-- The time in milliseconds after which an INVITE is sent again. -/
def inviteRetransMs : Int := 500

/-- Whole milliseconds of a number of seconds, a half to the even one. -/
def milliseconds (seconds : Value) (what : String) : Except Fault Int :=
  match seconds.number? with
  | none => .error .argument
  | some n =>
      if n.isNegative then
        .error (Fault.showing seconds (.durationNegative what seconds))
      else
        match n with
        | .whole k => .ok (k * 1000)
        | .real x =>
            match x.mul (.ofInt 1000) with
            | .nan => .error .notANumberToWhole
            | .infinite _ => .error .overflow
            | product =>
                match product.round? with
                | some k => .ok k
                | none => .error .overflow

/-- Send an INVITE. -/
def invite : Building Unit := do
  let s ← get
  let caller ← Fault.plainText s.fromUser
  addStep (.send (.text (Sip.invite caller)) (.integer inviteRetransMs))

/-- Wait for a response or a request. -/
def receive (response request optional rrs : Value) : Building Unit := do
  let step ← Step.receive? response request optional rrs
  addStep step

/-- Wait for a response with a status, which may be left out. -/
def receiveStatus (status : Int) (optional : Value) : Building Unit :=
  receive (.integer status) .null optional (.bool false)

/-- Wait for the answer, and keep its route for later messages. -/
def receiveAnswer : Building Unit :=
  receive (.integer 200) .null (.bool false) (.bool true)

/-- Play the capture. -/
def startMedia : Building Unit := do
  let s ← get
  addStep (.play (.text s.captureName))

/-- Send an ACK and play the capture. -/
def ackAnswer : Building Unit := do
  let s ← get
  let caller ← Fault.plainText s.fromUser
  addStep (.send (.text (Sip.ack caller)) .null)
  startMedia

/-- Send a BYE. -/
def sendBye : Building Unit :=
  addStep (.send (.text Sip.bye) .null)

/-- Wait for a BYE. -/
def receiveBye : Building Unit :=
  receive .null (.text "BYE") (.bool false) (.bool false)

/-- Confirm a BYE. -/
def ackBye : Building Unit :=
  addStep (.send (.text Sip.okToBye) .null)

/-- Wait while the capture is silent. -/
def sleep (seconds : Value) : Building Unit := do
  ensureOpen
  let duration ← milliseconds seconds "Sleep duration"
  let step ← Step.pause? (.integer duration)
  addStep step
  let token ← Media.Token.silence? (.integer duration)
  addToken token

/-- Play digits, each with a silence after it, and wait twice as long as one silence for each. -/
def playDigits (delayMs : Int) : Text → Building Unit
  | [] => pure ()
  | mark :: rest => do
      let tone ← Media.Token.tone? (.text [mark])
      addToken tone
      let gap ← Media.Token.silence? (.integer delayMs)
      addToken gap
      let step ← Step.pause? (.integer (delayMs * 2))
      addStep step
      playDigits delayMs rest

/-- Play the digits of a text, all of which have to be keys. -/
def sendDigits (digits delay : Value) : Building Unit := do
  ensureOpen
  let text ← Fault.plainText digits
  match Media.Digit.invalid text with
  | mark :: _ => throw (.digitRequested mark)
  | [] => pure ()
  let s ← get
  let delay := if delay.isNull then .real s.settings.defaultDigitDelay else delay
  let delayMs ← milliseconds delay "Inter-digit delay"
  if delayMs ≠ s.profile.toneMs then
    report (.delayDiffers s.stem delayMs s.profile.toneMs)
  playDigits delayMs text

end Building
end CallScript
