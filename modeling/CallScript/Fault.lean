import CallScript.Disk.Failure
import CallScript.Value.Text

/-!
# Faults

Everything that can go wrong, by cause.  `Fault.kind` says which kind of fault a cause belongs to
and `Fault.message` words it.  The first four kinds are the faults of a scenario: the command line
reports them and ends, while the others are not expected by it.

A value that a message would show may have no text, and then that is the fault.  Long numbers are
the only reason for it here: a value may be nested as deeply as it likes, since the depth at which
the stack of an interpreter ends is left out.  Depth counts only where directories are made and
where a document is read.
-/

namespace CallScript

/-- The causes of a fault. -/
inductive Fault where
  | endpointMissing (label : String)
  | endpointShape (label : String) (value : Value)
  | portNotWhole (label : String) (port : Text)
  | portOutOfRange (label : String) (port : Int)
  | nameUnusable (name : Option Text)
  | keyMissing (key : String)
  | stepsNotList
  | manifestUnreadable (path : Disk.Path) (failure : Disk.Failure)
  | manifestMalformed (path : Disk.Path)
  | manifestNotMapping (path : Disk.Path)
  | receiveNothing
  | receiveBoth
  | pauseNegative (milliseconds : Value)
  | silenceNotWhole (duration : Value)
  | silenceNegative (duration : Int)
  | digitUnsupported (digit : Value)
  | digitRequested (digit : Mark)
  | durationNegative (what : String) (seconds : Value)
  | stepShape (index : Nat) (step : Value)
  | stepNumber (index : Nat) (action given : Text)
  | stepUnknown (index : Nat) (action : Text)
  | stepUnquoted (index : Nat) (digits : Value)
  | stepFailed (index : Nat) (action : Text) (fault : Fault)
  | alreadyCompiled (name : Text)
  | scriptUnwritable (path : Disk.Path) (failure : Disk.Failure)
  | captureUnwritable (path : Disk.Path) (failure : Disk.Failure)
  | notANumberToWhole
  | negativeLength
  | eventUnknown (digit : Text)
  | packetShort
  | packetVersion (version : Nat)
  | packetFeatures
  | eventShort
  | levelUnknown (level : String)
  | calendar (misfit : Calendar.Misfit)
  | notWhole (base : Nat) (numeral : Text)
  | notReal (numeral : Text)
  | numeralLong (digits : Nat)
  | numberLong
  | codePoint
  | pathNull
  | argument
  | stepForeign (step : Value)
  | tokenForeign (token : Value)
  | notText
  | dataNotMapping
  | lookup
  | position
  | overflow
  | zeroDivision
  | undecodable
  | unencodable
  | tooDeep
  | field
  | system (reason : Disk.Reason) (path : Disk.Path)
  | settings (problems : List (String × String))
  | endless
  deriving Inhabited

namespace Fault

/-- The kinds of fault. -/
inductive Kind where
  | configuration
  | validation
  | compiled
  | output
  | value
  | argument
  | member
  | lookup
  | position
  | overflow
  | zeroDivision
  | undecodable
  | unencodable
  | depth
  | field
  | system
  | settings
  | endless
  deriving Repr, DecidableEq, Inhabited

/-- The kind that a cause belongs to. -/
def kind : Fault → Kind
  | endpointMissing .. | endpointShape .. | portNotWhole .. | portOutOfRange ..
  | nameUnusable .. | keyMissing .. | stepsNotList | manifestUnreadable ..
  | manifestMalformed .. | manifestNotMapping .. => .configuration
  | receiveNothing | receiveBoth | pauseNegative .. | silenceNotWhole .. | silenceNegative ..
  | digitUnsupported .. | digitRequested .. | durationNegative .. | stepShape ..
  | stepNumber .. | stepUnknown .. | stepUnquoted .. | stepFailed .. => .validation
  | alreadyCompiled .. => .compiled
  | scriptUnwritable .. | captureUnwritable .. => .output
  | notANumberToWhole | negativeLength | eventUnknown .. | packetShort | packetVersion ..
  | packetFeatures | eventShort | levelUnknown .. | calendar .. | notWhole .. | notReal ..
  | numeralLong .. | numberLong | codePoint | pathNull => .value
  | argument | stepForeign .. | tokenForeign .. => .argument
  | notText | dataNotMapping => .member
  | lookup => .lookup
  | position => .position
  | overflow => .overflow
  | zeroDivision => .zeroDivision
  | undecodable => .undecodable
  | unencodable => .unencodable
  | tooDeep => .depth
  | field => .field
  | system .. => .system
  | settings .. => .settings
  | endless => .endless

/-- The number of characters of a quoted text that is no whole numeral which a message shows. -/
def longestExcerpt : Nat := 200

/-- How a message about too many digits begins. -/
def limitStart : String :=
  "Exceeds the limit (" ++ toString Value.mostDigits ++
    " digits) for integer string conversion"

/-- How a message about too many digits ends. -/
def limitEnd : String :=
  "; use sys.set_int_max_str_digits() to increase the limit"

/-- The wording of a fault.  What a reader of YAML finds wrong with a text is not told. -/
def message : Fault → String
  | endpointMissing label => "Must include " ++ label ++ " IP:PORT"
  | endpointShape label value => label ++ " must be HOST:PORT, got " ++ value.shown
  | portNotWhole label port =>
      label ++ " port must be an integer, got " ++ Text.quoted port
  | portOutOfRange label port => label ++ " port out of range: " ++ toString port
  | nameUnusable name =>
      "Scenario name " ++ (name.elim "None" Text.quoted) ++
        " does not yield a usable file name"
  | keyMissing key => "Manifest is missing required key " ++ Text.quoted key
  | stepsNotList => "Manifest 'steps' must be a list"
  | manifestUnreadable path failure =>
      "Cannot read manifest " ++ path.text ++ ": " ++ failure.text
  | manifestMalformed path => "Invalid YAML in manifest " ++ path.text ++ ": <yaml>"
  | manifestNotMapping path => "Manifest " ++ path.text ++ " must contain a mapping"
  | receiveNothing => "Receive must include either a response or a request"
  | receiveBoth => "Receive must not include both a response and a request"
  | pauseNegative milliseconds =>
      "Pause must not be negative: " ++ milliseconds.plain.string ++ " ms"
  | silenceNotWhole duration =>
      "Silence duration must be whole milliseconds, got " ++ duration.shown
  | silenceNegative duration =>
      "Silence duration cannot be negative, got " ++ toString duration
  | digitUnsupported digit => "Unsupported DTMF digit " ++ digit.shown
  | digitRequested digit =>
      "Invalid DTMF digit requested: " ++ Text.quoted [digit]
  | durationNegative what seconds =>
      what ++ " must not be negative: " ++ seconds.plain.string
  | stepShape index step =>
      "Step " ++ toString index ++ " must be an action name or a single-key mapping, got " ++
        step.shown
  | stepNumber index action given =>
      "Step " ++ toString index ++ " (" ++ action.string ++ "): expected a number, got " ++
        Text.quoted given
  | stepUnknown index action =>
      "Step " ++ toString index ++ ": unknown action " ++ Text.quoted action
  | stepUnquoted index digits =>
      "Step " ++ toString index ++ " (send_digits): quote the digit string, got " ++
        digits.shown
  | stepFailed index action fault =>
      "Step " ++ toString index ++ " (" ++ action.string ++ "): " ++ fault.message
  | alreadyCompiled name =>
      "Scenario " ++ Text.quoted name ++ " has already been compiled"
  | scriptUnwritable path failure =>
      "Failed to write scenario script " ++ path.text ++ ": " ++ failure.text
  | captureUnwritable path failure =>
      "Failed to write media capture " ++ path.text ++ ": " ++ failure.text
  | notANumberToWhole => "cannot convert float NaN to integer"
  | negativeLength => "negative dimensions are not allowed"
  | eventUnknown digit => "Invalid DTMF digit: " ++ Text.quoted digit
  | packetShort => "RTP packet too short"
  | packetVersion version => "Unsupported RTP version: " ++ toString version
  | packetFeatures => "RTP features not supported (padding/extension/CSRC)"
  | eventShort => "telephone-event payload too short"
  | levelUnknown level => "Unknown level: " ++ Text.quoted level
  | calendar misfit => misfit.text
  | notWhole base numeral =>
      "invalid literal for int() with base " ++ toString base ++ ": " ++
        String.ofList ((Text.quoted numeral).toList.take longestExcerpt)
  | notReal numeral => "could not convert string to float: " ++ Text.quoted numeral
  | numeralLong digits =>
      limitStart ++ ": value has " ++ toString digits ++ " digits" ++ limitEnd
  | numberLong => limitStart ++ limitEnd
  | codePoint => "chr() arg not in range(0x110000)"
  | pathNull => "embedded null byte"
  | argument => "<TypeError>"
  | stepForeign step => "Unsupported scenario step: " ++ step.shown
  | tokenForeign token => "Unsupported media token: " ++ token.shown
  | notText => "a text is needed"
  | dataNotMapping => "a mapping is needed"
  | lookup => "no such key"
  | position => "no such position"
  | overflow => "number too large"
  | zeroDivision => "division by zero"
  | undecodable => "malformed UTF-8"
  | unencodable => "no UTF-8 form"
  | tooDeep => "too deeply nested"
  | field => "number does not fit its field"
  | system reason path => (Disk.Failure.refused reason path).text
  | settings _ => "invalid settings"
  | endless => "endless encoding"

/--
The fault, or the one that a value has no text where the fault would show it.  Only long numbers
have none, whatever the depth at which they stand.
-/
def showing (value : Value) (fault : Fault) : Fault :=
  if value.isShowable then fault else .numberLong

/-- The plain text of a value, which every value without long numbers has, however deep it is. -/
def plainText (value : Value) : Except Fault Text :=
  if value.isShowable then .ok value.plain else .error .numberLong

/-- Holds of the faults of a scenario, which the command line reports. -/
def isReported (fault : Fault) : Bool :=
  [Kind.configuration, .validation, .compiled, .output].contains fault.kind

/-- The fault that a failed request becomes when nothing wraps it. -/
def ofFailure : Disk.Failure → Fault
  | .refused reason path => .system reason path
  | .nullCharacter => .pathNull
  | .tooDeep => .tooDeep

/-- The fault that a failed request becomes when a refusal is wrapped. -/
def wrapping (wrap : Disk.Failure → Fault) : Disk.Failure → Fault
  | .refused reason path => wrap (.refused reason path)
  | failure => ofFailure failure

end Fault
end CallScript
