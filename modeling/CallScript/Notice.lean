import CallScript.Step

/-!
# Notices

What a run reports while it works, by cause.  Every notice has a level and a source; a run shows
those that are at least as urgent as it was asked for.
-/

namespace CallScript

/-- How urgent a notice is. -/
inductive Level where
  | debug
  | info
  | warning
  | error
  deriving Repr, DecidableEq, Inhabited

namespace Level

/-- The name of a level. -/
def name : Level → String
  | .debug => "DEBUG"
  | .info => "INFO"
  | .warning => "WARNING"
  | .error => "ERROR"

/-- The weight of a level. -/
def weight : Level → Nat
  | .debug => 10
  | .info => 20
  | .warning => 30
  | .error => 40

/-- The least weight that a threshold lets pass, by the name of the threshold. -/
def threshold? (name : String) : Option Nat :=
  [("CRITICAL", 50), ("FATAL", 50), ("ERROR", 40), ("WARN", 30), ("WARNING", 30), ("INFO", 20),
    ("DEBUG", 10), ("NOTSET", 0)].lookup name

end Level

/-- The causes of a notice. -/
inductive Notice where
  | hostNotNumeric (host : Text)
  | appended (stem : String) (step : Step)
  | delayDiffers (stem : String) (delayMs toneMs : Int)
  | encoded (packets : Nat) (coveredMs : Int)
  | scriptWritten (path : Disk.Path)
  | captureWritten (path : Disk.Path) (size : Nat)
  | built (name : Text) (steps : Nat)
  | compiled (manifest script capture : Disk.Path)
  | failed (manifest : Disk.Path) (fault : Fault)
  deriving Inhabited

namespace Notice

/-- The level of a notice. -/
def level : Notice → Level
  | hostNotNumeric .. | appended .. | encoded .. | built .. => .debug
  | scriptWritten .. | captureWritten .. | compiled .. => .info
  | delayDiffers .. => .warning
  | failed .. => .error

/-- Which part of a run a notice comes from. -/
def source : Notice → String
  | hostNotNumeric .. | encoded .. => "telephony.pcap"
  | appended .. | delayDiffers .. => "scenario.builder"
  | scriptWritten .. | captureWritten .. => "scenario.serializer"
  | built .. => "scenario.manifest"
  | compiled .. | failed .. => "main"

/-- Holds of the notices with a wording; what cannot be worded is not shown. -/
def isShowable : Notice → Bool
  | appended _ step => step.isShowable
  | delayDiffers _ delayMs _ => Value.isShort delayMs
  | encoded _ coveredMs => Value.isShort coveredMs
  | _ => true

/-- The wording of a notice. -/
def message : Notice → String
  | hostNotNumeric host =>
      "Host " ++ Text.quoted host ++
        " is not an IPv4 literal; using 127.0.0.1 in the capture"
  | appended stem step => stem ++ ": appended " ++ step.shown
  | delayDiffers stem delayMs toneMs =>
      stem ++ ": inter-digit delay " ++ toString delayMs ++ " ms differs from the " ++
        toString toneMs ++ " ms DTMF tone; script and media timing will drift"
  | encoded packets coveredMs =>
      "Encoded " ++ toString packets ++ " RTP packets covering " ++ toString coveredMs ++ " ms"
  | scriptWritten path => "Wrote scenario script " ++ path.text
  | captureWritten path size =>
      "Wrote media capture " ++ path.text ++ " (" ++ toString size ++ " bytes)"
  | built name steps =>
      "Built scenario " ++ Text.quoted name ++ " with " ++ toString steps ++ " steps"
  | compiled manifest script capture =>
      "Compiled " ++ manifest.text ++ " -> " ++ script.text ++ ", " ++ capture.text
  | failed manifest fault => manifest.text ++ ": " ++ fault.message

/-- The notice as a line of a log. -/
def line (notice : Notice) : String :=
  "[" ++ notice.level.name ++ "] " ++ notice.source ++ ": " ++ notice.message

end Notice
end CallScript
