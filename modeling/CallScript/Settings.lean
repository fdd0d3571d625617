import CallScript.Fault
import CallScript.Media.Profile

/-!
# Settings

What a run is set to.  Every setting has a name and a default; the texts and values that it is
given are read by `CallScript.Settings.Source`.
-/

namespace CallScript

/-- The settings of a run. -/
structure Settings where
  logLevel : String
  defaultFromUser : String
  defaultDigitDelay : Binary64
  outputDirectory : Disk.Path
  scriptExtension : String
  captureExtension : String
  packetIntervalMs : Int
  volume : Int
  deriving Repr, DecidableEq

namespace Settings

/-- The settings that hold where nothing else is said. -/
def standard : Settings where
  logLevel := "INFO"
  defaultFromUser := "sipp"
  defaultDigitDelay := .ofQuotient false 1 4
  outputDirectory := .ofText "."
  scriptExtension := "xml"
  captureExtension := "pcap"
  packetIntervalMs := 20
  volume := 10

/-- The profile of the captures of a run. -/
def profile (s : Settings) : Media.Profile :=
  { Media.Profile.standard with
    packetMs := s.packetIntervalMs
    volume := s.volume }

end Settings
end CallScript
