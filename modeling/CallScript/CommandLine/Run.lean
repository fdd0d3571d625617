import CallScript.CommandLine.Choices
import CallScript.Manifest.Load
import CallScript.Scenario.Compile
import CallScript.Settings.File

/-!
# Runs

A run compiles manifests in the order in which they are given and ends at the first one that has a
fault.  It either writes the files of each scenario or collects the scripts on the output.
-/

namespace CallScript
namespace CommandLine

/-- How a run ends: with a status, with a misuse of the command line, or with a fault that it does
not expect. -/
inductive Ending where
  | status (code : Nat)
  | usage (message : String)
  | fault (fault : Fault)
  deriving Inhabited

/-- What a run leaves behind: its ending, its output and what it has reported. -/
structure Report where
  ending : Ending
  output : Text
  notices : List Notice

/-- The manifests of a run and what happens to them. -/
structure Job where
  manifests : List Disk.Path
  directory : Value
  print : Bool
  settings : Settings

/-- What has become of one manifest: its script or its files, or a fault. -/
structure Result where
  result : Except Fault Text
  notices : List Notice

section

variable {m : Type → Type} [Monad m] [Disk.Storage m]

/-- Write the files of a scenario. -/
def compileOne (clock : m Capture.Clock) (directory : Value) (path : Disk.Path) (s : Scenario) :
    m Result := do
  let (result, s) ← ((Compiling.compile clock directory : Compiling m Artifacts).run).run s
  match result with
  | .error fault => return ⟨.error fault, s.journal⟩
  | .ok artifacts =>
      return ⟨.ok [], s.journal ++ [.compiled path artifacts.script artifacts.capture]⟩

/--
Load one manifest and print or compile it.  A script that is printed goes to the output as a text,
also where a mark in it has no UTF-8 form and its file would be refused: how the output is encoded
is a setting of the stream outside, which is left out.
-/
def processOne (clock : m Capture.Clock) (job : Job) (path : Disk.Path) : m Result := do
  let outcome ← Manifest.load path (.ok job.settings)
  match outcome.result with
  | .error fault => return ⟨.error fault, outcome.journal⟩
  | .ok s =>
      if job.print then
        return ⟨s.document, s.journal⟩
      else
        compileOne clock job.directory path s

/-- Process manifests up to the first fault, after the given output and notices. -/
def processAll (clock : m Capture.Clock) (job : Job) (output : Text) (notices : List Notice) :
    List Disk.Path → m Report
  | [] => return ⟨.status 0, output, notices⟩
  | path :: rest => do
      let result ← processOne clock job path
      let notices := notices ++ result.notices
      match result.result with
      | .ok text => processAll clock job (output ++ text) notices rest
      | .error fault =>
          if fault.isReported then
            return ⟨.status 1, output, notices ++ [.failed path fault]⟩
          else
            return ⟨.fault fault, output, notices⟩

/-- The notices that are at least as urgent as a threshold. -/
def atLeast (threshold : Nat) (notices : List Notice) : List Notice :=
  notices.filter fun notice => threshold ≤ notice.level.weight && notice.isShowable

/-- The level that a run is asked for; an option without its argument names none. -/
def levelOfRun (settings : Settings) (choices : Choices) : Except Fault String :=
  match choices.logLevel with
  | none => .ok (Text.upper settings.logLevel)
  | some (.word level) => .ok level
  | some .nothing => .error .argument

/-- The least weight of what a run reports. -/
def thresholdOf (settings : Settings) (choices : Choices) : Except Fault Nat := do
  let name ← levelOfRun settings choices
  match Level.threshold? name with
  | some weight => return weight
  | none => throw (.levelUnknown name)

/-- The directory that a run writes into; an option without its argument names none. -/
def directoryOf (settings : Settings) (choices : Choices) : Value :=
  match choices.outputDirectory with
  | none => .text settings.outputDirectory.text
  | some (.word directory) => .text directory
  | some .nothing => .list []

/-- Run with settings. -/
def runWith (settings : Settings) (clock : m Capture.Clock) (words : List String) :
    m Report := do
  match choose words with
  | .error .help => return ⟨.status 0, [], []⟩
  | .error (.usage message) => return ⟨.usage message, [], []⟩
  | .ok choices =>
      match thresholdOf settings choices with
      | .error fault => return ⟨.fault fault, [], []⟩
      | .ok threshold =>
          let manifests := choices.manifests.map Disk.Path.ofText
          let job : Job := ⟨manifests, directoryOf settings choices, choices.print, settings⟩
          let report ← processAll clock job [] [] manifests
          return { report with notices := atLeast threshold report.notices }

/-- Run a command line. -/
def run (clock : m Capture.Clock) (environment : List (String × String))
    (words : List String) : m Report := do
  match ← Settings.read [] environment with
  | .error fault => return ⟨.fault fault, [], []⟩
  | .ok settings => runWith settings clock words

end

/-- The last line of what is said about a misuse of the command line, blank ones left out. -/
def usageLine (message : String) : String :=
  let isLineFeed (c : Char) : Bool := c = '\n'
  let body := ("callflow: error: " ++ message).toList.reverse.dropWhile isLineFeed
  String.ofList (body.takeWhile (!isLineFeed ·)).reverse

end CommandLine
end CallScript
