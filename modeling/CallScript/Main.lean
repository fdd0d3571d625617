import CallScript.Calendar.Clock
import CallScript.CommandLine.Run

/-!
# The command line

The program around `CommandLine.run`: it asks the operating system for files, clocks and random
numbers, and prints what a run leaves behind.
-/

namespace CallScript
namespace Program

/-- The number of a failure, which some requests give below zero. -/
def numberOf (code : UInt32) : Nat :=
  if code < 0x80000000 then code.toNat else (0 - code).toNat

/-- The number and the words of a failed request; number 5 is for a failure without a number. -/
def reasonOf (failure : IO.Error) : Disk.Reason :=
  match failure with
  | .alreadyExists _ code words | .otherError code words | .resourceBusy code words
  | .resourceVanished code words | .unsupportedOperation code words | .hardwareFault code words
  | .unsatisfiedConstraints code words | .illegalOperation code words
  | .protocolError code words | .timeExpired code words | .interrupted _ code words
  | .noFileOrDirectory _ code words | .invalidArgument _ code words
  | .permissionDenied _ code words | .resourceExhausted _ code words
  | .inappropriateType _ code words | .noSuchThing _ code words =>
      .ofNumber (numberOf code) words.capitalize
  | .unexpectedEof | .userError _ => .ofNumber 5 (toString failure)

/-- The answer to a request for a path. -/
def ask {α : Type} (path : Disk.Path) (request : String → IO α) :
    IO (Except Disk.Failure α) := do
  if path.text.toList.any fun c => c.toNat = 0 then
    return .error .nullCharacter
  try
    return .ok (← request path.text)
  catch failure =>
    return .error (.refused (reasonOf failure) path)

instance : Disk.Storage IO where
  makeDirectory path := ask path fun text => IO.FS.createDir text
  write path content := ask path fun text => IO.FS.writeBinFile text ⟨content.toArray⟩
  read path := ask path fun text => do
    let content ← IO.FS.readBinFile text
    return content.data.toList
  status path := ask path fun text => do
    let found ← ((← IO.currentDir) / text).metadata
    let isDirectory := match found.type with | .dir => true | _ => false
    let isFile := match found.type with | .file => true | _ => false
    return (isDirectory, isFile)
  remove path := ask path fun text => IO.FS.removeFile text

/-- The microseconds since the beginning of the year 1970, as a file that is made now has them. -/
def now : IO Nat := do
  let (_, file) ← IO.FS.createTempFile
  let found ← file.metadata
  IO.FS.removeFile file
  return found.modified.sec.toNat * 1000000 + found.modified.nsec.toNat / 1000

/-- A random number of some bytes. -/
def random (bytes : Nat) : IO Int := do
  let drawn ← IO.getRandomBytes (USize.ofNat bytes)
  return Bytes.toNatBig drawn.data.toList

/-- A clock with random numbers. -/
def clock : IO Capture.Clock := do
  return {
    ssrc := ← random 4
    sequence := ← random 2
    timestamp := ← random 4
    time := .real (.ofQuotient false (← now) 1000000) }

/-- The name and the text of a variable. -/
def variableOf (entry : List Char) : Option (String × String) :=
  match entry.dropWhile (· ≠ '=') with
  | _ :: text => some (String.ofList (entry.takeWhile (· ≠ '=')), String.ofList text)
  | [] => none

/-- The variables of the environment, which end with null characters. -/
def bindingsOf (text : String) : List (String × String) :=
  (text.splitOn "\x00").filterMap fun entry => variableOf entry.toList

/-- The environment of this program. -/
def environment : IO (List (String × String)) := do
  try
    let content ← IO.FS.readBinFile "/proc/self/environ"
    return bindingsOf ((String.fromUTF8? content).getD "")
  catch _ =>
    return []

/-- The time stamp in front of a line of the log. -/
def stamp (microseconds : Nat) : String :=
  let moment := Calendar.momentOfClock microseconds
  let whole := { moment with microsecond := 0 }
  whole.text ++ "," ++ Decimal.padded 3 (moment.microsecond / 1000)

/-- How the program is called. -/
def usage : String :=
  "usage: callflow [-h] [-o OUTPUT_DIR]\n" ++
    "                [--log-level \x7bCRITICAL,ERROR,WARNING,INFO,DEBUG\x7d] [--print]\n" ++
    "                manifests [manifests ...]"

/-- Print what a run leaves behind and return its status. -/
def finish (report : CommandLine.Report) : IO UInt32 := do
  let out ← IO.getStdout
  let log ← IO.getStderr
  let time := stamp (← now)
  out.putStr report.output.string
  for notice in report.notices do
    log.putStrLn (time ++ " " ++ notice.line)
  match report.ending with
  | .status code => return UInt32.ofNat code
  | .usage message =>
      log.putStrLn usage
      log.putStrLn (CommandLine.usageLine message)
      return 2
  | .fault fault =>
      log.putStrLn fault.message
      return 1

end Program
end CallScript

/-- Compile the manifests that the command line names. -/
def main (arguments : List String) : IO UInt32 := do
  let environment ← CallScript.Program.environment
  let report ← CallScript.CommandLine.run CallScript.Program.clock environment arguments
  CallScript.Program.finish report
