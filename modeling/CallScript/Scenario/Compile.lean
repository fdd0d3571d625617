import CallScript.Disk.Storage
import CallScript.Scenario
import CallScript.Text.Encoding

/-!
# Compiling scenarios

The script and the capture are made in memory and then written into a directory.  When the capture
cannot be written, the script that was written before it is removed again.  The capture may be made
by any encoder; a scenario has one of its own, between its two ends.
-/

namespace CallScript

/-- The two files of a compiled scenario. -/
structure Artifacts where
  script : Disk.Path
  capture : Disk.Path
  deriving Repr, DecidableEq

namespace Artifacts

section

variable {m : Type → Type} [Monad m] [Disk.Storage m]

/-- Write a file and make the directories above it. -/
def writeFile (path : Disk.Path) (content : Bytes) : m (Except Disk.Failure Unit) := do
  match ← Disk.Storage.ensure path.parent with
  | .error failure => return .error failure
  | .ok () => Disk.Storage.write path content

/-- Remove the script and whatever is left of the capture, unless a directory is in its place. -/
def cleanUp (artifacts : Artifacts) : m (Except Disk.Failure Unit) := do
  match ← Disk.Storage.discard artifacts.script with
  | .error failure => return .error failure
  | .ok () =>
      match ← Disk.Storage.hasDirectory artifacts.capture with
      | .error failure => return .error failure
      | .ok true => return .ok ()
      | .ok false => Disk.Storage.discard artifacts.capture

/-- Write the script; of one without a byte form only the empty file is left. -/
def writeScript (path : Disk.Path) (script : Text) : m (Except Fault Unit) := do
  match ← writeFile path (script.encode?.getD []) with
  | .error failure => return .error (Fault.wrapping (.scriptUnwritable path) failure)
  | .ok () => return if script.encode?.isSome then .ok () else .error .unencodable

/-- Write both files.  When the capture cannot be written, the script is removed again. -/
def write (artifacts : Artifacts) (script : Text) (capture : Bytes) :
    m (Except Fault Unit) := do
  match ← writeScript artifacts.script script with
  | .error fault => return .error fault
  | .ok () =>
      match ← writeFile artifacts.capture capture with
      | .ok () => return .ok ()
      | .error (.refused reason path) =>
          match ← cleanUp artifacts with
          | .error other => return .error (.ofFailure other)
          | .ok () =>
              return .error (.captureUnwritable artifacts.capture (.refused reason path))
      | .error failure => return .error (.ofFailure failure)

end

end Artifacts

/-- What an encoder has made of a timeline: the bytes of a capture, and what it reports. -/
structure Recording where
  bytes : Bytes
  notices : List Notice

/-- An encoder of any kind: it makes a recording of a timeline, or it ends in a fault. -/
abbrev Recorder (m : Type → Type) := Media.Timeline → m (Except Fault Recording)

/-- What is ready before anything is written: the files of a scenario, its script and its capture. -/
structure Draft where
  artifacts : Artifacts
  script : Text
  recording : Recording

/-- An action on a scenario that also works on a file system. -/
abbrev Compiling (m : Type → Type) := ExceptT Fault (StateT Scenario m)

namespace Scenario

/-- The files of a scenario inside a directory. -/
def artifactsIn (s : Scenario) (directory : Disk.Path) : Artifacts where
  script := directory.join s.scriptName
  capture := directory.join s.captureName

/-- The directory that a value names; without one it is that of the settings. -/
def directoryOf (s : Scenario) : Value → Except Fault Disk.Path
  | .null => .ok s.settings.outputDirectory
  | .text text =>
      match text.string? with
      | some path => .ok (.ofText path)
      | none => .error .unencodable
  | _ => .error .argument

/-- The encoder between the ends of a scenario, with a clock. -/
def recorder {m : Type → Type} [Monad m] (s : Scenario) (clock : m Capture.Clock) :
    Recorder m := fun timeline => do
  let now ← clock
  return (s.encoder.encode now timeline).map fun encoded =>
    { bytes := encoded.bytes
      notices := [.encoded encoded.packets encoded.coveredMs] }

end Scenario

namespace Compiling

section

variable {m : Type → Type} [Monad m]

/-- An action on a scenario alone. -/
def build {α : Type} (action : Building α) : Compiling m α := fun s =>
  pure (action.on s)

/-- An action on the file system alone, which may end in a fault. -/
def request {α : Type} (action : m (Except Fault α)) : Compiling m α := fun s => do
  let result ← action
  return (result, s)

/-- Write the two files that are ready; then the scenario is compiled. -/
def deliver [Disk.Storage m] (draft : Draft) : Compiling m Artifacts := do
  build (Building.reportAll draft.recording.notices)
  request (draft.artifacts.write draft.script draft.recording.bytes)
  build (Building.report (.scriptWritten draft.artifacts.script))
  build (Building.report
    (.captureWritten draft.artifacts.capture draft.recording.bytes.length))
  modify fun s => { s with compiled := true }
  return draft.artifacts

/-- Make the script and the recording, and write them. -/
def compileWith [Disk.Storage m] (recorder : Recorder m) (directory : Value) :
    Compiling m Artifacts := do
  build Building.ensureOpen
  let s ← get
  let place ← s.directoryOf directory
  let script ← s.document
  let recording ← request (recorder s.timeline)
  deliver ⟨s.artifactsIn place, script, recording⟩

/-- Compile a scenario with the encoder between its ends. -/
def compile [Disk.Storage m] (clock : m Capture.Clock) (directory : Value) :
    Compiling m Artifacts := do
  let s ← get
  compileWith (s.recorder clock) directory

end

end Compiling
end CallScript
