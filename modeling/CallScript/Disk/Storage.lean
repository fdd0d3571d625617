import CallScript.Bytes
import CallScript.Disk.Failure

/-!
# Storage

The requests to a file system that a run makes, and what it builds from them: directories with
everything above them, and questions that count some failures as a no.
-/

namespace CallScript
namespace Disk

/-- A file system that actions of `m` work on. -/
class Storage (m : Type → Type) where
  /-- Make one directory, in a directory that is there. -/
  makeDirectory : Path → m (Except Failure Unit)
  /-- Replace or make a file. -/
  write : Path → Bytes → m (Except Failure Unit)
  /-- The content of a file. -/
  read : Path → m (Except Failure Bytes)
  /-- Whether the thing at a path is a directory, and then whether it is a regular file. -/
  status : Path → m (Except Failure (Bool × Bool))
  /-- Remove a file. -/
  remove : Path → m (Except Failure Unit)

namespace Storage

section

variable {m : Type → Type} [Monad m] [Storage m]

/-- Holds of the failures that mean that nothing is at a path. -/
def meansAbsent : Failure → Bool
  | .refused .noEntry _ => true
  | .refused .notDirectory _ => true
  | .refused (.other number _) _ => number = 9 || number = 40
  | .refused _ _ => false
  | .nullCharacter => true
  | .tooDeep => false

/-- Whether a directory is at a path. -/
def hasDirectory (path : Path) : m (Except Failure Bool) := do
  match ← Storage.status path with
  | .ok (isDirectory, _) => return .ok isDirectory
  | .error failure => return if meansAbsent failure then .ok false else .error failure

/-- Whether a regular file is at a path. -/
def hasFile (path : Path) : m (Except Failure Bool) := do
  match ← Storage.status path with
  | .ok (_, isFile) => return .ok isFile
  | .error failure => return if meansAbsent failure then .ok false else .error failure

/-- What a refusal to make a directory comes to: a directory that is there already is none. -/
def settle (path : Path) (failure : Failure) : m (Except Failure Unit) := do
  match failure with
  | .nullCharacter | .tooDeep => return .error failure
  | .refused _ _ =>
      match ← hasDirectory path with
      | .ok true => return .ok ()
      | .ok false => return .error failure
      | .error other => return .error other

/-- Make one directory, or find it. -/
def ensureOne (path : Path) : m (Except Failure Unit) := do
  match ← Storage.makeDirectory path with
  | .ok () => return .ok ()
  | .error (.refused .noEntry p) => return .error (.refused .noEntry p)
  | .error failure => settle path failure

/-- The greatest number of directories that one request makes above another. -/
def highestClimb : Nat := 980

/-- Make a directory and up to `depth` directories above it, or find them. -/
def ensureUpTo : Nat → Path → m (Except Failure Unit)
  | 0, path => do
      match ← ensureOne path with
      | .error (.refused .noEntry p) =>
          return .error (if path.names.isEmpty then .refused .noEntry p else .tooDeep)
      | result => return result
  | depth + 1, path => do
      match ← Storage.makeDirectory path with
      | .ok () => return .ok ()
      | .error (.refused .noEntry _) =>
          match ← ensureUpTo depth path.parent with
          | .ok () => ensureOne path
          | .error failure => return .error failure
      | .error failure => settle path failure

/-- Make a directory and all directories above it, or find them. -/
def ensure (path : Path) : m (Except Failure Unit) :=
  ensureUpTo (min highestClimb path.names.length) path

/-- Remove a file, if there is one. -/
def discard (path : Path) : m (Except Failure Unit) := do
  match ← Storage.remove path with
  | .error (.refused .noEntry _) => return .ok ()
  | result => return result

end

end Storage
end Disk
end CallScript
