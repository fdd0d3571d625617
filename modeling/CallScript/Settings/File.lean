import CallScript.Disk.Storage
import CallScript.Settings.Source
import CallScript.Text.Encoding

/-!
# The settings file

A settings file in the working directory is read if there is one.
-/

namespace CallScript
namespace Settings

/-- The path of the settings file. -/
def filePath : Disk.Path := .ofText ".env"

/-- The settings that given values, the environment and the bytes of the settings file make. -/
def ofParts (given : List (String × Value)) (environment : List (String × String)) :
    Option Bytes → Except Fault Settings
  | none => load given environment none
  | some bytes =>
      match Text.decode? bytes with
      | none => .error .undecodable
      | some text =>
          load given environment (some (String.ofList (Text.unifyBreaks text.toList)))

/-- Read the settings of a run. -/
def read {m : Type → Type} [Monad m] [Disk.Storage m] (given : List (String × Value))
    (environment : List (String × String)) : m (Except Fault Settings) := do
  match ← Disk.Storage.hasFile filePath with
  | .error failure => return .error (.ofFailure failure)
  | .ok false => return ofParts given environment none
  | .ok true =>
      match ← Disk.Storage.read filePath with
      | .error failure => return .error (.ofFailure failure)
      | .ok bytes => return ofParts given environment (some bytes)

end Settings
end CallScript
