import CallScript.Disk.Storage
import CallScript.Manifest
import CallScript.Text.Encoding
import CallScript.Yaml.Document

/-!
# Loading manifests

A manifest is a YAML file with a mapping in it.
-/

namespace CallScript
namespace Manifest

/-- The mapping in the bytes of a manifest. -/
def parse (path : Disk.Path) (bytes : Bytes) : Except Fault (List (Value × Value)) :=
  match Text.decode? bytes with
  | none => .error .undecodable
  | some text =>
      match Yaml.read text with
      | .error .malformed => .error (.manifestMalformed path)
      | .error (.fault fault) => .error fault
      | .ok value =>
          match value.entries? with
          | some entries => .ok entries
          | none => .error (.manifestNotMapping path)

/-- Build the scenario of the manifest with the given bytes, or the failure to read it. -/
def buildFile (path : Disk.Path) (content : Except Disk.Failure Bytes)
    (settings : Except Fault Settings) : Outcome :=
  match content with
  | .error failure => ⟨.error (Fault.wrapping (.manifestUnreadable path) failure), []⟩
  | .ok bytes =>
      match parse path bytes with
      | .error fault => ⟨.error fault, []⟩
      | .ok entries => buildMap entries settings

/-- Build the scenario of the manifest at a path. -/
def load {m : Type → Type} [Monad m] [Disk.Storage m] (path : Disk.Path)
    (settings : Except Fault Settings) : m Outcome := do
  return buildFile path (← Disk.Storage.read path) settings

end Manifest
end CallScript
