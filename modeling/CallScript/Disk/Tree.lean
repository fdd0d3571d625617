import CallScript.Disk.Storage

/-!
# A file system in memory

Directories and files under their full names, with a working directory.  Requests are answered as
a Unix system answers them: every name on the way has to be a directory, two dots go up, names and
paths have a greatest length.  A plan of refusals may make requests fail for reasons of its own.

Links are not modelled, neither symbolic nor hard ones.  What stands under a name is a directory or
a file of its own, so that two full names never stand for the same file.
-/

namespace CallScript
namespace Disk

/-- What stands under a name. -/
inductive Node where
  | directory
  | file (content : Bytes)
  deriving Repr, DecidableEq, Inhabited

/-- A refusal that is to happen, with the length of the part that a refused write leaves behind. -/
structure Refusal where
  reason : Reason
  kept : Option Nat
  deriving Repr, DecidableEq

/-- A file system: the working directory, what stands under each full name, and the refusals. -/
structure Tree where
  working : List String
  nodes : List (List String × Node)
  plan : List (Option Refusal)
  deriving Repr

namespace Tree

/-- What stands under a full name. -/
def node? (t : Tree) (name : List String) : Option Node :=
  if name.isEmpty then some .directory else t.nodes.lookup name

/-- The tree with something under a full name. -/
def set (t : Tree) (name : List String) (node : Node) : Tree :=
  { t with nodes := (name, node) :: t.nodes.filter (·.1 ≠ name) }

/-- The tree with nothing under a full name. -/
def erase (t : Tree) (name : List String) : Tree :=
  { t with nodes := t.nodes.filter (·.1 ≠ name) }

/-- The longest name, in bytes. -/
def longestName : Nat := 255

/-- The length that a path may not reach, in bytes. -/
def longestPath : Nat := 4096

/-- The full name of the directory that names lead to from another one. -/
def walk (t : Tree) (place : List String) : List String → Except Reason (List String)
  | [] => .ok place
  | name :: rest =>
      if name = ".." then
        walk t place.dropLast rest
      else if longestName < name.utf8ByteSize then
        .error .nameTooLong
      else
        match t.node? (place ++ [name]) with
        | none => .error .noEntry
        | some (.file _) => .error .notDirectory
        | some .directory => walk t (place ++ [name]) rest

/-- Where a path ends: at a directory that was walked to, or at a name inside one. -/
inductive Target where
  | place (directory : List String)
  | entry (name : List String)
  deriving Repr, DecidableEq

/-- Where a path ends. -/
def target (t : Tree) (path : Path) : Except Failure Target :=
  let refuse (reason : Reason) : Except Failure Target := .error (.refused reason path)
  if path.text.toList.any (·.toNat = 0) then
    .error .nullCharacter
  else if longestPath ≤ path.text.utf8ByteSize then
    refuse .nameTooLong
  else
    let start := if path.root.isEmpty then t.working else []
    match path.names.getLast? with
    | none => .ok (.place start)
    | some last =>
        match t.walk start path.names.dropLast with
        | .error reason => refuse reason
        | .ok directory =>
            if last = ".." then
              .ok (.place directory.dropLast)
            else if longestName < last.utf8ByteSize then
              refuse .nameTooLong
            else
              .ok (.entry (directory ++ [last]))

/-- What stands where a path ends. -/
def nodeAt (t : Tree) (path : Path) : Except Failure Node :=
  match t.target path with
  | .error failure => .error failure
  | .ok (.place _) => .ok .directory
  | .ok (.entry name) =>
      match t.node? name with
      | some node => .ok node
      | none => .error (.refused .noEntry path)

/-- The answer to a request to make a directory. -/
def makeDirectory (t : Tree) (path : Path) : Except Failure Tree :=
  match t.target path with
  | .error failure => .error failure
  | .ok (.place _) => .error (.refused .present path)
  | .ok (.entry name) =>
      match t.node? name with
      | some _ => .error (.refused .present path)
      | none => .ok (t.set name .directory)

/-- The answer to a request to write a file. -/
def write (t : Tree) (path : Path) (content : Bytes) : Except Failure Tree :=
  match t.target path with
  | .error failure => .error failure
  | .ok (.place _) => .error (.refused .isDirectory path)
  | .ok (.entry name) =>
      match t.node? name with
      | some .directory => .error (.refused .isDirectory path)
      | _ => .ok (t.set name (.file content))

/-- The answer to a request to read a file. -/
def read (t : Tree) (path : Path) : Except Failure Bytes :=
  match t.nodeAt path with
  | .error failure => .error failure
  | .ok .directory => .error (.refused .isDirectory path)
  | .ok (.file content) => .ok content

/-- The answer to a request to remove a file. -/
def remove (t : Tree) (path : Path) : Except Failure Tree :=
  match t.target path with
  | .error failure => .error failure
  | .ok (.place _) => .error (.refused .isDirectory path)
  | .ok (.entry name) =>
      match t.node? name with
      | none => .error (.refused .noEntry path)
      | some .directory => .error (.refused .isDirectory path)
      | some (.file _) => .ok (t.erase name)

/-- The next refusal of the plan, if it is for now, and the tree with the plan after it. -/
def nextRefusal (t : Tree) : Option Refusal × Tree :=
  match t.plan with
  | [] => (none, t)
  | refusal :: rest => (refusal, { t with plan := rest })

/-- A request that changes the tree, unless the plan refuses it. -/
def change (path : Path) (act : Tree → Except Failure Tree)
    (refused : Refusal → Tree → Tree) : StateM Tree (Except Failure Unit) := fun t =>
  match t.nextRefusal with
  | (some refusal, t) => (.error (.refused refusal.reason path), refused refusal t)
  | (none, t) =>
      match act t with
      | .ok t => (.ok (), t)
      | .error failure => (.error failure, t)

/-- A request that only looks, unless the plan refuses it. -/
def look {α : Type} (path : Path) (act : Tree → Except Failure α) :
    StateM Tree (Except Failure α) := fun t =>
  match t.nextRefusal with
  | (some refusal, t) => (.error (.refused refusal.reason path), t)
  | (none, t) => (act t, t)

/-- A refused write leaves the first part of the content behind, or the file as it was. -/
def writePart (path : Path) (content : Bytes) (refusal : Refusal) (t : Tree) : Tree :=
  match refusal.kept with
  | none => t
  | some count =>
      match t.write path (content.take count) with
      | .ok t => t
      | .error _ => t

/-- Whether a node is a directory and whether it is a file. -/
def statusOf : Node → Bool × Bool
  | .directory => (true, false)
  | .file _ => (false, true)

instance : Storage (StateM Tree) where
  makeDirectory path := change path (·.makeDirectory path) fun _ t => t
  write path content := change path (·.write path content) (writePart path content)
  read path := look path (·.read path)
  status path := look path fun t => (t.nodeAt path).map statusOf
  remove path := change path (·.remove path) fun _ t => t

end Tree
end Disk
end CallScript
