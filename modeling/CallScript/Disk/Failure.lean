import CallScript.Disk.Path

/-!
# Failures of the operating system

What the operating system answers when it refuses a request, with its number and its words.
-/

namespace CallScript
namespace Disk

/-- The reasons for a refusal; `other` is for reasons that only a real system has. -/
inductive Reason where
  | noEntry
  | present
  | notDirectory
  | isDirectory
  | nameTooLong
  | other (number : Nat) (words : String)
  deriving Repr, DecidableEq, Inhabited

namespace Reason

/-- The number of a reason. -/
def number : Reason → Nat
  | .noEntry => 2
  | .present => 17
  | .notDirectory => 20
  | .isDirectory => 21
  | .nameTooLong => 36
  | .other number _ => number

/-- The words for a reason. -/
def words : Reason → String
  | .noEntry => "No such file or directory"
  | .present => "File exists"
  | .notDirectory => "Not a directory"
  | .isDirectory => "Is a directory"
  | .nameTooLong => "File name too long"
  | .other _ words => words

/-- The reason with a number; the words are those of a reason without a name of its own. -/
def ofNumber (number : Nat) (words : String) : Reason :=
  match [noEntry, present, notDirectory, isDirectory, nameTooLong].find? (·.number = number) with
  | some reason => reason
  | none => .other number words

end Reason

/--
A failed request: one that was refused, for a reason and at a path, one for a path with a null
character, or one that would have to make too many directories above another.
-/
inductive Failure where
  | refused (reason : Reason) (path : Path)
  | nullCharacter
  | tooDeep
  deriving Repr, DecidableEq, Inhabited

/-- The failure in words. -/
def Failure.text : Failure → String
  | .refused reason path =>
      "[Errno " ++ toString reason.number ++ "] " ++ reason.words ++ ": " ++
        Text.quoted path.text
  | .nullCharacter => "embedded null byte"
  | .tooDeep => "too deeply nested"

end Disk
end CallScript
