import CallScript.Text.Blank
import CallScript.Text.Case
import CallScript.Text.DecimalDigit
import CallScript.Text.Quoted

/-!
# The words of a command line

A word of a command line is an option, perhaps with an argument attached to it, or something else.
Long options may be shortened as long as it stays clear which one is meant.
-/

namespace CallScript
namespace CommandLine

/-- The options. -/
inductive Flag where
  | help
  | outputDirectory
  | logLevel
  | print
  deriving Repr, DecidableEq, Inhabited

namespace Flag

/-- The spellings of an option. -/
def spellings : Flag → List String
  | help => ["-h", "--help"]
  | outputDirectory => ["-o", "--output-dir"]
  | logLevel => ["--log-level"]
  | print => ["--print"]

/-- Holds of the options that need an argument. -/
def takesArgument : Flag → Bool
  | outputDirectory | logLevel => true
  | help | print => false

/-- All spellings, each with its option. -/
def spelled : List (String × Flag) :=
  [help, outputDirectory, logLevel, print].flatMap fun flag =>
    flag.spellings.map fun spelling => (spelling, flag)

/-- The option as a message names it. -/
def title (flag : Flag) : String :=
  String.intercalate "/" flag.spellings

end Flag

/-- An option in a command line: its spelling and the argument attached to it, if there is one. -/
structure Given where
  flag : Flag
  spelling : String
  attached : Option String
  deriving Repr, DecidableEq

/-- What a word is. -/
inductive Word where
  | operand
  | separator
  | option (given : Given)
  | unknown
  deriving Repr, DecidableEq

/-- Why a command line does not lead to a run. -/
inductive Stop where
  | help
  | usage (message : String)
  deriving Repr, DecidableEq

/-- What is said about an option. -/
def optionError {α : Type} (flag : Flag) (message : String) : Except Stop α :=
  .error (.usage ("argument " ++ flag.title ++ ": " ++ message))

/-- A word before its first equals sign, and after it if there is one. -/
def splitEquals (word : String) : String × Option String :=
  let cs := word.toList
  match cs.dropWhile (· ≠ '=') with
  | [] => (word, none)
  | _ :: rest => (String.ofList (cs.takeWhile (· ≠ '=')), some (String.ofList rest))

/-- Holds where a word begins like a spelling. -/
def begins (start spelling : String) : Bool :=
  start.toList.isPrefixOf spelling.toList

/-- The options that a shortened or joined word may mean. -/
def candidates (word : String) : List Given :=
  match word.toList with
  | '-' :: '-' :: _ =>
      let (start, attached) := splitEquals word
      (Flag.spelled.filter fun entry => begins start entry.1).map fun entry =>
        ⟨entry.2, entry.1, attached⟩
  | first :: second :: rest =>
      Flag.spelled.filterMap fun entry =>
        if entry.1 = String.ofList [first, second] then
          some ⟨entry.2, entry.1, some (String.ofList rest)⟩
        else if begins word entry.1 then
          some ⟨entry.2, entry.1, none⟩
        else
          none
  | _ => []

/-- Holds of a decimal digit of any script. -/
def isDigit (c : Char) : Bool :=
  (Text.digitValue? c).isSome

/-- The characters without one line feed at their end. -/
def dropLineEnd (cs : List Char) : List Char :=
  if cs.getLast? = some '\n' then cs.dropLast else cs

/-- Holds of the words that are negative numbers; a line feed may end the word. -/
def isNegativeNumber (word : String) : Bool :=
  match dropLineEnd word.toList with
  | '-' :: rest =>
      match rest.dropWhile isDigit with
      | [] => !rest.isEmpty
      | '.' :: digits => !digits.isEmpty && digits.all isDigit
      | _ => false
  | _ => false

/-- What a word before any separator is. -/
def classify (word : String) : Except Stop Word :=
  if word.toList.head? ≠ some '-' then
    .ok .operand
  else
    match Flag.spelled.lookup word with
    | some flag => .ok (.option ⟨flag, word, none⟩)
    | none =>
        let (start, attached) := splitEquals word
        match Flag.spelled.lookup start, attached with
        | some flag, some argument => .ok (.option ⟨flag, start, some argument⟩)
        | _, _ =>
            if word.length = 1 then
              .ok .operand
            else
              match candidates word with
              | [given] => .ok (.option given)
              | [] =>
                  if isNegativeNumber word || word.toList.contains ' ' then
                    .ok .operand
                  else
                    .ok .unknown
              | several =>
                  .error (.usage ("ambiguous option: " ++ word ++ " could match " ++
                    String.intercalate ", " (several.map (·.spelling))))

/-- What each word is; behind a separator of two hyphens nothing is an option. -/
def classifyAll : List String → Except Stop (List (String × Word))
  | [] => .ok []
  | word :: rest =>
      if word = "--" then
        .ok ((word, .separator) :: rest.map fun other => (other, .operand))
      else do
        let kind ← classify word
        let others ← classifyAll rest
        return (word, kind) :: others

end CommandLine
end CallScript
