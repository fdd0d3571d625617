import CallScript.CommandLine.Words

/-!
# The choices of a command line

What a run is asked to do: the manifests, and the options with their arguments.  The manifests
stand together in one row; words that nothing takes are reported at the end.
-/

namespace CallScript
namespace CommandLine

/-- The argument of an option: a word, or nothing where the separator stands in its place. -/
inductive Argument where
  | word (text : String)
  | nothing
  deriving Repr, DecidableEq

/-- The argument that a word gives to an option. -/
def Argument.ofWord (word : String) : Argument :=
  if word = "--" then .nothing else .word word

/-- The choices of a command line. -/
structure Choices where
  manifests : List String
  outputDirectory : Option Argument
  logLevel : Option Argument
  print : Bool
  deriving Repr, DecidableEq

/-- The levels that can be asked for. -/
def levels : List String := ["CRITICAL", "ERROR", "WARNING", "INFO", "DEBUG"]

/-- A level, in any case. -/
def levelOf (word : String) : Except Stop String :=
  let level := Text.upper word
  if levels.contains level then
    .ok level
  else
    optionError .logLevel ("invalid choice: " ++ Text.quoted level ++ " (choose from " ++
      String.intercalate ", " (levels.map fun (level : String) => Text.quoted level) ++ ")")

/-- The level that an argument asks for. -/
def levelOfArgument : Argument → Except Stop Argument
  | .word text => (levelOf text).map .word
  | .nothing => .ok .nothing

/-- The choices after an option with its argument. -/
def apply (choices : Choices) (flag : Flag) (argument : Argument) : Except Stop Choices :=
  match flag with
  | .help => .error .help
  | .print => .ok { choices with print := true }
  | .outputDirectory => .ok { choices with outputDirectory := some argument }
  | .logLevel => do
      let level ← levelOfArgument argument
      return { choices with logLevel := some level }

/-- The options in one word, each with its argument, and the words after. -/
structure Joined where
  flags : List (Flag × Argument)
  rest : List (String × Word)

/-- Holds of the spellings with one hyphen. -/
def isShort (spelling : String) : Bool :=
  spelling.toList[1]? ≠ some '-'

/-- The text of some characters, if there are any. -/
def textOf? (cs : List Char) : Option String :=
  if cs.isEmpty then none else some (String.ofList cs)

/--
The options that are joined in one word, within a step bound.  What is attached to a short option
without an argument begins with the letter of another short option.
-/
def joined (given : Given) (rest : List (String × Word)) : Nat → Except Stop Joined
  | 0 => .ok ⟨[], rest⟩
  | fuel + 1 =>
      match given.attached with
      | none =>
          if given.flag.takesArgument then
            match rest with
            | (word, .operand) :: others => .ok ⟨[(given.flag, .ofWord word)], others⟩
            | _ => optionError given.flag "expected one argument"
          else
            .ok ⟨[(given.flag, .nothing)], rest⟩
      | some attached =>
          let ignored := optionError given.flag ("ignored explicit argument " ++
            Text.quoted attached)
          if given.flag.takesArgument then
            .ok ⟨[(given.flag, .ofWord attached)], rest⟩
          else
            match attached.toList with
            | [] => ignored
            | c :: others =>
                let spelling := String.ofList ['-', c]
                match Flag.spelled.lookup spelling with
                | none => ignored
                | some flag =>
                    if isShort given.spelling then
                      (joined ⟨flag, spelling, textOf? others⟩ rest fuel).map fun found =>
                        { found with flags := (given.flag, .nothing) :: found.flags }
                    else
                      ignored

/-- Holds of the words that a row of manifests may go on with. -/
def continuesRow (word : Word) : Bool :=
  word = .operand || word = .separator

/-- The row of manifests at the front and the words after it; a row needs an operand. -/
def takeRow (words : List (String × Word)) : List String × List (String × Word) :=
  let row := words.takeWhile fun word => continuesRow word.2
  if row.any fun word => word.2 = .operand then
    ((row.map (·.1)).erase "--", words.drop row.length)
  else
    ([], words)

/-- What has been read of a command line. -/
structure Reading where
  choices : Choices
  /-- The words that nothing has taken. -/
  extras : List String

/-- Holds where an option is still to come. -/
def hasOption (words : List (String × Word)) : Bool :=
  words.any fun word => !continuesRow word.2

/-- Take the row of manifests, if there has been none before. -/
def takeManifests (reading : Reading) (words : List (String × Word)) :
    Reading × List (String × Word) :=
  if reading.choices.manifests.isEmpty then
    let (manifests, rest) := takeRow words
    ({ reading with choices := { reading.choices with manifests := manifests } }, rest)
  else
    (reading, words)

/-- Read the words up to the last option, within a step bound, and then the rest. -/
def readWords : Nat → Reading → List (String × Word) → Except Stop Reading
  | 0, reading, _ => .ok reading
  | fuel + 1, reading, words =>
      match words with
      | (_, .option given) :: rest => do
          let found ← joined given rest ((given.attached.map String.length).getD 0 + 1)
          let choices ← found.flags.foldlM (fun choices entry => apply choices entry.1 entry.2)
            reading.choices
          readWords fuel { reading with choices := choices } found.rest
      | (word, .unknown) :: rest =>
          readWords fuel { reading with extras := reading.extras ++ [word] } rest
      | _ =>
          let (reading, rest) := takeManifests reading words
          if hasOption rest then
            if rest.length < words.length then
              readWords fuel reading rest
            else
              let skipped := rest.takeWhile fun word => continuesRow word.2
              readWords fuel { reading with extras := reading.extras ++ skipped.map (·.1) }
                (rest.drop skipped.length)
          else
            .ok { reading with extras := reading.extras ++ rest.map (·.1) }

/-- The choices of a command line. -/
def choose (words : List String) : Except Stop Choices := do
  let classified ← classifyAll words
  let start : Reading := ⟨⟨[], none, none, false⟩, []⟩
  let reading ← readWords (2 * words.length + 2) start classified
  if reading.choices.manifests.isEmpty then
    throw (.usage "the following arguments are required: manifests")
  if !reading.extras.isEmpty then
    throw (.usage ("unrecognized arguments: " ++ String.intercalate " " reading.extras))
  return reading.choices

end CommandLine
end CallScript
