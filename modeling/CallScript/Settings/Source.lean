import CallScript.Settings
import CallScript.Settings.Dotenv
import CallScript.Text.Case
import CallScript.Text.Numeral

/-!
# Where settings come from

A setting is taken from the values that are given outright, else from the environment, else from
the settings file, else it has its default.  Texts are read as numbers where a number is needed.
All settings are checked before any fault is reported, so the fault lists everything that is wrong.
-/

namespace CallScript
namespace Settings

/-- What can be wrong with a given value. -/
inductive Problem where
  | wholeParsing
  | wholeSize
  | wholeType
  | fraction
  | infinite
  | realParsing
  | realType
  | textType
  | pathType
  | tooSmall
  | below
  | above
  | unknown
  deriving Repr, DecidableEq

/-- The name of a problem. -/
def Problem.name : Problem → String
  | .wholeParsing => "int_parsing"
  | .wholeSize => "int_parsing_size"
  | .wholeType => "int_type"
  | .fraction => "int_from_float"
  | .infinite => "finite_number"
  | .realParsing => "float_parsing"
  | .realType => "float_type"
  | .textType => "string_type"
  | .pathType => "path_type"
  | .tooSmall => "greater_than"
  | .below => "greater_than_equal"
  | .above => "less_than_equal"
  | .unknown => "extra_forbidden"

/-- The blanks around a number. -/
def isEdgeBlank (c : Char) : Bool :=
  Text.isPlainBlank c || Text.isWideBlank c

/-- The text without underscores, if it has some, none at its ends and no two in a row. -/
def ungroup? (cs : List Char) : Option (List Char) :=
  let doubled := (cs.zip (cs.drop 1)).any fun pair => pair.1 = '_' && pair.2 = '_'
  if !cs.contains '_' || cs.head? = some '_' || cs.getLast? = some '_' || doubled then
    none
  else
    some (cs.filter (· ≠ '_'))

/-- A number after its leading zeros and the underscores among them; `last` was passed last. -/
def skipZeros (last : Char) : List Char → Option (List Char)
  | [] => some [last]
  | c :: rest =>
      if c = '0' || c = '_' then
        skipZeros c rest
      else if Text.isAsciiDigit c then
        some (c :: rest)
      else if c = '.' then
        some (last :: c :: rest)
      else
        none

/-- A number without leading zeros, of which one is kept where nothing else is before the point. -/
def dropLeadingZeros? : List Char → Option (List Char)
  | [] => none
  | c :: rest =>
      if c = '0' then
        skipZeros '0' rest
      else if Text.isAsciiDigit c || c = '-' then
        some (c :: rest)
      else
        none

/-- A number without a point and the zeros after it, of which there has to be one. -/
def dropZeroFraction (cs : List Char) : List Char :=
  let whole := cs.takeWhile (· ≠ '.')
  let zeros := cs.drop (whole.length + 1)
  if !zeros.isEmpty && zeros.all (· = '0') then whole else cs

/-- The whole number in plain digits with at most a minus. -/
def plainWhole? (cs : List Char) : Option Int :=
  let (negative, digits) :=
    match cs with
    | '-' :: rest => (true, rest)
    | _ => (false, cs)
  if digits.isEmpty || !(digits.all Text.isAsciiDigit) then
    none
  else
    some (Binary64.signed negative (Text.digitsToNat digits))

/-- The text without one leading plus, after which no minus may stand. -/
def dropPlus? : List Char → Option (List Char)
  | '+' :: '-' :: _ => none
  | '+' :: rest => some rest
  | cs => some cs

/-- The text of a whole number without blanks, a plus, leading zeros and underscores. -/
def cleaned? (text : String) : Option (List Char) := do
  let unsigned ← dropPlus? (Text.trimBoth isEdgeBlank text.toList)
  let trimmed ← dropLeadingZeros? unsigned
  let whole := dropZeroFraction trimmed
  return (ungroup? whole).getD whole

/-- Holds of the texts that begin with more digits than are read; a minus counts as one. -/
def isOversized (cs : List Char) : Bool :=
  let unsigned := if cs.head? = some '-' then cs.drop 1 else cs
  let digits := unsigned.takeWhile Text.isAsciiDigit
  digits.head? ≠ some '0' &&
    Text.longestNumeral < (cs.length - unsigned.length) + digits.length

/-- The whole number in a text. -/
def wholeOfText (text : String) : Except Problem Int :=
  if isOversized text.toList then
    .error .wholeSize
  else
    match cleaned? text with
    | none => .error .wholeParsing
    | some cs =>
        if isOversized cs then
          .error .wholeSize
        else
          match plainWhole? cs with
          | some n => .ok n
          | none => .error .wholeParsing

/-- The real number in a text. -/
def realOfText? (text : String) : Option Binary64 :=
  let body := Text.trimBoth isEdgeBlank text.toList
  match Text.realNumeral? body with
  | some x => some x
  | none => (ungroup? body).bind Text.realNumeral?

/-- The string of a text, which has to have a byte form. -/
def stringOf (problem : Problem) (t : Text) : Except Problem String :=
  match t.string? with
  | some s => .ok s
  | none => .error problem

/-- The whole number that a value gives. -/
def toWhole : Value → Except Problem Int
  | .bool b => .ok (if b then 1 else 0)
  | .integer n => .ok n
  | .real x =>
      match x with
      | .finite .. =>
          match x.toInt? with
          | some n => if n.natAbs < Nat.pow 2 63 then .ok n else .error .wholeSize
          | none => .error .fraction
      | _ => .error .infinite
  | .text t => (stringOf .wholeParsing t).bind wholeOfText
  | _ => .error .wholeType

/-- The real number that a value gives. -/
def toReal : Value → Except Problem Binary64
  | .bool b => .ok (.ofInt (if b then 1 else 0))
  | .integer n =>
      match Binary64.ofInt n with
      | .infinite _ => .error .realType
      | x => .ok x
  | .real x => .ok x
  | .text t => do
      match realOfText? (← stringOf .realParsing t) with
      | some x => return x
      | none => throw .realParsing
  | _ => .error .realType

/-- The text that a value gives. -/
def toText : Value → Except Problem String
  | .text t => stringOf .textType t
  | _ => .error .textType

/-- The path that a value gives. -/
def toPath : Value → Except Problem Disk.Path
  | .text t => (stringOf .pathType t).map .ofText
  | _ => .error .pathType

/-- The positive number that a value gives. -/
def toPositive (value : Value) : Except Problem Binary64 := do
  let x ← toReal value
  if x.isPositive then return x else throw .tooSmall

/-- The whole number between two bounds that a value gives. -/
def toBounded (low high : Int) (value : Value) : Except Problem Int := do
  let n ← toWhole value
  if high < n then
    throw .above
  else if n < low then
    throw .below
  else
    return n

/-- What stands before the name of a setting in the environment and in a settings file. -/
def environmentMark : String := "callflow_"

/-- The names of the settings, in their order. -/
def names : List String :=
  ["log_level", "default_from_user", "default_digit_delay", "output_dir", "scenario_extension",
    "media_extension", "packet_interval_ms", "dtmf_volume"]

/-- Everything that settings are read from. -/
structure Source where
  /-- Values that are given outright. -/
  given : List (String × Value)
  /-- The environment, its names in lower case. -/
  environment : List (String × String)
  /-- The settings file, its names in lower case. -/
  file : List Dotenv.Binding

/-- The environment in the order of its names, which are put into lower case; the last one wins. -/
def lowerEnvironment (environment : List (String × String)) : List (String × String) :=
  (environment.mergeSort fun x y => decide (x.1 ≤ y.1)).reverse.map fun entry =>
    (Text.lower entry.1, entry.2)

/-- The bindings of a settings file with their names in lower case. -/
def lowerBindings (bindings : List Dotenv.Binding) : List Dotenv.Binding :=
  bindings.foldl (fun known binding =>
    Dotenv.assign known (Text.lower binding.1) binding.2) []

/-- The value of a setting, if one is given. -/
def Source.find? (source : Source) (name : String) : Option Value :=
  match source.given.lookup name with
  | some value => some value
  | none =>
      match source.environment.lookup (environmentMark ++ name) with
      | some text => some (.text text)
      | none =>
          match source.file.lookup (environmentMark ++ name) with
          | some (some text) => some (.text text)
          | _ => none

/-- Holds of the names that a settings file may bind: settings, with and without the mark. -/
def isFileName (name : String) : Bool :=
  names.contains name || (names.map (environmentMark ++ ·)).contains name

/-- The names that are no settings: first those of the file, then those given outright. -/
def Source.unknown (source : Source) : List String :=
  let inFile := source.file.filterMap fun binding =>
    match binding.2 with
    | some text => if text.isEmpty || isFileName binding.1 then none else some binding.1
    | none => none
  let given := (source.given.map (·.1)).filter fun name => !(names.contains name)
  (inFile ++ given).eraseDups

/-- A setting that may have gone wrong, with the value that stands in for it then. -/
structure Reading (α : Type) where
  value : α
  problems : List (String × String)

/-- The setting with a name: the given value, if it is a fitting one, or else the default. -/
def Source.read {α : Type} (source : Source) (name : String)
    (fit : Value → Except Problem α) (default : α) : Reading α :=
  match source.find? name with
  | none => ⟨default, []⟩
  | some value =>
      match fit value with
      | .ok x => ⟨x, []⟩
      | .error problem => ⟨default, [(name, problem.name)]⟩

/-- The settings of a run, or all that is wrong with them. -/
def ofSource (source : Source) : Except Fault Settings :=
  let logLevel := source.read "log_level" toText standard.logLevel
  let fromUser := source.read "default_from_user" toText standard.defaultFromUser
  let delay := source.read "default_digit_delay" toPositive standard.defaultDigitDelay
  let directory := source.read "output_dir" toPath standard.outputDirectory
  let script := source.read "scenario_extension" toText standard.scriptExtension
  let capture := source.read "media_extension" toText standard.captureExtension
  let interval := source.read "packet_interval_ms" (toBounded 10 100) standard.packetIntervalMs
  let volume := source.read "dtmf_volume" (toBounded 0 63) standard.volume
  let problems :=
    logLevel.problems ++ fromUser.problems ++ delay.problems ++ directory.problems ++
      script.problems ++ capture.problems ++ interval.problems ++ volume.problems ++
      source.unknown.map fun name => (name, Problem.unknown.name)
  if problems.isEmpty then
    .ok
      { logLevel := logLevel.value
        defaultFromUser := fromUser.value
        defaultDigitDelay := delay.value
        outputDirectory := directory.value
        scriptExtension := script.value
        captureExtension := capture.value
        packetIntervalMs := interval.value
        volume := volume.value }
  else
    .error (.settings problems)

/-- The settings of a run from given values, the environment and the text of the settings file. -/
def load (given : List (String × Value)) (environment : List (String × String))
    (fileText : Option String) : Except Fault Settings :=
  let bindings := (fileText.map (Dotenv.read environment)).getD []
  ofSource
    { given := given
      environment := lowerEnvironment environment
      file := lowerBindings bindings }

end Settings
end CallScript
