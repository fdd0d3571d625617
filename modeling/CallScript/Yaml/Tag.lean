import CallScript.Text.Case
import CallScript.Text.Numeral
import CallScript.Value
import CallScript.Yaml.Quoted

/-!
# Tags of YAML

Every node has a tag, which says what it stands for.  A plain scalar without a tag gets the one
that its spelling shows: a truth value, a number in one of several notations, a date, nothing, or
a text.
-/

namespace CallScript
namespace Yaml

/-- The tags that have a meaning, and one for all others. -/
inductive Tag where
  | null
  | bool
  | whole
  | real
  | timestamp
  | binary
  | text
  | merge
  | value
  | list
  | map
  | set
  | ordered
  | pairs
  | foreign
  deriving Repr, DecidableEq, Inhabited

/-- What the names of the common tags begin with. -/
def commonTag : String := "tag:yaml.org,2002:"

/-- The tag with a name. -/
def Tag.ofName (name : String) : Tag :=
  ([ (commonTag ++ "null", Tag.null), (commonTag ++ "bool", .bool), (commonTag ++ "int", .whole),
    (commonTag ++ "float", .real), (commonTag ++ "timestamp", .timestamp),
    (commonTag ++ "binary", .binary), (commonTag ++ "str", .text), (commonTag ++ "merge", .merge),
    (commonTag ++ "value", .value), (commonTag ++ "seq", .list), (commonTag ++ "map", .map),
    (commonTag ++ "set", .set), (commonTag ++ "omap", .ordered),
    (commonTag ++ "pairs", .pairs) ].lookup name).getD .foreign

namespace Spelling

/-- The spellings of the truth values. -/
def truths : List (String × Bool) :=
  [("yes", true), ("no", false), ("true", true), ("false", false), ("on", true), ("off", false)]

/-- A word in lower case, in upper case, and with a capital in front. -/
def cased (word : String) : List String :=
  [word, Text.upper word, Text.capitalize word]

/-- The spellings of the truth values in plain scalars. -/
def plainTruths : List String :=
  truths.flatMap fun entry => cased entry.1

/-- The spellings of nothing. -/
def plainNulls : List String :=
  "" :: "~" :: cased "null"

/-- The text without one sign in front. -/
def unsigned (cs : List Char) : List Char :=
  (Text.takeSign cs).2

/-- Holds of a digit or an underscore. -/
def isGrouped (c : Char) : Bool :=
  c.isDigit || c = '_'

/-- Holds of an exponent with a sign, and of nothing. -/
def isExponent : List Char → Bool
  | [] => true
  | e :: sign :: rest =>
      (e = 'e' || e = 'E') && (sign = '-' || sign = '+') && !rest.isEmpty &&
        rest.all Char.isDigit
  | _ => false

/-- What follows groups of base sixty, each after a colon; there has to be one. -/
def afterSixties? : Nat → Bool → List Char → Option (List Char)
  | 0, _, _ => none
  | fuel + 1, passed, cs =>
      match cs with
      | ':' :: rest =>
          let digits := rest.takeWhile Char.isDigit
          if digits.length = 1 || (digits.length = 2 && digits.headD '9' ≤ '5') then
            afterSixties? fuel true (rest.dropWhile Char.isDigit)
          else
            none
      | _ => if passed then some cs else none

/-- Holds of a real number in digits with a point. -/
def isDecimal (cs : List Char) : Bool :=
  let body := unsigned cs
  match body with
  | c :: _ =>
      if c.isDigit then
        match body.dropWhile isGrouped with
        | '.' :: rest => isExponent (rest.dropWhile isGrouped)
        | _ => false
      else
        false
  | [] => false

/-- Holds of a real number that begins with a point, which takes no sign. -/
def isFraction : List Char → Bool
  | '.' :: c :: rest => c.isDigit && isExponent (rest.dropWhile isGrouped)
  | _ => false

/-- Holds of a real number in base sixty. -/
def isRealSixty (cs : List Char) : Bool :=
  let body := unsigned cs
  (body.head?.map Char.isDigit).getD false &&
    match afterSixties? (body.length + 1) false (body.dropWhile isGrouped) with
    | some ('.' :: rest) => rest.all isGrouped
    | _ => false

/-- Holds of an infinity or of the value that is not a number. -/
def isNamedReal (cs : List Char) : Bool :=
  [".inf", ".Inf", ".INF"].contains (String.ofList (unsigned cs)) ||
    [".nan", ".NaN", ".NAN"].contains (String.ofList cs)

/-- Holds of the spellings of a real number. -/
def isReal (cs : List Char) : Bool :=
  isDecimal cs || isFraction cs || isRealSixty cs || isNamedReal cs

/-- Holds of an octal digit or an underscore. -/
def isOctal (c : Char) : Bool :=
  ('0' ≤ c && c ≤ '7') || c = '_'

/-- Holds of a hexadecimal digit or an underscore. -/
def isHex (c : Char) : Bool :=
  (Quoted.hexValue? c).isSome || c = '_'

/-- Holds of the spellings of a whole number. -/
def isWhole (cs : List Char) : Bool :=
  match unsigned cs with
  | ['0'] => true
  | '0' :: 'b' :: c :: rest => (c :: rest).all fun d => d = '0' || d = '1' || d = '_'
  | '0' :: 'x' :: c :: rest => (c :: rest).all isHex
  | '0' :: rest => rest.all isOctal
  | c :: rest =>
      c.isDigit &&
        (rest.all isGrouped ||
          afterSixties? (rest.length + 1) false (rest.dropWhile isGrouped) = some [])
  | [] => false

end Spelling

/-- The parts of a date, and of a time of day if there is one. -/
structure Stamp where
  year : List Char
  month : List Char
  day : List Char
  clock : Option (List Char × List Char × List Char)
  fraction : List Char
  /-- The sign, the hours and the minutes of an offset; universal time has no sign. -/
  zone : Option (Option Char × List Char × List Char)

namespace Stamp

/-- Digits whose number lies between two bounds, and what follows them. -/
def digits? (least most : Nat) (cs : List Char) : Option (List Char × List Char) :=
  let found := cs.takeWhile Char.isDigit
  if least ≤ found.length && found.length ≤ most then
    some (found, cs.drop found.length)
  else
    none

/-- The text after a character that has to come next. -/
def after? (c : Char) : List Char → Option (List Char)
  | d :: rest => if d = c then some rest else none
  | [] => none

/-- Holds of the blanks between the parts of a stamp. -/
def isInset (c : Char) : Bool :=
  c = ' ' || c = '\t'

/-- The zone at the end of a stamp; `none` is returned for a text that is no zone. -/
def zone? (cs : List Char) : Option (Option (Option Char × List Char × List Char)) :=
  match cs with
  | [] => some none
  | _ =>
      match cs.dropWhile isInset with
      | ['Z'] => some (some (none, [], []))
      | sign :: rest =>
          if sign = '+' || sign = '-' then
            match digits? 1 2 rest with
            | none => none
            | some (hours, []) => some (some (some sign, hours, []))
            | some (hours, rest) =>
                match (after? ':' rest).bind (digits? 2 2) with
                | some (minutes, []) => some (some (some sign, hours, minutes))
                | _ => none
          else
            none
      | [] => none

/-- The separator between the date and the time of day: one letter, or blanks. -/
def afterDate? : List Char → Option (List Char)
  | c :: rest =>
      if c = 'T' || c = 't' then
        some rest
      else if isInset c then
        some (rest.dropWhile isInset)
      else
        none
  | [] => none

/-- The stamp that a text spells. -/
def ofChars? (cs : List Char) : Option Stamp := do
  let (year, rest) ← digits? 4 4 cs
  let (month, rest) ← digits? 1 2 (← after? '-' rest)
  let (day, rest) ← digits? 1 2 (← after? '-' rest)
  if rest.isEmpty then
    return ⟨year, month, day, none, [], none⟩
  let (hour, rest) ← digits? 1 2 (← afterDate? rest)
  let (minute, rest) ← digits? 2 2 (← after? ':' rest)
  let (second, rest) ← digits? 2 2 (← after? ':' rest)
  let (fraction, rest) :=
    match rest with
    | '.' :: rest => (rest.takeWhile Char.isDigit, rest.dropWhile Char.isDigit)
    | _ => ([], rest)
  let zone ← zone? rest
  return ⟨year, month, day, some (hour, minute, second), fraction, zone⟩

/-- Holds of the stamps that a plain scalar may have: a date alone has all its digits. -/
def isFull (s : Stamp) : Bool :=
  s.clock.isSome || (s.month.length = 2 && s.day.length = 2)

/-- The microseconds of a fraction, of which six digits count. -/
def microseconds (fraction : List Char) : Nat :=
  let six := fraction.take 6
  Text.digitsToNat (six ++ List.replicate (6 - six.length) '0')

/-- The seconds of an offset. -/
def offsetSeconds (sign : Option Char) (hours minutes : List Char) : Int :=
  let n : Int := (Text.digitsToNat hours * 3600 + Text.digitsToNat minutes * 60 : Nat)
  if sign = some '-' then -n else n

/-- The date or the moment of a stamp. -/
def toValue (s : Stamp) : Except Calendar.Misfit Value := do
  let year := Text.digitsToNat s.year
  let month := Text.digitsToNat s.month
  let day := Text.digitsToNat s.day
  match s.clock with
  | none => return .date (← Calendar.Date.make year month day)
  | some (hour, minute, second) =>
      let offset ←
        match s.zone with
        | none => pure none
        | some (sign, hours, minutes) =>
            some <$> Calendar.checkOffset (offsetSeconds sign hours minutes)
      return .moment (← Calendar.Moment.make year month day (Text.digitsToNat hour)
        (Text.digitsToNat minute) (Text.digitsToNat second) (microseconds s.fraction) offset)

end Stamp

/-- The characters without a line feed at their end, unless nothing else is there. -/
def Spelling.dropLineFeed (cs : List Char) : List Char :=
  if 1 < cs.length && cs.getLast? = some '\n' then cs.dropLast else cs

/-- The tag that the spelling of a plain scalar shows. -/
def Tag.ofSpelling (cs : List Char) : Tag :=
  let word := String.ofList cs
  if Spelling.plainTruths.contains word then
    .bool
  else if Spelling.isReal cs then
    .real
  else if Spelling.isWhole cs then
    .whole
  else if word = "<<" then
    .merge
  else if Spelling.plainNulls.contains word then
    .null
  else if ((Stamp.ofChars? cs).map Stamp.isFull).getD false then
    .timestamp
  else if word = "=" then
    .value
  else if word = "!" || word = "&" || word = "*" then
    .foreign
  else
    .text

/-- The tag of a plain scalar; a line feed at its end makes no difference. -/
def Tag.ofPlain (t : Text) : Tag :=
  match t.chars? with
  | some cs => .ofSpelling (Spelling.dropLineFeed cs)
  | none => .text

end Yaml
end CallScript
