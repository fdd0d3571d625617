import CallScript.Text.Quoted
import CallScript.Value

/-!
# Texts of values

Every value has two texts.  `Value.shown` is the one inside messages, where texts stand between
quotes; `Value.plain` is the one that goes into a script, where a text stands for itself.  Inside
a collection that holds itself, the inner one is shown by three dots.  A value with a whole number
of too many digits has no text at all.

How deeply a value is nested makes no difference here.  The stack of an interpreter that writes a
text by recursion ends at some depth, which depends on how it is set and on the calls around it.
That limit is left out, and every nesting has its text.
-/

namespace CallScript
namespace Value

/-- The names of the two truth values. -/
def boolText (b : Bool) : String :=
  if b then "True" else "False"

/-- Items between brackets, separated by commas. -/
def enclosed (opening closing : String) (items : List String) : String :=
  opening ++ String.intercalate ", " items ++ closing

/-- Items between round brackets, a single one with a comma after it. -/
def grouped : List String → String
  | [only] => "(" ++ only ++ ",)"
  | texts => enclosed "(" ")" texts

/-- A member of a cell that is to be shown: another cell, or a text. -/
inductive Part where
  | cell (place : Nat)
  | text (shown : String)

/-- A cell that is to be shown. -/
inductive Drawing where
  | list (parts : List Part)
  | map (parts : List (String × Part))
  | group (parts : List Part)

/--
The text of the cell at a place.  The cells around it are shown by dots; as every step goes to one
that is not among them, the number of cells bounds the depth.
-/
def draw (drawings : List Drawing) : Nat → List Nat → Nat → String
  | 0, _, _ => "..."
  | depth + 1, around, place =>
      let part : Part → String
        | .cell inner => draw drawings depth (place :: around) inner
        | .text shown => shown
      match drawings[place]? with
      | none => "..."
      | some (.list parts) =>
          if around.contains place then "[...]" else enclosed "[" "]" (parts.map part)
      | some (.map parts) =>
          if around.contains place then
            "\x7b...\x7d"
          else
            enclosed "\x7b" "\x7d" (parts.map fun entry => entry.1 ++ ": " ++ part entry.2)
      | some (.group parts) =>
          if around.contains place then "(...)" else grouped (parts.map part)

mutual

/-- The value as a message shows it. -/
def shown : Value → String
  | .null => "None"
  | .bool b => boolText b
  | .integer n => toString n
  | .real x => Decimal.render Decimal.plain x
  | .text t => Text.quoted t
  | .list items => enclosed "[" "]" (shownItems items)
  | .map entries => enclosed "\x7b" "\x7d" (shownEntries entries)
  | .date d => d.shown
  | .moment m => m.shown
  | .bytes bs => Text.quotedBytes bs
  | .group items => grouped (shownItems items)
  | .distinct items =>
      match shownItems items with
      | [] => "set()"
      | texts => enclosed "\x7b" "\x7d" texts
  | .knot cells place => draw (drawings cells) (cells.length + 1) [] place

/-- The texts of the items of a list. -/
def shownItems : List Value → List String
  | [] => []
  | item :: rest => shown item :: shownItems rest

/-- The texts of the entries of a mapping. -/
def shownEntries : List (Value × Value) → List String
  | [] => []
  | (key, value) :: rest => (shown key ++ ": " ++ shown value) :: shownEntries rest

/-- The cells of a table as they are to be shown. -/
def drawings : List Cell → List Drawing
  | [] => []
  | .list members :: rest => .list (partsOf members) :: drawings rest
  | .map entries :: rest => .map (keyedParts entries) :: drawings rest
  | .group members :: rest => .group (partsOf members) :: drawings rest

/-- The members of a cell as they are to be shown. -/
def partsOf : List Member → List Part
  | [] => []
  | .cell place :: rest => .cell place :: partsOf rest
  | .value v :: rest => .text (shown v) :: partsOf rest

/-- The entries of a cell as they are to be shown. -/
def keyedParts : List (Value × Member) → List (String × Part)
  | [] => []
  | (key, .cell place) :: rest => (shown key, .cell place) :: keyedParts rest
  | (key, .value v) :: rest => (shown key, .text (shown v)) :: keyedParts rest

end

/-- The value as a script or a plain text shows it. -/
def plain : Value → Text
  | .text t => t
  | .date d => d.text
  | .moment m => m.text
  | value => value.shown

/-- The greatest number of digits of a whole number with a text. -/
def mostDigits : Nat := 4300

/-- Holds of the whole numbers that are short enough for a text. -/
def isShort (n : Int) : Bool :=
  n.natAbs < Nat.pow 10 mostDigits

mutual

/--
Holds of the values with a text, in which all whole numbers are short enough.  A limit on the depth
of the nesting is left out.
-/
def isShowable : Value → Bool
  | .integer n => isShort n
  | .list items => areShowable items
  | .map entries => haveShowable entries
  | .group items => areShowable items
  | .distinct items => areShowable items
  | .knot cells _ => cellsShowable cells
  | _ => true

/-- Holds of items with a text. -/
def areShowable : List Value → Bool
  | [] => true
  | item :: rest => isShowable item && areShowable rest

/-- Holds of entries with a text. -/
def haveShowable : List (Value × Value) → Bool
  | [] => true
  | (key, value) :: rest => isShowable key && isShowable value && haveShowable rest

/-- Holds of cells with a text. -/
def cellsShowable : List Cell → Bool
  | [] => true
  | .list members :: rest => membersShowable members && cellsShowable rest
  | .map entries :: rest => keyedShowable entries && cellsShowable rest
  | .group members :: rest => membersShowable members && cellsShowable rest

/-- Holds of members of a cell with a text. -/
def membersShowable : List Member → Bool
  | [] => true
  | .cell _ :: rest => membersShowable rest
  | .value v :: rest => isShowable v && membersShowable rest

/-- Holds of entries of a cell with a text. -/
def keyedShowable : List (Value × Member) → Bool
  | [] => true
  | (key, .cell _) :: rest => isShowable key && keyedShowable rest
  | (key, .value v) :: rest => isShowable key && isShowable v && keyedShowable rest

end

end Value
end CallScript
