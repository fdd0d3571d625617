import CallScript.Text
import CallScript.Text.CaseTable

/-!
# Letter case

Full case mapping of texts: a character may go to several, and a capital sigma that ends a word
becomes a final sigma.
-/

namespace CallScript
namespace Text

/-- Membership in a list of closed ranges. -/
def inRanges (ranges : List (Nat × Nat)) (n : Nat) : Bool :=
  ranges.any fun range => range.1 ≤ n && n ≤ range.2

namespace CaseRun

/-- Holds of the characters that the run moves. -/
def covers (run : CaseRun) (n : Nat) : Bool :=
  run.first ≤ n && n ≤ run.last && (n - run.first) % run.stride == 0

/-- Where the run sends a character that it covers. -/
def image (run : CaseRun) (n : Nat) : Nat :=
  run.target + (n - run.first)

end CaseRun

/-- The image of one character under a case map given by its two tables. -/
def mapCase (runs : List CaseRun) (expansions : List (Nat × List Nat))
    (c : Char) : List Char :=
  match expansions.lookup c.toNat with
  | some images => images.map Char.ofNat
  | none =>
      match runs.find? (·.covers c.toNat) with
      | some run => [Char.ofNat (run.image c.toNat)]
      | none => [c]

/-- The lower-case form of a character by itself. -/
def lowerChar (c : Char) : List Char :=
  mapCase lowerRuns lowerExpansions c

/-- The upper-case form of a character. -/
def upperChar (c : Char) : List Char :=
  mapCase upperRuns upperExpansions c

/-- The title-case form of a character. -/
def titleChar (c : Char) : List Char :=
  mapCase titleRuns titleExpansions c

/-- Holds when the nearest character that is not skipped has case. -/
def besideCased (cs : List Char) : Bool :=
  match cs.dropWhile fun c => inRanges caseIgnorableRanges c.toNat with
  | [] => false
  | c :: _ => inRanges casedRanges c.toNat

/--
The lower-case form of a text whose characters before it are given in reverse: a capital sigma
becomes final when a cased character stands before it and none stands after it.
-/
def lowerFrom (before : List Char) : List Char → List Char
  | [] => []
  | c :: rest =>
      let image :=
        if c.toNat = 0x3a3 then
          if besideCased before && !(besideCased rest) then
            [Char.ofNat 0x3c2]
          else
            [Char.ofNat 0x3c3]
        else
          lowerChar c
      image ++ lowerFrom (c :: before) rest

/-- The lower-case form of a text. -/
def lower (text : String) : String :=
  String.ofList (lowerFrom [] text.toList)

/--
The lower-case form of a text in marks.  A half has no case and ends the word before it, so the
characters on its two sides are mapped by themselves.
-/
def lowered (run : List Char) : Text → Text
  | [] => ofChars (lowerFrom [] run.reverse)
  | .char c :: rest => lowered (c :: run) rest
  | .half n :: rest => ofChars (lowerFrom [] run.reverse) ++ .half n :: lowered [] rest

/-- The upper-case form of a text. -/
def upper (text : String) : String :=
  String.ofList (text.toList.flatMap upperChar)

/-- The text with its first character in title case and the others in lower case. -/
def capitalize (text : String) : String :=
  match text.toList with
  | [] => ""
  | c :: rest => String.ofList (titleChar c ++ lowerFrom [c] rest)

end Text
end CallScript
