import CallScript.Text

/-!
# Character data

Text inside a script that is not to be read as markup stands in sections.  A section cannot hold
its own end, so every end in the text is divided between two sections.
-/

namespace CallScript
namespace Script

/-- How a section begins. -/
def sectionStart : Text := "<![CDATA["

/-- How a section ends. -/
def sectionEnd : Text := "]]>"

/-- The text with a section's end and a new start inside each end that it holds. -/
def divideEnds : Text → Text
  | [] => []
  | .char ']' :: .char ']' :: .char '>' :: rest =>
      .char ']' :: .char ']' :: (sectionEnd ++ sectionStart ++ .char '>' :: divideEnds rest)
  | mark :: rest => mark :: divideEnds rest

/-- The text in sections. -/
def enclose (t : Text) : Text :=
  sectionStart ++ divideEnds t ++ sectionEnd

/-- The text up to the first end of a section, and what follows the end. -/
def upToEnd? : Text → Option (Text × Text)
  | [] => none
  | .char ']' :: .char ']' :: .char '>' :: rest => some ([], rest)
  | mark :: rest => (upToEnd? rest).map fun found => (mark :: found.1, found.2)

/-- The text of the sections that fill a text from its start to its end, within a step bound. -/
def readSections? : Nat → Text → Option Text
  | _, [] => some []
  | 0, _ :: _ => none
  | fuel + 1, t =>
      if sectionStart.isPrefixOf t then
        match upToEnd? (t.drop sectionStart.length) with
        | none => none
        | some (body, rest) => (readSections? fuel rest).map (body ++ ·)
      else
        none

/-- The text of the adjacent sections that make up the given one. -/
def disclose? (t : Text) : Option Text :=
  readSections? t.length t

end Script
end CallScript
