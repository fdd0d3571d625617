import CallScript.Text

/-!
# Escaped text

Text inside an attribute: the ampersand, the two angle brackets and the double quote are written
as entities.  `unescape?` reads the entities back in one pass.
-/

namespace CallScript
namespace Script

/-- The characters that are written as entities, each with the name of its entity. -/
def entities : List (Char × String) :=
  [('&', "amp"), ('<', "lt"), ('>', "gt"), ('\x22', "quot")]

/-- A character inside an attribute. -/
def escapeChar (c : Char) : List Char :=
  match entities.lookup c with
  | some name => '&' :: name.toList ++ [';']
  | none => [c]

/-- A mark inside an attribute. -/
def escapeMark : Mark → Text
  | .char c => .ofChars (escapeChar c)
  | .half n => [.half n]

/-- A text inside an attribute. -/
def escape (t : Text) : Text :=
  t.flatMap escapeMark

/-- The characters whose escaped form is given, if it is one: every ampersand starts an entity. -/
def unescape? : Text → Option Text
  | [] => some []
  | .char '&' :: .char 'a' :: .char 'm' :: .char 'p' :: .char ';' :: rest =>
      (unescape? rest).map (.char '&' :: ·)
  | .char '&' :: .char 'l' :: .char 't' :: .char ';' :: rest =>
      (unescape? rest).map (.char '<' :: ·)
  | .char '&' :: .char 'g' :: .char 't' :: .char ';' :: rest =>
      (unescape? rest).map (.char '>' :: ·)
  | .char '&' :: .char 'q' :: .char 'u' :: .char 'o' :: .char 't' :: .char ';' :: rest =>
      (unescape? rest).map (.char '\x22' :: ·)
  | mark :: rest =>
      if mark.satisfies fun c => (entities.lookup c).isSome then
        none
      else
        (unescape? rest).map (mark :: ·)

end Script
end CallScript
