import CallScript.Bytes
import CallScript.Text

/-!
# The byte form of texts

Texts are stored in UTF-8, and reading a text turns every line break into a line feed.  A text
that holds one half of a surrogate pair has no byte form.
-/

namespace CallScript
namespace Text

/-- The bytes of a string. -/
def encode (s : String) : Bytes :=
  s.toUTF8.data.toList

/-- The bytes of a text without halves. -/
def encode? (t : Text) : Option Bytes :=
  t.string?.map encode

/-- The text of a byte string, if it is well-formed. -/
def decode? (bs : Bytes) : Option String :=
  String.fromUTF8? ⟨bs.toArray⟩

/-- Every carriage return becomes a line feed, together with a line feed after it. -/
def unifyBreaks : List Char → List Char
  | [] => []
  | '\r' :: '\n' :: rest => '\n' :: unifyBreaks rest
  | '\r' :: rest => '\n' :: unifyBreaks rest
  | c :: rest => c :: unifyBreaks rest

end Text
end CallScript
