import CallScript.Text
import CallScript.Text.Printable

/-!
# Quoted texts

How a text is shown inside a message: between single quotes, or between double quotes when it
holds a single quote and no double one; a backslash, the quote in use and every hidden character
are written as escapes.
-/

namespace CallScript
namespace Text

/-- A hexadecimal digit in lower case. -/
def hexDigit (n : Nat) : Char :=
  if n < 10 then Char.ofNat (0x30 + n) else Char.ofNat (0x57 + n)

/-- The lowest `width` hexadecimal digits of a number. -/
def hexDigits : Nat → Nat → List Char
  | 0, _ => []
  | width + 1, n => hexDigits width (n / 16) ++ [hexDigit (n % 16)]

/-- The single quote. -/
def singleQuote : Char := '\x27'

/-- The double quote. -/
def doubleQuote : Char := '\x22'

/-- The quote that surrounds a text, which is told apart by the quotes that the text holds. -/
def quoteFor (holdsSingle holdsDouble : Bool) : Char :=
  if holdsSingle && !holdsDouble then doubleQuote else singleQuote

/-- A character as it stands inside the given quotes. -/
def quoteChar (quote c : Char) : List Char :=
  if c = quote || c = '\\' then
    ['\\', c]
  else if c = '\n' then
    ['\\', 'n']
  else if c = '\r' then
    ['\\', 'r']
  else if c = '\t' then
    ['\\', 't']
  else if isPrintable c then
    [c]
  else if c.toNat < 0x100 then
    '\\' :: 'x' :: hexDigits 2 c.toNat
  else if c.toNat < 0x10000 then
    '\\' :: 'u' :: hexDigits 4 c.toNat
  else
    '\\' :: 'U' :: hexDigits 8 c.toNat

/-- A mark as it stands inside the given quotes. -/
def quoteMark (quote : Char) : Mark → List Char
  | .char c => quoteChar quote c
  | .half n => '\\' :: 'u' :: hexDigits 4 (0xd800 + n.val)

/-- The text between quotes. -/
def quoted (t : Text) : String :=
  let quote := quoteFor (t.contains (.char singleQuote)) (t.contains (.char doubleQuote))
  String.ofList (quote :: t.flatMap (quoteMark quote) ++ [quote])

/-- A byte as it stands inside the given quotes: what is not visible ASCII is escaped. -/
def quoteByte (quote : Char) (byte : UInt8) : List Char :=
  let c := Char.ofNat byte.toNat
  if c = quote || c = '\\' then
    ['\\', c]
  else if c = '\n' then
    ['\\', 'n']
  else if c = '\r' then
    ['\\', 'r']
  else if c = '\t' then
    ['\\', 't']
  else if 0x20 ≤ byte.toNat && byte.toNat < 0x7f then
    [c]
  else
    '\\' :: 'x' :: hexDigits 2 byte.toNat

/-- A byte string between quotes, marked by a leading letter. -/
def quotedBytes (bytes : List UInt8) : String :=
  let quote := quoteFor (bytes.contains 0x27) (bytes.contains 0x22)
  String.ofList ('b' :: quote :: bytes.flatMap (quoteByte quote) ++ [quote])

end Text
end CallScript
