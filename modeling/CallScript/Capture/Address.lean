import CallScript.Bytes
import CallScript.Text
import CallScript.Text.DecimalDigit

/-!
# Addresses

The four bytes of an IPv4 address.  Hosts that are no such address stand under the loopback
address in a capture.
-/

namespace CallScript
namespace Capture

/-- The parts of a text between dots. -/
def dotted : List Char → List (List Char)
  | [] => [[]]
  | c :: rest =>
      match dotted rest with
      | [] => [[c]]
      | first :: others => if c = '.' then [] :: first :: others else (c :: first) :: others

/-- A part of an address: one to three ASCII digits without a leading zero, up to 255. -/
def octet? (cs : List Char) : Option UInt8 :=
  let digits := cs.filterMap Text.asciiDigit?
  let n := digits.foldl (fun acc d => 10 * acc + d) 0
  if cs.isEmpty || digits.length ≠ cs.length || 3 < cs.length then
    none
  else if 1 < cs.length && digits.head? = some 0 then
    none
  else if 255 < n then
    none
  else
    some (UInt8.ofNat n)

/-- The bytes of an IPv4 address in dotted form. -/
def address? (host : Text) : Option Bytes :=
  match host.chars?.map fun cs => (dotted cs).map octet? with
  | some [some a, some b, some c, some d] => some [a, b, c, d]
  | _ => none

/-- The address that stands for every host without an IPv4 address of its own. -/
def loopback : Bytes := [127, 0, 0, 1]

/-- The address of a host in a capture. -/
def addressOf (host : Text) : Bytes :=
  (address? host).getD loopback

end Capture
end CallScript
