/-!
# Byte strings

Byte strings are lists of bytes.  Numbers are written into fields of a fixed width, the most or
the least significant byte first; a field refuses a number that it cannot hold, and `wrapped`
takes a number modulo the size of the field.
-/

namespace CallScript

/-- A byte string. -/
abbrev Bytes := List UInt8

namespace Bytes

/-- The lowest `width` bytes of a number, the most significant one first. -/
def bigEndian : Nat → Nat → Bytes
  | 0, _ => []
  | width + 1, n => bigEndian width (n / 256) ++ [UInt8.ofNat n]

/-- The lowest `width` bytes of a number, the least significant one first. -/
def littleEndian : Nat → Nat → Bytes
  | 0, _ => []
  | width + 1, n => UInt8.ofNat n :: littleEndian width (n / 256)

/-- The number whose bytes are given, the most significant one first. -/
def toNatBig (bs : Bytes) : Nat :=
  bs.foldl (fun n b => 256 * n + b.toNat) 0

/-- The number whose bytes are given, the least significant one first. -/
def toNatLittle (bs : Bytes) : Nat :=
  bs.foldr (fun b n => b.toNat + 256 * n) 0

/-- A whole number modulo `2 ^ bits`. -/
def wrapped (bits : Nat) (n : Int) : Nat :=
  (n % (Nat.pow 2 bits : Nat)).toNat

/-- The natural number that fits into a field of `width` bytes, if the given one does. -/
def fit? (width : Nat) (n : Int) : Option Nat :=
  if 0 ≤ n && n < (Nat.pow 256 width : Nat) then some n.toNat else none

/-- The bytes cut or filled up with zeros to a length. -/
def fill (length : Nat) (bs : Bytes) : Bytes :=
  bs.take length ++ List.replicate (length - bs.length) 0

end Bytes
end CallScript
