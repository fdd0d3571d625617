import CallScript.Value

/-!
# The order of number sets

A set of numbers lists its members by their seats.  The seat of a number is its code modulo the
number of seats, or the first free one on a fixed way from there.
-/

namespace CallScript
namespace Yaml
namespace Seating

/-- The modulus of the codes of numbers. -/
def modulus : Nat := Nat.pow 2 61 - 1

/-- The modulus of a way through the seats. -/
def wayModulus : Nat := Nat.pow 2 64

/-- The size of the code of a dyadic rational; powers of two repeat modulo the modulus. -/
def sizeCode (mantissa : Nat) (exponent : Int) : Nat :=
  mantissa * Nat.pow 2 (Int.emod exponent 61).toNat % modulus

/-- A code with a sign; minus one is left out. -/
def signed (negative : Bool) (size : Nat) : Int :=
  if !negative then size else if size = 1 then -2 else -size

/-- The code of a number. -/
def code? : Number → Option Int
  | .whole n => some (signed (n < 0) (n.natAbs % modulus))
  | .real (.finite negative mantissa exponent) =>
      some (signed negative (sizeCode mantissa exponent))
  | .real (.infinite negative) => some (if negative then -314159 else 314159)
  | .real .nan => none

/-- The least power of two from eight on that is greater than a number, within a step bound. -/
def roomFor (n : Nat) : Nat → Nat → Nat
  | 0, room => room
  | fuel + 1, room => if room ≤ n then roomFor n fuel (2 * room) else room

/-- The number of seats for some members. -/
def seatsFor (members : Nat) : Nat :=
  if members ≤ 4 then 8 else roomFor (2 * members) members 8

/-- The number of seats that are tried after one of them, where as many follow. -/
def neighbours : Nat := 9

/-- The first free seat on the way from a seat. -/
def freeSeat (seats : Nat) (taken : List Nat) : Nat → Nat → Nat → Nat
  | 0, seat, _ => seat
  | fuel + 1, seat, rest =>
      let tried := if seat + neighbours < seats then neighbours + 1 else 1
      match (List.range' seat tried).find? fun other => !taken.contains other with
      | some other => other
      | none =>
          let rest := rest / 32
          freeSeat seats taken fuel ((seat * 5 + 1 + rest) % seats) rest

/-- Seat members with codes one after the other. -/
def seatAll (seats : Nat) (members : List (Int × Value)) : List (Nat × Value) :=
  members.foldl (fun seated member =>
    let way := (Int.emod member.1 wayModulus).toNat
    let seat := freeSeat seats (seated.map (·.1)) (seats + 64) (way % seats) way
    (seat, member.2) :: seated) []

/-- The members of a set in their order, which is told only for sets of numbers. -/
def arrange (members : List Value) : List Value :=
  match members.mapM fun member => (member.number?.bind code?).map (·, member) with
  | none => members
  | some coded =>
      let seated := seatAll (seatsFor coded.length) coded
      (seated.mergeSort fun x y => x.1 ≤ y.1).map (·.2)

end Seating
end Yaml
end CallScript
