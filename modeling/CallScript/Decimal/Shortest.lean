import CallScript.Binary64

/-!
# Shortest decimals

The fewest decimal digits that read back as a given binary64 number, and among those the nearest.
A finite number `mantissa · 2 ^ exponent` is the rounding of every real number of an interval
around it, whose ends belong to it when the mantissa is even.  The grids of 1, 2, … 17 digits are
tried in turn with the two neighbours of the number on each.
-/

namespace CallScript
namespace Decimal

/-- The digits `digits` with the decimal point before the first one, times `10 ^ point`. -/
structure Digits where
  digits : List Char
  point : Int
  deriving Repr, DecidableEq

/-- A positive quotient. -/
structure Quotient where
  numerator : Nat
  denominator : Nat
  deriving Repr, DecidableEq

namespace Quotient

/-- The quotient `n · 2 ^ exponent`. -/
def dyadic (n : Nat) (exponent : Int) : Quotient where
  numerator := n * Nat.pow 2 exponent.toNat
  denominator := Nat.pow 2 (-exponent).toNat

/-- The quotient `n · 10 ^ exponent`. -/
def decimal (n : Nat) (exponent : Int) : Quotient where
  numerator := n * Nat.pow 10 exponent.toNat
  denominator := Nat.pow 10 (-exponent).toNat

/-- Strict order of quotients. -/
def lt (x y : Quotient) : Bool :=
  x.numerator * y.denominator < y.numerator * x.denominator

/-- The quotient times `10 ^ exponent`. -/
def scale (x : Quotient) (exponent : Int) : Quotient where
  numerator := x.numerator * Nat.pow 10 exponent.toNat
  denominator := x.denominator * Nat.pow 10 (-exponent).toNat

/-- The distance of two quotients. -/
def distance (x y : Quotient) : Quotient where
  numerator :=
    ((x.numerator * y.denominator : Int) - (y.numerator * x.denominator : Int)).natAbs
  denominator := x.denominator * y.denominator

end Quotient

/-- The real numbers that round to one binary64 number. -/
structure Basin where
  low : Quotient
  value : Quotient
  high : Quotient
  closed : Bool
  deriving Repr, DecidableEq

namespace Basin

/-- The basin of `mantissa · 2 ^ exponent`; below a power of two the neighbour is half as far. -/
def around (mantissa : Nat) (exponent : Int) : Basin where
  low :=
    if mantissa = Nat.pow 2 52 && Binary64.leastExponent < exponent then
      .dyadic (4 * mantissa - 1) (exponent - 2)
    else
      .dyadic (2 * mantissa - 1) (exponent - 1)
  value := .dyadic mantissa exponent
  high := .dyadic (2 * mantissa + 1) (exponent - 1)
  closed := mantissa % 2 = 0

/-- Membership in the basin. -/
def holds (basin : Basin) (x : Quotient) : Bool :=
  if basin.closed then
    !(x.lt basin.low) && !(basin.high.lt x)
  else
    basin.low.lt x && x.lt basin.high

end Basin

/-- The least `p` with `x < 10 ^ p`, searched upward from a lower bound. -/
def magnitudeFrom (x : Quotient) : Nat → Int → Int
  | 0, p => p
  | fuel + 1, p =>
      if x.lt (.decimal 1 p) then p else magnitudeFrom x fuel (p + 1)

/-- The least `p` with `x < 10 ^ p`, for the positive binary64 numbers. -/
def magnitude (x : Quotient) : Int :=
  if x.numerator < x.denominator then
    magnitudeFrom x 400 (-340)
  else
    Binary64.decimalWidth (x.numerator / x.denominator)

/-- The better of the two neighbours on the grid of `10 ^ unit`, if one lies in the basin. -/
def pickOnGrid (basin : Basin) (unit : Int) : Option Nat :=
  let scaled := basin.value.scale (-unit)
  let below := scaled.numerator / scaled.denominator
  let above := below + 1
  let hitBelow := below ≠ 0 && basin.holds (.decimal below unit)
  let hitAbove := basin.holds (.decimal above unit)
  if hitBelow && hitAbove then
    let toBelow := scaled.distance ⟨below, 1⟩
    let toAbove := scaled.distance ⟨above, 1⟩
    if toBelow.lt toAbove then
      some below
    else if toAbove.lt toBelow then
      some above
    else if below % 2 = 0 then
      some below
    else
      some above
  else if hitBelow then
    some below
  else if hitAbove then
    some above
  else
    none

/-- The digits of a grid point without the zeros at their end. -/
def digitsOf (n : Nat) (unit : Int) : Digits :=
  let all := Nat.toDigits 10 n
  { digits := (all.reverse.dropWhile (· = '0')).reverse
    point := all.length + unit }

/-- The shortest digits of the positive number `mantissa · 2 ^ exponent`. -/
def shortest (mantissa : Nat) (exponent : Int) : Digits :=
  let basin := Basin.around mantissa exponent
  let top := magnitude basin.value
  let found := (List.range 17).findSome? fun (count : Nat) =>
    let unit := top - (count + 1 : Nat)
    (pickOnGrid basin unit).map fun n => digitsOf n unit
  found.getD (digitsOf 0 0)

end Decimal
end CallScript
