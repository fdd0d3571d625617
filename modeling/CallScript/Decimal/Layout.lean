import CallScript.Decimal.Shortest

/-!
# The layout of decimal numbers

Where the digits of a number become text: positional notation for middling sizes, a mark with an
exponent for the others.
-/

namespace CallScript
namespace Decimal

/-- The decisions that turn digits into text. -/
structure Layout where
  /-- The least decimal exponent of the first digit that is written positionally. -/
  leastPositional : Int
  /-- The first decimal exponent of the first digit that is no longer written positionally. -/
  firstScientific : Int
  /-- What follows the last digit of a whole number in positional notation. -/
  wholeTail : String
  /-- What stands before the exponent. -/
  exponentMark : String
  /-- What stands before an exponent that is not negative. -/
  positiveSign : String
  /-- The least number of digits of an exponent. -/
  exponentWidth : Nat
  /-- The text of an infinity without its sign. -/
  infinity : String
  /-- The text of the value that is not a number. -/
  notANumber : String

/-- The text of a natural number, with zeros in front up to a width. -/
def padded (width n : Nat) : String :=
  let digits := Nat.toDigits 10 n
  String.ofList (List.replicate (width - digits.length) '0' ++ digits)

/-- Positional notation of digits. -/
def positional (layout : Layout) (d : Digits) : String :=
  let count : Int := d.digits.length
  if d.point ≤ 0 then
    "0." ++ String.ofList (List.replicate (-d.point).toNat '0' ++ d.digits)
  else if count ≤ d.point then
    String.ofList (d.digits ++ List.replicate (d.point - count).toNat '0') ++ layout.wholeTail
  else
    String.ofList (d.digits.take d.point.toNat) ++ "." ++
      String.ofList (d.digits.drop d.point.toNat)

/-- Notation with an exponent. -/
def scientific (layout : Layout) (d : Digits) : String :=
  let exponent := d.point - 1
  let significand :=
    match d.digits with
    | [] => "0"
    | [c] => String.ofList [c]
    | c :: rest => String.ofList (c :: '.' :: rest)
  let sign := if exponent < 0 then "-" else layout.positiveSign
  significand ++ layout.exponentMark ++ sign ++ padded layout.exponentWidth exponent.natAbs

/-- The text of a binary64 number: its shortest digits in the given layout. -/
def render (layout : Layout) : Binary64 → String
  | .nan => layout.notANumber
  | .infinite negative => (if negative then "-" else "") ++ layout.infinity
  | .finite negative mantissa exponent =>
      let body :=
        if mantissa = 0 then
          "0" ++ layout.wholeTail
        else
          let d := shortest mantissa exponent
          if layout.leastPositional ≤ d.point - 1 && d.point - 1 < layout.firstScientific then
            positional layout d
          else
            scientific layout d
      (if negative then "-" else "") ++ body

/--
Numbers in messages and scripts: positional from `0.0001` to below `10 ^ 16`, with `.0` after a
whole number, and otherwise an exponent with a sign and at least two digits.
-/
def plain : Layout where
  leastPositional := -4
  firstScientific := 16
  wholeTail := ".0"
  exponentMark := "e"
  positiveSign := "+"
  exponentWidth := 2
  infinity := "inf"
  notANumber := "nan"

end Decimal
end CallScript
