/-!
# Double-precision numbers

Numbers of the binary64 format as exact values: a mantissa times a power of two, or an infinity,
or the value that is not a number.  Every operation computes the exact result in whole numbers
and rounds it once, to the nearest value and to an even mantissa on a tie, so nothing here depends
on the arithmetic of the machine.
-/

namespace CallScript

/--
A binary64 number.  `finite negative mantissa exponent` stands for `± mantissa · 2 ^ exponent`;
the functions below produce it with a mantissa below `2 ^ 53` that is at least `2 ^ 52` unless the
exponent is the least one, `-1074`.
-/
inductive Binary64 where
  | nan
  | infinite (negative : Bool)
  | finite (negative : Bool) (mantissa : Nat) (exponent : Int)
  deriving Repr, DecidableEq, Inhabited

/-- The quotient rounded to the nearest whole number, a tie to the even one. -/
def roundQuotient (numerator denominator : Nat) : Nat :=
  let quotient := numerator / denominator
  let twice := 2 * (numerator % denominator)
  if denominator < twice || (denominator = twice && quotient % 2 = 1) then
    quotient + 1
  else
    quotient

namespace Binary64

/-- The least exponent. -/
def leastExponent : Int := -1074

/-- The greatest exponent of a finite number. -/
def greatestExponent : Int := 971

/-- Zero with a sign. -/
def zero (negative : Bool) : Binary64 :=
  .finite negative 0 leastExponent

/-- The value nearest to the positive quotient `numerator / denominator`. -/
def ofQuotient (negative : Bool) (numerator denominator : Nat) : Binary64 :=
  if numerator = 0 then
    zero negative
  else
    let guess : Int := (numerator.log2 : Int) - (denominator.log2 : Int) - 52
    let tooHigh :=
      numerator * Nat.pow 2 (-guess).toNat <
        Nat.pow 2 52 * denominator * Nat.pow 2 guess.toNat
    let exponent := max (if tooHigh then guess - 1 else guess) leastExponent
    let mantissa :=
      roundQuotient (numerator * Nat.pow 2 (-exponent).toNat)
        (denominator * Nat.pow 2 exponent.toNat)
    let carried := mantissa = Nat.pow 2 53
    let exponent := if carried then exponent + 1 else exponent
    if greatestExponent < exponent then
      .infinite negative
    else
      .finite negative (if carried then Nat.pow 2 52 else mantissa) exponent

/-- The value nearest to a whole number. -/
def ofInt (n : Int) : Binary64 :=
  ofQuotient (n < 0) n.natAbs 1

/-- The number of decimal digits of a natural number, one for zero. -/
def decimalWidth (n : Nat) : Nat :=
  (Nat.toDigits 10 n).length

/--
The value nearest to `digits · 10 ^ exponent`.  Exponents so large or so small that the result is
an infinity or a zero in any case are settled without computing the power.
-/
def ofDecimal (negative : Bool) (digits : Nat) (exponent : Int) : Binary64 :=
  if digits = 0 then
    zero negative
  else if 400 < decimalWidth digits + exponent then
    .infinite negative
  else if decimalWidth digits + exponent < -400 then
    zero negative
  else
    ofQuotient negative (digits * Nat.pow 10 exponent.toNat) (Nat.pow 10 (-exponent).toNat)

/-- Holds of both zeros. -/
def isZero : Binary64 → Bool
  | .finite _ mantissa _ => mantissa = 0
  | _ => false

/-- Holds of the numbers below zero, the negative infinity among them; not of the negative zero. -/
def isNegative : Binary64 → Bool
  | .nan => false
  | .infinite negative => negative
  | .finite negative mantissa _ => negative && mantissa ≠ 0

/-- Holds of the numbers above zero. -/
def isPositive : Binary64 → Bool
  | .nan => false
  | .infinite negative => !negative
  | .finite negative mantissa _ => !negative && mantissa ≠ 0

/-- The numerator and denominator of the magnitude `mantissa · 2 ^ exponent`. -/
def magnitude (mantissa : Nat) (exponent : Int) : Nat × Nat :=
  (mantissa * Nat.pow 2 exponent.toNat, Nat.pow 2 (-exponent).toNat)

/-- The product, rounded once. -/
def mul : Binary64 → Binary64 → Binary64
  | .nan, _ => .nan
  | _, .nan => .nan
  | .infinite s, .infinite t => .infinite (s != t)
  | .infinite s, .finite t m _ => if m = 0 then .nan else .infinite (s != t)
  | .finite s m _, .infinite t => if m = 0 then .nan else .infinite (s != t)
  | .finite s m e, .finite t n f =>
      let (numerator, denominator) := magnitude (m * n) (e + f)
      ofQuotient (s != t) numerator denominator

/-- The sum, rounded once; a sum of opposite numbers is the positive zero. -/
def add : Binary64 → Binary64 → Binary64
  | .nan, _ => .nan
  | _, .nan => .nan
  | .infinite s, .infinite t => if s = t then .infinite s else .nan
  | .infinite s, .finite .. => .infinite s
  | .finite .., .infinite t => .infinite t
  | .finite s m e, .finite t n f =>
      let low := min e f
      let left : Int := (if s then -1 else 1) * (m * Nat.pow 2 (e - low).toNat : Nat)
      let right : Int := (if t then -1 else 1) * (n * Nat.pow 2 (f - low).toNat : Nat)
      let sum := left + right
      if sum = 0 then
        zero (s && t)
      else
        let (numerator, denominator) := magnitude sum.natAbs low
        ofQuotient (sum < 0) numerator denominator

/-- The number with the other sign. -/
def neg : Binary64 → Binary64
  | .nan => .nan
  | .infinite negative => .infinite (!negative)
  | .finite negative mantissa exponent => .finite (!negative) mantissa exponent

/-- A natural number with a sign. -/
def signed (negative : Bool) (n : Nat) : Int :=
  if negative then -(n : Int) else n

/-- The whole number toward zero, for a finite number. -/
def trunc? : Binary64 → Option Int
  | .finite negative mantissa exponent =>
      let (numerator, denominator) := magnitude mantissa exponent
      some (signed negative (numerator / denominator))
  | _ => none

/-- The nearest whole number, a tie to the even one, for a finite number. -/
def round? : Binary64 → Option Int
  | .finite negative mantissa exponent =>
      let (numerator, denominator) := magnitude mantissa exponent
      some (signed negative (roundQuotient numerator denominator))
  | _ => none

/-- The whole number that a number is, if it is one. -/
def toInt? : Binary64 → Option Int
  | .finite negative mantissa exponent =>
      let (numerator, denominator) := magnitude mantissa exponent
      if numerator % denominator = 0 then
        some (signed negative (numerator / denominator))
      else
        none
  | _ => none

/-- Equality of numbers: the two zeros are equal, and nothing equals the value not a number. -/
def same : Binary64 → Binary64 → Bool
  | .nan, _ => false
  | _, .nan => false
  | .finite s m e, .finite t n f =>
      (m = 0 && n = 0) || (s = t && m = n && e = f)
  | x, y => x = y

end Binary64
end CallScript
