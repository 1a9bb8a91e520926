/-!
# Binary floating-point numbers of 64 bits

A finite number is kept as a sign, a mantissa below `2 ^ 53` and an exponent of
two; the exponent is the least one that the mantissa allows, so that equal
numbers with equal signs are equal values.  All arithmetic is exact up to one
final rounding to nearest, ties to even.
-/

namespace DraftBoard

/-- The number `mantissa * 2 ^ exponent`, negated if `negative`. -/
structure Binary64 where
  negative : Bool
  mantissa : Nat
  exponent : Int
deriving DecidableEq, Repr, Inhabited

namespace Binary64

/-- The exponent of the smallest positive number. -/
def leastExponent : Int := -1074

/-- The exponent of the greatest finite number. -/
def greatestExponent : Int := 971

/-- Zero with a sign. -/
def zero (negative : Bool) : Binary64 := ⟨negative, 0, leastExponent⟩

/-- Whether a number is zero of either sign. -/
def isZero (x : Binary64) : Bool := x.mantissa == 0

/-- The number with the other sign. -/
def negate (x : Binary64) : Binary64 := { x with negative := !x.negative }

/-- The part of `2 ^ exponent` that belongs into a numerator. -/
def powerAbove (exponent : Int) : Nat := Nat.pow 2 exponent.toNat

/-- The part of `2 ^ exponent` that belongs into a denominator. -/
def powerBelow (exponent : Int) : Nat := Nat.pow 2 (-exponent).toNat

/-- The exponent `e` with `2 ^ e ≤ num / den < 2 ^ (e + 1)`, for positive arguments. -/
def binaryOrder (num den : Nat) : Int :=
  let guess : Int := num.log2 - den.log2
  if den * powerAbove guess ≤ num * powerBelow guess then guess else guess - 1

/-- A quotient rounded to the nearest integer, ties to even. -/
def roundHalfEven (num den : Nat) : Nat :=
  let quotient := num / den
  let twice := 2 * (num % den)
  if twice < den || (twice == den && quotient % 2 == 0) then quotient else quotient + 1

/-- The number nearest to `num / den`, ties to the even mantissa; nothing when it
is out of range. -/
def ofRatio (negative : Bool) (num den : Nat) : Option Binary64 :=
  if num = 0 then some (zero negative)
  else
    let exponent := max leastExponent (binaryOrder num den - 52)
    let mantissa := roundHalfEven (num * powerBelow exponent) (den * powerAbove exponent)
    let (mantissa, exponent) :=
      if mantissa = 0x20000000000000 then (0x10000000000000, exponent + 1)
      else (mantissa, exponent)
    if exponent ≤ greatestExponent then some ⟨negative, mantissa, exponent⟩ else none

/-- The product of two numbers. -/
def mul (x y : Binary64) : Option Binary64 :=
  let exponent := x.exponent + y.exponent
  ofRatio (x.negative != y.negative)
    (x.mantissa * y.mantissa * powerAbove exponent) (powerBelow exponent)

/-- The quotient of two numbers, the second one not zero. -/
def div (x y : Binary64) : Option Binary64 :=
  let exponent := x.exponent - y.exponent
  ofRatio (x.negative != y.negative)
    (x.mantissa * powerAbove exponent) (y.mantissa * powerBelow exponent)

/-- The number nearest to `significand * 10 ^ exponent`.  Exponents far outside
the range are settled without computing the power. -/
def ofDecimal (negative : Bool) (significand : Nat) (exponent : Int) : Option Binary64 :=
  let digits : Int := (Nat.toDigits 10 significand).length
  if significand = 0 || exponent + digits < -400 then some (zero negative)
  else if 400 < exponent + digits then none
  else ofRatio negative (significand * Nat.pow 10 exponent.toNat) (Nat.pow 10 (-exponent).toNat)

end Binary64

end DraftBoard
