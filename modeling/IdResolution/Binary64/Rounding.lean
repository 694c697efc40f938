import IdResolution.Numeral.Basic
import IdResolution.Binary64.Basic

/-!
# Rounding to binary64

The one rounding of the library: a quotient of two natural numbers goes to the
nearest binary64 number, a tie to the one whose last bit is zero, and what lies
past the finite range to infinity.  Numerals of any length and any exponent, and
the products and quotients of finite numbers, are all rounded by it.
-/

namespace IdResolution.Binary64

/-- The whole number nearest to a quotient; a half goes to the even neighbour. -/
def nearestQuotient (num den : Nat) : Nat :=
  let quotient := num / den
  let rest := num % den
  if 2 * rest < den then quotient
  else if den < 2 * rest then quotient + 1
  else quotient + quotient % 2

/-- Multiply a quotient by a power of two. -/
def scaleByTwo (num den : Nat) (power : Int) : Nat × Nat :=
  (num <<< power.toNat, den <<< (-power).toNat)

/-- The exponent of the binary place of the leading digit of a positive quotient:
the power of two below it or equal to it. -/
def leadingPlace (num den : Nat) : Int :=
  let guess : Int := num.log2 - den.log2
  let scaled := scaleByTwo num den (-guess)
  if scaled.1 < scaled.2 then guess - 1 else guess

/-- The exponent of the last binary place kept in rounding: 52 below the leading
one, but never below the last place of the format. -/
def lastPlace (num den : Nat) : Int :=
  max (leadingPlace num den - 52) (-1074)

/-- The number nearest to `± num / den`, for a positive `den`.  Consecutive
numbers have consecutive magnitudes, so a carry out of the significand moves to
the next exponent by itself. -/
def ofRatio (negative : Bool) (num den : Nat) : Binary64 :=
  if num = 0 then
    zero negative
  else
    let place := lastPlace num den
    let scaled := scaleByTwo num den (-place)
    ofMagnitude negative
      ((place + 1074).toNat * fractionCount + nearestQuotient scaled.1 scaled.2)

/-- The number nearest to `± digits × 10 ^ exponent`.  The first two tests settle
sizes far outside the format without writing the power of ten out: with an
exponent above 400 any positive value is infinite, and below `2 ^ (-1100)` any
value is zero. -/
def ofDecimal (negative : Bool) (digits : Nat) (exponent : Int) : Binary64 :=
  if digits = 0 then
    zero negative
  else if 400 < exponent then
    ofMagnitude negative infiniteMagnitude
  else if 3 * exponent + digits.log2 + 1 < -1100 then
    zero negative
  else
    ofRatio negative (digits * Nat.pow 10 exponent.toNat) (Nat.pow 10 (-exponent).toNat)

/-- The number nearest to a numeral. -/
def ofNumeral (numeral : Numeral) : Binary64 :=
  ofDecimal numeral.negative numeral.significand numeral.scale

/-- The size of a finite number as a quotient. -/
def ratio (x : Binary64) : Nat × Nat :=
  scaleByTwo x.significand 1 x.exponent

/-- The product of two finite numbers, rounded. -/
def mul (x y : Binary64) : Binary64 :=
  ofRatio (x.negative != y.negative) (x.ratio.1 * y.ratio.1) (x.ratio.2 * y.ratio.2)

/-- The quotient of two finite numbers, rounded; the divisor is not zero. -/
def div (x y : Binary64) : Binary64 :=
  ofRatio (x.negative != y.negative) (x.ratio.1 * y.ratio.2) (x.ratio.2 * y.ratio.1)

/-- The power of ten, rounded. -/
def tenPower (power : Nat) : Binary64 :=
  ofRatio false (Nat.pow 10 power) 1

end IdResolution.Binary64
