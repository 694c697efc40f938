/-!
# Binary64 numbers

A number of the IEEE 754 format binary64, held as its 64 bits.  Two numbers are
equal here exactly when their bits are, so that `0.0` and `-0.0` differ and a NaN
equals itself; this is the equality that keys need.  A finite number is
`± significand × 2 ^ exponent` with natural `significand`.
-/

namespace IdResolution

/-- A binary64 number, given by its bits. -/
structure Binary64 where
  bits : UInt64
  deriving DecidableEq, Hashable, Repr

namespace Binary64

/-- The value of the sign bit, `2 ^ 63`. -/
def signBit : Nat :=
  0x8000000000000000

/-- The count of fractions that an exponent has, `2 ^ 52`. -/
def fractionCount : Nat :=
  0x10000000000000

/-- Whether the sign bit is set. -/
def negative (x : Binary64) : Bool :=
  signBit ≤ x.bits.toNat

/-- The eleven bits of the biased exponent. -/
def exponentField (x : Binary64) : Nat :=
  x.bits.toNat / fractionCount % 2048

/-- The fifty-two bits of the fraction. -/
def fractionField (x : Binary64) : Nat :=
  x.bits.toNat % fractionCount

/-- Neither an infinity nor a NaN. -/
def isFinite (x : Binary64) : Bool :=
  x.exponentField < 2047

/-- An infinity of either sign. -/
def isInfinite (x : Binary64) : Bool :=
  x.exponentField = 2047 ∧ x.fractionField = 0

/-- A zero of either sign. -/
def isZero (x : Binary64) : Bool :=
  x.exponentField = 0 ∧ x.fractionField = 0

/-- The whole number that a finite number is a power of two times. -/
def significand (x : Binary64) : Nat :=
  if x.exponentField = 0 then x.fractionField else fractionCount + x.fractionField

/-- The power of two that belongs to `significand`. -/
def exponent (x : Binary64) : Int :=
  max x.exponentField 1 - 1075

/-- The bits below the sign, read as a number, grow with the size of the number;
this is where they reach infinity. -/
def infiniteMagnitude : Nat :=
  2047 * fractionCount

/-- The number with the given sign and the given bits below it.  Magnitudes past
the largest finite one are infinite. -/
def ofMagnitude (negative : Bool) (magnitude : Nat) : Binary64 :=
  ⟨UInt64.ofNat ((if negative then signBit else 0) + min magnitude infiniteMagnitude)⟩

/-- Zero with the given sign. -/
def zero (negative : Bool) : Binary64 :=
  ofMagnitude negative 0

/-- The number with the opposite sign. -/
def neg (x : Binary64) : Binary64 :=
  ⟨x.bits ^^^ 0x8000000000000000⟩

end Binary64

end IdResolution
