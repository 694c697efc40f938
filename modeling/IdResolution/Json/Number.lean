import IdResolution.Json.Basic

/-!
# Binary64 numbers in JSON

A finite number is written as its shortest decimal; JSON has no other numbers, so
the rest is written as `null`.  A number is read in limited precision: the leading
digits that fit 64 bits are rounded once, and the remaining power of ten is
applied by rounded multiplication or division.  The result may therefore miss the
nearest number by a last place.
-/

namespace IdResolution.Json

/-- Gather the leading digits of a whole part as far as they fit 64 bits; the
second number counts the digits left over. -/
def gatherWhole : Nat → List Digit → Nat × Nat
  | gathered, [] => (gathered, 0)
  | gathered, digit :: rest =>
      let next := gathered * 10 + digit.val
      if next < UInt64.size then gatherWhole next rest else (gathered, rest.length + 1)

/-- Gather digits of a fraction after a whole part as far as they fit 64 bits; the
second number counts the digits gathered. -/
def gatherFraction : Nat → List Digit → Nat × Nat
  | gathered, [] => (gathered, 0)
  | gathered, digit :: rest =>
      let next := gathered * 10 + digit.val
      if next < UInt64.size then
        ((gatherFraction next rest).1, (gatherFraction next rest).2 + 1)
      else
        (gathered, 0)

/-- Multiply by a power of ten, in steps of rounded products and quotients with
powers up to `10 ^ 308`.  Fails when the product overflows. -/
def scaleRounded? (x : Binary64) (power : Int) : Option Binary64 :=
  if power.natAbs ≤ 308 then
    if 0 ≤ power then
      let product := x.mul (Binary64.tenPower power.natAbs)
      if product.isInfinite then none else some product
    else
      some (x.div (Binary64.tenPower power.natAbs))
  else if x.isZero then
    some x
  else if 0 ≤ power then
    none
  else
    scaleRounded? (x.div (Binary64.tenPower 308)) (power + 308)
termination_by power.natAbs
decreasing_by omega

/-- The binary64 number that a JSON number is read as; none when it overflows. -/
def readNumber? (numeral : Numeral) : Option Binary64 :=
  let whole := gatherWhole 0 numeral.whole
  let fraction := gatherFraction whole.1 numeral.fraction
  let power := numeral.exponent + whole.2 - fraction.2
  (scaleRounded? (Binary64.ofRatio false fraction.1 1) power).map fun size =>
    if numeral.negative then size.neg else size

/-- The JSON form of a binary64 number. -/
def ofBinary64 (x : Binary64) : Json :=
  if x.isFinite then .number (Binary64.Style.json.numeral x) else .null

end IdResolution.Json
