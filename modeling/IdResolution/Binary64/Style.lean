import IdResolution.Binary64.Shortest

/-!
# Writing binary64 numbers

A style decides how the shortest decimal of a number is laid out: where the
positional notation ends, whether a whole number keeps a zero after the point,
and how a tie between two shortest decimals is settled.  Laying out gives a
`Numeral`; `Numeral.text` spells it.
-/

namespace IdResolution

namespace Numeral

/-- The characters of a row of digits. -/
def digitsText (digits : List Digit) : List Char :=
  digits.map Digit.toChar

/-- The spelling of a numeral: the fraction appears when it has digits, the
exponent when it is not zero, and neither takes a plus sign. -/
def text (numeral : Numeral) : List Char :=
  (if numeral.negative then ['-'] else []) ++ digitsText numeral.whole ++
  (if numeral.fraction.isEmpty then [] else '.' :: digitsText numeral.fraction) ++
  (if numeral.exponent = 0 then []
   else 'e' :: (if numeral.exponent < 0 then ['-'] else []) ++
     digitsText (Digit.ofNat numeral.exponent.natAbs))

end Numeral

namespace Binary64

/-- The layout of numbers in one kind of text.  The place of the point counts the
digits before it; it is zero or less when the first digit stands after the point. -/
structure Style where
  /-- Which of two equally near shortest decimals is written. -/
  tie : TieRule
  /-- The places of the point that are written positionally. -/
  positional : Int → Bool
  /-- The fraction of a positional number that is whole. -/
  wholeFraction : List Digit

/-- Numbers in running text: never an exponent, and whole numbers without a
point. -/
def Style.plain : Style where
  tie := .upward
  positional _ := true
  wholeFraction := []

/-- Numbers in JSON: positional for points from five zeros after the point up to
sixteen digits before it, with `.0` on whole numbers, scientific otherwise. -/
def Style.json : Style where
  tie := .toEven
  positional place := -5 < place ∧ place ≤ 16
  wholeFraction := [.zero]

/-- Lay out a positive decimal. -/
def Style.layout (style : Style) (negative : Bool) (decimal : Decimal) : Numeral :=
  let digits := decimal.digits
  let place : Int := digits.length + decimal.exponent
  if style.positional place then
    if 0 ≤ decimal.exponent then
      { negative, whole := digits ++ List.replicate decimal.exponent.toNat .zero,
        fraction := style.wholeFraction }
    else if 0 < place then
      { negative, whole := digits.take place.toNat, fraction := digits.drop place.toNat }
    else
      { negative, whole := [.zero], fraction := List.replicate (-place).toNat .zero ++ digits }
  else
    { negative, whole := digits.take 1, fraction := digits.drop 1, exponent := place - 1 }

/-- The numeral that a style writes for a finite number. -/
def Style.numeral (style : Style) (x : Binary64) : Numeral :=
  style.layout x.negative (shortest style.tie x)

/-- The text of any number in the plain style. -/
def plainText (x : Binary64) : String :=
  if x.isFinite then String.ofList (Style.plain.numeral x).text
  else if x.fractionField ≠ 0 then "NaN"
  else if x.negative then "-inf" else "inf"

end Binary64

end IdResolution
