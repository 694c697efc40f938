import IdResolution.Binary64.Rounding

/-!
# The shortest decimal that reads back

Every finite number has decimals that round to it.  Of those with the fewest
digits, `shortest` takes the nearest to the number itself.  For each count of
digits only two decimals have to be tried: the neighbours of the number on the
grid of decimals with that many digits.
-/

namespace IdResolution

/-- A positive decimal `digits × 10 ^ exponent`. -/
structure Decimal where
  digits : List Digit
  exponent : Int
  deriving DecidableEq, Repr

/-- Which of two equally near decimals is taken. -/
inductive TieRule where
  /-- The one whose last digit is even. -/
  | toEven
  /-- The larger one. -/
  | upward
  deriving DecidableEq, Repr

namespace Binary64

/-- How often `den` can be multiplied by ten and stay at most `num`. -/
def decadesAbove : Nat → Nat → Nat → Nat
  | 0, _, _ => 0
  | fuel + 1, num, den =>
      if num < 10 * den then 0 else decadesAbove fuel num (10 * den) + 1

/-- How often `num` has to be multiplied by ten to reach `den`. -/
def decadesBelow : Nat → Nat → Nat → Nat
  | 0, _, _ => 0
  | fuel + 1, num, den =>
      if den ≤ num then 0 else decadesBelow fuel (10 * num) den + 1

/-- The exponent of the greatest power of ten that is at most `num / den`.  The
two bounds exceed the decades of the format on either side of one. -/
def leadingDecade (num den : Nat) : Int :=
  if den ≤ num then decadesAbove 310 num den else -(decadesBelow 330 num den)

/-- Multiply a quotient by a power of ten. -/
def scaleByTen (num den : Nat) (power : Int) : Nat × Nat :=
  (num * Nat.pow 10 power.toNat, den * Nat.pow 10 (-power).toNat)

/-- The whole numbers on either side of a quotient, the nearer one first. -/
def neighbours (tie : TieRule) (num den : Nat) : List Nat :=
  let below := num / den
  let rest := num % den
  let belowFirst :=
    2 * rest < den || (2 * rest == den && tie == .toEven && below % 2 == 0)
  if belowFirst then [below, below + 1] else [below + 1, below]

/-- The decimal with a given last place that reads back as `x`, if one of the two
neighbours of `x` does. -/
def readsBackAt (tie : TieRule) (x : Binary64) (place : Int) : Option (Nat × Int) :=
  let scaled := scaleByTen x.ratio.1 x.ratio.2 (-place)
  ((neighbours tie scaled.1 scaled.2).find? fun digits =>
    ofDecimal x.negative digits place = x).map fun digits => (digits, place)

/-- Drop the zeros at the end of a row of digits, at most `fuel` of them. -/
def dropZeros : Nat → Nat → Int → Nat × Int
  | 0, digits, place => (digits, place)
  | fuel + 1, digits, place =>
      if digits % 10 = 0 ∧ digits ≠ 0 then dropZeros fuel (digits / 10) (place + 1)
      else (digits, place)

/-- The nearest of the decimals with the fewest digits that round to the finite
number `x` apart from its sign.  Seventeen digits always suffice. -/
def shortest (tie : TieRule) (x : Binary64) : Decimal :=
  if x.isZero then
    ⟨[.zero], 0⟩
  else
    let decade := leadingDecade x.ratio.1 x.ratio.2
    let found := (List.range 17).findSome? fun more : Nat =>
      readsBackAt tie x (decade - more)
    let kept := found.getD (x.significand, 0)
    let trimmed := dropZeros 17 kept.1 kept.2
    ⟨Digit.ofNat trimmed.1, trimmed.2⟩

end Binary64

end IdResolution
