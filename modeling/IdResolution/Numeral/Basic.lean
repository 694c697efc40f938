/-!
# Decimal numerals

A numeral is a sign, the digits on either side of the decimal point, and a power
of ten.  Several notations write numerals: this module holds what they share, the
digits and the exponent part, and the notation that property values use.
-/

namespace IdResolution

/-- A decimal digit. -/
abbrev Digit := Fin 10

namespace Digit

/-- The digit zero. -/
abbrev zero : Digit := 0

/-- The ASCII character of a digit. -/
def toChar (digit : Digit) : Char :=
  Char.ofNat ('0'.toNat + digit.val)

/-- The digit that an ASCII character writes; no other character is a digit. -/
def ofChar? (c : Char) : Option Digit :=
  if inRange : '0'.toNat ≤ c.toNat ∧ c.toNat ≤ '9'.toNat then
    some ⟨c.toNat - '0'.toNat, by
      have : '0'.toNat = 48 := rfl
      have : '9'.toNat = 57 := rfl
      omega⟩
  else
    none

@[simp] theorem ofChar?_toChar (digit : Digit) : ofChar? digit.toChar = some digit := by
  revert digit
  decide

/-- The number that a row of digits writes, the most significant first. -/
def value (digits : List Digit) : Nat :=
  digits.foldl (fun total digit => total * 10 + digit.val) 0

/-- The last `count` decimal digits of a number, the most significant first. -/
def lastDigits : Nat → Nat → List Digit
  | 0, _ => []
  | count + 1, number =>
      lastDigits count (number / 10) ++ [⟨number % 10, Nat.mod_lt _ (by decide)⟩]

/-- The digits of a number without leading zeros; zero has no digits. -/
def ofNat (number : Nat) : List Digit :=
  (lastDigits (number.log2 + 1) number).dropWhile (· = zero)

/-- The longest run of digits at the front of a text, and what follows it. -/
def scan : List Char → List Digit × List Char
  | [] => ([], [])
  | c :: rest =>
      match ofChar? c with
      | some digit => (digit :: (scan rest).1, (scan rest).2)
      | none => ([], c :: rest)

/-- Scanning never lengthens what is left. -/
theorem length_scan_le (text : List Char) : (scan text).2.length ≤ text.length := by
  induction text with
  | nil => simp [scan]
  | cons c rest ih =>
      unfold scan
      split
      · simp only [List.length_cons]
        omega
      · simp

end Digit

/-- A decimal numeral: `± whole . fraction × 10 ^ exponent`. -/
structure Numeral where
  negative : Bool := false
  whole : List Digit
  fraction : List Digit := []
  exponent : Int := 0
  deriving DecidableEq, Repr

namespace Numeral

/-- All digits of the numeral as one whole number. -/
def significand (numeral : Numeral) : Nat :=
  Digit.value (numeral.whole ++ numeral.fraction)

/-- The power of ten that belongs to `significand`. -/
def scale (numeral : Numeral) : Int :=
  numeral.exponent - numeral.fraction.length

/-- Read an optional sign; `true` stands for a minus. -/
def scanSign : List Char → Bool × List Char
  | '-' :: rest => (true, rest)
  | '+' :: rest => (false, rest)
  | text => (false, text)

/-- Read an optional fraction: a point and any number of digits. -/
def scanFraction : List Char → List Digit × List Char
  | '.' :: rest => Digit.scan rest
  | text => ([], text)

/-- Read an optional exponent: `e` or `E`, a sign if there is one, and at least
one digit.  Without the letter the exponent is zero; with the letter but without
a digit there is no numeral. -/
def scanExponent? : List Char → Option (Int × List Char)
  | [] => some (0, [])
  | c :: rest =>
      if c = 'e' ∨ c = 'E' then
        let signed := scanSign rest
        let digits := Digit.scan signed.2
        if digits.1.isEmpty then
          none
        else
          let size : Int := Digit.value digits.1
          some (if signed.1 then -size else size, digits.2)
      else
        some (0, c :: rest)

/-- Read a whole text as a numeral in the notation of property values: a sign if
there is one, digits with at most one point among, before or after them, and an
exponent if there is one. At least one digit stands before the exponent, and
nothing follows it. -/
def ofText? (text : List Char) : Option Numeral :=
  let signed := scanSign text
  let whole := Digit.scan signed.2
  let fraction := scanFraction whole.2
  if whole.1.isEmpty ∧ fraction.1.isEmpty then
    none
  else
    match scanExponent? fraction.2 with
    | some (exponent, []) => some ⟨signed.1, whole.1, fraction.1, exponent⟩
    | _ => none

end Numeral

end IdResolution
