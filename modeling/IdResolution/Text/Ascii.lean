/-!
# ASCII text

Letters and digits of ASCII, numbers in a base of at most sixteen, and the cutting of
texts at separators.
-/

namespace IdResolution.Text

/-- The lower case of an ASCII letter. -/
def lower (c : Char) : Char :=
  if 'A' ≤ c ∧ c ≤ 'Z' then Char.ofNat (c.toNat + 32) else c

/-- Whether a character is one of ASCII. -/
def isAscii (c : Char) : Bool :=
  c.toNat < 0x80

/-- Whether a character is a decimal digit. -/
def isDecimal (c : Char) : Bool :=
  '0' ≤ c ∧ c ≤ '9'

/-- The upper-case hexadecimal digit of a number below sixteen. -/
def hexDigit (value : Nat) : Char :=
  if value < 10 then Char.ofNat ('0'.toNat + value) else Char.ofNat ('A'.toNat + (value - 10))

/-- The value of a digit in a base of at most sixteen. -/
def digitIn? (base : Nat) (c : Char) : Option Nat :=
  let lowered := lower c
  let value :=
    if isDecimal c then c.toNat - '0'.toNat
    else if 'a' ≤ lowered ∧ lowered ≤ 'f' then lowered.toNat - 'a'.toNat + 10
    else 16
  if value < base then some value else none

/-- The number that digits of a base write; no digits write zero. -/
def numberIn? (base : Nat) (digits : List Char) : Option Nat :=
  digits.foldlM (fun value c => (digitIn? base c).map (value * base + ·)) 0

/-- Cut a row at the items that pass a test. -/
def splitAt {α : Type} (cut : α → Bool) : List α → List (List α)
  | [] => [[]]
  | item :: rest =>
      if cut item then
        [] :: splitAt cut rest
      else
        match splitAt cut rest with
        | [] => [[item]]
        | part :: parts => (item :: part) :: parts

end IdResolution.Text
