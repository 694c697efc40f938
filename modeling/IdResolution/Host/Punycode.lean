import IdResolution.Text.Ascii

/-!
# Punycode

How a label of a host name is written in ASCII.  Its ASCII characters come first, and
a hyphen behind them if there are any.  The others follow as numbers: in the order of
their code points, each is put in by one number, which counts the places in the label
that are passed over, with a full turn for each code point on the way.  The numbers
have digits in base 36 with the lowest first, and end at the first digit below a
threshold, which adapts to the numbers before.
-/

namespace IdResolution.Host.Punycode

open Text

/-- The digit of a number below 36: the letters and then the figures. -/
def digit (value : Nat) : Char :=
  if value < 26 then Char.ofNat ('a'.toNat + value) else Char.ofNat ('0'.toNat + (value - 26))

/-- The value of a digit in lower case. -/
def digitValue? (c : Char) : Option Nat :=
  if 'a' ≤ c ∧ c ≤ 'z' then some (c.toNat - 'a'.toNat)
  else if isDecimal c then some (c.toNat - '0'.toNat + 26)
  else none

/-- The first code point that is put in by a number. -/
def firstPoint : Nat := 0x80

/-- The bias before the first number. -/
def firstBias : Nat := 72

/-- The least digit that does not end a number, by its place from zero on. -/
def threshold (bias place : Nat) : Nat :=
  min 26 (max 1 (36 * (place + 1) - bias))

theorem threshold_pos (bias place : Nat) : 0 < threshold bias place := by
  unfold threshold
  omega

/-- Divide by 35 until at most 455 is left; the bias grows by 36 with each division. -/
def reduce (bias value : Nat) : Nat :=
  if 455 < value then reduce (bias + 36) (value / 35)
  else bias + 36 * value / (value + 38)
termination_by value

/-- The bias after a number, from the count of characters with the one that it put
in. -/
def adapt (isFirst : Bool) (number count : Nat) : Nat :=
  let damped := if isFirst then number / 700 else number / 2
  reduce 0 (damped + damped / count)

/-- A label in the course of being decoded. -/
structure Decoder where
  points : List Nat
  bias : Nat := firstBias
  /-- The last code point put in, and the place behind it. -/
  point : Nat := firstPoint
  position : Nat := 0
  /-- The number read so far, with the weight and the place of its next digit. -/
  number : Nat := 0
  weight : Nat := 1
  place : Nat := 0

namespace Decoder

/-- Put in the character that a number stands for; none if there is no such
character. -/
def put? (decoder : Decoder) (number : Nat) : Option Decoder :=
  let count := decoder.points.length + 1
  let point := decoder.point + (decoder.position + number) / count
  let position := (decoder.position + number) % count
  if point.isValidChar then
    some {
      points := decoder.points.take position ++ point :: decoder.points.drop position
      bias := adapt (decoder.position == 0) number count
      point
      position := position + 1 }
  else
    none

/-- Read a digit. -/
def step? (decoder : Decoder) (c : Char) : Option Decoder := do
  let value ← digitValue? c
  let number := decoder.number + value * decoder.weight
  let threshold := threshold decoder.bias decoder.place
  if value < threshold then
    decoder.put? number
  else
    some { decoder with
      number
      weight := decoder.weight * (36 - threshold)
      place := decoder.place + 1 }

end Decoder

/-- The code points of the label that a text in lower case writes.  The last hyphen
stands behind the ASCII characters, unless it comes first. -/
def decode? (text : List Char) : Option (List Nat) := do
  let behind := (text.reverse.takeWhile (· ≠ '-')).reverse
  let ascii := text.take (text.length - behind.length - 1)
  let decoder ← (if ascii.isEmpty then text else behind).foldlM Decoder.step?
    { points := ascii.map Char.toNat }
  if decoder.place = 0 then some decoder.points else none

/-- The digits of a number, from a place on. -/
def digits (bias place number : Nat) : List Char :=
  if number < threshold bias place then
    [digit number]
  else
    let rest := number - threshold bias place
    let room := 36 - threshold bias place
    digit (threshold bias place + rest % room) :: digits bias (place + 1) (rest / room)
termination_by number
decreasing_by
  have positive := threshold_pos bias place
  have := Nat.div_le_self (number - threshold bias place) (36 - threshold bias place)
  omega

/-- A label in the course of being encoded. -/
structure Encoder where
  /-- The digits written, and the count of characters that the writing covers. -/
  written : List Char := []
  covered : Nat
  bias : Nat := firstBias
  number : Nat := 0

namespace Encoder

/-- Pass over a character of the label while a code point is put in, or put it in. -/
def step (ascii point : Nat) (encoder : Encoder) (next : Nat) : Encoder :=
  if next < point then
    { encoder with number := encoder.number + 1 }
  else if next = point then
    { written := encoder.written ++ digits encoder.bias 0 encoder.number
      covered := encoder.covered + 1
      bias := adapt (encoder.covered == ascii) encoder.number (encoder.covered + 1)
      number := 0 }
  else
    encoder

/-- Put in some code points of a label, which stand in their order; the given point
is the next one to be counted. -/
def putAll (ascii : Nat) (label : List Nat) : Nat → List Nat → Encoder → Encoder
  | _, [], encoder => encoder
  | start, point :: rest, encoder =>
      let turned :=
        { encoder with number := encoder.number + (point - start) * (encoder.covered + 1) }
      let passed := label.foldl (step ascii point) turned
      putAll ascii label (point + 1) rest { passed with number := passed.number + 1 }

end Encoder

/-- The text that writes a label. -/
def encode (label : List Nat) : List Char :=
  let ascii := (label.filter (· < firstPoint)).map Char.ofNat
  let others := (label.filter (firstPoint ≤ ·)).eraseDups.mergeSort
  let encoder := Encoder.putAll ascii.length label firstPoint others { covered := ascii.length }
  (if ascii.isEmpty then [] else ascii ++ ['-']) ++ encoder.written

end IdResolution.Host.Punycode
