import IdResolution.Text.Ascii

/-!
# IP addresses

The two kinds of addresses that a host may be given by.  An address of version 4 has
four numbers below 256, of which the last one written may take several places; an
address of version 6 has eight groups of 16 bits, of which a row of zeros may be left
out.
-/

namespace IdResolution.Host

open Text

/-- The number that a part of a version 4 address writes, in hexadecimal after `0x`,
in octal after `0`, and else in decimal. -/
def addressPart? : List Char → Option Nat
  | [] => none
  | '0' :: 'x' :: digits => numberIn? 16 digits
  | '0' :: digit :: digits => numberIn? 8 (digit :: digits)
  | digits => numberIn? 10 digits

/-- The parts of a host name, without an empty one at the end. -/
def nameParts (name : List Char) : List (List Char) :=
  let parts := splitAt (· = '.') name
  if parts.getLast? = some [] ∧ 1 < parts.length then parts.dropLast else parts

/-- Whether a host name has to be an address of version 4: its last part is a
number. -/
def endsInNumber (name : List Char) : Bool :=
  match (nameParts name).getLast? with
  | none | some [] => false
  | some part => part.all isDecimal ||
      (part.take 2 == ['0', 'x'] && (addressPart? part).isSome)

/-- The four numbers of an address of version 4.  The last part written fills all
places that are left. -/
def fourNumbers? (name : List Char) : Option (List Nat) := do
  let parts ← (nameParts name).mapM addressPart?
  let last ← parts.getLast?
  let leading := parts.dropLast
  if 4 < parts.length ∨ leading.any (255 < ·) ∨ Nat.pow 256 (4 - leading.length) ≤ last then
    none
  else
    let places := (List.range (4 - leading.length)).reverse.map fun place =>
      last / Nat.pow 256 place % 256
    return leading ++ places

/-- The group that one to four hexadecimal digits write. -/
def group? (text : List Char) : Option Nat :=
  if text.isEmpty ∨ 4 < text.length then none else numberIn? 16 text

/-- A number below 256 in decimal, without zeros in front. -/
def octet? (text : List Char) : Option Nat :=
  if text.isEmpty ∨ 3 < text.length ∨ (text.head? = some '0' ∧ 1 < text.length) then
    none
  else
    (numberIn? 10 text).filter (· < 256)

/-- The two groups that four decimal numbers with points between them write. -/
def dottedGroups? (text : List Char) : Option (List Nat) :=
  match (splitAt (· = '.') text).mapM octet? with
  | some [first, second, third, fourth] =>
      some [first * 256 + second, third * 256 + fourth]
  | _ => none

/-- The groups of a row with colons between them.  At the end of an address two
groups may be written with points. -/
def groups? (isAtEnd : Bool) (text : List Char) : Option (List Nat) := do
  let parts := splitAt (· = ':') text
  let last ← parts.getLast?
  let leading ← parts.dropLast.mapM group?
  let trailing ← if isAtEnd && last.contains '.' then dottedGroups? last
    else (group? last).map ([·])
  return leading ++ trailing

/-- The text before the first two colons in a row and the text after them. -/
def cutAtGap? : List Char → Option (List Char × List Char)
  | [] => none
  | c :: rest =>
      match c, rest with
      | ':', ':' :: after => some ([], after)
      | _, _ => (cutAtGap? rest).map fun (before, after) => (c :: before, after)

/-- The eight groups of an address of version 6.  Two colons in a row stand for one
zero or more. -/
def eightGroups? (text : List Char) : Option (List Nat) :=
  match cutAtGap? text with
  | none => (groups? true text).filter (·.length = 8)
  | some (before, after) => do
      let leading ← if before.isEmpty then some [] else groups? false before
      let trailing ← if after.isEmpty then some [] else groups? true after
      let written := leading.length + trailing.length
      if written < 8 then
        return leading ++ List.replicate (8 - written) 0 ++ trailing
      else
        none

/-- The number of zeros that a row starts with. -/
def leadingZeros (groups : List Nat) : Nat :=
  (groups.takeWhile (· = 0)).length

/-- The place and the length of the first longest row of zeros. -/
def longestGap : List Nat → Nat × Nat
  | [] => (0, 0)
  | group :: rest =>
      let later := longestGap rest
      if later.2 ≤ leadingZeros (group :: rest) then (0, leadingZeros (group :: rest))
      else (later.1 + 1, later.2)

/-- A row of groups in hexadecimal. -/
def joinGroups (groups : List Nat) : List Char :=
  (":".intercalate (groups.map fun group => String.ofList (Nat.toDigits 16 group))).toList

/-- The normal form of an address of version 6: the longest row of zeros is left out,
unless it is a single zero. -/
def groupText (groups : List Nat) : List Char :=
  let (place, length) := longestGap groups
  if length < 2 then joinGroups groups
  else joinGroups (groups.take place) ++ "::".toList ++ joinGroups (groups.drop (place + length))

end IdResolution.Host
