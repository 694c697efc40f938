import IdResolution.Host.Mapping
import IdResolution.Host.Punycode
import IdResolution.Text.Canonical
import IdResolution.Text.Direction
import IdResolution.Text.Joining

/-!
# Labels

The parts of a host name between the full stops, as rows of code points.  A label
beyond ASCII has to keep rules on its characters, and the labels of a host name that
holds letters written from right to left have to keep a rule on their directions.
-/

namespace IdResolution.Host.Label

open Text

/-- Whether all characters of a label are of ASCII. -/
def isAscii (label : List Nat) : Bool :=
  label.all (· < 0x80)

/-- What a label that is written in ASCII starts with. -/
def marker : List Nat := ['x', 'n', '-', '-'].map Char.toNat

/-- Whether a label starts with the marker. -/
def isMarked (label : List Nat) : Bool :=
  marker.isPrefixOf label

/-- The joiner that keeps letters apart. -/
def nonJoiner : Nat := 0x200c

/-- The joiner that binds letters. -/
def joiner : Nat := 0x200d

/-- Whether the first character of a row that is not passed over in joining is one
of some kinds. -/
def meets (kinds : List Joining) (row : List Nat) : Bool :=
  ((row.map joining).filter (· ≠ .transparent)).head?.any (kinds.contains ·)

/-- Whether a joiner may stand between two rows, the row before it with the last
first: it stands behind a mark that takes the vowel, or it keeps apart letters that
would join. -/
def isJoinerAllowed (earlier : List Nat) (point : Nat) (later : List Nat) : Bool :=
  earlier.head?.any (combiningClass · = virama) ||
    (point == nonJoiner && meets [.both, .onward] earlier && meets [.both, .backward] later)

/-- Whether the joiners in a row are allowed.  The row before it is given with the
last first. -/
def joinersStand : List Nat → List Nat → Bool
  | _, [] => true
  | earlier, point :: later =>
      ((point != nonJoiner && point != joiner) || isJoinerAllowed earlier point later) &&
        joinersStand (point :: earlier) later

/-- The most characters that a label beyond ASCII may have. -/
def maxLength : Nat := 1000

/-- Whether a label beyond ASCII keeps the rules on its characters. -/
def isWellFormed (label : List Nat) : Bool :=
  label.length ≤ maxLength && label.all (fate · = .kept) && label.head?.all (markClass? · = none) &&
    joinersStand [] label && canonical label == label

/-- The most characters behind the marker. -/
def maxWrittenLength : Nat := 2000

/-- The label that is written in ASCII behind the marker.  It must not be one that
needs no such writing, or has the marker itself. -/
def unmark? (written : List Nat) : Option (List Nat) :=
  if maxWrittenLength < written.length then none
  else
    (Punycode.decode? (written.map Char.ofNat)).filter fun label =>
      !isAscii label && !isMarked label && isWellFormed label

/-- The label as it is meant; none if it breaks a rule. -/
def decode? (label : List Nat) : Option (List Nat) :=
  if isMarked label then
    if isAscii label then unmark? (label.drop marker.length) else none
  else if isAscii label || isWellFormed label then some label
  else none

/-- The writing of a label in ASCII. -/
def encode (label : List Nat) : List Char :=
  if isAscii label then label.map Char.ofNat
  else marker.map Char.ofNat ++ Punycode.encode label

/-- Whether a character stands in text written from right to left. -/
def isRightToLeft (point : Nat) : Bool :=
  direction point = .rightToLeft ∨ direction point = .arabicNumber

/-- The directions of a label without the marks at its end. -/
def directions (label : List Nat) : List Direction :=
  ((label.map direction).reverse.dropWhile (· = .mark)).reverse

/-- Whether the directions of a label agree.  A label starts with a letter; one that
starts from left to right has no character of the other direction and ends in a letter
or a number, and one that starts from right to left has no letter of the other
direction, numbers of one kind only, and ends in a letter or a number. -/
def isDirected (label : List Nat) : Bool :=
  let row := directions label
  match row.head? with
  | some .leftToRight =>
      row.all ([.leftToRight, .europeanNumber, .neutral, .mark].contains ·) &&
        row.getLast?.any ([.leftToRight, .europeanNumber].contains ·)
  | some .rightToLeft =>
      row.all ([.rightToLeft, .arabicNumber, .europeanNumber, .neutral, .mark].contains ·) &&
        row.getLast?.any ([.rightToLeft, .arabicNumber, .europeanNumber].contains ·) &&
        !(row.contains .arabicNumber && row.contains .europeanNumber)
  | _ => false

/-- Whether the directions of all labels of a host name agree.  They are free as long
as nothing is written from right to left. -/
def areDirected (labels : List (List Nat)) : Bool :=
  !(labels.any (·.any isRightToLeft)) ||
    labels.all fun label => label.isEmpty || isDirected label

end IdResolution.Host.Label
