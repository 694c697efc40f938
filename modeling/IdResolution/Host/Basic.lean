import IdResolution.Host.Address
import IdResolution.Host.Label
import IdResolution.Text.Utf8

/-!
# Hosts

The host of a URL: a name, or an address.  A name is brought to its form in ASCII, in
small letters and with the labels beyond ASCII written in Punycode; a name whose last
part is a number has to be an address.
-/

namespace IdResolution

/-- A host by its name, or by its address of version 4 or 6. -/
inductive Host where
  | name (text : String)
  | four (numbers : List Nat)
  | six (groups : List Nat)
  deriving DecidableEq, Repr

namespace Host

open Text

/-- The text of a host in a URL. -/
def text : Host → String
  | .name text => text
  | .four numbers => ".".intercalate (numbers.map fun number => toString number)
  | .six groups => String.ofList ('[' :: groupText groups ++ [']'])

/-- Replace percent escapes by the bytes they stand for. -/
def unescape : List Char → List UInt8
  | '%' :: high :: low :: rest =>
      match digitIn? 16 high, digitIn? 16 low with
      | some high, some low => UInt8.ofNat (high * 16 + low) :: unescape rest
      | _, _ => 0x25 :: unescape (high :: low :: rest)
  | c :: rest => (utf8Bytes c).map UInt8.ofNat ++ unescape rest
  | [] => []
termination_by text => text.length

/-- What no name may hold. -/
def isForbidden (c : Char) : Bool :=
  c.toNat ≤ 0x20 || c.toNat = 0x7f ||
    c ∈ ['"', '#', '%', '/', ':', '<', '>', '?', '@', '[', '\\', ']', '^', '`', '{', '|', '}']

/-- Whether a name needs no more than small letters to be in its ASCII form: no
label of it is beyond ASCII, or written so that it stands for such a label. -/
def isPlain (name : List Char) : Bool :=
  name.all isAscii &&
    (splitAt (· = '.') (name.map lower)).all (!(Label.marker.map Char.ofNat).isPrefixOf ·)

/-- The ASCII form of any name: the name is mapped and composed, its labels are
checked one by one and together, and those beyond ASCII are written in Punycode. -/
def encodeName? (name : List Char) : Option (List Char) := do
  let points ← mapped? (name.map Char.toNat)
  let labels ← (splitAt (· = '.'.toNat) (canonical points)).mapM Label.decode?
  if Label.areDirected labels then
    return ['.'].intercalate (labels.map Label.encode)
  else
    none

/-- The ASCII form of a name. -/
def asciiForm? (name : List Char) : Option (List Char) :=
  if isPlain name then some (name.map lower) else encodeName? name

/-- Read a name, or an address of version 4. -/
def ofName? (text : List Char) : Option Host := do
  let decoded ← (decodeUtf8 (unescape text)).mapM id
  let name ← asciiForm? decoded
  if name.isEmpty ∨ name.any isForbidden then none
  else if endsInNumber name then (fourNumbers? name).map Host.four
  else return .name (String.ofList name)

/-- Read the host of a URL.  An address of version 6 stands in brackets. -/
def parse? (text : List Char) : Option Host :=
  match text with
  | '[' :: rest =>
      if rest.getLast? = some ']' then (eightGroups? rest.dropLast).map Host.six else none
  | _ => ofName? text

end Host

end IdResolution
