/-!
# Blank characters

The `White_Space` property of Unicode as a table of ranges, and trimming by it.
Every text that names a number, an id or a setting is trimmed with this table
before it is read.
-/

namespace IdResolution.Text

/-- The code points with the `White_Space` property, as closed ranges in
ascending order. -/
def blankRanges : List (Nat × Nat) :=
  [(0x09, 0x0d), (0x20, 0x20), (0x85, 0x85), (0xa0, 0xa0), (0x1680, 0x1680),
   (0x2000, 0x200a), (0x2028, 0x2029), (0x202f, 0x202f), (0x205f, 0x205f),
   (0x3000, 0x3000)]

/-- A character is blank when its code point lies in one of the ranges. -/
def isBlank (c : Char) : Bool :=
  blankRanges.any fun range => range.1 ≤ c.toNat && c.toNat ≤ range.2

/-- The characters without the blank ones at either end. -/
def trimBlanks (text : List Char) : List Char :=
  ((text.dropWhile isBlank).reverse.dropWhile isBlank).reverse

/-- The text without the blank characters at either end. -/
def trim (text : String) : String :=
  String.ofList (trimBlanks text.toList)

@[simp] theorem toList_trim (text : String) :
    (trim text).toList = trimBlanks text.toList := by
  simp [trim]

end IdResolution.Text
