/-!
# Tables of runs

Properties of characters are tables over all code points.  A table is kept as a
text of runs: each run is a row of numbers with commas between them and a lower-case
letter, its mark, behind them.  The digits of the numbers are those of base 32, ten
figures and the capitals up to `V`.  Anything else in the text is passed over.
-/

namespace IdResolution.Text

/-- A run of a table. -/
structure Run where
  numbers : List Nat
  mark : Char
  deriving DecidableEq, Repr

/-- A table in the course of being read, with what was read last in front. -/
structure RunReader where
  current : Nat := 0
  numbers : List Nat := []
  runs : List Run := []

/-- Read one character of a table. -/
def RunReader.step (reader : RunReader) (c : Char) : RunReader :=
  if '0' ≤ c ∧ c ≤ '9' then
    { reader with current := reader.current * 32 + (c.toNat - '0'.toNat) }
  else if 'A' ≤ c ∧ c ≤ 'V' then
    { reader with current := reader.current * 32 + (c.toNat - 'A'.toNat + 10) }
  else if c = ',' then
    { reader with current := 0, numbers := reader.current :: reader.numbers }
  else if 'a' ≤ c ∧ c ≤ 'z' then
    { runs := ⟨(reader.current :: reader.numbers).reverse, c⟩ :: reader.runs }
  else
    reader

/-- The runs that a text spells. -/
def readRuns (text : String) : List Run :=
  (text.toList.foldl RunReader.step {}).runs.reverse

/-- The length that the first number of a run gives. -/
def Run.length (run : Run) : Nat :=
  run.numbers.headD 1

/-- The run that covers a code point, with the offset of the point in it.  The
function tells how many code points a run covers. -/
def locate? (covers : Run → Nat) : List Run → Nat → Option (Run × Nat)
  | [], _ => none
  | run :: rest, offset =>
      if offset < covers run then some (run, offset)
      else locate? covers rest (offset - covers run)

/-- The mark of the run that covers a code point, in a table whose runs give their
lengths; past its end the given mark holds. -/
def markAt (runs : List Run) (beyond : Char) (point : Nat) : Char :=
  match locate? Run.length runs point with
  | some (run, _) => run.mark
  | none => beyond

end IdResolution.Text
