import IdResolution.Key.Coordinate
import IdResolution.Proofs.Binary64.Closest
import IdResolution.Proofs.Json.Overflow
import IdResolution.Proofs.Key.SourceId
import IdResolution.Proofs.Numeral.Written
import Mathlib.Data.List.TakeWhile

/-!
# The numbers of nodes

A value of a property is a number when it is a literal and its text is a numeral between
blanks.  The number is the finite one closest to the numeral, however many digits that has
and however large or small its exponent is.  The coordinate of a node is therefore the same
for all spellings of its latitude and its longitude that keep their signs and their sizes.
-/

namespace IdResolution

/-! ## Words between blanks -/

namespace Text

theorem dropWhile_isBlank_append {front rest : List Char}
    (blank : ∀ c ∈ front, isBlank c = true) (starts : ∀ c ∈ rest.head?, isBlank c = false) :
    (front ++ rest).dropWhile isBlank = rest := by
  rw [List.dropWhile_append_of_pos blank, dropWhile_isBlank_of_head starts]

/-- A word without blanks of its own is what trimming leaves of it and the blanks around
it. -/
theorem trimBlanks_append {front word back : List Char}
    (blankFront : ∀ c ∈ front, isBlank c = true) (blankBack : ∀ c ∈ back, isBlank c = true)
    (nonempty : word ≠ []) (visible : ∀ c ∈ word, isBlank c = false) :
    trimBlanks (front ++ (word ++ back)) = word := by
  have starts : ∀ c ∈ (word ++ back).head?, isBlank c = false := by
    intro c starts
    rw [List.head?_append_of_ne_nil _ nonempty] at starts
    exact visible c (List.mem_of_mem_head? starts)
  have ends : ∀ c ∈ word.reverse.head?, isBlank c = false := by
    intro c ends
    exact visible c (List.mem_reverse.mp (List.mem_of_mem_head? ends))
  rw [trimBlanks, dropWhile_isBlank_append blankFront starts, List.reverse_append,
    dropWhile_isBlank_append (by simpa using blankBack) ends, List.reverse_reverse]

/-- What is trimmed off a text are blanks. -/
theorem exists_blanks (text : List Char) :
    ∃ front back, text = front ++ (trimBlanks text ++ back) ∧
      (∀ c ∈ front, isBlank c = true) ∧ ∀ c ∈ back, isBlank c = true := by
  refine ⟨text.takeWhile isBlank, ((text.dropWhile isBlank).reverse.takeWhile isBlank).reverse,
    ?_, fun c => List.mem_takeWhile_imp, fun c listed => ?_⟩
  · rw [trimBlanks, ← List.reverse_append, List.takeWhile_append_dropWhile, List.reverse_reverse,
      List.takeWhile_append_dropWhile]
  · exact List.mem_takeWhile_imp (List.mem_reverse.mp listed)

end Text

/-! ## Values -/

theorem Binary64.ofNumeral_eq_nearest (numeral : Numeral) :
    ofNumeral numeral = nearest numeral.negative numeral.size :=
  ofDecimal_eq_nearest _ _ _

theorem Numeral.size_nonneg (numeral : Numeral) : 0 ≤ numeral.size := by
  rw [size]
  positivity

theorem Kind.isLiteral_iff {kind : Kind} :
    kind.isLiteral = true ↔ kind = .number ∨ kind = .text := by
  cases kind <;> decide

namespace Value

open Binary64 (nearest nearest_eq_iff overflowSize)

/-- A number or a text that consists of a numeral and any blanks on either side. -/
inductive Writes (value : Value) (numeral : Numeral) : Prop where
  | between {front word back : List Char} (literal : value.kind = .number ∨ value.kind = .text)
      (split : value.text.toList = front ++ (word ++ back))
      (blankFront : ∀ c ∈ front, Text.isBlank c = true)
      (blankBack : ∀ c ∈ back, Text.isBlank c = true) (written : numeral.Written word)

variable {value : Value} {numeral : Numeral}

/-- Such a literal is one whose trimmed text is read as the numeral. -/
theorem writes_iff :
    value.Writes numeral ↔ value.kind.isLiteral = true ∧
      Numeral.ofText? (Text.trimBlanks value.text.toList) = some numeral := by
  rw [Kind.isLiteral_iff, Numeral.ofText?_eq_some_iff]
  constructor
  · rintro ⟨literal, split, blankFront, blankBack, written⟩
    rw [split, Text.trimBlanks_append blankFront blankBack written.ne_nil written.visible]
    exact ⟨literal, written⟩
  · rintro ⟨literal, written⟩
    obtain ⟨front, back, split, blankFront, blankBack⟩ := Text.exists_blanks value.text.toList
    exact .between literal split blankFront blankBack written

theorem number?_of_writes (writes : value.Writes numeral) :
    value.number? = if numeral.size < overflowSize then
      some (nearest numeral.negative numeral.size) else none := by
  obtain ⟨literal, read⟩ := writes_iff.mp writes
  simp only [number?, literal, read, if_true, Binary64.ofNumeral_eq_nearest,
    Binary64.isFinite_nearest_iff _ numeral.size_nonneg]

theorem exists_writes_of_number? {x : Binary64} (found : value.number? = some x) :
    ∃ numeral, value.Writes numeral := by
  unfold number? at found
  split at found
  · rename_i literal
    split at found
    · rename_i numeral read
      exact ⟨numeral, writes_iff.mpr ⟨literal, read⟩⟩
    · contradiction
  · contradiction

theorem number?_eq_some_iff {x : Binary64} :
    value.number? = some x ↔ ∃ numeral, value.Writes numeral ∧ numeral.size < overflowSize ∧
      x.negative = numeral.negative ∧ x.Closest numeral.size := by
  constructor
  · intro found
    obtain ⟨numeral, writes⟩ := exists_writes_of_number? found
    rw [number?_of_writes writes] at found
    split at found
    · rename_i bounded
      have rounded := Option.some.inj found
      exact ⟨numeral, writes, bounded, (nearest_eq_iff numeral.size_nonneg bounded).mp rounded⟩
    · contradiction
  · rintro ⟨numeral, writes, bounded, closest⟩
    rw [number?_of_writes writes, if_pos bounded,
      (nearest_eq_iff numeral.size_nonneg bounded).mpr closest]

theorem isSome_number?_iff :
    value.number?.isSome = true ↔
      ∃ numeral, value.Writes numeral ∧ numeral.size < overflowSize := by
  constructor
  · intro isSome
    obtain ⟨x, found⟩ := Option.isSome_iff_exists.mp isSome
    obtain ⟨numeral, writes, bounded, -⟩ := number?_eq_some_iff.mp found
    exact ⟨numeral, writes, bounded⟩
  · rintro ⟨numeral, writes, bounded⟩
    rw [number?_of_writes writes, if_pos bounded, Option.isSome_some]

/-- Values of which one is the other, or writes a numeral of its sign and size. -/
inductive Respelled : Value → Value → Prop where
  | same (value : Value) : Respelled value value
  | numeral {one another : Value} {first second : Numeral} (writes : one.Writes first)
      (rewrites : another.Writes second) (sign : first.negative = second.negative)
      (size : first.size = second.size) : Respelled one another

/-- Zeros may be added and the exponent may be shifted. -/
theorem Respelled.number?_eq {one another : Value} (respelled : Respelled one another) :
    one.number? = another.number? := by
  cases respelled with
  | same => rfl
  | numeral writes rewrites sign size =>
      rw [number?_of_writes writes, number?_of_writes rewrites, sign, size]

example : number? ⟨.number, "+0047.50"⟩ = number? ⟨.text, " 4750e-2\n"⟩ := by decide +kernel

example : number? ⟨.number, "-1e-400"⟩ = some (Binary64.zero true) := by decide +kernel

end Value

/-! ## Nodes -/

theorem Node.number?_of_respelled {first second : Node} {property : String}
    (respelled : List.Forall₂ Value.Respelled (first.values property) (second.values property)) :
    first.number? property = second.number? property := by
  rw [number?, number?]
  generalize first.values property = values at respelled
  generalize second.values property = others at respelled
  induction respelled with
  | nil => rfl
  | cons spelling _ ih => rw [List.findSome?_cons, List.findSome?_cons, spelling.number?_eq, ih]

/-- A value gives a number exactly when it is a number or a text and writes, between blanks, a
numeral below half a last place above the largest finite number.  It gives the finite number
with the sign of the numeral that is closest to the numeral's size, and of two that are
equally close the even one.  So nodes have the same coordinate when each of their latitudes
and longitudes that is spelled in another way keeps its sign and its size. -/
theorem values_give_closest_numbers :
    (∀ value : Value, value.number?.isSome = true ↔
      ∃ numeral, value.Writes numeral ∧ numeral.size < Binary64.overflowSize) ∧
    (∀ (value : Value) (x : Binary64), value.number? = some x ↔
      ∃ numeral, value.Writes numeral ∧ numeral.size < Binary64.overflowSize ∧
        x.negative = numeral.negative ∧ x.Closest numeral.size) ∧
    ∀ first second : Node,
      (∀ property ∈ [Vocabulary.latitude, Vocabulary.longitude],
        List.Forall₂ Value.Respelled (first.values property) (second.values property)) →
      first.coordinate? = second.coordinate? := by
  refine ⟨fun _ => Value.isSome_number?_iff, fun _ _ => Value.number?_eq_some_iff, ?_⟩
  intro first second respelled
  rw [Node.coordinate?, Node.coordinate?,
    Node.number?_of_respelled (respelled Vocabulary.latitude (by simp)),
    Node.number?_of_respelled (respelled Vocabulary.longitude (by simp))]

end IdResolution
