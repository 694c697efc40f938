import IdResolution.Key.Coordinate
import IdResolution.Key.Identifier
import Mathlib.Data.List.Basic

/-!
# What a node is identified by

All that identifies a node are the literals of its properties: the trimmed texts of its
numbers and texts, without the blank ones.  Two rows of values have the same literals when
one comes from the other by rewording literals, from number to text or in the blanks around
them, and by adding and leaving out values that identify nothing.
-/

namespace IdResolution

/-! ## Literals -/

/-- The trimmed text of each number and text among values, in order, without those that
are blank. -/
def Value.literals (values : List Value) : List String :=
  ((values.filter (·.kind.isLiteral)).map fun value => Text.trim value.text).filter (· ≠ "")

/-- The literals of a property of a node. -/
def Node.literals (node : Node) (property : String) : List String :=
  Value.literals (node.values property)

/-- The finite number that a trimmed text writes. -/
def Text.number? (text : String) : Option Binary64 :=
  (Numeral.ofText? text.toList).bind fun numeral =>
    if (Binary64.ofNumeral numeral).isFinite then some (Binary64.ofNumeral numeral) else none

namespace Value

/-- A value that identifies nothing: it is of another kind, or blank. -/
def Silent (value : Value) : Prop :=
  value.kind.isLiteral = false ∨ Text.trim value.text = ""

theorem silent_or_literal (value : Value) :
    value.Silent ∨ value.kind.isLiteral = true ∧ Text.trim value.text ≠ "" := by
  by_cases literal : value.kind.isLiteral = true
  · by_cases blank : Text.trim value.text = ""
    · exact .inl (.inr blank)
    · exact .inr ⟨literal, blank⟩
  · exact .inl (.inl (eq_false_of_ne_true literal))

theorem literals_cons_of_silent {value : Value} (silent : value.Silent) (rest : List Value) :
    literals (value :: rest) = literals rest := by
  rcases silent with other | blank
  · simp [literals, other]
  · cases kind : value.kind.isLiteral <;> simp [literals, kind, blank]

theorem literals_cons_of_literal {value : Value} (literal : value.kind.isLiteral = true)
    (visible : Text.trim value.text ≠ "") (rest : List Value) :
    literals (value :: rest) = Text.trim value.text :: literals rest := by
  simp [literals, literal, visible]

theorem literal?_of_silent {value : Value} (silent : value.Silent) : value.literal? = none := by
  rcases silent with other | blank
  · simp [literal?, other]
  · simp [literal?, blank]

theorem literal?_of_literal {value : Value} (literal : value.kind.isLiteral = true)
    (visible : Text.trim value.text ≠ "") : value.literal? = some (Text.trim value.text) := by
  simp [literal?, literal, visible]

theorem literals_eq_filterMap (values : List Value) :
    literals values = values.filterMap literal? := by
  induction values with
  | nil => rfl
  | cons value rest ih =>
      rcases value.silent_or_literal with silent | ⟨literal, visible⟩
      · rw [literals_cons_of_silent silent, ih,
          List.filterMap_cons_none (literal?_of_silent silent)]
      · rw [literals_cons_of_literal literal visible, ih,
          List.filterMap_cons_some (literal?_of_literal literal visible)]

/-- A value that identifies nothing is no number. -/
theorem number?_of_silent {value : Value} (silent : value.Silent) : value.number? = none := by
  rcases silent with other | blank
  · simp [number?, other]
  · have empty : Text.trimBlanks value.text.toList = [] := by
      rw [← Text.toList_trim, blank, String.toList_empty]
    rw [number?, empty]
    exact ite_self _

/-- The number of a value is that of its literal. -/
theorem number?_eq_bind (value : Value) : value.number? = value.literal?.bind Text.number? := by
  rcases value.silent_or_literal with silent | ⟨literal, visible⟩
  · rw [number?_of_silent silent, literal?_of_silent silent, Option.bind_none]
  · rw [literal?_of_literal literal visible, Option.bind_some, Text.number?, Text.toList_trim,
      number?, if_pos literal]
    cases Numeral.ofText? (Text.trimBlanks value.text.toList) <;> rfl

end Value

namespace Node

theorem literal?_eq_head? (node : Node) (property : String) :
    node.literal? property = (node.literals property).head? := by
  rw [literals, Value.literals_eq_filterMap, List.head?_filterMap, literal?]

theorem number?_eq_findSome? (node : Node) (property : String) :
    node.number? property = (node.literals property).findSome? Text.number? := by
  rw [literals, Value.literals_eq_filterMap, number?]
  generalize node.values property = values
  induction values with
  | nil => rfl
  | cons value rest ih =>
      rw [List.findSome?_cons, ih, Value.number?_eq_bind]
      cases literal : value.literal? with
      | none => rw [List.filterMap_cons_none literal, Option.bind_none]
      | some text => rw [List.filterMap_cons_some literal, List.findSome?_cons, Option.bind_some]

/-- Nodes with the same literals in each of the given properties. -/
def SameLiterals (properties : List String) (first second : Node) : Prop :=
  ∀ property ∈ properties, first.literals property = second.literals property

namespace SameLiterals

variable {properties : List String} {first second : Node}

theorem mono {fewer : List String} (same : first.SameLiterals properties second)
    (listed : fewer ⊆ properties) : first.SameLiterals fewer second :=
  fun property inspected => same property (listed inspected)

theorem coordinate?_eq
    (same : first.SameLiterals [Vocabulary.latitude, Vocabulary.longitude] second) :
    first.coordinate? = second.coordinate? := by
  have number (property : String)
      (inspected : property ∈ [Vocabulary.latitude, Vocabulary.longitude]) :
      first.number? property = second.number? property := by
    rw [number?_eq_findSome?, number?_eq_findSome?, same property inspected]
  rw [coordinate?, coordinate?, number Vocabulary.latitude (by simp),
    number Vocabulary.longitude (by simp)]

theorem identifiers_eq (same : first.SameLiterals properties second) :
    first.identifiers properties = second.identifiers properties := by
  apply List.filterMap_congr
  intro property inspected
  simp only [literal?_eq_head?, same property inspected]

end SameLiterals

end Node

/-! ## Rewording -/

namespace Value

/-- Two rows of values of which one is made into the other by rewording literals and by
adding and leaving out values that identify nothing. -/
inductive Reworded : List Value → List Value → Prop where
  | nil : Reworded [] []
  /-- A literal may be a number or a text, and have any blanks around it. -/
  | literal {one another : Value} {first second : List Value}
      (isLiteral : one.kind.isLiteral = true) (stays : another.kind.isLiteral = true)
      (trimmed : Text.trim one.text = Text.trim another.text)
      (rest : Reworded first second) : Reworded (one :: first) (another :: second)
  | leaveOut {value : Value} {first second : List Value} (silent : value.Silent)
      (rest : Reworded first second) : Reworded (value :: first) second
  | add {value : Value} {first second : List Value} (silent : value.Silent)
      (rest : Reworded first second) : Reworded first (value :: second)

/-- What has no literals can be left out. -/
theorem reworded_nil {values : List Value} (none : literals values = []) :
    Reworded [] values := by
  induction values with
  | nil => exact .nil
  | cons value rest ih =>
      rcases value.silent_or_literal with silent | ⟨literal, visible⟩
      · rw [literals_cons_of_silent silent] at none
        exact .add silent (ih none)
      · rw [literals_cons_of_literal literal visible] at none
        contradiction

/-- The literals are just what no rewording changes. -/
theorem reworded_iff {first second : List Value} :
    Reworded first second ↔ literals first = literals second := by
  constructor
  · intro reworded
    induction reworded with
    | nil => rfl
    | @literal one another first second isLiteral stays trimmed _ ih =>
        by_cases blank : Text.trim one.text = ""
        · rw [literals_cons_of_silent (.inr blank), ih,
            literals_cons_of_silent (.inr (trimmed.symm.trans blank))]
        · rw [literals_cons_of_literal isLiteral blank, ih, trimmed,
            literals_cons_of_literal stays (trimmed ▸ blank)]
    | leaveOut silent _ ih => rw [literals_cons_of_silent silent, ih]
    | add silent _ ih => rw [literals_cons_of_silent silent, ih]
  · intro same
    induction first generalizing second with
    | nil => exact reworded_nil same.symm
    | cons one first ih =>
        rcases one.silent_or_literal with silent | ⟨literal, visible⟩
        · rw [literals_cons_of_silent silent] at same
          exact .leaveOut silent (ih same)
        · rw [literals_cons_of_literal literal visible] at same
          -- The literal is that of the first value on the other side that has one.
          induction second with
          | nil => contradiction
          | cons another second ihSecond =>
              rcases another.silent_or_literal with silent | ⟨stays, other⟩
              · rw [literals_cons_of_silent silent] at same
                exact .add silent (ihSecond same)
              · rw [literals_cons_of_literal stays other] at same
                obtain ⟨trimmed, rest⟩ := List.cons.inj same
                exact .literal literal stays trimmed (ih rest)

end Value

end IdResolution
