import IdResolution.Key.Identifier
import Mathlib.Data.List.Basic

/-!
# When source ids tell identifiers apart

A source id joins a property and a value by a colon.  Neither is kept from having
colons of its own, so that two identifiers may have one source id: one property, and a
colon, then run on into the other property.  The values that nodes carry are trimmed,
and this is all that keeps such identifiers apart.
-/

namespace IdResolution

/-! ## Trimmed text -/

namespace Text

/-- Trimmed text does not start with a blank character. -/
theorem isBlank_head_trimBlanks {text : List Char} {first : Char}
    (starts : (trimBlanks text).head? = some first) : isBlank first = false := by
  obtain ⟨rest, split⟩ : trimBlanks text <+: text.dropWhile isBlank := by
    rw [trimBlanks, ← List.reverse_suffix, List.reverse_reverse]
    exact List.dropWhile_suffix isBlank
  have heads : (text.dropWhile isBlank).head? = some first := by
    rw [← split, List.head?_append, starts, Option.some_or]
  have visible := List.head?_dropWhile_not isBlank text
  rw [heads] at visible
  simpa using visible

theorem dropWhile_isBlank_of_head {text : List Char}
    (starts : ∀ first ∈ text.head?, isBlank first = false) :
    text.dropWhile isBlank = text := by
  cases text with
  | nil => rfl
  | cons first rest =>
      have visible := starts first rfl
      exact List.dropWhile_cons_of_neg (by simp [visible])

/-- Text without a blank character at either end is trimmed already. -/
theorem trimBlanks_eq_self {text : List Char}
    (starts : ∀ first ∈ text.head?, isBlank first = false)
    (ends : ∀ last ∈ text.getLast?, isBlank last = false) : trimBlanks text = text := by
  have reversed : text.reverse.dropWhile isBlank = text.reverse := by
    apply dropWhile_isBlank_of_head
    rw [List.head?_reverse]
    exact ends
  rw [trimBlanks, dropWhile_isBlank_of_head starts, reversed, List.reverse_reverse]

/-- Trimmed text does not end with a blank character. -/
theorem isBlank_getLast?_trimBlanks {text : List Char} {last : Char}
    (ends : (trimBlanks text).getLast? = some last) : isBlank last = false := by
  have visible := List.head?_dropWhile_not isBlank (text.dropWhile isBlank).reverse
  rw [trimBlanks, List.getLast?_reverse] at ends
  rw [ends] at visible
  simpa using visible

@[simp] theorem trimBlanks_trimBlanks (text : List Char) :
    trimBlanks (trimBlanks text) = trimBlanks text := by
  apply trimBlanks_eq_self
  · intro first starts
    exact isBlank_head_trimBlanks starts
  · intro last ends
    exact isBlank_getLast?_trimBlanks ends

@[simp] theorem trim_trim (text : String) : trim (trim text) = trim text := by
  rw [trim, toList_trim, trimBlanks_trimBlanks, ← trim]

/-- Trimming takes characters away and adds none. -/
theorem trimBlanks_subset (text : List Char) : trimBlanks text ⊆ text := by
  intro c kept
  rw [trimBlanks, List.mem_reverse] at kept
  exact List.dropWhile_subset _ (List.mem_reverse.mp (List.dropWhile_subset _ kept))

end Text

/-! ## What nodes carry -/

/-- The text of a literal is not empty and does not start with a blank character. -/
theorem Value.visible_of_literal? {value : Value} {text : String}
    (literal : value.literal? = some text) :
    text ≠ "" ∧ ∀ first ∈ text.toList.head?, Text.isBlank first = false := by
  unfold literal? at literal
  split at literal
  · dsimp only at literal
    split at literal
    · contradiction
    · rename_i nonempty
      obtain rfl := Option.some.inj literal
      refine ⟨nonempty, ?_⟩
      intro first starts
      rw [Text.toList_trim] at starts
      exact Text.isBlank_head_trimBlanks starts
  · contradiction

theorem Node.visible_of_literal? {node : Node} {property text : String}
    (literal : node.literal? property = some text) :
    text ≠ "" ∧ ∀ first ∈ text.toList.head?, Text.isBlank first = false := by
  obtain ⟨value, -, found⟩ := List.exists_of_findSome?_eq_some literal
  exact value.visible_of_literal? found

theorem Node.mem_identifiers_iff {node : Node} {properties : List String} {id : Identifier} :
    id ∈ node.identifiers properties ↔
      id.property ∈ properties ∧ node.literal? id.property = some id.value := by
  rw [identifiers, List.mem_filterMap]
  constructor
  · intro ⟨property, listed, found⟩
    obtain ⟨value, literal, rfl⟩ := Option.map_eq_some_iff.mp found
    exact ⟨listed, literal⟩
  · intro ⟨listed, literal⟩
    exact ⟨id.property, listed, Option.map_eq_some_iff.mpr ⟨id.value, literal, rfl⟩⟩

/-- A node with one text under one property. -/
def Node.ofText (property text : String) : Node :=
  Node.push {} property ⟨.text, text⟩

/-- A node with a trimmed text under a listed property carries the identifier that they
make up. -/
theorem Node.mem_identifiers_ofText {properties : List String} {property text : String}
    (listed : property ∈ properties) (trimmed : Text.trimBlanks text.toList = text.toList)
    (nonempty : text ≠ "") :
    ⟨property, text⟩ ∈ (Node.ofText property text).identifiers properties := by
  have values : (Node.ofText property text).values property = [⟨.text, text⟩] := by
    simp [ofText, push, Node.values, PropertyMap.values, PropertyMap.push, PropertyMap.empty,
      PropertyMap.alterIn, PropertyMap.valuesIn]
  have same : Text.trim text = text := by
    rw [Text.trim, trimmed, String.ofList_toList]
  rw [mem_identifiers_iff]
  refine ⟨listed, ?_⟩
  rw [literal?, values]
  simp [Value.literal?, Kind.isLiteral, same, nonempty]

/-! ## Shared source ids -/

/-- The property of one identifier runs on, over a colon, through its value into the
other identifier. -/
def Identifier.RunsInto (first second : Identifier) : Prop :=
  ∃ rest : List Char,
    second.property.toList = first.property.toList ++ ':' :: rest ∧
      first.value.toList = rest ++ ':' :: second.value.toList

theorem Identifier.toList_sourceId (id : Identifier) :
    id.sourceId.toList = id.property.toList ++ ':' :: id.value.toList := by
  simp [sourceId]

theorem Identifier.eq_or_runsInto {first second : Identifier} {rest : List Char}
    (longer : second.property.toList = first.property.toList ++ rest)
    (values : ':' :: first.value.toList = rest ++ ':' :: second.value.toList) :
    first = second ∨ first.RunsInto second := by
  cases rest with
  | nil =>
      left
      rw [List.append_nil, String.toList_inj] at longer
      have same := String.toList_inj.mp (List.cons.inj values).2
      cases first
      cases second
      exact (Identifier.mk.injEq ..).mpr ⟨longer.symm, same⟩
  | cons colon rest =>
      right
      obtain ⟨rfl, tail⟩ := List.cons.inj values
      exact ⟨rest, longer, tail⟩

/-- Two identifiers have one source id exactly when they are the same or one of them runs
into the other. -/
theorem Identifier.sourceId_eq_iff {first second : Identifier} :
    first.sourceId = second.sourceId ↔
      first = second ∨ first.RunsInto second ∨ second.RunsInto first := by
  rw [← String.toList_inj, toList_sourceId, toList_sourceId]
  constructor
  · intro same
    obtain ⟨rest, longer, values⟩ | ⟨rest, longer, values⟩ := List.append_eq_append_iff.mp same
    · exact (eq_or_runsInto longer values).imp_right Or.inl
    · exact (eq_or_runsInto longer values).imp Eq.symm Or.inr
  · intro same
    obtain rfl | ⟨rest, longer, value⟩ | ⟨rest, longer, value⟩ := same
    · rfl
    · rw [longer, value, List.append_assoc, List.cons_append]
    · rw [longer, value, List.append_assoc, List.cons_append]

/-- No property is another one with a colon behind it and then nothing or something
visible. -/
def Separable (properties : List String) : Prop :=
  ∀ shorter ∈ properties, ∀ longer ∈ properties, ∀ rest : List Char,
    longer.toList = shorter.toList ++ ':' :: rest →
      ∃ first ∈ rest.head?, Text.isBlank first = true

/-- Properties without colons are separable. -/
theorem separable_of_colonless {properties : List String}
    (colonless : ∀ property ∈ properties, ':' ∉ property.toList) : Separable properties := by
  intro shorter _ longer listed rest runs
  apply absurd _ (colonless longer listed)
  rw [runs]
  exact List.mem_append_right _ List.mem_cons_self

/-- An identifier that some node carries under one of the given properties. -/
def Carried (properties : List String) (id : Identifier) : Prop :=
  ∃ node : Node, id ∈ node.identifiers properties

theorem Separable.not_runsInto {properties : List String} (separable : Separable properties)
    {first second : Identifier} (carried : Carried properties first)
    (carriedSecond : Carried properties second) : ¬first.RunsInto second := by
  intro ⟨rest, longer, value⟩
  obtain ⟨node, member⟩ := carried
  obtain ⟨other, memberSecond⟩ := carriedSecond
  obtain ⟨listed, literal⟩ := Node.mem_identifiers_iff.mp member
  obtain ⟨listedSecond, -⟩ := Node.mem_identifiers_iff.mp memberSecond
  obtain ⟨blank, starts, isBlank⟩ := separable _ listed _ listedSecond rest longer
  have visible := (Node.visible_of_literal? literal).2 blank (by
    rw [value, List.head?_append, Option.mem_def.mp starts]
    rfl)
  rw [visible] at isBlank
  contradiction

/-- Source ids tell the identifiers apart that nodes carry exactly when the properties are
separable. -/
theorem separable_iff_sourceId_injective {properties : List String} :
    Separable properties ↔ ∀ first second : Identifier, Carried properties first →
      Carried properties second → first.sourceId = second.sourceId → first = second := by
  constructor
  · intro separable first second carried carriedSecond same
    obtain same | runs | runs := Identifier.sourceId_eq_iff.mp same
    · exact same
    · exact absurd runs (separable.not_runsInto carried carriedSecond)
    · exact absurd runs (separable.not_runsInto carriedSecond carried)
  · intro injective shorter listed longer listedLonger rest runs
    by_contra visible
    -- The value of the shorter property takes up what the longer one adds to it.
    let first : Identifier := ⟨shorter, String.ofList (rest ++ [':', 'x'])⟩
    let second : Identifier := ⟨longer, "x"⟩
    have trimmed : Text.trimBlanks (rest ++ [':', 'x']) = rest ++ [':', 'x'] := by
      apply Text.trimBlanks_eq_self
      · intro start starts
        cases rest with
        | nil =>
            obtain rfl := Option.some.inj starts
            decide
        | cons head tail =>
            obtain rfl := Option.some.inj starts
            exact Bool.eq_false_iff.mpr fun blank => visible ⟨head, rfl, blank⟩
      · intro last ends
        rw [List.getLast?_append] at ends
        obtain rfl := Option.some.inj ends
        decide
    have carried : Carried properties first := by
      refine ⟨_, Node.mem_identifiers_ofText listed ?_ ?_⟩
      · rw [String.toList_ofList]
        exact trimmed
      · rw [Ne, ← String.toList_inj, String.toList_ofList]
        simp
    have carriedSecond : Carried properties second :=
      ⟨_, Node.mem_identifiers_ofText listedLonger (by decide) (by decide)⟩
    have same : first.sourceId = second.sourceId := by
      apply Identifier.sourceId_eq_iff.mpr
      refine .inr (.inl ⟨rest, runs, ?_⟩)
      simp [first, second]
    have properties := congrArg (String.length ∘ Identifier.property)
      (injective first second carried carriedSecond same)
    have lengths := congrArg List.length runs
    rw [List.length_append, List.length_cons, String.length_toList, String.length_toList] at lengths
    simp only [Function.comp, first, second] at properties
    omega

end IdResolution
