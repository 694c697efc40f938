import IdResolution.Json.Form
import IdResolution.Proofs.Json.Form
import IdResolution.Proofs.Json.Grammar
import IdResolution.Proofs.Json.Reading

/-!
# The shapes of JSON values

The elements that JSON values denote, described without a reader.  A record is an object that
names none of its fields twice, or an array of its first fields in order; what else an object
holds is of no account.  Whether decoding accepts a text is then a matter of the grammar and of
the shape of the one value that the text spells.
-/

namespace IdResolution

/-- Which elements of a type the JSON values denote. -/
class Shape (α : Type) where
  Denotes : Json → α → Prop

open Shape (Denotes)

namespace Json

/-! ## Records -/

/-- The outer shape of a record: an object whose keys are all texts and in which no field occurs
twice, or an array of no more items than there are fields. -/
inductive IsRecord (fields : List String) : Json → Prop where
  | object {members : List (Option String × Json)} (texts : ∀ member ∈ members, member.1 ≠ none)
      (once : ∀ field ∈ fields, (members.map Prod.fst).count (some field) ≤ 1) :
      IsRecord fields (.object members)
  | array {items : List Json} (few : items.length ≤ fields.length) : IsRecord fields (.array items)

/-- What a record gives for a field: the value of the member with its name, or the item at its
position. -/
inductive Gives (fields : List String) : Json → String → Json → Prop where
  | member {members : List (Option String × Json)} {field : String} {value : Json}
      (listed : (some field, value) ∈ members) : Gives fields (.object members) field value
  | item {items : List Json} {field : String} {value : Json} {position : ℕ}
      (named : fields[position]? = some field) (placed : items[position]? = some value) :
      Gives fields (.array items) field value

section Fields

variable {α : Type} [Shape α] (fields : List String) (tree : Json) (field : String)

/-- A record gives a field a value that denotes an element. -/
def Required (a : α) : Prop :=
  ∃ value, Gives fields tree field value ∧ Denotes value a

/-- A record gives a field a value that denotes an element, or leaves it out and the element
is the default. -/
def Defaulted (default a : α) : Prop :=
  Required fields tree field a ∨ (∀ value, ¬Gives fields tree field value) ∧ a = default

end Fields

section Reading

variable {fields : List String} {tree : Json} {given : String → Option Json}

theorem namesFields_iff {members : List (Option String × Json)} :
    namesFields fields members = true ↔ (∀ member ∈ members, member.1 ≠ none) ∧
      ∀ field ∈ fields, (members.map Prod.fst).count (some field) ≤ 1 := by
  simp only [namesFields, Bool.and_eq_true, List.all_eq_true, decide_eq_true_eq,
    Option.isSome_iff_ne_none, List.count, List.countP_map]
  rfl

theorem exists_record?_iff :
    (∃ given, tree.record? fields = some given) ↔ IsRecord fields tree := by
  constructor
  · rintro ⟨given, record⟩
    cases tree with
    | object members =>
        obtain ⟨named, -⟩ := Option.ite_none_right_eq_some.mp record
        obtain ⟨texts, once⟩ := namesFields_iff.mp named
        exact .object texts once
    | array items => exact .array (Option.ite_none_right_eq_some.mp record).1
    | null | bool | number | text => contradiction
  · rintro (⟨texts, once⟩ | few)
    · exact ⟨_, if_pos (namesFields_iff.mpr ⟨texts, once⟩)⟩
    · exact ⟨_, if_pos few⟩

/-- What is read for a field is what the record gives. -/
theorem given_eq_some_iff (distinct : fields.Nodup) (record : tree.record? fields = some given)
    {field : String} (known : field ∈ fields) {value : Json} :
    given field = some value ↔ Gives fields tree field value := by
  cases tree with
  | object members =>
      obtain ⟨named, same⟩ := Option.ite_none_right_eq_some.mp record
      obtain rfl := Option.some.inj same
      have once := (namesFields_iff.mp named).2 field known
      change members.lookup (some field) = some value ↔ _
      rw [lookup_eq_some_iff_mem once]
      constructor
      · exact .member
      · rintro ⟨listed⟩
        exact listed
  | array items =>
      obtain ⟨-, same⟩ := Option.ite_none_right_eq_some.mp record
      obtain rfl := Option.some.inj same
      constructor
      · exact .item (List.getElem?_idxOf known)
      · intro gives
        cases gives with
        | item named placed =>
            obtain ⟨inside, rfl⟩ := List.getElem?_eq_some_iff.mp named
            rwa [← distinct.idxOf_getElem _ inside] at placed
  | null | bool | number | text => contradiction

end Reading

end Json

/-- The reader of a type accepts the values of its shape. -/
class ReadsShape (α : Type) [JsonForm α] [Shape α] : Prop where
  ofJson?_eq_some_iff (tree : Json) (a : α) : JsonForm.ofJson? tree = some a ↔ Denotes tree a

open ReadsShape (ofJson?_eq_some_iff)

namespace Json

section Reading

variable {fields : List String} {tree : Json} {given : String → Option Json}
variable {α : Type} [JsonForm α] [Shape α] [ReadsShape α] {field : String} {a : α}

theorem required?_eq_some_iff
    (gives : ∀ value, given field = some value ↔ Gives fields tree field value) :
    required? (given field) = some a ↔ Required fields tree field a := by
  simp only [Required, ← gives]
  cases given field with
  | none => simp [required?]
  | some value => simp [required?, ofJson?_eq_some_iff]

theorem optional?_eq_some_iff
    (gives : ∀ value, given field = some value ↔ Gives fields tree field value) {default : α} :
    optional? default (given field) = some a ↔ Defaulted fields tree field default a := by
  simp only [Defaulted, Required, ← gives]
  cases given field with
  | none => simp [optional?, eq_comm]
  | some value => simp [optional?, ofJson?_eq_some_iff]

/-- A record is read when its fields are. -/
theorem record?_bind_eq_some_iff {β : Type} (distinct : fields.Nodup)
    {read : (String → Option Json) → Option β} {b : β} {meaning : Prop}
    (means : ∀ given : String → Option Json,
      (∀ field ∈ fields, ∀ value, given field = some value ↔ Gives fields tree field value) →
        (read given = some b ↔ meaning)) :
    (tree.record? fields >>= read) = some b ↔ IsRecord fields tree ∧ meaning := by
  cases record : tree.record? fields with
  | none =>
      have notRecord : ¬IsRecord fields tree := by
        rw [← exists_record?_iff, record]
        simp
      simp [notRecord]
  | some given =>
      have isRecord : IsRecord fields tree := exists_record?_iff.mp ⟨given, record⟩
      rw [Option.bind_eq_bind, Option.bind_some, and_iff_right isRecord]
      exact means given fun field known value => given_eq_some_iff distinct record known

end Reading

end Json

/-! ## Texts, numbers and lists -/

instance : Shape String where
  Denotes tree text := tree = .text (some text)

instance : ReadsShape String where
  ofJson?_eq_some_iff tree text := by
    cases tree <;> simp [JsonForm.ofJson?, Denotes]

instance : Shape Binary64 where
  Denotes tree x := ∃ numeral, tree = .number numeral ∧ Json.ReadsAs numeral x

instance : ReadsShape Binary64 where
  ofJson?_eq_some_iff tree x := by
    cases tree <;> simp [JsonForm.ofJson?, Denotes, Json.readNumber?_eq_some_iff]

variable {α : Type}

instance [Shape α] : Shape (List α) where
  Denotes tree elements := ∃ items, tree = .array items ∧ List.Forall₂ Denotes items elements

theorem mapM_eq_some_iff {β : Type} {read : β → Option α} {items : List β} {elements : List α} :
    items.mapM read = some elements ↔
      List.Forall₂ (fun item element => read item = some element) items elements := by
  induction items generalizing elements with
  | nil => cases elements <;> simp
  | cons item rest ih =>
      simp only [List.mapM_cons, Option.bind_eq_bind, Option.bind_eq_some_iff, Option.pure_def,
        Option.some_inj]
      constructor
      · rintro ⟨first, read, others, readOthers, rfl⟩
        exact .cons read (ih.mp readOthers)
      · intro matched
        cases matched with
        | cons read others => exact ⟨_, read, _, ih.mpr others, rfl⟩

instance [JsonForm α] [Shape α] [ReadsShape α] : ReadsShape (List α) where
  ofJson?_eq_some_iff tree elements := by
    cases tree <;> simp [JsonForm.ofJson?, Denotes, mapM_eq_some_iff, ofJson?_eq_some_iff]

/-! ## Decoding -/

/-- A text is decoded when it spells a value of the right shape, and to the element that this
value denotes. -/
def Recognized (α : Type) [JsonForm α] [Shape α] : Prop :=
  ∀ (text : String) (a : α), JsonForm.decode? text = some a ↔
    ∃ tree, Json.ElementText tree text.toList ∧ Denotes tree a

theorem ReadsShape.recognized (α : Type) [JsonForm α] [Shape α] [ReadsShape α] :
    Recognized α := by
  intro text a
  simp only [← Json.parse?_eq_some_iff, ← ofJson?_eq_some_iff, JsonForm.decode?]
  cases Json.parse? text <;> simp

end IdResolution
