import IdResolution.Json.Form
import IdResolution.Proofs.Json.RoundTrip

/-!
# Elements through JSON

An element of a type with a JSON form is written and read again in two independent
steps: through the tree and through the text.  The text loses nothing when all numbers
in the tree are strict, so what becomes of an element is decided by the tree alone.
-/

namespace IdResolution

/-! ## Lookup -/

section Lookup

variable {α β : Type} [BEq α] [LawfulBEq α] [DecidableEq α]

theorem lookup_cons_eq_ite (key : α) (entry : α × β) (rest : List (α × β)) :
    (entry :: rest).lookup key = if key = entry.1 then some entry.2 else rest.lookup key := by
  rw [List.lookup_cons]
  split <;> simp_all

/-- What is found for a key that occurs once is what stands there. -/
theorem lookup_eq_some_iff_mem {entries : List (α × β)} {key : α}
    (once : (entries.map Prod.fst).count key ≤ 1) {value : β} :
    entries.lookup key = some value ↔ (key, value) ∈ entries := by
  induction entries with
  | nil => simp
  | cons entry rest ih =>
      rw [List.map_cons, List.count_cons] at once
      rw [lookup_cons_eq_ite, List.mem_cons]
      by_cases same : key = entry.1
      · have absent : key ∉ rest.map Prod.fst := by
          rw [if_pos (beq_iff_eq.mpr same.symm)] at once
          exact List.count_eq_zero.mp (by omega)
        have notMember : (key, value) ∉ rest :=
          fun listed => absent (List.mem_map.mpr ⟨_, listed, rfl⟩)
        rw [if_pos same, or_iff_left notMember, same, Prod.ext_iff]
        simp [eq_comm]
      · rw [if_neg same, ← ih (by omega), Prod.ext_iff]
        simp [same]

end Lookup

namespace Json

/-! ## Strict trees -/

theorem strict_null : Json.null.Strict := by
  intro numeral within
  cases List.mem_singleton.mp within

theorem strict_text (content : Option String) : (Json.text content).Strict := by
  intro numeral within
  cases List.mem_singleton.mp within

theorem strict_number {numeral : Numeral} (strict : numeral.Strict) :
    (Json.number numeral).Strict := by
  intro other within
  rw [Token.number.inj (List.mem_singleton.mp within)]
  exact strict

/-- The numbers between the brackets of an array are those of its items. -/
theorem mem_itemTokens {numeral : Numeral} {items : List Json}
    (within : Token.number numeral ∈ itemTokens items) :
    ∃ item ∈ items, Token.number numeral ∈ item.tokens := by
  induction items with
  | nil => contradiction
  | cons item rest ih =>
      cases rest with
      | nil => exact ⟨item, .head _, within⟩
      | cons next more =>
          rw [itemTokens_cons, List.mem_append, List.mem_cons] at within
          rcases within with first | separator | others
          · exact ⟨item, .head _, first⟩
          · contradiction
          · obtain ⟨other, member, within⟩ := ih others
            exact ⟨other, .tail _ member, within⟩

/-- The numbers between the braces of an object are those of its members. -/
theorem mem_memberTokens {numeral : Numeral} {members : List (Option String × Json)}
    (within : Token.number numeral ∈ memberTokens members) :
    ∃ member ∈ members, Token.number numeral ∈ member.2.tokens := by
  induction members with
  | nil => contradiction
  | cons member rest ih =>
      cases rest with
      | nil =>
          refine ⟨member, .head _, ?_⟩
          simpa [memberTokens_singleton] using within
      | cons next more =>
          simp only [memberTokens_cons, List.cons_append, List.mem_cons, List.mem_append,
            reduceCtorEq, false_or] at within
          rcases within with first | others
          · exact ⟨member, .head _, first⟩
          · obtain ⟨other, listed, within⟩ := ih others
            exact ⟨other, .tail _ listed, within⟩

theorem strict_array {items : List Json} (each : ∀ item ∈ items, item.Strict) :
    (Json.array items).Strict := by
  intro numeral within
  simp only [tokens_array, List.mem_cons, List.mem_append, reduceCtorEq, false_or,
    List.not_mem_nil, or_false] at within
  obtain ⟨item, member, within⟩ := mem_itemTokens within
  exact each item member numeral within

theorem strict_ofMembers {members : List (String × Json)}
    (each : ∀ member ∈ members, member.2.Strict) : (ofMembers members).Strict := by
  intro numeral within
  simp only [ofMembers, tokens_object, List.mem_cons, List.mem_append, reduceCtorEq,
    false_or, List.not_mem_nil, or_false] at within
  obtain ⟨named, listed, within⟩ := mem_memberTokens within
  obtain ⟨member, member_mem, rfl⟩ := List.mem_map.mp listed
  exact each member member_mem numeral within

/-! ## Fields of records -/

theorem lookup_map_some (members : List (String × Json)) (field : String) :
    (members.map fun member => (some member.1, member.2)).lookup (some field) =
      members.lookup field := by
  induction members with
  | nil => rfl
  | cons member rest ih =>
      rw [List.map_cons, List.lookup_cons, List.lookup_cons, ih]
      rfl

/-- A record with distinct fields gives each of them its value. -/
theorem record?_ofMembers (fields : List String) {members : List (String × Json)}
    (distinct : (members.map Prod.fst).Nodup) :
    (ofMembers members).record? fields = some fun field => members.lookup field := by
  have single (field : String) :
      members.countP (fun member => some member.1 == some field) ≤ 1 := by
    have once := List.nodup_iff_count_le_one.mp distinct field
    rw [List.count, List.countP_map] at once
    exact once
  have named :
      namesFields fields (members.map fun member => (some member.1, member.2)) = true := by
    simp only [namesFields, List.all_map, List.countP_map, Bool.and_eq_true, List.all_eq_true,
      decide_eq_true_eq]
    exact ⟨fun _ _ => rfl, fun field _ => single field⟩
  rw [ofMembers, record?, if_pos named]
  simp only [lookup_map_some]

/-- A record is read from the values that were written for its fields. -/
theorem read_record {α : Type} (fields : List String) {members : List (String × Json)}
    (distinct : (members.map Prod.fst).Nodup) (read : (String → Option Json) → Option α) :
    ((ofMembers members).record? fields >>= read) = read fun field => members.lookup field := by
  rw [record?_ofMembers fields distinct]
  rfl

end Json

/-! ## Writing and reading -/

/-- Types whose elements are written with strict numbers only. -/
class StrictForm (α : Type) [JsonForm α] : Prop where
  strict (a : α) : (JsonForm.toJson a).Strict

instance : StrictForm String where
  strict text := Json.strict_text (some text)

instance : StrictForm Binary64 where
  strict x := by
    change (Json.ofBinary64 x).Strict
    unfold Json.ofBinary64
    split_ifs with finite
    · exact Json.strict_number (Binary64.Style.strict_numeral finite)
    · exact Json.strict_null

variable {α : Type} [JsonForm α]

instance [StrictForm α] : StrictForm (List α) where
  strict elements := by
    apply Json.strict_array
    intro item listed
    obtain ⟨element, -, rfl⟩ := List.mem_map.mp listed
    exact StrictForm.strict element

namespace JsonForm

/-- What an element is read as once it is written. -/
def reread? (a : α) : Option α :=
  ofJson? (toJson a)

/-- What is decoded from the text of an element is what its tree is read as. -/
theorem decode?_encode [StrictForm α] (a : α) : decode? (encode a) = reread? a := by
  rw [decode?, encode, Json.parse?_write (StrictForm.strict a)]
  rfl

/-- A list is read back element by element, in order. -/
theorem reread?_list (elements : List α) : reread? elements = elements.mapM reread? := by
  change (elements.map toJson).mapM ofJson? = _
  induction elements with
  | nil => rfl
  | cons first rest ih =>
      rw [List.map_cons, List.mapM_cons, List.mapM_cons, ih]
      rfl

/-- A list survives when all its elements do. -/
theorem reread?_list_eq_some_iff {elements : List α} :
    reread? elements = some elements ↔ ∀ element ∈ elements, reread? element = some element := by
  rw [reread?_list]
  induction elements with
  | nil => simp
  | cons first rest ih =>
      rw [List.forall_mem_cons, ← ih, List.mapM_cons]
      cases reread? first with
      | none => simp
      | some other =>
          cases rest.mapM reread? with
          | none => simp
          | some others => simp

end JsonForm

end IdResolution
