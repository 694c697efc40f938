import IdResolution.Message.Json
import IdResolution.Proofs.Message.Shape
import IdResolution.Proofs.Message.Wire
import IdResolution.Proofs.Node.PropertyMap

/-!
# Nodes and messages without numbers come back

Where no number is written, nothing is lost between writing and reading: an element is
what is decoded from its text, whatever its strings contain and however long its lists
are.  The text of an element therefore determines it.
-/

namespace IdResolution

open JsonForm

/-- Types whose elements are read as they were written. -/
class ExactForm (α : Type) [JsonForm α] : Prop extends StrictForm α where
  kept (a : α) : reread? a = some a

open ExactForm (kept)

/-- Every element is decoded from its text, and texts are equal for equal elements only. -/
def RoundTrips (α : Type) [JsonForm α] : Prop :=
  (∀ a : α, decode? (encode a) = some a) ∧
    ∀ first second : α, encode first = encode second ↔ first = second

theorem ExactForm.roundTrips (α : Type) [JsonForm α] [ExactForm α] : RoundTrips α := by
  have decoded (a : α) : decode? (encode a) = some a := (decode?_encode a).trans (kept a)
  refine ⟨decoded, fun first second => ⟨fun same => ?_, congrArg encode⟩⟩
  apply Option.some_injective
  rw [← decoded first, ← decoded second, same]

instance : ExactForm String where
  kept _ := rfl

instance {α : Type} [JsonForm α] [ExactForm α] : ExactForm (List α) where
  kept _ := reread?_list_eq_some_iff.mpr fun element _ => kept element

/-! ## Kinds of records -/

section Records

variable {α γ : Type} [JsonForm α] [ExactForm α]

theorem kept_pair {β : Type} [JsonForm β] [ExactForm β] {first second : String}
    (distinct : first ≠ second) (build : α → β → γ) (a : α) (b : β) :
    ((Json.ofMembers [(first, toJson a), (second, toJson b)]).record? [first, second] >>=
      fun given => do
        return build (← Json.required? (given first)) (← Json.required? (given second))) =
      some (build a b) := by
  rw [Json.read_record _ (by simpa using distinct)]
  have keptFirst : ofJson? (toJson a) = some a := kept a
  have keptSecond : ofJson? (toJson b) = some b := kept b
  simp [lookup_cons_eq_ite, distinct.symm, Json.required?, keptFirst, keptSecond]

theorem kept_batch (field : String) (build : List α → γ) (items : List α) :
    ((Json.ofMembers [(field, toJson items)]).record? [field] >>=
      fun given => do return build (← Json.optional? [] (given field))) =
      some (build items) := by
  rw [Json.read_record _ (by simp)]
  have keptItems : ofJson? (toJson items) = some items := kept items
  simp [lookup_cons_eq_ite, Json.optional?, keptItems]

theorem kept_namedBatch {name field : String} (distinct : name ≠ field)
    (build : String → List α → γ) (text : String) (items : List α) :
    ((Json.ofMembers [(name, toJson text), (field, toJson items)]).record? [name, field] >>=
      fun given => do
        return build (← Json.required? (given name)) (← Json.optional? [] (given field))) =
      some (build text items) := by
  rw [Json.read_record _ (by simpa using distinct)]
  have keptText : ofJson? (toJson text) = some text := kept text
  have keptItems : ofJson? (toJson items) = some items := kept items
  simp [lookup_cons_eq_ite, distinct.symm, Json.required?, Json.optional?, keptText, keptItems]

end Records

/-! ## Nodes -/

instance : ExactForm Kind where
  strict kind := Json.strict_text (some kind.name)
  kept := Kind.ofName?_name

instance : ExactForm Value where
  strict value := by
    apply Json.strict_ofMembers
    simp [StrictForm.strict]
  kept value := kept_pair (by decide) Value.mk value.kind value.text

instance : ExactForm PropertyMap where
  strict map := by
    apply Json.strict_ofMembers
    intro member listed
    obtain ⟨entry, -, rfl⟩ := List.mem_map.mp listed
    exact StrictForm.strict entry.2
  kept map := by
    rw [reread?, ReadsShape.ofJson?_eq_some_iff]
    refine ⟨_, map.entries, rfl, ?_, PropertyMap.setAll_empty_eq_iff.mp map.setAll_entries⟩
    rw [List.forall₂_map_left_iff, List.forall₂_map_left_iff, List.forall₂_same]
    intro entry _
    exact ⟨rfl, (ReadsShape.ofJson?_eq_some_iff _ _).mp (kept entry.2)⟩

instance : ExactForm Node where
  strict node := by
    apply Json.strict_ofMembers
    cases node.localId <;> simp [StrictForm.strict]
  kept node := by
    obtain ⟨localId, properties⟩ := node
    have same : reread? properties = some properties := kept properties
    cases localId with
    | none =>
        have read : reread? (⟨none, properties⟩ : Node) = do
            let properties ← reread? properties
            return ⟨none, properties⟩ :=
          Json.read_record ["local_id", "pvs"] (by simp) _
        rw [read, same]
        rfl
    | some localId =>
        have read : reread? (⟨some localId, properties⟩ : Node) = do
            let properties ← reread? properties
            return ⟨some localId, properties⟩ :=
          Json.read_record ["local_id", "pvs"] (by simp) _
        rw [read, same]
        rfl

/-! ## Messages -/

instance : ExactForm Identifier where
  strict identifier := by
    apply Json.strict_ofMembers
    simp [StrictForm.strict]
  kept identifier :=
    kept_pair (by decide) Identifier.mk identifier.property identifier.value

instance : ExactForm Place where
  kept := reread?_place

instance : ExactForm EntityQuery where
  strict query := by
    apply Json.strict_ofMembers
    simp [StrictForm.strict]
  kept query := kept_namedBatch (by decide) EntityQuery.mk query.sourceId query.properties

instance : ExactForm IdentifierGroup where
  strict group := by
    apply Json.strict_ofMembers
    simp [StrictForm.strict]
  kept group := kept_batch "ids" IdentifierGroup.mk group.identifiers

instance : ExactForm EntityEntry where
  strict entry := by
    apply Json.strict_ofMembers
    simp [StrictForm.strict]
  kept entry := kept_namedBatch (by decide) EntityEntry.mk entry.sourceId entry.groups

instance : ExactForm EntitiesRequest where
  strict request := by
    apply Json.strict_ofMembers
    simp [StrictForm.strict]
  kept request := kept_batch "entities" EntitiesRequest.mk request.items

instance : ExactForm EntitiesResponse where
  strict response := by
    apply Json.strict_ofMembers
    simp [StrictForm.strict]
  kept response := kept_batch "resolvedEntities" EntitiesResponse.mk response.items

/-- Nodes with all their parts, and messages about entities with all theirs, are decoded
from their texts as they were, and equal texts belong to equal elements. -/
theorem nodes_and_entities_round_trip :
    RoundTrips Kind ∧ RoundTrips Value ∧ RoundTrips PropertyMap ∧ RoundTrips Node ∧
      RoundTrips Identifier ∧ RoundTrips Place ∧ RoundTrips EntityQuery ∧
      RoundTrips IdentifierGroup ∧ RoundTrips EntityEntry ∧
      RoundTrips EntitiesRequest ∧ RoundTrips EntitiesResponse :=
  ⟨ExactForm.roundTrips _, ExactForm.roundTrips _, ExactForm.roundTrips _,
    ExactForm.roundTrips _, ExactForm.roundTrips _, ExactForm.roundTrips _,
    ExactForm.roundTrips _, ExactForm.roundTrips _, ExactForm.roundTrips _,
    ExactForm.roundTrips _, ExactForm.roundTrips _⟩

end IdResolution
