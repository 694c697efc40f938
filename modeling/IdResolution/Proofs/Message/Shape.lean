import IdResolution.Message.Json
import IdResolution.Proofs.Json.Precision
import IdResolution.Proofs.Json.Shape
import IdResolution.Proofs.Node.PropertyMap

/-!
# Nodes and messages by their shape

The shape of every node and message and of their parts, field by field, and that exactly the
texts of this shape are decoded.
-/

namespace IdResolution

open Shape (Denotes)
open ReadsShape (ofJson?_eq_some_iff)
open Json (required?_eq_some_iff optional?_eq_some_iff record?_bind_eq_some_iff)

/-! ## Kinds of records -/

section Records

variable {α γ : Type} [Shape α]

/-- A record of two fields that have to be given. -/
def Json.IsPair {β : Type} [Shape β] (tree : Json) (first second : String) (a : α) (b : β) :
    Prop :=
  tree.IsRecord [first, second] ∧ tree.Required [first, second] first a ∧
    tree.Required [first, second] second b

/-- A record of a list, which may be left out when it is empty. -/
def Json.IsBatch (tree : Json) (field : String) (items : List α) : Prop :=
  tree.IsRecord [field] ∧ tree.Defaulted [field] field [] items

/-- A record of a name and a list, which may be left out when it is empty. -/
def Json.IsNamedBatch (tree : Json) (name field : String) (text : String) (items : List α) :
    Prop :=
  tree.IsRecord [name, field] ∧ tree.Required [name, field] name text ∧
    tree.Defaulted [name, field] field [] items

variable [JsonForm α] [ReadsShape α] {tree : Json}

theorem read_pair_eq_some_iff {β : Type} [JsonForm β] [Shape β] [ReadsShape β]
    {first second : String} (distinct : first ≠ second)
    {build : α → β → γ} (injective : build.Injective2) {a : α} {b : β} :
    (tree.record? [first, second] >>= fun given => do
        return build (← Json.required? (given first)) (← Json.required? (given second))) =
        some (build a b) ↔
      tree.IsPair first second a b := by
  apply record?_bind_eq_some_iff (by simpa using distinct)
  intro given gives
  rw [← required?_eq_some_iff (gives first (by simp)),
    ← required?_eq_some_iff (gives second (by simp))]
  simp [Option.bind_eq_some_iff, injective.eq_iff]

theorem read_batch_eq_some_iff {field : String} {build : List α → γ}
    (injective : build.Injective) {items : List α} :
    (tree.record? [field] >>= fun given => do
        return build (← Json.optional? [] (given field))) = some (build items) ↔
      tree.IsBatch field items := by
  apply record?_bind_eq_some_iff (by simp)
  intro given gives
  rw [← optional?_eq_some_iff (gives field (by simp))]
  simp [Option.bind_eq_some_iff, injective.eq_iff]

theorem read_namedBatch_eq_some_iff {name field : String} (distinct : name ≠ field)
    {build : String → List α → γ} (injective : build.Injective2) {text : String}
    {items : List α} :
    (tree.record? [name, field] >>= fun given => do
        return build (← Json.required? (given name)) (← Json.optional? [] (given field))) =
        some (build text items) ↔
      tree.IsNamedBatch name field text items := by
  apply record?_bind_eq_some_iff (by simpa using distinct)
  intro given gives
  rw [← required?_eq_some_iff (gives name (by simp)),
    ← optional?_eq_some_iff (gives field (by simp))]
  simp [Option.bind_eq_some_iff, injective.eq_iff]

end Records

/-! ## Nodes -/

/-- A kind is given by its name, or by an object with its name as the only key and `null` as
the value. -/
instance : Shape Kind where
  Denotes tree kind := tree = .text (some kind.name) ∨ tree = .object [(some kind.name, .null)]

theorem Kind.ofName?_eq_some_iff {name : String} {kind : Kind} :
    ofName? name = some kind ↔ name = kind.name := by
  constructor
  · intro found
    rw [ofName?] at found
    have named := List.find?_some found
    exact (beq_iff_eq.mp named).symm
  · rintro rfl
    exact ofName?_name kind

instance : ReadsShape Kind where
  ofJson?_eq_some_iff tree kind := by
    simp only [JsonForm.ofJson?, Denotes]
    split
    · simp [Kind.ofName?_eq_some_iff]
    · simp [Kind.ofName?_eq_some_iff]
    · rename_i notText notObject
      refine iff_of_false (Option.some_ne_none _).symm ?_
      rintro (rfl | rfl)
      · exact notText _ rfl
      · exact notObject _ rfl

instance : Shape Value where
  Denotes tree value := tree.IsPair "type" "value" value.kind value.text

instance : ReadsShape Value where
  ofJson?_eq_some_iff _ _ :=
    read_pair_eq_some_iff (by decide) fun _ _ _ _ => Value.mk.inj

/-- A property map is an object of lists; of the lists under one key the last one counts. -/
instance : Shape PropertyMap where
  Denotes tree map := ∃ members entries, tree = .object members ∧
    List.Forall₂ (fun member entry => member.1 = some entry.1 ∧ Denotes member.2 entry.2)
      members entries ∧
    ∀ property, map.values? property = entries.reverse.lookup property

/-- Reading members sets what they denote, one after another. -/
theorem foldlM_set_eq_some_iff {members : List (Option String × Json)} {start map : PropertyMap} :
    members.foldlM (fun (map : PropertyMap) (member : Option String × Json) =>
        match member.1, (JsonForm.ofJson? member.2 : Option (List Value)) with
        | some property, some values => some (map.set property values)
        | _, _ => none) start = some map ↔
      ∃ entries, List.Forall₂
        (fun (member : Option String × Json) (entry : String × List Value) =>
          member.1 = some entry.1 ∧ Denotes member.2 entry.2) members entries ∧
        start.setAll entries = map := by
  induction members generalizing start with
  | nil => simp [PropertyMap.setAll]
  | cons member rest ih =>
      rw [List.foldlM_cons, Option.bind_eq_bind, Option.bind_eq_some_iff]
      constructor
      · rintro ⟨next, step, readRest⟩
        obtain ⟨entries, denoted, same⟩ := ih.mp readRest
        split at step
        · rename_i property values named readValues
          obtain rfl := Option.some.inj step
          exact ⟨(property, values) :: entries,
            .cons ⟨named, (ofJson?_eq_some_iff _ _).mp readValues⟩ denoted, same⟩
        · contradiction
      · rintro ⟨_ | ⟨entry, entries⟩, denoted, same⟩
        · cases denoted
        · obtain ⟨⟨named, denotes⟩, denotedRest⟩ := List.forall₂_cons.mp denoted
          refine ⟨start.set entry.1 entry.2, ?_, ih.mpr ⟨entries, denotedRest, same⟩⟩
          rw [named, (ofJson?_eq_some_iff _ _).mpr denotes]

instance : ReadsShape PropertyMap where
  ofJson?_eq_some_iff tree map := by
    cases tree with
    | object members =>
        refine foldlM_set_eq_some_iff.trans ?_
        simp [Denotes, PropertyMap.setAll_empty_eq_iff]
    | null | bool | number | text | array => simp [JsonForm.ofJson?, Denotes]

/-- A text that may also be given as `null`. -/
instance : Shape (Option String) where
  Denotes tree content := tree = match content with
    | none => .null
    | some text => .text (some text)

instance : Shape Node where
  Denotes tree node := tree.IsRecord ["local_id", "pvs"] ∧
    tree.Defaulted ["local_id", "pvs"] "local_id" none node.localId ∧
    tree.Defaulted ["local_id", "pvs"] "pvs" .empty node.properties

instance : ReadsShape Node where
  ofJson?_eq_some_iff tree node := by
    apply record?_bind_eq_some_iff (by simp)
    intro given gives
    have localId : (match given "local_id" with
          | none | some .null => some none
          | some value => (JsonForm.ofJson? value : Option String).map some) = some node.localId ↔
        tree.Defaulted ["local_id", "pvs"] "local_id" none node.localId := by
      simp only [Json.Defaulted, Json.Required, ← gives "local_id" (by simp), Denotes]
      cases given "local_id" with
      | none => simp [eq_comm]
      | some value => cases value <;> cases node.localId <;> simp [JsonForm.ofJson?]
    rw [← localId, ← optional?_eq_some_iff (gives "pvs" (by simp))]
    obtain ⟨localId, properties⟩ := node
    cases given "local_id" with
    | none => simp [Option.bind_eq_some_iff, and_comm]
    | some value => cases value <;> simp [Option.bind_eq_some_iff, and_comm]

/-! ## Messages -/

instance : Shape Coordinate where
  Denotes tree coordinate :=
    tree.IsPair "latitude" "longitude" coordinate.latitude coordinate.longitude

instance : ReadsShape Coordinate where
  ofJson?_eq_some_iff _ _ :=
    read_pair_eq_some_iff (by decide) fun _ _ _ _ => Coordinate.mk.inj

instance : Shape Identifier where
  Denotes tree identifier := tree.IsPair "prop" "val" identifier.property identifier.value

instance : ReadsShape Identifier where
  ofJson?_eq_some_iff _ _ :=
    read_pair_eq_some_iff (by decide) fun _ _ _ _ => Identifier.mk.inj

instance : Shape Place where
  Denotes tree place := tree.IsRecord ["dcid"] ∧ tree.Required ["dcid"] "dcid" place.dcid

instance : ReadsShape Place where
  ofJson?_eq_some_iff tree place := by
    apply record?_bind_eq_some_iff (by simp)
    intro given gives
    rw [← required?_eq_some_iff (gives "dcid" (by simp))]
    obtain ⟨dcid⟩ := place
    simp [Option.bind_eq_some_iff]

instance : Shape PlaceEntry where
  Denotes tree entry := tree.IsRecord ["latitude", "longitude", "places"] ∧
    tree.Required ["latitude", "longitude", "places"] "latitude" entry.coordinate.latitude ∧
    tree.Required ["latitude", "longitude", "places"] "longitude" entry.coordinate.longitude ∧
    tree.Defaulted ["latitude", "longitude", "places"] "places" [] entry.places

instance : ReadsShape PlaceEntry where
  ofJson?_eq_some_iff tree entry := by
    apply record?_bind_eq_some_iff (by simp)
    intro given gives
    rw [← required?_eq_some_iff (gives "latitude" (by simp)),
      ← required?_eq_some_iff (gives "longitude" (by simp)),
      ← optional?_eq_some_iff (gives "places" (by simp))]
    obtain ⟨⟨latitude, longitude⟩, places⟩ := entry
    simp [Option.bind_eq_some_iff, and_assoc]

instance : Shape EntityQuery where
  Denotes tree query := tree.IsNamedBatch "sourceId" "properties" query.sourceId query.properties

instance : ReadsShape EntityQuery where
  ofJson?_eq_some_iff _ _ :=
    read_namedBatch_eq_some_iff (by decide) fun _ _ _ _ => EntityQuery.mk.inj

instance : Shape IdentifierGroup where
  Denotes tree group := tree.IsBatch "ids" group.identifiers

instance : ReadsShape IdentifierGroup where
  ofJson?_eq_some_iff _ _ := read_batch_eq_some_iff fun _ _ => IdentifierGroup.mk.inj

instance : Shape EntityEntry where
  Denotes tree entry := tree.IsNamedBatch "sourceId" "resolvedIds" entry.sourceId entry.groups

instance : ReadsShape EntityEntry where
  ofJson?_eq_some_iff _ _ :=
    read_namedBatch_eq_some_iff (by decide) fun _ _ _ _ => EntityEntry.mk.inj

instance : Shape CoordinatesRequest where
  Denotes tree request := tree.IsBatch "coordinates" request.items

instance : ReadsShape CoordinatesRequest where
  ofJson?_eq_some_iff _ _ := read_batch_eq_some_iff fun _ _ => CoordinatesRequest.mk.inj

instance : Shape CoordinatesResponse where
  Denotes tree response := tree.IsBatch "placeCoordinates" response.items

instance : ReadsShape CoordinatesResponse where
  ofJson?_eq_some_iff _ _ := read_batch_eq_some_iff fun _ _ => CoordinatesResponse.mk.inj

instance : Shape EntitiesRequest where
  Denotes tree request := tree.IsBatch "entities" request.items

instance : ReadsShape EntitiesRequest where
  ofJson?_eq_some_iff _ _ := read_batch_eq_some_iff fun _ _ => EntitiesRequest.mk.inj

instance : Shape EntitiesResponse where
  Denotes tree response := tree.IsBatch "resolvedEntities" response.items

instance : ReadsShape EntitiesResponse where
  ofJson?_eq_some_iff _ _ := read_batch_eq_some_iff fun _ _ => EntitiesResponse.mk.inj

/-! ## Decoding -/

/-- Exactly the texts are decoded that spell one value of the shape, and the result is what
this value denotes.  A number in it is read in limited precision. -/
theorem shaped_texts_are_decoded :
    (Recognized Kind ∧ Recognized Value ∧ Recognized PropertyMap ∧ Recognized Node ∧
      Recognized Coordinate ∧ Recognized Identifier ∧ Recognized Place ∧ Recognized PlaceEntry ∧
      Recognized EntityQuery ∧ Recognized IdentifierGroup ∧ Recognized EntityEntry ∧
      Recognized CoordinatesRequest ∧ Recognized CoordinatesResponse ∧
      Recognized EntitiesRequest ∧ Recognized EntitiesResponse) ∧
    ∀ numeral : Numeral, Json.LimitedPrecision numeral := by
  refine ⟨⟨?_, ?_, ?_, ?_, ?_, ?_, ?_, ?_, ?_, ?_, ?_, ?_, ?_, ?_, ?_⟩, Json.limitedPrecision⟩
  all_goals exact ReadsShape.recognized _

example : (JsonForm.decode? " \x7b\"longitude\": -0.5, \"x\": [[1e999]], \"latitude\": 1e2\x7d" :
    Option Coordinate) = some ⟨⟨0x4059000000000000⟩, ⟨0xbfe0000000000000⟩⟩ := by decide +kernel

/-- The largest finite number with two zeros behind its digits is refused, though it is the
size of a finite number and all else in the text has the shape of a coordinate. -/
theorem largest_number_with_zeros_is_refused :
    let largest : Numeral :=
      ⟨false, [1], [7, 9, 7, 6, 9, 3, 1, 3, 4, 8, 6, 2, 3, 1, 5, 7, 0, 0], 308⟩
    let half : Numeral := ⟨false, [0], [5], 0⟩
    let tree : Json := .ofMembers [("latitude", .number largest), ("longitude", .number half)]
    let text := "\x7b\"latitude\":1.797693134862315700e308,\"longitude\":0.5\x7d"
    Json.ElementText tree text.toList ∧ tree.IsRecord ["latitude", "longitude"] ∧
      tree.Gives ["latitude", "longitude"] "latitude" (.number largest) ∧
      tree.Required ["latitude", "longitude"] "longitude" (Binary64.ofNumeral half) ∧
      (Binary64.ofNumeral largest).isFinite = true ∧
      (JsonForm.decode? text : Option Coordinate) = none := by
  intro largest half tree text
  have strict : tree.Strict := by
    apply Json.strict_ofMembers
    simp only [List.forall_mem_cons, List.not_mem_nil, false_imp_iff, implies_true, and_true]
    exact ⟨Json.strict_number
        ⟨List.cons_ne_nil _ _, fun same => absurd (List.cons.inj same).1 (by decide)⟩,
      Json.strict_number ⟨List.cons_ne_nil _ _, fun same => (List.cons.inj same).2.symm⟩⟩
  have parsed : Json.parse? text = some tree := by
    have written : text = tree.write := by decide +kernel
    rw [written]
    exact Json.parse?_write strict
  have readHalf : Json.ReadsAs half (Binary64.ofNumeral half) :=
    Json.readNumber?_eq_some_iff.mp (by decide +kernel)
  have refused : (JsonForm.ofJson? tree : Option Coordinate) = none := by decide +kernel
  refine ⟨Json.parse?_eq_some_iff.mp parsed, .object (by simp) (by decide), .member (.head _),
    ⟨_, .member (.tail _ (.head _)), half, rfl, readHalf⟩, by decide +kernel, ?_⟩
  rw [JsonForm.decode?, parsed]
  exact refused

end IdResolution
