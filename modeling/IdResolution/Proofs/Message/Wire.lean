import IdResolution.Http.Exchange
import IdResolution.Proofs.Json.Form
import IdResolution.Proofs.Json.Number
import IdResolution.Proofs.Resolver.Cache
import IdResolution.Resolver.Memory

/-!
# Coordinates on the wire

Writing a message about coordinates loses nothing, since each number is written as a
numeral that names it.  Reading keeps strings and order, and rounds short numerals once;
a long numeral may be rounded twice and miss its number by the last place.  A message
comes back as it was exactly when all its numbers do, and a key that does not survive its
way to the service and back finds no answer.
-/

namespace IdResolution

open JsonForm

/-! ## Numbers -/

/-- A finite number that is read back with all its bits from its JSON text. -/
def Binary64.Survives (x : Binary64) : Prop :=
  x.isFinite = true ∧ Json.readNumber? (Binary64.Style.json.numeral x) = some x

instance (x : Binary64) : Decidable x.Survives :=
  inferInstanceAs (Decidable (_ ∧ _))

theorem reread?_number (x : Binary64) :
    reread? x =
      if x.isFinite then Json.readNumber? (Binary64.Style.json.numeral x) else none := by
  simp only [reread?, toJson, ofJson?, Json.ofBinary64]
  cases x.isFinite <;> rfl

theorem reread?_number_eq_some_iff {x : Binary64} : reread? x = some x ↔ x.Survives := by
  rw [reread?_number, Binary64.Survives]
  cases x.isFinite <;> simp

/-- A finite number is named by the numeral that is written for it in JSON. -/
theorem Binary64.ofNumeral_json {x : Binary64} (finite : x.isFinite = true) :
    ofNumeral (Style.json.numeral x) = x :=
  Style.ofNumeral_numeral rfl finite

/-- A finite number survives when the digits written for it fit a significand and its power
of ten is small. -/
theorem Binary64.survives_of_short {x : Binary64} (finite : x.isFinite = true)
    (short : (Style.json.numeral x).significand < 2 ^ 53)
    (small : (Style.json.numeral x).scale.natAbs ≤ 22) : x.Survives := by
  refine ⟨finite, ?_⟩
  rw [Json.readNumber?_of_short short small, ofNumeral_json finite]

/-! ## Messages -/

section StrictForms

instance : StrictForm Place where
  strict place := by
    apply Json.strict_ofMembers
    simp [StrictForm.strict]

instance : StrictForm Coordinate where
  strict coordinate := by
    apply Json.strict_ofMembers
    simp [StrictForm.strict]

instance : StrictForm PlaceEntry where
  strict entry := by
    apply Json.strict_ofMembers
    simp [StrictForm.strict]

instance : StrictForm CoordinatesRequest where
  strict request := by
    apply Json.strict_ofMembers
    simp [StrictForm.strict]

instance : StrictForm CoordinatesResponse where
  strict response := by
    apply Json.strict_ofMembers
    simp [StrictForm.strict]

end StrictForms

theorem reread?_place (place : Place) : reread? place = some place :=
  Json.read_record ["dcid"] (by simp) _

theorem reread?_coordinate (coordinate : Coordinate) :
    reread? coordinate = do
      let latitude ← reread? coordinate.latitude
      let longitude ← reread? coordinate.longitude
      return ⟨latitude, longitude⟩ :=
  Json.read_record ["latitude", "longitude"] (by simp) _

/-- The places of an entry are kept, whatever becomes of its coordinate. -/
theorem reread?_entry (entry : PlaceEntry) :
    reread? entry = do
      let coordinate ← reread? entry.coordinate
      return ⟨coordinate, entry.places⟩ := by
  have places : reread? entry.places = some entry.places :=
    reread?_list_eq_some_iff.mpr fun place _ => reread?_place place
  have read : reread? entry = do
      let latitude ← reread? entry.coordinate.latitude
      let longitude ← reread? entry.coordinate.longitude
      let places ← reread? entry.places
      return ⟨⟨latitude, longitude⟩, places⟩ :=
    Json.read_record ["latitude", "longitude", "places"] (by simp) _
  rw [read, places, reread?_coordinate]
  simp [Option.bind_assoc]

theorem reread?_request (request : CoordinatesRequest) :
    reread? request = do
      let items ← reread? request.items
      return ⟨items⟩ :=
  Json.read_record ["coordinates"] (by simp) _

theorem reread?_response (response : CoordinatesResponse) :
    reread? response = do
      let items ← reread? response.items
      return ⟨items⟩ :=
  Json.read_record ["placeCoordinates"] (by simp) _

/-- Both numbers of a coordinate survive. -/
def Coordinate.Survives (coordinate : Coordinate) : Prop :=
  coordinate.latitude.Survives ∧ coordinate.longitude.Survives

instance (coordinate : Coordinate) : Decidable coordinate.Survives :=
  inferInstanceAs (Decidable (_ ∧ _))

theorem reread?_coordinate_eq_some_iff {coordinate : Coordinate} :
    reread? coordinate = some coordinate ↔ coordinate.Survives := by
  rw [reread?_coordinate, Coordinate.Survives, ← reread?_number_eq_some_iff,
    ← reread?_number_eq_some_iff]
  obtain ⟨latitude, longitude⟩ := coordinate
  cases reread? latitude <;> cases reread? longitude <;> simp

theorem reread?_entry_eq_some_iff {entry : PlaceEntry} :
    reread? entry = some entry ↔ entry.coordinate.Survives := by
  rw [reread?_entry, ← reread?_coordinate_eq_some_iff]
  obtain ⟨coordinate, places⟩ := entry
  cases reread? coordinate <;> simp

theorem reread?_request_eq_some_iff {request : CoordinatesRequest} :
    reread? request = some request ↔ ∀ coordinate ∈ request.items, coordinate.Survives := by
  simp only [← reread?_coordinate_eq_some_iff, ← reread?_list_eq_some_iff, reread?_request]
  obtain ⟨items⟩ := request
  cases reread? items <;> simp

theorem reread?_response_eq_some_iff {response : CoordinatesResponse} :
    reread? response = some response ↔ ∀ entry ∈ response.items, entry.coordinate.Survives := by
  simp only [← reread?_entry_eq_some_iff, ← reread?_list_eq_some_iff, reread?_response]
  obtain ⟨items⟩ := response
  cases reread? items <;> simp

/-! ## Keys and their answers -/

/-- The response that echoes keys with their places. -/
def echo (places : Coordinate → List Place) (keys : List Coordinate) : CoordinatesResponse :=
  ⟨keys.map fun key => ⟨key, places key⟩⟩

/-- The text by which a server that knows the places of each coordinate answers the text of
a request. -/
def echoText? (places : Coordinate → List Place) (text : String) : Option String :=
  (decode? text).map fun request : CoordinatesRequest => encode (echo places request.items)

/-- A reply of success ends a call with the entries in its text. -/
theorem outcome_eq_answered_iff {text : String} {entries : List PlaceEntry} {timeoutMs : Nat} :
    (Http.Reply.message 200 (.text text)).outcome Operation.coordinates timeoutMs =
        .answered entries ↔
      decode? text = some (⟨entries⟩ : CoordinatesResponse) := by
  cases decoded : (decode? text : Option CoordinatesResponse) with
  | none =>
      simp [Http.Reply.outcome, Http.isBodiless, Http.isFinal, Http.isSuccess, Http.Body.text?,
        Operation.decodeResponse?, decoded]
  | some response =>
      obtain ⟨items⟩ := response
      simp [Http.Reply.outcome, Http.isBodiless, Http.isFinal, Http.isSuccess, Http.Body.text?,
        Operation.decodeResponse?, decoded]

/-- The entries of an echo give each key the places of its own. -/
theorem candidates?_absorb_echo (places : Coordinate → List Place) (keys : List Coordinate)
    (memory : Memory Coordinate Coordinate) (key : Coordinate) :
    (Strategy.coordinates.absorb (echo places keys).items memory).cache.candidates? key =
      if keys.contains key && !(places key).isEmpty then
        some ((places key).map Place.dcid).eraseDups
      else memory.cache.candidates? key := by
  let listed (key : Coordinate) : List String := (places key).map Place.dcid
  have read : (echo places keys).items.map Strategy.coordinates.entry =
      keys.map fun key => (key, listed key) := by
    rw [echo, List.map_map]
    rfl
  have uniform : ∀ entry ∈ keys.map fun key => (key, listed key), entry.2 = listed entry.1 := by
    simp
  have folded := Cache.candidates?_fold memory.cache uniform key
  rw [List.map_map, Function.comp_def, List.map_id', List.isEmpty_map,
    firstOccurrences_eq_eraseDups] at folded
  rw [Strategy.cache_absorb, read]
  exact folded

/-- A server that answers the text of a request by echoing each key with its places is
understood as it means, if the keys survive. -/
theorem answered_of_survives {keys : List Coordinate} (survive : ∀ key ∈ keys, key.Survives)
    (places : Coordinate → List Place) (timeoutMs : Nat) :
    ∃ text, echoText? places (Operation.coordinates.encodeRequest keys) = some text ∧
      (Http.Reply.message 200 (.text text)).outcome Operation.coordinates timeoutMs =
        .answered (echo places keys).items := by
  have asked : decode? (Operation.coordinates.encodeRequest keys) =
      some (⟨keys⟩ : CoordinatesRequest) :=
    (decode?_encode _).trans (reread?_request_eq_some_iff.mpr survive)
  have answered : decode? (encode (echo places keys)) = some (echo places keys) := by
    rw [decode?_encode, reread?_response_eq_some_iff]
    intro entry listed
    obtain ⟨key, member, rfl⟩ := List.mem_map.mp listed
    exact survive key member
  refine ⟨encode (echo places keys), ?_, outcome_eq_answered_iff.mpr answered⟩
  rw [echoText?, asked]
  rfl

/-- The text of an echo to a single key, as it is read. -/
theorem decode?_echo_singleton (places : Coordinate → List Place) (key : Coordinate) :
    decode? (encode (echo places [key])) =
      (reread? key).map fun read => (⟨[⟨read, places key⟩]⟩ : CoordinatesResponse) := by
  rw [decode?_encode, reread?_response, echo, reread?_list, List.map_singleton, List.mapM_cons,
    reread?_entry]
  cases reread? key <;> rfl

/-- A key whose own text is echoed finds its places exactly when it survives. -/
theorem found_iff_survives {places : Coordinate → List Place} {key : Coordinate}
    (named : places key ≠ []) {memory : Memory Coordinate Coordinate}
    (unknown : memory.cache.candidates? key = none) (timeoutMs : Nat) :
    (∃ entries,
      (Http.Reply.message 200 (.text (encode (echo places [key])))).outcome
          Operation.coordinates timeoutMs = .answered entries ∧
        ((Strategy.coordinates.absorb entries memory).cache.candidates? key).isSome) ↔
      key.Survives := by
  simp only [outcome_eq_answered_iff]
  rw [decode?_echo_singleton, ← reread?_coordinate_eq_some_iff]
  cases reread? key with
  | none => simp
  | some read =>
      -- The places are cached for what the key is read as, and for nothing else.
      have found := candidates?_absorb_echo (fun _ => places key) [read] memory key
      rw [echo, List.map_singleton] at found
      by_cases same : read = key
      · subst same
        simp [found, named]
      · have other : key ≠ read := Ne.symm same
        simp [found, unknown, same, other]

/-- A message about coordinates comes back from its text as it was exactly when all its
numbers survive.  The text names every finite number, and those with few digits and a small
power of ten survive.  Keys that survive their way to a server and back find the places with
which the server echoes them; a key that does not finds none, even when its own text is
echoed. -/
theorem wire_keeps_exactly_surviving_numbers (key : Coordinate) (entry : PlaceEntry)
    (request : CoordinatesRequest) (response : CoordinatesResponse)
    (places : Coordinate → List Place) (memory : Memory Coordinate Coordinate)
    (timeoutMs : Nat) :
    (decode? (encode key) = some key ↔ key.Survives) ∧
    (decode? (encode entry) = some entry ↔ entry.coordinate.Survives) ∧
    (decode? (encode request) = some request ↔
      ∀ coordinate ∈ request.items, coordinate.Survives) ∧
    (decode? (encode response) = some response ↔
      ∀ entry ∈ response.items, entry.coordinate.Survives) ∧
    (∀ x : Binary64, x.isFinite = true →
      Binary64.ofNumeral (Binary64.Style.json.numeral x) = x ∧
      ((Binary64.Style.json.numeral x).significand < 2 ^ 53 →
        (Binary64.Style.json.numeral x).scale.natAbs ≤ 22 → x.Survives)) ∧
    ((∀ coordinate ∈ request.items, coordinate.Survives) →
      ∃ text entries,
        echoText? places (Operation.coordinates.encodeRequest request.items) = some text ∧
        (Http.Reply.message 200 (.text text)).outcome Operation.coordinates timeoutMs =
          .answered entries ∧
        ∀ coordinate ∈ request.items, places coordinate ≠ [] →
          (Strategy.coordinates.absorb entries memory).cache.candidates? coordinate =
            some ((places coordinate).map Place.dcid).eraseDups) ∧
    (places key ≠ [] → memory.cache.candidates? key = none →
      ((∃ entries,
        (Http.Reply.message 200 (.text (encode (echo places [key])))).outcome
            Operation.coordinates timeoutMs = .answered entries ∧
          ((Strategy.coordinates.absorb entries memory).cache.candidates? key).isSome) ↔
        key.Survives)) := by
  refine ⟨?_, ?_, ?_, ?_, ?_, ?_, ?_⟩
  · rw [decode?_encode, reread?_coordinate_eq_some_iff]
  · rw [decode?_encode, reread?_entry_eq_some_iff]
  · rw [decode?_encode, reread?_request_eq_some_iff]
  · rw [decode?_encode, reread?_response_eq_some_iff]
  · intro x finite
    exact ⟨Binary64.ofNumeral_json finite, Binary64.survives_of_short finite⟩
  · intro survive
    obtain ⟨text, replied, answered⟩ := answered_of_survives survive places timeoutMs
    refine ⟨text, _, replied, answered, ?_⟩
    intro coordinate asked named
    rw [candidates?_absorb_echo, if_pos (by simp [asked, named])]
  · intro named unknown
    exact found_iff_survives named unknown timeoutMs

/-- The key of a place in Greenwich has few digits: it comes back from its text, and finds
its answer. -/
theorem greenwich_survives :
    let key : Coordinate :=
      ⟨Binary64.ofDecimal false 514778 (-4), Binary64.ofDecimal true 15 (-4)⟩
    let places (_ : Coordinate) : List Place := [⟨"wikidataId/Q179385"⟩]
    decode? (encode key) = some key ∧
      ∃ text entries, echoText? places (Operation.coordinates.encodeRequest [key]) = some text ∧
        (Http.Reply.message 200 (.text text)).outcome Operation.coordinates 1000 =
          .answered entries ∧
        (Strategy.coordinates.absorb entries {}).cache.candidates? key =
          some ["wikidataId/Q179385"] := by
  intro key places
  obtain ⟨back, -, -, -, numbers, answers, -⟩ :=
    wire_keeps_exactly_surviving_numbers key ⟨key, []⟩ ⟨[key]⟩ {} places {} 1000
  have north := (numbers key.latitude (by decide +kernel)).2 (by decide +kernel) (by decide +kernel)
  have west := (numbers key.longitude (by decide +kernel)).2 (by decide +kernel) (by decide +kernel)
  obtain ⟨text, entries, replied, answered, found⟩ :=
    answers (List.forall_mem_singleton.mpr ⟨north, west⟩)
  exact ⟨back.mpr ⟨north, west⟩, text, entries, replied, answered,
    found key (.head _) (List.cons_ne_nil _ _)⟩

/-- The latitude `51.248178375505404` is read with its last place changed.  A key with this
latitude does not come back from its text, and the places that a server knows for the key
that reaches it are not found under the key that was sent. -/
theorem last_place_is_lost :
    let key : Coordinate := ⟨⟨0x40499fc44f1b2f60⟩, ⟨0xbfe0000000000000⟩⟩
    let places (_ : Coordinate) : List Place := [⟨"wikidataId/Q213474"⟩]
    key.latitude.isFinite = true ∧ key.longitude.isFinite = true ∧
      decode? (encode key) =
        some (⟨⟨0x40499fc44f1b2f61⟩, ⟨0xbfe0000000000000⟩⟩ : Coordinate) ∧
      ∃ text entries, echoText? places (Operation.coordinates.encodeRequest [key]) = some text ∧
        (Http.Reply.message 200 (.text text)).outcome Operation.coordinates 1000 =
          .answered entries ∧
        (Strategy.coordinates.absorb entries {}).cache.candidates? key = none := by
  intro key places
  let other : Coordinate := ⟨⟨0x40499fc44f1b2f61⟩, ⟨0xbfe0000000000000⟩⟩
  have read : reread? key = some other := by
    rw [reread?_coordinate, reread?_number, reread?_number]
    decide +kernel
  have kept : reread? other = some other := by
    rw [reread?_coordinate, reread?_number, reread?_number]
    decide +kernel
  refine ⟨by decide, by decide, (decode?_encode key).trans read, ?_⟩
  refine ⟨encode (echo places [other]), (echo places [other]).items, ?_, ?_, ?_⟩
  · have asked : decode? (Operation.coordinates.encodeRequest [key]) =
        some (⟨[other]⟩ : CoordinatesRequest) := by
      rw [Operation.encodeRequest, decode?_encode, reread?_request, reread?_list, List.mapM_cons,
        read]
      rfl
    rw [echoText?, asked]
    rfl
  · rw [outcome_eq_answered_iff, decode?_echo_singleton, kept]
    rfl
  · rw [candidates?_absorb_echo, if_neg (by decide)]
    exact Std.HashMap.getElem?_empty

end IdResolution
