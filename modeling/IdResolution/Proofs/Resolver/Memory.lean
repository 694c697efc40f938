import IdResolution.Proofs.Client.Transparency
import IdResolution.Proofs.Resolver.KeyQueue
import IdResolution.Resolver.Memory

/-!
# What a strategy remembers

The strategies differ in their keys and entries, but each asks for the address of a
key and reads an entry under the address that it answers.  From this follows, for
every such strategy, what a pass over a service in memory brings and what becomes of
the cache.
-/

namespace IdResolution

/-! ## Findings -/

namespace Finding

/-- The answers in a row of keys, each with the address of its key. -/
def answersOf {κ γ : Type} (answer? : κ → Option String) (address : κ → γ) (keys : List κ) :
    List (γ × String) :=
  keys.filterMap fun key => (answer? key).map fun dcid => (address key, dcid)

/-- What a row of answers says: the first of them, and whether a later one differs. -/
def ofAnswers {γ : Type} : List (γ × String) → Finding γ
  | [] => .nothing
  | first :: rest =>
      match rest.find? (·.2 != first.2) with
      | some conflicting => .conflict first conflicting
      | none => .found first.2

/-- An answer that agrees with the one before it adds nothing. -/
theorem ofAnswers_cons_cons_of_eq {γ : Type} {first next : γ × String} (agrees : first.2 = next.2)
    (rest : List (γ × String)) :
    ofAnswers (first :: next :: rest) = ofAnswers (first :: rest) := by
  simp only [ofAnswers, List.find?_cons, agrees, bne_self_eq_false]

theorem ofAnswers_cons_cons_of_ne {γ : Type} {first next : γ × String} (differs : first.2 ≠ next.2)
    (rest : List (γ × String)) :
    ofAnswers (first :: next :: rest) = .conflict first next := by
  have differing : (next.2 != first.2) = true := bne_iff_ne.mpr differs.symm
  simp only [ofAnswers, List.find?_cons, differing]

end Finding

/-- Answers give a canonical id when there is one at least and all agree on it. -/
theorem Finding.dcid?_ofAnswers_eq_some_iff {γ : Type} {answers : List (γ × String)}
    {dcid : String} :
    (Finding.ofAnswers answers).dcid? = some dcid ↔
      answers ≠ [] ∧ ∀ answer ∈ answers, answer.2 = dcid := by
  cases answers with
  | nil => simp [ofAnswers, dcid?]
  | cons first rest =>
      rw [List.forall_mem_cons]
      simp only [ofAnswers]
      cases differing : rest.find? (·.2 != first.2) with
      | none =>
          have agreeing : ∀ answer ∈ rest, answer.2 = first.2 := by
            simpa using List.find?_eq_none.mp differing
          simp only [dcid?, Option.some.injEq]
          constructor
          · intro same
            subst same
            exact ⟨List.cons_ne_nil first rest, rfl, agreeing⟩
          · exact fun same => same.2.1
      | some conflicting =>
          have differs : conflicting.2 ≠ first.2 := by
            simpa using List.find?_some differing
          simp only [dcid?, reduceCtorEq, false_iff]
          intro agreed
          rcases agreed with ⟨-, same, agreeing⟩
          apply differs
          rw [agreeing conflicting (List.mem_of_find?_eq_some differing), same]

namespace Strategy

variable {σ κ γ α β : Type}

section Passes

variable [BEq κ] [Hashable κ] [BEq γ] [Hashable γ]

/-- The answers to the keys of a node that have been answered. -/
def answers (strategy : Strategy κ γ α β) (node : Node) (memory : Memory κ γ) :
    List (γ × String) :=
  Finding.answersOf (fun key => memory.cache.first? (strategy.address key)) strategy.address
    (strategy.keys node)

/-- The search goes through the answers to its keys, behind the one it starts with. -/
theorem search_eq_ofAnswers (strategy : Strategy κ γ α β) (memory : Memory κ γ)
    (chosen : Option (γ × String)) (keys : List κ) :
    strategy.search memory chosen keys =
      .ofAnswers (chosen.toList ++
        Finding.answersOf (fun key => memory.cache.first? (strategy.address key))
          strategy.address keys) := by
  induction keys generalizing chosen with
  | nil => cases chosen <;> rfl
  | cons key rest ih =>
      rw [search, Finding.answersOf]
      cases answered : memory.cache.first? (strategy.address key) with
      | none =>
          rw [List.filterMap_cons_none (by rw [answered, Option.map_none])]
          exact ih chosen
      | some dcid =>
          rw [List.filterMap_cons_some (by rw [answered, Option.map_some])]
          cases chosen with
          | none => exact ih (some (strategy.address key, dcid))
          | some first =>
              by_cases agrees : first.2 = dcid
              · rw [Option.toList_some, List.singleton_append,
                  Finding.ofAnswers_cons_cons_of_eq agrees]
                exact (if_pos agrees).trans (ih (some first))
              · rw [Option.toList_some, List.singleton_append,
                  Finding.ofAnswers_cons_cons_of_ne agrees]
                exact if_neg agrees

/-- A node is looked up by what the answers to its keys say. -/
theorem find_eq_ofAnswers (strategy : Strategy κ γ α β) (node : Node) (memory : Memory κ γ) :
    strategy.find node memory = .ofAnswers (strategy.answers node memory) :=
  strategy.search_eq_ofAnswers memory none (strategy.keys node)

theorem mem_answers_iff {strategy : Strategy κ γ α β} {node : Node} {memory : Memory κ γ}
    {answer : γ × String} :
    answer ∈ strategy.answers node memory ↔
      ∃ key ∈ strategy.keys node, strategy.address key = answer.1 ∧
        memory.cache.first? (strategy.address key) = some answer.2 := by
  rw [answers, Finding.answersOf, List.mem_filterMap]
  constructor
  · intro answered
    rcases answered with ⟨key, member, found⟩
    rcases Option.map_eq_some_iff.mp found with ⟨dcid, first, rfl⟩
    exact ⟨key, member, rfl, first⟩
  · intro answered
    rcases answered with ⟨key, member, same, first⟩
    refine ⟨key, member, ?_⟩
    rw [first, Option.map_some, same]

/-- A node has a canonical id when one of its keys at least has been answered and the
answers to all its keys agree. -/
theorem dcid?_find_eq_some_iff {strategy : Strategy κ γ α β} {node : Node}
    {memory : Memory κ γ} {dcid : String} :
    (strategy.find node memory).dcid? = some dcid ↔
      (∃ key ∈ strategy.keys node,
        memory.cache.first? (strategy.address key) = some dcid) ∧
      ∀ key ∈ strategy.keys node, ∀ answer,
        memory.cache.first? (strategy.address key) = some answer → answer = dcid := by
  rw [find_eq_ofAnswers, Finding.dcid?_ofAnswers_eq_some_iff]
  constructor
  · intro agreeing
    rcases agreeing with ⟨nonempty, agreeing⟩
    constructor
    · rcases List.exists_mem_of_ne_nil _ nonempty with ⟨answer, member⟩
      have same := agreeing answer member
      rcases mem_answers_iff.mp member with ⟨key, keyMember, -, first⟩
      rw [same] at first
      exact ⟨key, keyMember, first⟩
    · intro key member answer first
      exact agreeing (strategy.address key, answer)
        (mem_answers_iff.mpr ⟨key, member, rfl, first⟩)
  · intro agreed
    rcases agreed with ⟨⟨key, member, first⟩, agreeing⟩
    constructor
    · exact List.ne_nil_of_mem
        (mem_answers_iff.mpr ⟨key, member, rfl, first⟩ :
          (strategy.address key, dcid) ∈ strategy.answers node memory)
    · intro answer answerMember
      rcases mem_answers_iff.mp answerMember with ⟨other, otherMember, -, answered⟩
      exact agreeing other otherMember answer.2 answered

/-- The entries of a response that are stored are those with a candidate. -/
theorem receive_eq (strategy : Strategy κ γ α β) (entries : List β) (memory : Memory κ γ) :
    strategy.receive entries memory =
      (storedCount (entries.map strategy.entry), strategy.absorb entries memory) :=
  Prod.ext (memory.cache.count_take _) rfl

end Passes

/-! ## Strategies over a service in memory -/

/-- The addresses of a strategy stand for addresses of messages: it asks a service for
the address of a key and reads an entry under the address that the entry answers. -/
structure Addressed (strategy : Strategy κ γ α β) (place : γ → Address) : Prop where
  injective : Function.Injective place
  asks_item (key : κ) :
    strategy.operation.asks (strategy.item key) = place (strategy.address key)
  answers_entry (entry : β) :
    place (strategy.entry entry).1 = strategy.operation.answers entry
  candidates_entry (entry : β) :
    (strategy.entry entry).2 = strategy.operation.candidates entry

theorem addressed_coordinates : coordinates.Addressed .coordinate where
  injective _ _ same := Address.coordinate.inj same
  asks_item _ := rfl
  answers_entry _ := rfl
  candidates_entry _ := rfl

theorem addressed_externalIds (properties : List String) :
    (externalIds properties).Addressed .sourceId where
  injective _ _ same := Address.sourceId.inj same
  asks_item _ := rfl
  answers_entry _ := rfl
  candidates_entry _ := rfl

namespace Addressed

variable {strategy : Strategy κ γ α β} {place : γ → Address}

/-- The entry that answers a key is read as the candidates registered for it. -/
theorem entry_entry (addressed : strategy.Addressed place) (tables : Tables) (key : κ) :
    strategy.entry (tables.entry strategy.operation (strategy.item key)) =
      (strategy.address key, tables.registered (place (strategy.address key))) := by
  apply Prod.ext
  · apply addressed.injective
    rw [addressed.answers_entry, Tables.answers_entry, addressed.asks_item]
  · rw [addressed.candidates_entry, Tables.candidates_entry, addressed.asks_item]

/-- A request for keys succeeds exactly when none of them has a failing address. -/
theorem result_eq_ok_iff [Service σ] [InMemory σ] (addressed : strategy.Addressed place)
    {size : Nat} {keys : List κ} {service : σ} {entries : List β} :
    Report.result
        (callChunked strategy.operation size (strategy.request keys) service).1 =
        .ok entries ↔
      (∀ key ∈ keys,
        (InMemory.tables service).isFailing (place (strategy.address key)) = false) ∧
        entries = keys.map fun key =>
          (InMemory.tables service).entry strategy.operation (strategy.item key) := by
  rw [InMemory.result_callChunked_eq_ok_iff, request, List.forall_mem_map, List.map_map]
  simp only [addressed.asks_item]
  rfl

/-- The answers to keys are cached under their addresses, where the tables name any. -/
theorem candidates?_absorb [BEq κ] [Hashable κ] [BEq γ] [LawfulBEq γ] [Hashable γ]
    (addressed : strategy.Addressed place) (tables : Tables) (keys : List κ)
    (memory : Memory κ γ) (address : γ) :
    (strategy.absorb
      (keys.map fun key => tables.entry strategy.operation (strategy.item key))
      memory).cache.candidates? address =
      if (keys.map strategy.address).contains address &&
          !(tables.registered (place address)).isEmpty then
        some (firstOccurrences (tables.registered (place address)))
      else memory.cache.candidates? address := by
  let listed : γ → List String := fun address => tables.registered (place address)
  have read : (keys.map fun key =>
      tables.entry strategy.operation (strategy.item key)).map strategy.entry =
        keys.map fun key => (strategy.address key, listed (strategy.address key)) := by
    rw [List.map_map]
    apply List.map_congr_left
    intro key _
    exact addressed.entry_entry tables key
  have uniform : ∀ entry ∈ keys.map fun key =>
      (strategy.address key, listed (strategy.address key)), entry.2 = listed entry.1 := by
    simp
  have asked : (keys.map fun key =>
      (strategy.address key, listed (strategy.address key))).map Prod.fst =
        keys.map strategy.address := by
    rw [List.map_map]
    rfl
  simp only [cache_absorb, read, Cache.candidates?_fold memory.cache uniform, asked, listed]

end Addressed

end Strategy

end IdResolution
