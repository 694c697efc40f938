import IdResolution.Proofs.Key.SourceId
import IdResolution.Proofs.Resolver.LastEntry
import IdResolution.Proofs.Resolver.Memory
import IdResolution.Session.Basic

/-!
# When the external ids of a node conflict

A node is looked up by all its external ids that have been answered.  They give its
canonical id when they agree, in whatever order and however often the inspected properties
are listed.  When two of them differ, one warning names the first answered id and the
earliest one behind it that is answered differently.
-/

namespace IdResolution

/-! ## The answers in a row of keys -/

/-- In a row of keys, `first` is the first one that is answered, and `later` the earliest
behind it whose answer is not that of the first. -/
def Clash {κ : Type} (answer? : κ → Option String) (keys : List κ) (first : κ)
    (dcid : String) (later : κ) (other : String) : Prop :=
  ∃ before between after, keys = before ++ first :: (between ++ later :: after) ∧
    (∀ key ∈ before, answer? key = none) ∧ answer? first = some dcid ∧
    (∀ key ∈ between, ∀ answer, answer? key = some answer → answer = dcid) ∧
    answer? later = some other ∧ other ≠ dcid

namespace Finding

variable {κ γ : Type}

/-- Answers conflict when two of them differ, wherever these stand. -/
theorem exists_conflict_iff {answers : List (γ × String)} :
    (∃ first later, ofAnswers answers = .conflict first later) ↔
      ∃ one ∈ answers, ∃ another ∈ answers, one.2 ≠ another.2 := by
  cases answers with
  | nil => simp [ofAnswers]
  | cons first rest =>
      simp only [ofAnswers]
      cases differing : rest.find? (·.2 != first.2) with
      | none =>
          -- All answers are that of the first.
          have agreeing : ∀ answer ∈ first :: rest, answer.2 = first.2 := by
            simpa using List.find?_eq_none.mp differing
          refine iff_of_false (by simp) ?_
          rintro ⟨one, oneListed, another, anotherListed, apart⟩
          exact apart ((agreeing one oneListed).trans (agreeing another anotherListed).symm)
      | some later =>
          have differs : later.2 ≠ first.2 := by
            simpa using List.find?_some differing
          have listed := List.mem_of_find?_eq_some differing
          refine iff_of_true ⟨first, later, rfl⟩ ?_
          exact ⟨later, List.mem_cons_of_mem first listed, first, List.mem_cons_self, differs⟩

section Keys

variable {answer? : κ → Option String} {address : κ → γ}

/-- The earliest answer other than a given one belongs to the earliest key that is answered
so. -/
theorem find?_answersOf_eq_some_iff {keys : List κ} {dcid : String} {later : γ × String} :
    (answersOf answer? address keys).find? (·.2 != dcid) = some later ↔
      ∃ between key after, keys = between ++ key :: after ∧
        (∀ key ∈ between, ∀ answer, answer? key = some answer → answer = dcid) ∧
        answer? key = some later.2 ∧ later.2 ≠ dcid ∧ later.1 = address key := by
  rw [answersOf, List.find?_filterMap, Option.bind_eq_some_iff]
  constructor
  · rintro ⟨key, earliest, answered⟩
    obtain ⟨-, between, after, split, skipped⟩ := List.find?_eq_some_iff_append.mp earliest
    obtain ⟨other, answer, rfl⟩ := Option.map_eq_some_iff.mp answered
    have differs := List.find?_some earliest
    refine ⟨between, key, after, split, ?_, answer, by simpa [answer] using differs, rfl⟩
    intro before listed early earlyAnswer
    simpa [earlyAnswer] using skipped before listed
  · rintro ⟨between, key, after, split, skipped, answer, differs, place⟩
    refine ⟨key, List.find?_eq_some_iff_append.mpr ⟨by simp [answer, differs], between, after,
      split, ?_⟩, ?_⟩
    · intro before listed
      cases early : answer? before with
      | none => rfl
      | some dcid => simp [skipped before listed dcid early]
    · rw [answer, Option.map_some, ← place]

/-- A conflict of answers is a clash of the keys that have them. -/
theorem ofAnswers_eq_conflict_iff {keys : List κ} {first later : γ × String} :
    ofAnswers (answersOf answer? address keys) = .conflict first later ↔
      ∃ one another, Clash answer? keys one first.2 another later.2 ∧
        first.1 = address one ∧ later.1 = address another := by
  constructor
  · intro conflict
    cases answers : answersOf answer? address keys with
    | nil =>
        rw [answers] at conflict
        contradiction
    | cons head rest =>
        obtain ⟨before, one, tail, rfl, skipped, answered, rfl⟩ :=
          List.filterMap_eq_cons_iff.mp answers
        obtain ⟨dcid, answer, rfl⟩ := Option.map_eq_some_iff.mp answered
        rw [answers, ofAnswers] at conflict
        split at conflict
        · rename_i other differing
          obtain ⟨rfl, rfl⟩ := Finding.conflict.inj conflict
          obtain ⟨between, another, after, rfl, agreeing, otherwise, differs, place⟩ :=
            find?_answersOf_eq_some_iff.mp differing
          refine ⟨one, another, ⟨before, between, after, rfl, ?_, answer, agreeing, otherwise,
            differs⟩, rfl, place⟩
          intro key listed
          exact Option.map_eq_none_iff.mp (skipped key listed)
        · contradiction
  · rintro ⟨one, another, clash, firstPlace, laterPlace⟩
    obtain ⟨before, between, after, rfl, skipped, answer, agreeing, otherwise, differs⟩ := clash
    have answers : answersOf answer? address (before ++ one :: (between ++ another :: after)) =
        first :: answersOf answer? address (between ++ another :: after) := by
      refine List.filterMap_eq_cons_iff.mpr ⟨before, one, _, rfl, ?_, ?_, rfl⟩
      · intro key listed
        rw [skipped key listed, Option.map_none]
      · rw [answer, Option.map_some, ← firstPlace]
    have differing := find?_answersOf_eq_some_iff.mpr
      ⟨between, another, after, rfl, agreeing, otherwise, differs, laterPlace⟩
    rw [answers, ofAnswers, differing]

end Keys

end Finding

/-! ## Looking up a node by its external ids -/

namespace Resolver

variable {services counters : Nat} {client : Client services counters}
  {properties : List String} {memory : Memory Identifier String} {node : Node}

/-- A warning is logged for a conflict of the answers to a node, and for nothing else. -/
theorem warning_eq_some_iff_conflict {warning : Warning} :
    ((externalIds client properties memory).find node).2 = some warning ↔
      ∃ first later, (Strategy.externalIds properties).find node memory = .conflict first later ∧
        warning = .conflict node.label ⟨first.1, first.2⟩ ⟨later.1, later.2⟩ := by
  rw [find]
  dsimp only
  cases (Strategy.externalIds properties).find node memory with
  | nothing => simp
  | found dcid => simp
  | conflict first later =>
      constructor
      · exact fun same => ⟨first, later, rfl, (Option.some.inj same).symm⟩
      · rintro ⟨_, _, same, rfl⟩
        obtain ⟨rfl, rfl⟩ := Finding.conflict.inj same
        rfl

/-- The warning names the ids that clash, with their answers. -/
theorem warning_eq_some_iff_clash {warning : Warning} :
    ((externalIds client properties memory).find node).2 = some warning ↔
      ∃ first dcid later other,
        Clash (fun id : Identifier => memory.cache.first? id.sourceId)
          (node.identifiers properties) first dcid later other ∧
        warning = .conflict node.label ⟨first.sourceId, dcid⟩ ⟨later.sourceId, other⟩ := by
  rw [warning_eq_some_iff_conflict, Strategy.find_eq_ofAnswers]
  constructor
  · rintro ⟨first, later, conflict, same⟩
    obtain ⟨one, another, clash, firstPlace, laterPlace⟩ :=
      Finding.ofAnswers_eq_conflict_iff.mp conflict
    refine ⟨one, first.2, another, later.2, clash, ?_⟩
    rw [same, firstPlace, laterPlace]
    rfl
  · rintro ⟨first, dcid, later, other, clash, same⟩
    exact ⟨(first.sourceId, dcid), (later.sourceId, other),
      Finding.ofAnswers_eq_conflict_iff.mpr ⟨first, later, clash, rfl, rfl⟩, same⟩

/-- There is a warning when two ids that a node carries are answered differently. -/
theorem isSome_warning_iff :
    ((externalIds client properties memory).find node).2.isSome ↔
      ∃ one ∈ node.identifiers properties, ∃ another ∈ node.identifiers properties,
        ∃ dcid other, memory.cache.first? one.sourceId = some dcid ∧
          memory.cache.first? another.sourceId = some other ∧ dcid ≠ other := by
  have conflicting : ((externalIds client properties memory).find node).2.isSome ↔
      ∃ first later,
        (Strategy.externalIds properties).find node memory = .conflict first later := by
    rw [Option.isSome_iff_exists]
    simp only [warning_eq_some_iff_conflict]
    constructor
    · rintro ⟨_, first, later, conflict, _⟩
      exact ⟨first, later, conflict⟩
    · rintro ⟨first, later, conflict⟩
      exact ⟨_, first, later, conflict, rfl⟩
  rw [conflicting, Strategy.find_eq_ofAnswers, Finding.exists_conflict_iff]
  simp only [Strategy.mem_answers_iff]
  constructor
  · rintro ⟨one, ⟨first, firstListed, _, answer⟩, another, ⟨later, laterListed, _, other⟩, apart⟩
    exact ⟨first, firstListed, later, laterListed, one.2, another.2, answer, other, apart⟩
  · rintro ⟨first, firstListed, later, laterListed, dcid, other, answer, otherAnswer, apart⟩
    exact ⟨(first.sourceId, dcid), ⟨first, firstListed, rfl, answer⟩,
      (later.sourceId, other), ⟨later, laterListed, rfl, otherAnswer⟩, apart⟩

/-- A node has the canonical id that all its answered ids have, if one is answered. -/
theorem dcid_eq_some_iff {dcid : String} :
    ((externalIds client properties memory).find node).1 = some dcid ↔
      (∃ id ∈ node.identifiers properties,
        memory.cache.first? id.sourceId = some dcid) ∧
      ∀ id ∈ node.identifiers properties, ∀ other,
        memory.cache.first? id.sourceId = some other → other = dcid :=
  Strategy.dcid?_find_eq_some_iff

/-- Neither the order of the inspected properties nor a repetition among them has a bearing
on the canonical id. -/
theorem dcid_congr {others : List String}
    (same : ∀ property, property ∈ others ↔ property ∈ properties) :
    ((externalIds client others memory).find node).1 =
      ((externalIds client properties memory).find node).1 := by
  have carried (id : Identifier) :
      id ∈ node.identifiers others ↔ id ∈ node.identifiers properties := by
    rw [Node.mem_identifiers_iff, Node.mem_identifiers_iff, same]
  apply Option.ext
  intro dcid
  rw [dcid_eq_some_iff, dcid_eq_some_iff]
  simp only [carried]

end Resolver

namespace Session

variable {σ : Type} [Service σ] [Recording σ] {services counters : Nat}

/-- To look a node up in one resolver is answered by it, and logs what it warns of. -/
theorem perform_find_one {session : Session services counters σ} {index : Nat}
    {resolver : Resolver services counters} (placed : session.resolvers[index]? = some resolver)
    (node : Node) :
    session.perform (.find (.one index) node) =
      (.dcid (resolver.find node).1,
        { session with log := session.log ++ (resolver.find node).2.toList }) := by
  simp only [perform, targeted, placed, Option.toList_some, ResolverSet.find]
  cases (resolver.find node).1 <;> simp

end Session

/-- For every node, every list of inspected properties and whatever is cached: a node has a
canonical id exactly when one at least of the ids it carries is answered and all that are
have this answer.  The order of the properties and repetitions among them make no
difference.  A warning is logged exactly when two of the ids are answered differently, and
just one; it names the first answered id in the order of the properties, and the earliest
behind it that is answered differently. -/
theorem answered_ids_agree_or_conflict {σ : Type} [Service σ] [Recording σ]
    {services counters : Nat} (client : Client services counters) (properties : List String)
    (memory : Memory Identifier String) (node : Node) :
    let resolver := Resolver.externalIds client properties memory
    let ids := node.identifiers properties
    let answer? (id : Identifier) := memory.cache.first? id.sourceId
    (∀ dcid, (resolver.find node).1 = some dcid ↔
      (∃ id ∈ ids, answer? id = some dcid) ∧
        ∀ id ∈ ids, ∀ other, answer? id = some other → other = dcid) ∧
    (∀ others : List String, (∀ property, property ∈ others ↔ property ∈ properties) →
      ((Resolver.externalIds client others memory).find node).1 = (resolver.find node).1) ∧
    ((resolver.find node).2.isSome ↔
      ∃ one ∈ ids, ∃ another ∈ ids, ∃ dcid other,
        answer? one = some dcid ∧ answer? another = some other ∧ dcid ≠ other) ∧
    (∀ warning, (resolver.find node).2 = some warning ↔
      ∃ first dcid later other, Clash answer? ids first dcid later other ∧
        warning = .conflict node.label ⟨first.sourceId, dcid⟩ ⟨later.sourceId, other⟩) ∧
    ∀ (session : Session services counters σ) (index : Nat),
      session.resolvers[index]? = some resolver →
        session.perform (.find (.one index) node) =
          (.dcid (resolver.find node).1,
            { session with log := session.log ++ (resolver.find node).2.toList }) := by
  intro resolver ids answer?
  refine ⟨fun dcid => Resolver.dcid_eq_some_iff, fun others same => Resolver.dcid_congr same,
    Resolver.isSome_warning_iff, fun warning => Resolver.warning_eq_some_iff_clash, ?_⟩
  exact fun session index placed => session.perform_find_one placed node

/-- Of three answered ids the second agrees with the first and the third does not; that one
property is listed twice makes no further conflict. -/
theorem answered_ids_conflict_on_third :
    let client : Client 1 1 := { service := 0, counter := 0 }
    let properties := ["wikidataId", "isoCode", "isoCode", "geoId"]
    let memory : Memory Identifier String :=
      { cache := ({} : Cache String).fold [("wikidataId:Q668", ["country/IND"]),
          ("isoCode:IN", ["country/IND"]), ("geoId:06", ["geoId/06"])] }
    let node := ((Node.push {} "isoCode" ⟨.text, "IN"⟩).push "wikidataId" ⟨.text, " Q668"⟩).push
      "geoId" ⟨.number, "06"⟩
    let resolver := Resolver.externalIds client properties memory
    let session : Session 1 1 (Logged Tables) :=
      { network := ⟨#v[⟨{}, []⟩], #v[0], 0⟩, clients := [client], resolvers := [resolver] }
    let warning := Warning.conflict "<anonymous>" ⟨"wikidataId:Q668", "country/IND"⟩
      ⟨"geoId:06", "geoId/06"⟩
    session.resolvers[0]? = some resolver ∧ (resolver.find node).2 = some warning ∧
      (session.perform (.find (.one 0) node)).2.log = [warning] := by
  intro client properties memory node resolver session warning
  obtain ⟨-, -, -, warned, performed⟩ := answered_ids_agree_or_conflict (σ := Logged Tables)
    client properties memory node
  have answered (sourceId : String) : memory.cache.first? sourceId =
      (((lastCandidates? [("wikidataId:Q668", ["country/IND"]), ("isoCode:IN", ["country/IND"]),
        ("geoId:06", ["geoId/06"])] sourceId).map List.eraseDups).or
          (({} : Cache String).candidates? sourceId)).bind List.head? := by
    rw [Cache.first?, Cache.candidates?_fold_eq_last]
  have carried : node.identifiers properties =
      [⟨"wikidataId", "Q668"⟩, ⟨"isoCode", "IN"⟩, ⟨"isoCode", "IN"⟩, ⟨"geoId", "06"⟩] := by
    decide +kernel
  have clash : Clash (fun id : Identifier => memory.cache.first? id.sourceId)
      (node.identifiers properties) ⟨"wikidataId", "Q668"⟩ "country/IND" ⟨"geoId", "06"⟩
        "geoId/06" := by
    rw [carried]
    refine ⟨[], [⟨"isoCode", "IN"⟩, ⟨"isoCode", "IN"⟩], [], rfl, by simp, ?_, ?_, ?_, by decide⟩
    · exact answered _
    · intro key listed answer found
      have same : key = ⟨"isoCode", "IN"⟩ := by simpa using listed
      subst same
      exact Option.some.inj (found.symm.trans (answered _))
    · exact answered _
  have logged := (warned warning).mpr ⟨_, _, _, _, clash, rfl⟩
  refine ⟨rfl, logged, ?_⟩
  rw [performed session 0 rfl, logged]
  rfl

end IdResolution
