import IdResolution.Proofs.Resolver.Retry

/-!
# Resolvers that resolve together

Each resolver of a set makes its pass on the network that those before it have left
behind.  When the passes are gathered, a resolver has either taken in the whole
response to its pass, or it is as it was: a pass that fails and one that is abandoned
leave no part of a response behind.  Without a failure every resolver has taken in its
response.  When no call takes any time, a failure abandons exactly the passes of the
resolvers after the first one that fails.
-/

namespace IdResolution

/-- A selection from a list that passes over nothing keeps all positions. -/
theorem getElem?_filterMap_of_isSome {α β : Type} {select : α → Option β}
    {elements : List α} (all : ∀ element ∈ elements, (select element).isSome) (index : Nat) :
    (elements.filterMap select)[index]? = elements[index]?.bind select := by
  induction elements generalizing index with
  | nil => rfl
  | cons element rest ih =>
      rw [List.forall_mem_cons] at all
      rcases Option.isSome_iff_exists.mp all.1 with ⟨selected, found⟩
      rw [List.filterMap_cons_some found]
      cases index with
      | zero => exact found.symm
      | succ index => exact ih all.2 index

namespace ResolverSet

variable {σ : Type} [Service σ] {services counters : Nat}

/-! ## Launched passes -/

/-- The network on which the resolver at a position makes its pass: the resolvers
before it have made theirs. -/
def networkAt (resolvers : ResolverSet services counters)
    (network : Network σ services counters) (index : Nat) : Network σ services counters :=
  (launch (resolvers.take index) network).2

/-- The passes of a set stand in the order of its resolvers. -/
theorem getElem?_launch (resolvers : ResolverSet services counters)
    (network : Network σ services counters) (index : Nat) :
    (launch resolvers network).1[index]? = resolvers[index]?.map fun resolver =>
      (resolver, (resolver.launch (resolvers.networkAt network index)).1) := by
  induction resolvers generalizing network index with
  | nil => rfl
  | cons resolver rest ih =>
      cases index with
      | zero => rfl
      | succ index =>
          simp only [launch, List.getElem?_cons_succ]
          exact ih (resolver.launch network).2 index

theorem length_launch (resolvers : ResolverSet services counters)
    (network : Network σ services counters) :
    (launch resolvers network).1.length = resolvers.length := by
  induction resolvers generalizing network with
  | nil => rfl
  | cons resolver rest ih =>
      simp only [launch, List.length_cons]
      rw [ih]

/-- The end of the pass of the resolver at a position. -/
theorem getElem?_endings (resolvers : ResolverSet services counters)
    (network : Network σ services counters) (index : Nat) :
    (endings (launch resolvers network).1)[index]? = resolvers[index]?.map fun resolver =>
      let calls := resolver.calls (resolvers.networkAt network index)
      ⟨calls.finishedAt, calls.failure?⟩ := by
  rw [endings, List.getElem?_map, getElem?_launch, Option.map_map]
  simp only [Function.comp_def, Resolver.finishedAt_launch, Resolver.failure?_launch]

/-! ## Landed passes -/

/-- A set keeps its resolvers in their places. -/
theorem getElem?_resolve (resolvers : ResolverSet services counters)
    (network : Network σ services counters) (index : Nat) :
    (resolve resolvers network).resolvers[index]? = resolvers[index]?.map fun resolver =>
      land (break? (launch resolvers network).1)
        ((resolver, (resolver.launch (resolvers.networkAt network index)).1), index) := by
  rw [resolve, List.getElem?_map, List.getElem?_zipIdx, getElem?_launch, Option.map_map,
    Option.map_map]
  simp only [Function.comp_def, Nat.zero_add]

/-- A pass whose end is noticed takes in the response, if there is one. -/
theorem land_of_noticed {decisive : Option (Break Error)}
    {resolver : Resolver services counters} {network : Network σ services counters}
    {index : Nat} (noticed : isNoticed decisive (resolver.launch network).1 index = true) :
    land decisive ((resolver, (resolver.launch network).1), index) =
      resolver.conclude (resolver.calls network) := by
  unfold land Resolver.conclude
  rw [Resolver.landing_launch_eq]
  cases (resolver.calls network).result with
  | ok response => simp [Except.map, noticed]
  | error error => rfl

/-- A pass whose end is not noticed leaves its resolver as it was. -/
theorem land_of_unnoticed {decisive : Option (Break Error)}
    {resolver : Resolver services counters} {network : Network σ services counters}
    {index : Nat} (unnoticed : isNoticed decisive (resolver.launch network).1 index = false) :
    land decisive ((resolver, (resolver.launch network).1), index) = resolver := by
  unfold land
  rw [Resolver.landing_launch_eq]
  cases (resolver.calls network).result with
  | ok response => simp [Except.map, unnoticed]
  | error error => rfl

/-- A pass that fails leaves its resolver as it was. -/
theorem land_of_failing {decisive : Option (Break Error)}
    {resolver : Resolver services counters} {network : Network σ services counters}
    {index : Nat} {error : Error} (failed : (resolver.calls network).result = .error error) :
    land decisive ((resolver, (resolver.launch network).1), index) = resolver := by
  unfold land
  rw [Resolver.landing_launch_eq, failed]
  rfl

/-- A resolver has taken in the whole response to its pass, or it is as it was. -/
theorem land_cases (decisive : Option (Break Error)) (resolver : Resolver services counters)
    (network : Network σ services counters) (index : Nat) :
    land decisive ((resolver, (resolver.launch network).1), index) = resolver ∨
      ∃ response, (resolver.calls network).Answered response ∧
        land decisive ((resolver, (resolver.launch network).1), index) =
          resolver.absorb response := by
  cases noticed : isNoticed decisive (resolver.launch network).1 index with
  | false => exact Or.inl (land_of_unnoticed noticed)
  | true =>
      cases received : (resolver.calls network).result with
      | error error => exact Or.inl (land_of_failing received)
      | ok response =>
          have answered := Calls.result_eq_ok_iff.mp received
          right
          refine ⟨response, answered, ?_⟩
          rw [land_of_noticed noticed, Resolver.conclude_of_answered answered]

/-- The failure that ends a resolve is that of the pass at its position. -/
theorem exists_failing_of_break? {resolvers : ResolverSet services counters}
    {network : Network σ services counters} {decisive : Break Error}
    (broken : break? (launch resolvers network).1 = some decisive) :
    ∃ resolver, resolvers[decisive.index]? = some resolver ∧
      (resolver.calls (resolvers.networkAt network decisive.index)).result =
        .error decisive.failure := by
  rcases Ending.break?_first broken with ⟨time, decides⟩
  have failing := decides.fails
  rw [getElem?_endings] at failing
  rcases Option.map_eq_some_iff.mp failing with ⟨resolver, found, same⟩
  exact ⟨resolver, found, Calls.failure?_eq_some_iff.mp (Ending.mk.inj same).2⟩

/-- A resolve ends without a failure exactly when all calls of all passes are
answered. -/
theorem break?_eq_none_iff {resolvers : ResolverSet services counters}
    {network : Network σ services counters} :
    break? (launch resolvers network).1 = none ↔
      ∀ (index : Nat) (resolver : Resolver services counters),
        resolvers[index]? = some resolver → ∃ response,
          (resolver.calls (resolvers.networkAt network index)).Answered response := by
  rw [break?, Ending.break?_eq_none_iff]
  constructor
  · intro sound index resolver found
    have ending := getElem?_endings resolvers network index
    rw [found, Option.map_some] at ending
    exact Calls.failure?_eq_none_iff.mp (sound _ (List.mem_of_getElem? ending))
  · intro sound ending member
    rcases List.mem_iff_getElem?.mp member with ⟨index, found⟩
    rw [getElem?_endings] at found
    rcases Option.map_eq_some_iff.mp found with ⟨resolver, at?, rfl⟩
    exact Calls.failure?_eq_none_iff.mpr (sound index resolver at?)

/-- Without a failure, every resolver has taken in the response to its pass. -/
theorem getElem?_resolve_of_sound {resolvers : ResolverSet services counters}
    {network : Network σ services counters}
    (sound : break? (launch resolvers network).1 = none) {index : Nat}
    {resolver : Resolver services counters} {response : Response}
    (found : resolvers[index]? = some resolver)
    (answered : (resolver.calls (resolvers.networkAt network index)).Answered response) :
    (resolve resolvers network).resolvers[index]? = some (resolver.absorb response) := by
  rw [getElem?_resolve, found, Option.map_some, sound, land_of_noticed rfl,
    Resolver.conclude_of_answered answered]

/-- Without a failure, the summaries stand in the order of the resolvers. -/
theorem flightResult_of_sound {resolvers : ResolverSet services counters}
    {network : Network σ services counters}
    (sound : break? (launch resolvers network).1 = none) :
    ∃ stats, (resolve resolvers network).result = .ok stats ∧
      stats.length = resolvers.length ∧
      ∀ (index : Nat) (resolver : Resolver services counters) (response : Response),
        resolvers[index]? = some resolver →
        (resolver.calls (resolvers.networkAt network index)).Answered response →
        stats[index]? = some (resolver.statsOf response) := by
  let select (flown : Resolver services counters × Flight services counters) : Option Stats :=
    flown.2.landing.toOption.map Prod.fst
  have selected {resolver : Resolver services counters} {response : Response} {index : Nat}
      (answered : (resolver.calls (resolvers.networkAt network index)).Answered response) :
      select (resolver, (resolver.launch (resolvers.networkAt network index)).1) =
        some (resolver.statsOf response) := by
    simp only [select, Resolver.landing_launch_eq, Calls.result_eq_ok_iff.mpr answered,
      Except.map, Except.toOption, Option.map_some]
  have all : ∀ flown ∈ (launch resolvers network).1, (select flown).isSome := by
    intro flown member
    rcases List.mem_iff_getElem?.mp member with ⟨index, at?⟩
    rw [getElem?_launch] at at?
    rcases Option.map_eq_some_iff.mp at? with ⟨resolver, found, rfl⟩
    rcases break?_eq_none_iff.mp sound index resolver found with ⟨response, answered⟩
    rw [selected answered]
    rfl
  refine ⟨(launch resolvers network).1.filterMap select, ?_, ?_, ?_⟩
  · rw [resolve, sound]
    apply congrArg Except.ok
    apply List.filterMap_congr
    intro flown _
    simp only [select]
    cases flown.2.landing <;> rfl
  · rw [List.filterMap_length_eq_length.mpr all, length_launch]
  · intro index resolver response found answered
    rw [getElem?_filterMap_of_isSome all, getElem?_launch, found, Option.map_some,
      Option.bind_some, selected answered]

/-! ## Passes without delays -/

/-- No call of any pass takes any time. -/
def Undelayed (resolvers : ResolverSet services counters)
    (network : Network σ services counters) : Prop :=
  ∀ (index : Nat) (resolver : Resolver services counters),
    resolvers[index]? = some resolver →
      (resolver.calls (resolvers.networkAt network index)).Undelayed

theorem immediate_endings {resolvers : ResolverSet services counters}
    {network : Network σ services counters}
    (undelayed : resolvers.Undelayed network) :
    ∀ ending ∈ endings (launch resolvers network).1, ending.time = 0 := by
  intro ending member
  rcases List.mem_iff_getElem?.mp member with ⟨index, at?⟩
  rw [getElem?_endings] at at?
  rcases Option.map_eq_some_iff.mp at? with ⟨resolver, found, rfl⟩
  exact Calls.finishedAt_eq_zero (undelayed index resolver found)

/-- When no call takes any time, the passes up to the first one that fails are
noticed, and no others. -/
theorem isNoticed_of_undelayed {resolvers : ResolverSet services counters}
    {network : Network σ services counters} {decisive : Break Error}
    (undelayed : resolvers.Undelayed network)
    (broken : break? (launch resolvers network).1 = some decisive) {index : Nat}
    {resolver : Resolver services counters} (found : resolvers[index]? = some resolver) :
    isNoticed (some decisive)
      (resolver.launch (resolvers.networkAt network index)).1 index =
        decide (index ≤ decisive.index) := by
  have breakTime := Ending.break?_time_of_simultaneous (immediate_endings undelayed) broken
  have finishedAt := Calls.finishedAt_eq_zero (undelayed index resolver found)
  rw [isNoticed, Option.all_some, Resolver.finishedAt_launch, finishedAt, Break.notices,
    breakTime]
  simp

/-- When no call takes any time, the passes before the one that ends the resolve are
answered. -/
theorem answered_of_undelayed {resolvers : ResolverSet services counters}
    {network : Network σ services counters} {decisive : Break Error}
    (undelayed : resolvers.Undelayed network)
    (broken : break? (launch resolvers network).1 = some decisive) {earlier : Nat}
    {resolver : Resolver services counters} (before : earlier < decisive.index)
    (found : resolvers[earlier]? = some resolver) :
    ∃ response,
      (resolver.calls (resolvers.networkAt network earlier)).Answered response := by
  have ending := getElem?_endings resolvers network earlier
  rw [found, Option.map_some] at ending
  apply Calls.failure?_eq_none_iff.mp
  exact Ending.failure_eq_none_of_simultaneous (immediate_endings undelayed) broken before ending

theorem result_of_break? {resolvers : ResolverSet services counters}
    {network : Network σ services counters} {decisive : Break Error}
    (broken : break? (launch resolvers network).1 = some decisive) :
    (resolve resolvers network).result = .error decisive.failure := by
  rw [resolve, broken]
  rfl

/-- A resolve that succeeds is broken by no failure. -/
theorem unbroken_of_ok {resolvers : ResolverSet services counters}
    {network : Network σ services counters} {stats : List Stats}
    (succeeded : (resolve resolvers network).result = .ok stats) :
    break? (launch resolvers network).1 = none := by
  cases broken : break? (launch resolvers network).1 with
  | none => rfl
  | some decisive =>
      rw [result_of_break? broken] at succeeded
      contradiction

/-- A resolve that fails is broken by the failure that it fails with. -/
theorem exists_break?_of_error {resolvers : ResolverSet services counters}
    {network : Network σ services counters} {error : Error}
    (failed : (resolve resolvers network).result = .error error) :
    ∃ decisive, break? (launch resolvers network).1 = some decisive ∧
      decisive.failure = error := by
  cases broken : break? (launch resolvers network).1 with
  | none =>
      rcases flightResult_of_sound broken with ⟨stats, succeeded, -⟩
      rw [failed] at succeeded
      contradiction
  | some decisive =>
      rw [result_of_break? broken] at failed
      exact ⟨decisive, rfl, Except.error.inj failed⟩

/-- When no call takes any time, the resolvers before the first one that fails have
taken in their responses, and those after it are as they were. -/
theorem resolve_of_undelayed {resolvers : ResolverSet services counters}
    {network : Network σ services counters} {decisive : Break Error}
    (undelayed : resolvers.Undelayed network)
    (broken : break? (launch resolvers network).1 = some decisive) :
    (∀ (earlier : Nat) (resolver : Resolver services counters), earlier < decisive.index →
      resolvers[earlier]? = some resolver → ∃ response,
        (resolver.calls (resolvers.networkAt network earlier)).Answered response ∧
          (resolve resolvers network).resolvers[earlier]? = some (resolver.absorb response)) ∧
    ∀ later > decisive.index,
      (resolve resolvers network).resolvers[later]? = resolvers[later]? := by
  constructor
  · intro earlier resolver before found
    rcases answered_of_undelayed undelayed broken before found with ⟨response, answered⟩
    have noticed := isNoticed_of_undelayed undelayed broken found
    rw [decide_eq_true (Nat.le_of_lt before)] at noticed
    refine ⟨response, answered, ?_⟩
    rw [getElem?_resolve, found, Option.map_some, broken, land_of_noticed noticed,
      Resolver.conclude_of_answered answered]
  · intro later behind
    rw [getElem?_resolve]
    cases found : resolvers[later]? with
    | none => rfl
    | some resolver =>
        have unnoticed := isNoticed_of_undelayed undelayed broken found
        rw [decide_eq_false (Nat.not_le_of_lt behind)] at unnoticed
        rw [Option.map_some, broken, land_of_unnoticed unnoticed]

/-- A resolver has either taken in the whole response to its pass, the answers to all
its calls joined, or it is exactly as it was.  When a resolve succeeds, every resolver
has taken in its response, and the summaries stand in the order of the resolvers.  When
it fails, it fails with the error of one of the passes, and a resolver whose own pass
failed is as it was; if no call takes any time, this is the first pass that fails, the
resolvers before it have taken in their responses, and those after it are as they
were. -/
theorem resolve_takes_whole_responses (resolvers : ResolverSet services counters)
    (network : Network σ services counters) :
    let resolved := resolvers.resolve network
    let calls (index : Nat) (resolver : Resolver services counters) : Calls :=
      resolver.calls (resolvers.networkAt network index)
    (resolved.resolvers.length = resolvers.length ∧
      ∀ (index : Nat) (resolver after : Resolver services counters),
        resolvers[index]? = some resolver → resolved.resolvers[index]? = some after →
          after.pending = resolver.pending ∧
            (after = resolver ∨ ∃ response,
              (calls index resolver).Answered response ∧ after = resolver.absorb response)) ∧
    (∀ stats, resolved.result = .ok stats →
      stats.length = resolvers.length ∧
        ∀ (index : Nat) (resolver : Resolver services counters),
          resolvers[index]? = some resolver → ∃ response,
            (calls index resolver).Answered response ∧
              resolved.resolvers[index]? = some (resolver.absorb response) ∧
                stats[index]? = some (resolver.statsOf response)) ∧
    ∀ error, resolved.result = .error error →
      (∃ (index : Nat) (resolver : Resolver services counters),
        resolvers[index]? = some resolver ∧ (calls index resolver).result = .error error) ∧
      (∀ (index : Nat) (resolver : Resolver services counters) (failure : Error),
        resolvers[index]? = some resolver → (calls index resolver).result = .error failure →
          resolved.resolvers[index]? = some resolver) ∧
      (resolvers.Undelayed network →
        ∃ (first : Nat) (failing : Resolver services counters),
          resolvers[first]? = some failing ∧ (calls first failing).result = .error error ∧
          (∀ (earlier : Nat) (resolver : Resolver services counters), earlier < first →
            resolvers[earlier]? = some resolver → ∃ response,
              (calls earlier resolver).Answered response ∧
                resolved.resolvers[earlier]? = some (resolver.absorb response)) ∧
          ∀ later > first, resolved.resolvers[later]? = resolvers[later]?) := by
  intro resolved calls
  refine ⟨⟨?_, ?_⟩, ?_, ?_⟩
  · simp only [resolved, resolve, List.length_map, List.length_zipIdx, length_launch]
  · intro index resolver after found foundAfter
    rw [getElem?_resolve, found, Option.map_some] at foundAfter
    obtain rfl := Option.some.inj foundAfter
    rcases land_cases (break? (launch resolvers network).1) resolver
      (resolvers.networkAt network index) index with same | ⟨response, answered, same⟩
    · rw [same]
      exact ⟨rfl, Or.inl rfl⟩
    · rw [same]
      exact ⟨Resolver.pending_absorb response resolver, Or.inr ⟨response, answered, rfl⟩⟩
  · intro stats succeeded
    have sound := unbroken_of_ok succeeded
    rcases flightResult_of_sound sound with ⟨summaries, result, length, at?⟩
    rw [succeeded] at result
    obtain rfl := Except.ok.inj result
    refine ⟨length, ?_⟩
    intro index resolver found
    rcases break?_eq_none_iff.mp sound index resolver found with ⟨response, answered⟩
    exact ⟨response, answered, getElem?_resolve_of_sound sound found answered,
      at? index resolver response found answered⟩
  · intro error failed
    rcases exists_break?_of_error failed with ⟨decisive, broken, rfl⟩
    rcases exists_failing_of_break? broken with ⟨failing, found, fails⟩
    refine ⟨⟨decisive.index, failing, found, fails⟩, ?_, ?_⟩
    · intro index resolver failure at? ownFailed
      rw [getElem?_resolve, at?, Option.map_some, land_of_failing ownFailed]
    · intro undelayed
      rcases resolve_of_undelayed undelayed broken with ⟨before, behind⟩
      exact ⟨decisive.index, failing, found, fails, before, behind⟩

/-- Of three resolvers the second one fails, with one of its two calls answered.  The first one
has taken in its response, and the others are as they were. -/
theorem resolve_takes_whole_responses_around_refusal :
    let india : ScriptEntry := { entities := [⟨"isoCode:IN", [⟨[⟨"dcid", "country/IND"⟩]⟩]⟩] }
    let california : ScriptEntry := { entities := [⟨"geoId:06", [⟨[⟨"dcid", "geoId/06"⟩]⟩]⟩] }
    let refusal : ScriptEntry := { mishap := some (.fail (.serverError 503 "overload")) }
    let network := Network.scripted
      ⟨[india, california, india, refusal, india, california], []⟩ 0
    let first := Resolver.twoCodes ["isoCode", "geoId"]
    let second := Resolver.twoCodes ["geoId", "isoCode"]
    let third := Resolver.twoCodes ["isoCode", "geoId", "wikidataId"]
    let resolvers : ResolverSet 1 1 := [first, second, third]
    let resolved := resolvers.resolve network
    resolvers.Undelayed network ∧
      resolved.result = .error (.call (.serverError 503 "overload")) ∧
      resolved.resolvers[0]? =
        some (first.absorb (.entities (india.entities ++ california.entities))) ∧
      resolved.resolvers[1]? = some second ∧ resolved.resolvers[2]? = some third := by
  intro india california refusal network first second third resolvers resolved
  obtain ⟨calls, received, left⟩ := Resolver.launch_twoCodes ["isoCode", "geoId"] india california
    [india, refusal, india, california] [] 0
  obtain ⟨callsSecond, receivedSecond, leftSecond⟩ := Resolver.launch_twoCodes
    ["geoId", "isoCode"] india refusal [india, california] received 2
  have callsThird := (Resolver.launch_twoCodes ["isoCode", "geoId", "wikidataId"] india california
    [] receivedSecond 4).1
  have networkSecond : resolvers.networkAt network 1 = _ := left
  have networkThird : resolvers.networkAt network 2 = _ :=
    (congrArg (fun network => (second.launch network).2) left).trans leftSecond
  rw [← networkSecond] at callsSecond
  rw [← networkThird] at callsThird
  have undelayed : resolvers.Undelayed network := by
    intro index resolver found
    match index, found with
    | 0, found =>
        obtain rfl := Option.some.inj found
        exact calls ▸ Calls.undelayed_scripted rfl rfl
    | 1, found =>
        obtain rfl := Option.some.inj found
        exact callsSecond ▸ Calls.undelayed_scripted rfl rfl
    | 2, found =>
        obtain rfl := Option.some.inj found
        exact callsThird ▸ Calls.undelayed_scripted rfl rfl
  have answered : (first.calls network).Answered
      (.entities (india.entities ++ california.entities)) :=
    calls ▸ Calls.answered_scripted rfl rfl
  have refused : (second.calls (resolvers.networkAt network 1)).result =
      .error (.call (.serverError 503 "overload")) := by
    rw [callsSecond]
    rfl
  have unanswered (response : Response) :
      ¬(second.calls (resolvers.networkAt network 1)).Answered response :=
    fun brought => brought.result_ne_error _ refused
  obtain ⟨-, whole, failing⟩ := resolve_takes_whole_responses resolvers network
  cases result : resolved.result with
  | ok stats =>
      obtain ⟨response, brought, -⟩ := (whole stats result).2 1 second rfl
      exact absurd brought (unanswered response)
  | error error =>
      obtain ⟨index, resolver, found, failed, before, behind⟩ :=
        (failing error result).2.2 undelayed
      have index_eq : index = 1 := by
        rcases Nat.lt_trichotomy index 1 with earlier | same | later
        · obtain rfl : index = 0 := Nat.lt_one_iff.mp earlier
          obtain rfl : first = resolver := Option.some.inj found
          exact absurd failed (answered.result_ne_error error)
        · exact same
        · obtain ⟨response, brought, -⟩ := before 1 second later rfl
          exact absurd brought (unanswered response)
      subst index_eq
      obtain rfl : second = resolver := Option.some.inj found
      obtain ⟨response, brought, taken⟩ := before 0 first Nat.zero_lt_one rfl
      rw [brought.unique answered] at taken
      have kept := (failing error result).2.1 1 second error rfl failed
      have blamed : error = .call (.serverError 503 "overload") :=
        Except.error.inj (failed.symm.trans refused)
      exact ⟨undelayed, congrArg Except.error blamed, taken, kept, behind 2 (by decide)⟩

end ResolverSet

end IdResolution
