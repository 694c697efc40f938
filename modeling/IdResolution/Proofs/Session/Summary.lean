import IdResolution.Proofs.Key.SourceId
import IdResolution.Proofs.Resolver.Response
import IdResolution.Proofs.Session.Memory
import IdResolution.Service.Script

/-!
# What the summary of a pass says

The summary of a pass counts the keys that were sent and, as resolved, the entries of the
response that name a candidate.  An entry that repeats an address or answers one that was
not asked for is counted like any other.  A summary therefore tells how many keys received
a candidate when the service names candidates for no address twice, and only for
addresses of queued keys; as long as queued keys have different addresses it tells so in
no other case.  Services in memory answer every key by an entry of its own and are
summed up rightly.
-/

namespace IdResolution

/-- The number of elements equals the number of listed elements among them when none occurs
twice and all are listed. -/
theorem length_eq_length_filter_iff {α : Type} [DecidableEq α] {elements listed : List α}
    (distinct : listed.Nodup) :
    elements.length = (listed.filter (elements.contains ·)).length ↔
      elements.Nodup ∧ elements ⊆ listed := by
  have occurring : (listed.filter (elements.contains ·)).Nodup := distinct.filter _
  constructor
  · intro same
    have within : listed.filter (elements.contains ·) ⊆ elements := by
      intro element member
      exact List.contains_iff_mem.mp (List.mem_filter.mp member).2
    have reordered : (listed.filter (elements.contains ·)).Perm elements :=
      (List.subperm_of_subset occurring within).perm_of_length_le same.le
    refine ⟨reordered.nodup_iff.mp occurring, fun element member => ?_⟩
    exact (List.mem_filter.mp (reordered.mem_iff.mpr member)).1
  · intro ⟨once, within⟩
    apply List.Perm.length_eq
    rw [List.perm_ext_iff_of_nodup once occurring]
    intro element
    rw [List.mem_filter, List.contains_iff_mem]
    exact ⟨fun member => ⟨within member, member⟩, And.right⟩

namespace Response

/-- The addresses of the entries that name a candidate, one for each entry. -/
def named (response : Response) : List Address :=
  (response.entries.filter fun entry => !entry.2.isEmpty).map Prod.fst

/-- Whether a key receives a candidate. -/
def reaches (response : Response) (key : Key) : Bool :=
  response.named.contains key.address

end Response

variable {services counters : Nat}

/-- A summary tells how many keys were sent, how many of them received a candidate, and how
many did not. -/
structure Stats.Truthful (stats : Stats) (resolver : Resolver services counters)
    (response : Response) : Prop where
  sent : stats.keysSent = resolver.pending.length
  resolved : stats.keysResolved = resolver.pending.countP response.reaches
  unresolved : stats.keysUnresolved = resolver.pending.countP fun key => !response.reaches key

namespace Resolver

/-- Entries with a candidate are what is counted as resolved. -/
theorem keysResolved_statsOf (resolver : Resolver services counters) (response : Response) :
    (resolver.statsOf response).keysResolved = response.named.length := by
  rw [statsOf, storedCount, List.countP_eq_length_filter, Response.named, List.length_map]

/-- A summary is truthful when it counts the keys that receive a candidate. -/
theorem truthful_statsOf_iff {resolver : Resolver services counters} {response : Response} :
    (resolver.statsOf response).Truthful resolver response ↔
      response.named.length = resolver.pending.countP response.reaches := by
  rw [← keysResolved_statsOf resolver]
  refine ⟨Stats.Truthful.resolved, fun resolved => ⟨rfl, resolved, ?_⟩⟩
  have total : resolver.pending.length = resolver.pending.countP response.reaches +
      resolver.pending.countP fun key => !response.reaches key := by
    rw [List.length_eq_countP_add_countP (p := response.reaches)]
    simp
  rw [Stats.keysUnresolved, resolved]
  exact Nat.sub_eq_of_eq_add' total

/-- When the queued keys have different addresses, a summary is truthful exactly if
candidates are named for no address twice and for addresses of queued keys only. -/
theorem truthful_iff_of_distinct {resolver : Resolver services counters}
    (distinct : (resolver.pending.map Key.address).Nodup) {response : Response} :
    (resolver.statsOf response).Truthful resolver response ↔
      response.named.Nodup ∧ response.named ⊆ resolver.pending.map Key.address := by
  rw [truthful_statsOf_iff, ← length_eq_length_filter_iff distinct, List.filter_map,
    List.length_map, List.countP_eq_length_filter]
  rfl

/-- Addresses tell the keys of a resolver apart: those that are identifiers have separable
properties. -/
def Distinguishes : Resolver services counters → Prop
  | .coordinates _ _ => True
  | .externalIds _ properties _ => Separable properties

/-- The keys that a resolver with distinguishing addresses finds on nodes have different
addresses. -/
theorem Distinguishes.address_inj {resolver : Resolver services counters}
    (distinguishes : resolver.Distinguishes) {node other : Node} {first second : Key}
    (member : first ∈ resolver.keys node) (otherMember : second ∈ resolver.keys other)
    (same : first.address = second.address) : first = second := by
  cases resolver with
  | coordinates client memory =>
      obtain ⟨coordinate, -, rfl⟩ := List.mem_map.mp member
      obtain ⟨otherCoordinate, -, rfl⟩ := List.mem_map.mp otherMember
      exact congrArg Key.coordinate (Address.coordinate.inj same)
  | externalIds client properties memory =>
      obtain ⟨identifier, carried, rfl⟩ := List.mem_map.mp member
      obtain ⟨otherIdentifier, otherCarried, rfl⟩ := List.mem_map.mp otherMember
      exact congrArg Key.identifier (separable_iff_sourceId_injective.mp distinguishes
        identifier otherIdentifier ⟨node, carried⟩ ⟨other, otherCarried⟩
        (Address.sourceId.inj same))

namespace Descends

variable {origin resolver : Resolver services counters} {submitted : List Node}

theorem nodup_pending (descends : origin.Descends submitted resolver) :
    resolver.pending.Nodup := by
  rw [descends.filled.pending_eq]
  exact nodup_firstOccurrences _

/-- The queued keys have different addresses when addresses tell keys apart. -/
theorem nodup_addresses (descends : origin.Descends submitted resolver)
    (distinguishes : origin.Distinguishes) : (resolver.pending.map Key.address).Nodup := by
  refine descends.nodup_pending.map_on fun first queued second queuedSecond same => ?_
  rw [descends.filled.pending_eq, mem_firstOccurrences, List.mem_flatMap] at queued queuedSecond
  obtain ⟨node, -, member⟩ := queued
  obtain ⟨other, -, otherMember⟩ := queuedSecond
  exact distinguishes.address_inj member otherMember same

end Descends

/-- Services in memory name candidates for the queued keys that are registered. -/
theorem named_answerOn {τ : Type} [Service τ] [InMemory τ]
    (resolver : Resolver services counters) (network : Network τ services counters) :
    (resolver.answerOn network).named = (resolver.pending.filter fun key =>
      !((resolver.tablesOn network).registered key.address).isEmpty).map Key.address := by
  rw [Response.named, answerOn, entries_responseFrom, List.filter_map, List.map_map]
  rfl

/-- Services in memory answer every key by an entry of its own, so that the summary is
truthful. -/
theorem truthful_answerOn {τ : Type} [Service τ] [InMemory τ]
    (resolver : Resolver services counters) (network : Network τ services counters) :
    (resolver.statsOf (resolver.answerOn network)).Truthful resolver
      (resolver.answerOn network) := by
  let tables := resolver.tablesOn network
  let known (key : Key) : Bool := !(tables.registered key.address).isEmpty
  have named : (resolver.answerOn network).named =
      (resolver.pending.filter known).map Key.address := resolver.named_answerOn network
  have reaches : ∀ key ∈ resolver.pending,
      (resolver.answerOn network).reaches key = known key := by
    intro key queued
    rw [Response.reaches, named, Bool.eq_iff_iff, List.contains_iff_mem, List.mem_map]
    constructor
    · rintro ⟨other, member, same⟩
      have otherKnown : (!(tables.registered other.address).isEmpty) = true :=
        (List.mem_filter.mp member).2
      rwa [same] at otherKnown
    · intro keyKnown
      exact ⟨key, List.mem_filter.mpr ⟨queued, keyKnown⟩, rfl⟩
  rw [truthful_statsOf_iff, named, List.length_map, ← List.countP_eq_length_filter]
  exact (List.countP_congr fun key queued => by rw [reaches key queued]).symm

end Resolver

namespace Session

variable {σ : Type} [Service σ] [Recording σ]

/-- Whatever was done in a session before, and whatever the services answer now: a pass
that succeeds sends the queued keys, and its summary gives their number, and as resolved
the number of entries in the response that name a candidate.  The resolved and the
unresolved keys make up those sent exactly if no more are counted than were sent.  While
addresses tell the queued keys apart, which they do for coordinates and for separable
properties, the summary is truthful exactly if the response names candidates for no address
twice and for none that was not asked for.  The summary of a pass over services in memory
is always truthful. -/
theorem summaries_count_named_entries (start : Session services counters σ) {index : Nat}
    {origin : Resolver services counters}
    (unused : start.resolvers[index]? = some origin.fresh)
    (actions : List (Action services counters)) :
    ∃ resolver, (start.run actions).resolvers[index]? = some resolver ∧
      resolver.pending.Nodup ∧
      (origin.Distinguishes → (resolver.pending.map Key.address).Nodup) ∧
      ∀ {τ : Type} [Service τ] (network : Network τ services counters) (stats : Stats),
        (Deployment.resolve ⟨resolver, network⟩).1 = .ok stats →
          ∃ response, (resolver.calls network).Answered response ∧
            stats.keysSent = resolver.pending.length ∧
            stats.keysResolved = response.named.length ∧
            (stats.keysResolved + stats.keysUnresolved = stats.keysSent ↔
              stats.keysResolved ≤ stats.keysSent) ∧
            ((resolver.pending.map Key.address).Nodup →
              (stats.Truthful resolver response ↔ response.named.Nodup ∧
                response.named ⊆ resolver.pending.map Key.address)) ∧
            ∀ [InMemory τ], stats.Truthful resolver response := by
  obtain ⟨resolver, found, descends⟩ := start.exists_descendant unused actions
  refine ⟨resolver, found, descends.nodup_pending, descends.nodup_addresses, ?_⟩
  intro τ _ network stats succeeded
  obtain ⟨response, answered, rfl⟩ := Deployment.resolve_eq_ok_iff.mp succeeded
  refine ⟨response, answered, rfl, resolver.keysResolved_statsOf response, ?_, ?_, ?_⟩
  · rw [Stats.keysUnresolved]
    omega
  · exact fun distinct => Resolver.truthful_iff_of_distinct distinct
  · intro _
    rw [(Resolver.answered_calls_iff.mp answered).2]
    exact resolver.truthful_answerOn network

/-- After a pass that broke down, a resolver goes on with a service in memory that knows one of
its two keys.  The summary says truthfully that one of them was resolved. -/
theorem summaries_count_named_entries_after_breakdown :
    let client : Client 1 1 := { service := 0, counter := 0 }
    let failing : ScriptService := { script := [{ mishap := some .breakDown }] }
    let start : Session 1 1 :=
      { network := ⟨#v[.script failing], #v[0], 0⟩
        clients := [client]
        resolvers := [.ofExternalIds client ["isoCode"]] }
    let austria : Node := Node.push {} "isoCode" ⟨.text, " AT "⟩
    let india : Node := Node.push {} "isoCode" ⟨.text, "IN"⟩
    let actions := [.submit .all austria, .submit .all india, .resolve .all]
    let tables : Tables := { entities := .ofList [("isoCode:AT", ["country/AUT"])] }
    let network : Network (Logged Tables) 1 1 := ⟨#v[⟨tables, []⟩], #v[0], 0⟩
    start.resolvers[0]? = some (Resolver.ofExternalIds client ["isoCode"]).fresh ∧
      ∃ resolver, (start.run actions).resolvers[0]? = some resolver ∧
        resolver.pending = [.identifier ⟨"isoCode", "AT"⟩, .identifier ⟨"isoCode", "IN"⟩] ∧
        (resolver.pending.map Key.address).Nodup ∧
        ∃ stats response, (Deployment.resolve ⟨resolver, network⟩).1 = .ok stats ∧
          (resolver.calls network).Answered response ∧ stats.Truthful resolver response ∧
          stats.keysSent = 2 ∧ stats.keysResolved = 1 ∧ stats.keysUnresolved = 1 := by
  intro client failing start austria india actions tables network
  let origin : Resolver 1 1 := .ofExternalIds client ["isoCode"]
  have unused : start.resolvers[0]? = some origin.fresh := rfl
  obtain ⟨resolver, found, -, distinct, passes⟩ :=
    summaries_count_named_entries start unused actions
  -- The passes before have left what was submitted in the queue.
  obtain ⟨descendant, foundAgain, descends⟩ := start.exists_descendant unused actions
  obtain rfl : resolver = descendant := Option.some.inj (found.symm.trans foundAgain)
  have pending : resolver.pending =
      [.identifier ⟨"isoCode", "AT"⟩, .identifier ⟨"isoCode", "IN"⟩] := by
    rw [descends.filled.pending_eq]
    decide +kernel
  have asked : resolver.tablesOn network = tables :=
    resolver.tablesOn_congr descends.fresh network
  have answered : (resolver.calls network).Answered (resolver.answerOn network) := by
    rw [Resolver.answered_calls_iff, asked]
    exact ⟨fun key _ => Tables.isFailing_eq_false rfl rfl key.address, rfl⟩
  have named : (resolver.answerOn network).named = [.sourceId "isoCode:AT"] := by
    have registered (sourceId : String) : tables.registered (.sourceId sourceId) =
        if "isoCode:AT" = sourceId then ["country/AUT"] else [] := by
      simp [tables, Tables.registered, Std.HashMap.getD_insert]
    have known : tables.registered (Key.identifier ⟨"isoCode", "AT"⟩).address =
        ["country/AUT"] := (registered _).trans (by decide)
    have unknown : tables.registered (Key.identifier ⟨"isoCode", "IN"⟩).address = [] :=
      (registered _).trans (by decide)
    rw [resolver.named_answerOn, asked, pending, List.filter_cons_of_pos (by simp [known]),
      List.filter_cons_of_neg (by simp [unknown]), List.filter_nil]
    decide
  have succeeded : (Deployment.resolve ⟨resolver, network⟩).1 =
      .ok (resolver.statsOf (resolver.answerOn network)) :=
    Deployment.resolve_eq_ok_iff.mpr ⟨_, answered, rfl⟩
  obtain ⟨response, received, sent, counted, -, -, truthful⟩ := passes network _ succeeded
  obtain rfl : response = resolver.answerOn network :=
    (Resolver.answered_calls_iff.mp received).2
  rw [pending] at sent
  rw [named] at counted
  refine ⟨unused, resolver, found, pending, distinct (separable_of_colonless (by decide)), _, _,
    succeeded, answered, truthful, sent, counted, ?_⟩
  rw [Stats.keysUnresolved, sent, counted]
  rfl

/-- One key is queued, and the service answers it by two entries with a candidate each.  The
summary says that two keys of one were resolved. -/
theorem two_of_one_key_are_resolved :
    let client : Client 1 1 := { service := 0, counter := 0 }
    let key : Coordinate := ⟨Binary64.ofDecimal false 5 (-1), Binary64.ofDecimal false 25 (-2)⟩
    let answer : List PlaceEntry := [⟨key, [⟨"geoId/1"⟩]⟩, ⟨key, [⟨"geoId/2"⟩]⟩]
    let service : ScriptService := { script := [{ places := answer }] }
    let start : Session 1 1 :=
      { network := ⟨#v[.script service], #v[0], 0⟩
        clients := [client]
        resolvers := [.ofCoordinates client] }
    let node : Node :=
      (Node.push {} "latitude" ⟨.number, "0.5"⟩).push "longitude" ⟨.number, "0.25"⟩
    let reached := start.after (.submit .all node)
    ∃ resolver stats, reached.resolvers = [resolver] ∧ resolver.pending = [.coordinate key] ∧
      (reached.perform (.resolve .all)).1 = .resolved (.ok [stats]) ∧
      stats.keysSent = 1 ∧ stats.keysResolved = 2 ∧ stats.keysUnresolved = 0 ∧
      ¬stats.Truthful resolver (.places answer) := by
  intro client key answer service start node reached
  let resolver := (Resolver.ofCoordinates client).submit node
  let asked : Deployment Backend 1 1 := ⟨resolver, start.network⟩
  have keys : Strategy.coordinates.keys node = [key] := by decide +kernel
  have state : resolver = .coordinates client
      { queue := ({} : KeyQueue Coordinate).insertAll [key], cache := {} } := by
    rw [← keys]
    rfl
  have queued : (({} : KeyQueue Coordinate).insertAll [key]).toList = [key] :=
    KeyQueue.toList_insertAll_empty [key]
  have pending : resolver.pending = [.coordinate key] := by
    rw [state, Resolver.pending, queued]
    rfl
  have answered : (resolver.calls start.network).Answered (.places answer) := by
    have chunks : partition client.chunkSize [key] = [[key]] :=
      partition_of_length_le (List.cons_ne_nil key []) (by decide)
    have outcomes : (start.network.request client .coordinates [key]).1.map
        (fun report => report.completion.outcome) = [answer].map .answered := by
      rw [Network.reports_request, callChunked, chunks]
      rfl
    rw [state, Resolver.calls, queued]
    exact .places outcomes
  have summed : asked.resolve.1 = .ok (resolver.statsOf (.places answer)) :=
    Deployment.resolve_eq_ok_iff.mpr ⟨_, answered, rfl⟩
  have sent : (resolver.statsOf (.places answer)).keysSent = 1 := congrArg List.length pending
  have resolved : (resolver.statsOf (.places answer)).keysResolved = 2 := rfl
  refine ⟨resolver, _, rfl, pending, ?_, sent, resolved, ?_, ?_⟩
  · have together := (Deployment.resolve_alone asked).1
    rw [summed] at together
    exact congrArg Answer.resolved together
  · rw [Stats.keysUnresolved, sent, resolved]
  · intro truthful
    have counted := truthful.resolved
    rw [resolved, pending] at counted
    have most := List.countP_le_length (p := (Response.places answer).reaches)
      (l := [Key.coordinate key])
    rw [← counted] at most
    exact absurd most (by decide)

end Session

end IdResolution
