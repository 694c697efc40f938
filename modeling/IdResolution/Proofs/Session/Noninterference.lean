import IdResolution.Proofs.Node.Literals
import IdResolution.Proofs.Session.Run

/-!
# Only literals matter

Resolvers look at nodes through the literals of the properties that they inspect, in
submitting and in looking up alike.  Sessions that go through the same actions with nodes
that agree in these literals therefore answer alike, keep alike what they remember and send
the same.  What else there is to a node shows in one place: a warning of a conflict names
the node that it is about.
-/

namespace IdResolution

variable {σ : Type} {services counters : Nat}

/-! ## What is inspected -/

/-- The properties that a resolver looks at. -/
def Resolver.inspected : Resolver services counters → List String
  | .coordinates _ _ => [Vocabulary.latitude, Vocabulary.longitude]
  | .externalIds _ properties _ => properties

/-- The properties that come to be inspected by an action. -/
def Action.inspected : Action services counters → List String
  | .add resolver => resolver.inspected
  | _ => []

/-- The properties that are inspected by the resolvers of a session and by those that are
added in the course of actions. -/
def Session.inspected (start : Session services counters σ)
    (actions : List (Action services counters)) : List String :=
  start.resolvers.flatMap Resolver.inspected ++ actions.flatMap Action.inspected

/-- Actions that are the same but for nodes, which agree in the literals of the given
properties. -/
inductive Action.SameLiterals (properties : List String) :
    Action services counters → Action services counters → Prop where
  | same (action : Action services counters) : SameLiterals properties action action
  | submit (target : Target) {first second : Node}
      (same : first.SameLiterals properties second) :
      SameLiterals properties (.submit target first) (.submit target second)
  | submitAll (target : Target) {first second : List Node}
      (same : List.Forall₂ (Node.SameLiterals properties) first second) :
      SameLiterals properties (.submitAll target first) (.submitAll target second)
  | find (target : Target) {first second : Node}
      (same : first.SameLiterals properties second) :
      SameLiterals properties (.find target first) (.find target second)
  | scan (config : PoolConfig) {first second : List Node}
      (same : List.Forall₂ (Node.SameLiterals properties) first second) :
      SameLiterals properties (.scan config first) (.scan config second)
  | keys (index : Nat) {first second : Node} (same : first.SameLiterals properties second) :
      SameLiterals properties (.keys index first) (.keys index second)

/-! ## What may differ -/

/-- A warning without the name of the node that it is about. -/
def Warning.anonymous : Warning → Warning
  | .conflict _ first conflicting => .conflict "" first conflicting
  | warning => warning

/-- An answer with its warnings anonymous. -/
def Answer.anonymous : Answer → Answer
  | .warnings value => .warnings (value.map Warning.anonymous)
  | answer => answer

/-- Sessions that differ at most in the names of nodes in their logs. -/
structure Session.Matches (first second : Session services counters σ) : Prop where
  network : first.network = second.network
  clients : first.clients = second.clients
  resolvers : first.resolvers = second.resolvers
  log : first.log.map Warning.anonymous = second.log.map Warning.anonymous

/-! ## One resolver -/

theorem Strategy.find_of_keys_eq {κ γ α β : Type} [BEq κ] [Hashable κ] [BEq γ] [Hashable γ]
    {strategy : Strategy κ γ α β} {first second : Node} (memory : Memory κ γ)
    (same : strategy.keys first = strategy.keys second) :
    strategy.find first memory = strategy.find second memory := by
  rw [find, find, same]

namespace Resolver

variable {resolver : Resolver services counters} {first second : Node}

theorem inspected_fresh (resolver : Resolver services counters) :
    resolver.fresh.inspected = resolver.inspected := by
  cases resolver <;> rfl

theorem inspected_congr {one another : Resolver services counters}
    (same : one.fresh = another.fresh) : one.inspected = another.inspected := by
  rw [← inspected_fresh, same, inspected_fresh]

theorem inspected_submit (resolver : Resolver services counters) (node : Node) :
    (resolver.submit node).inspected = resolver.inspected :=
  inspected_congr (resolver.fresh_submit node)

/-- Whatever an action makes of a resolver, it goes on looking at the same properties. -/
theorem Advances.inspected_eq {next : Resolver services counters} {nodes : List Node}
    (advances : resolver.Advances nodes next) : next.inspected = resolver.inspected := by
  cases advances with
  | absorb response => exact inspected_congr (resolver.fresh_absorb response)
  | submit =>
      induction nodes generalizing resolver with
      | nil => rfl
      | cons node rest ih =>
          rw [submitAll, List.foldl_cons, ← submitAll, ih, inspected_submit]

/-- A node is found by its coordinate alone. -/
theorem keys_coordinates_of_sameLiterals
    (same : first.SameLiterals [Vocabulary.latitude, Vocabulary.longitude] second) :
    Strategy.coordinates.keys first = Strategy.coordinates.keys second :=
  congrArg Option.toList same.coordinate?_eq

theorem keys_externalIds_of_sameLiterals {properties : List String}
    (same : first.SameLiterals properties second) :
    (Strategy.externalIds properties).keys first = (Strategy.externalIds properties).keys second :=
  same.identifiers_eq

/-- Nodes with the same literals have the same keys. -/
theorem keys_of_sameLiterals (same : first.SameLiterals resolver.inspected second) :
    resolver.keys first = resolver.keys second := by
  cases resolver with
  | coordinates client memory =>
      exact congrArg (List.map Key.coordinate) (keys_coordinates_of_sameLiterals same)
  | externalIds client properties memory =>
      exact congrArg (List.map Key.identifier) (keys_externalIds_of_sameLiterals same)

theorem submit_of_sameLiterals (same : first.SameLiterals resolver.inspected second) :
    resolver.submit first = resolver.submit second := by
  rw [submit_eq_insertAll, submit_eq_insertAll, keys_of_sameLiterals same]

theorem accepts_of_sameLiterals (same : first.SameLiterals resolver.inspected second) :
    resolver.accepts first = resolver.accepts second := by
  rw [accepts_eq, accepts_eq, keys_of_sameLiterals same]

/-- A node is looked up by its keys; its name only goes into the warning. -/
theorem find_of_sameLiterals (same : first.SameLiterals resolver.inspected second) :
    (resolver.find first).1 = (resolver.find second).1 ∧
      (resolver.find first).2.map Warning.anonymous =
        (resolver.find second).2.map Warning.anonymous := by
  cases resolver with
  | coordinates client memory =>
      rw [find, find, Strategy.find_of_keys_eq memory (keys_coordinates_of_sameLiterals same)]
      exact ⟨rfl, rfl⟩
  | externalIds client properties memory =>
      have sameFound : (Strategy.externalIds properties).find first memory =
          (Strategy.externalIds properties).find second memory :=
        Strategy.find_of_keys_eq memory (keys_externalIds_of_sameLiterals same)
      rw [find, find, sameFound]
      dsimp only
      cases (Strategy.externalIds properties).find second memory <;> exact ⟨rfl, rfl⟩

end Resolver

/-! ## Several resolvers -/

namespace ResolverSet

variable {resolvers : ResolverSet services counters} {properties : List String}
  {first second : Node}

/-- No resolver looks at other properties than the given ones. -/
def InspectsOnly (properties : List String) (resolvers : ResolverSet services counters) : Prop :=
  ∀ resolver ∈ resolvers, resolver.inspected ⊆ properties

theorem InspectsOnly.submit (only : resolvers.InspectsOnly properties) (node : Node) :
    (resolvers.submit node).InspectsOnly properties := by
  intro next listed
  rw [submit_eq_map] at listed
  obtain ⟨resolver, origin, rfl⟩ := List.mem_map.mp listed
  rw [Resolver.inspected_submit]
  exact only resolver origin

theorem submit_of_sameLiterals (only : resolvers.InspectsOnly properties)
    (same : first.SameLiterals properties second) :
    resolvers.submit first = resolvers.submit second := by
  rw [submit_eq_map, submit_eq_map]
  exact List.map_congr_left fun resolver listed =>
    Resolver.submit_of_sameLiterals (same.mono (only resolver listed))

theorem accepts_of_sameLiterals (only : resolvers.InspectsOnly properties)
    (same : first.SameLiterals properties second) :
    resolvers.accepts first = resolvers.accepts second := by
  rw [Bool.eq_iff_iff, accepts_eq_any, accepts_eq_any, List.any_eq_true, List.any_eq_true]
  refine exists_congr fun resolver => and_congr_right fun listed => ?_
  rw [Resolver.accepts_of_sameLiterals (same.mono (only resolver listed))]

theorem find_of_sameLiterals (only : resolvers.InspectsOnly properties)
    (same : first.SameLiterals properties second) :
    (resolvers.find first).1 = (resolvers.find second).1 ∧
      (resolvers.find first).2.map Warning.anonymous =
        (resolvers.find second).2.map Warning.anonymous := by
  induction resolvers with
  | nil => exact ⟨rfl, rfl⟩
  | cons resolver rest ih =>
      obtain ⟨own, ownWarning⟩ :=
        Resolver.find_of_sameLiterals (same.mono (only resolver List.mem_cons_self))
      obtain ⟨others, otherWarnings⟩ :=
        ih fun other listed => only other (List.mem_cons_of_mem resolver listed)
      have ownWarnings : (resolver.find first).2.toList.map Warning.anonymous =
          (resolver.find second).2.toList.map Warning.anonymous := by
        rw [← Option.toList_map, ← Option.toList_map, ownWarning]
      rw [find, find]
      simp only [own]
      cases (resolver.find second).1 with
      | some dcid => exact ⟨rfl, ownWarnings⟩
      | none =>
          refine ⟨others, ?_⟩
          rw [List.map_append, List.map_append, ownWarnings, otherWarnings]

/-- Nodes are submitted and counted by their literals. -/
theorem submitAll_of_sameLiterals (only : resolvers.InspectsOnly properties)
    {firsts seconds : List Node}
    (same : List.Forall₂ (Node.SameLiterals properties) firsts seconds) :
    resolvers.submitAll firsts = resolvers.submitAll seconds := by
  induction same generalizing resolvers with
  | nil => rfl
  | @cons first second firsts seconds same _ ih =>
      change submitAll firsts (resolvers.submit first) = submitAll seconds (resolvers.submit second)
      rw [submit_of_sameLiterals only same]
      exact ih (only.submit second)

theorem countP_accepts_of_sameLiterals (only : resolvers.InspectsOnly properties)
    {firsts seconds : List Node}
    (same : List.Forall₂ (Node.SameLiterals properties) firsts seconds) :
    firsts.countP resolvers.accepts = seconds.countP resolvers.accepts := by
  induction same with
  | nil => rfl
  | cons same _ ih =>
      rw [List.countP_cons, List.countP_cons, ih, accepts_of_sameLiterals only same]

/-- However large its pool, a scan takes nodes by their literals. -/
theorem scan_of_sameLiterals (only : resolvers.InspectsOnly properties) (config : PoolConfig)
    {firsts seconds : List Node}
    (same : List.Forall₂ (Node.SameLiterals properties) firsts seconds) :
    scan config firsts resolvers = scan config seconds resolvers := by
  rw [(scan_eq_submitAll config firsts resolvers).2, (scan_eq_submitAll config seconds resolvers).2,
    submitAll_of_sameLiterals only same, countP_accepts_of_sameLiterals only same,
    same.length_eq]

end ResolverSet

/-! ## A session -/

namespace Session

variable {session first second : Session services counters σ} {properties : List String}

theorem Matches.refl (session : Session services counters σ) : session.Matches session :=
  ⟨rfl, rfl, rfl, rfl⟩

theorem Matches.trans {third : Session services counters σ} (matched : first.Matches second)
    (further : second.Matches third) : first.Matches third :=
  ⟨matched.network.trans further.network, matched.clients.trans further.clients,
    matched.resolvers.trans further.resolvers, matched.log.trans further.log⟩

theorem inspectsOnly_targeted (only : session.resolvers.InspectsOnly properties)
    (target : Target) : (session.targeted target).InspectsOnly properties := by
  cases target with
  | all => exact only
  | one index =>
      intro resolver listed
      exact only resolver (List.mem_of_getElem? (Option.mem_toList.mp listed))

section Properties

variable [Service σ] [Recording σ]

/-- Only an added resolver stands where none stood before. -/
theorem eq_add_of_new {index : Nat} {action : Action services counters}
    {next : Resolver services counters} (beyond : session.resolvers[index]? = none)
    (place : (session.after action).resolvers[index]? = some next) : action = .add next := by
  have unchanged (same : (session.after action).resolvers = session.resolvers) :
      action = .add next := by
    rw [same, beyond] at place
    contradiction
  cases action with
  | submit target node =>
      rw [after, perform, offer_eq, getElem?_modify, beyond] at place
      contradiction
  | submitAll target nodes =>
      rw [after, perform, offerAll_eq, getElem?_foldl_modify, beyond] at place
      contradiction
  | scan config nodes =>
      rw [after, perform] at place
      simp only [(scan_eq_submitAll config nodes session.resolvers).2] at place
      rw [ResolverSet.getElem?_submitAll, beyond] at place
      contradiction
  | resolve target =>
      cases target with
      | all =>
          have gone := session.resolvers.getElem?_resolve session.network index
          rw [beyond] at gone
          exact absurd (place.symm.trans gone) (Option.some_ne_none next)
      | one named =>
          rw [resolvers_resolve_one] at place
          split at place
          · rw [List.getElem?_eq_none_iff] at beyond
            rw [List.getElem?_eq_none (by rwa [List.length_set])] at place
            contradiction
          · rw [beyond] at place
            contradiction
  | add new =>
      rw [List.getElem?_eq_none_iff] at beyond
      have last : [new][index - session.resolvers.length]? = some next :=
        (List.getElem?_append_right beyond).symm.trans place
      rw [List.mem_singleton.mp (List.mem_of_getElem? last)]
  | request client request => cases request <;> exact unchanged rfl
  | call service request => cases request <;> exact unchanged rfl
  | find | name | keys | pending | candidates | resolvedCount | counts | received | warnings
  | describe => exact unchanged rfl

theorem inspectsOnly_after (only : session.resolvers.InspectsOnly properties)
    (action : Action services counters) (listed : action.inspected ⊆ properties) :
    (session.after action).resolvers.InspectsOnly properties := by
  intro next member
  obtain ⟨index, place⟩ := List.mem_iff_getElem?.mp member
  cases found : session.resolvers[index]? with
  | none =>
      obtain rfl := eq_add_of_new found place
      exact listed
  | some resolver =>
      obtain ⟨reached, same, advances⟩ := exists_advance action found
      obtain rfl := Option.some.inj (same.symm.trans place)
      rw [advances.inspected_eq]
      exact only resolver (List.mem_of_getElem? found)

end Properties

/-! ### One action -/

theorem Matches.submitAll (matched : first.Matches second) (target : Target)
    (nodes : List Node) :
    (nodes.foldl (fun session node => session.modify target (Resolver.submit node)) first).Matches
      (nodes.foldl (fun session node => session.modify target (Resolver.submit node)) second) := by
  induction nodes generalizing first second with
  | nil => exact matched
  | cons node rest ih =>
      refine ih ⟨matched.network, matched.clients, ?_, matched.log⟩
      cases target <;> simp only [modify, matched.resolvers]

/-- Sessions that match make the same of the same action. -/
theorem Matches.perform [Service σ] [Recording σ] (matched : first.Matches second)
    (action : Action services counters) :
    (first.perform action).1.anonymous = (second.perform action).1.anonymous ∧
      (first.perform action).2.Matches (second.perform action).2 := by
  obtain ⟨network, clients, resolvers, log⟩ := first
  obtain ⟨otherNetwork, otherClients, otherResolvers, otherLog⟩ := second
  obtain ⟨rfl, rfl, rfl, sameLog⟩ := matched
  have logged (warnings : List Warning) :
      (log ++ warnings).map Warning.anonymous = (otherLog ++ warnings).map Warning.anonymous := by
    rw [List.map_append, List.map_append, sameLog]
  -- Only the logs differ, and what goes on them is the same for both.
  cases action with
  | submitAll target nodes =>
      have together : Session.Matches ⟨network, clients, resolvers, log⟩
          ⟨network, clients, resolvers, otherLog⟩ := ⟨rfl, rfl, rfl, sameLog⟩
      simp only [Session.perform, offerAll_eq]
      refine ⟨?_, together.submitAll target nodes⟩
      cases target <;> rfl
  | find target node => exact ⟨rfl, rfl, rfl, rfl, logged _⟩
  | resolve target => exact ⟨rfl, rfl, rfl, rfl, logged _⟩
  | request client request => cases request <;> exact ⟨rfl, rfl, rfl, rfl, logged _⟩
  | call service request => cases request <;> exact ⟨rfl, rfl, rfl, rfl, sameLog⟩
  | warnings => exact ⟨congrArg Answer.warnings sameLog, rfl, rfl, rfl, rfl⟩
  | submit | scan | add | name | keys | pending | candidates | resolvedCount | counts | received
  | describe => exact ⟨rfl, rfl, rfl, rfl, sameLog⟩

theorem modify_submit_of_sameLiterals (only : session.resolvers.InspectsOnly properties)
    (target : Target) {one another : Node} (same : one.SameLiterals properties another) :
    session.modify target (Resolver.submit one) =
      session.modify target (Resolver.submit another) := by
  have place : (session.modify target (Resolver.submit one)).resolvers =
      (session.modify target (Resolver.submit another)).resolvers := by
    apply List.ext_getElem?
    intro index
    rw [getElem?_modify, getElem?_modify]
    cases found : session.resolvers[index]? with
    | none => rfl
    | some resolver =>
        have submitted : resolver.submit one = resolver.submit another :=
          Resolver.submit_of_sameLiterals (same.mono (only resolver (List.mem_of_getElem? found)))
        cases target.names index
        · rfl
        · exact congrArg some submitted
  simp only [modify] at place ⊢
  rw [place]

theorem foldl_modify_of_sameLiterals [Service σ] [Recording σ]
    (only : session.resolvers.InspectsOnly properties) (target : Target) {ones others : List Node}
    (same : List.Forall₂ (Node.SameLiterals properties) ones others) :
    ones.foldl (fun session node => session.modify target (Resolver.submit node)) session =
      others.foldl (fun session node => session.modify target (Resolver.submit node)) session := by
  induction same generalizing session with
  | nil => rfl
  | @cons one another ones others same _ ih =>
      rw [List.foldl_cons, List.foldl_cons, ← modify_submit_of_sameLiterals only target same]
      have onlyAfter := inspectsOnly_after only (.submit target one) (List.nil_subset properties)
      rw [after, Session.perform, offer_eq] at onlyAfter
      exact ih onlyAfter

/-- A session makes the same of actions that are the same but for what else there is to
nodes. -/
theorem perform_of_sameLiterals [Service σ] [Recording σ]
    (only : session.resolvers.InspectsOnly properties) {one another : Action services counters}
    (same : one.SameLiterals properties another) :
    (session.perform one).1.anonymous = (session.perform another).1.anonymous ∧
      (session.perform one).2.Matches (session.perform another).2 := by
  cases same with
  | same => exact ⟨rfl, .refl _⟩
  | submit target same =>
      rw [perform, perform, offer_eq, offer_eq, modify_submit_of_sameLiterals only target same,
        ResolverSet.accepts_of_sameLiterals (inspectsOnly_targeted only target) same]
      exact ⟨rfl, .refl _⟩
  | submitAll target same =>
      rw [perform, perform, offerAll_eq, offerAll_eq,
        foldl_modify_of_sameLiterals only target same,
        ResolverSet.countP_accepts_of_sameLiterals (inspectsOnly_targeted only target) same]
      exact ⟨rfl, .refl _⟩
  | find target same =>
      obtain ⟨found, warned⟩ :=
        ResolverSet.find_of_sameLiterals (inspectsOnly_targeted only target) same
      refine ⟨congrArg (Answer.anonymous ∘ Answer.dcid) found, rfl, rfl, rfl, ?_⟩
      simp only [perform, List.map_append, warned]
  | scan config same =>
      rw [perform, perform, ResolverSet.scan_of_sameLiterals only config same]
      exact ⟨rfl, .refl _⟩
  | keys index same =>
      refine ⟨?_, .refl _⟩
      simp only [perform, keysAt]
      cases found : session.resolvers[index]? with
      | none => rfl
      | some resolver =>
          have inspected := only resolver (List.mem_of_getElem? found)
          simp only [Resolver.keys_of_sameLiterals (same.mono inspected)]

/-! ### Many actions -/

/-- The answers to actions that are done one after the other. -/
def answers [Service σ] [Recording σ] (start : Session services counters σ) :
    List (Action services counters) → List Answer
  | [] => []
  | action :: rest => (start.perform action).1 :: answers (start.after action) rest

theorem Matches.run [Service σ] [Recording σ] (matched : first.Matches second)
    (only : first.resolvers.InspectsOnly properties) {ones others : List (Action services counters)}
    (listed : ones.flatMap Action.inspected ⊆ properties)
    (same : List.Forall₂ (Action.SameLiterals properties) ones others) :
    (first.answers ones).map Answer.anonymous = (second.answers others).map Answer.anonymous ∧
      (first.run ones).Matches (second.run others) := by
  induction same generalizing first second with
  | nil => exact ⟨rfl, matched⟩
  | @cons one another ones others same _ ih =>
      rw [List.flatMap_cons, List.append_subset] at listed
      obtain ⟨answer, matchedOnce⟩ := perform_of_sameLiterals only same
      obtain ⟨sameAnswer, matchedThen⟩ := matched.perform another
      obtain ⟨answers, reached⟩ := ih (matchedOnce.trans matchedThen)
        (inspectsOnly_after only one listed.1) listed.2
      exact ⟨congrArg₂ List.cons (answer.trans sameAnswer) answers, reached⟩

/-- Two runs of a session that do the same, with nodes that have the same literals in all
properties inspected by its resolvers, give the same answers, make the same of the network
(services may be of any kind, also such as keep every request they get), and leave behind the
same resolvers.  Only the nodes that warnings of a conflict name may differ.  Nodes have the
same literals exactly when their values come from each other by rewording literals and by
adding and leaving out values that identify nothing. -/
theorem only_literals_matter [Service σ] [Recording σ] (start : Session services counters σ)
    {actions others : List (Action services counters)}
    (same : List.Forall₂ (Action.SameLiterals (start.inspected actions)) actions others) :
    ((start.answers actions).map Answer.anonymous =
        (start.answers others).map Answer.anonymous ∧
      (start.run actions).Matches (start.run others)) ∧
    ∀ node other : Node, node.SameLiterals (start.inspected actions) other ↔
      ∀ property ∈ start.inspected actions,
        Value.Reworded (node.values property) (other.values property) := by
  constructor
  · refine (Matches.refl start).run ?_ (List.subset_append_right _ _) same
    intro resolver listed property inspected
    exact List.mem_append_left _ (List.mem_flatMap.mpr ⟨resolver, listed, inspected⟩)
  · intro node other
    exact forall₂_congr fun property _ => Value.reworded_iff.symm

/-- A local id, a date, a blank value and a name beside a code change nothing, and neither do
blanks around it or whether it is a number or a text. -/
theorem only_literals_matter_of_country_code :
    let client : Client 1 1 := { service := 0, counter := 0 }
    let start : Session 1 1 (Logged Tables) :=
      { network := ⟨#v[⟨{ entities := .ofList [("isoCode:40", ["country/AUT"])] }, []⟩], #v[0], 0⟩
        clients := [client]
        resolvers := [.ofCoordinates client, .ofExternalIds client ["isoCode"]] }
    let plain : Node := Node.push {} "isoCode" ⟨.number, "40"⟩
    let ornate : Node := (((Node.push { localId := some "austria" } "isoCode" ⟨.date, "1955"⟩).push
      "isoCode" ⟨.text, "\u2003"⟩).push "isoCode" ⟨.text, "\u00a040 "⟩).push "name" ⟨.text, "Wien"⟩
    let actions (node : Node) : List (Action 1 1) := [.submit .all node, .resolve .all]
    List.Forall₂ (Action.SameLiterals (start.inspected (actions plain)))
        (actions plain) (actions ornate) ∧
      (start.run (actions plain)).network = (start.run (actions ornate)).network ∧
      (start.run (actions plain)).resolvers = (start.run (actions ornate)).resolvers := by
  intro client start plain ornate actions
  have literals : plain.SameLiterals ["latitude", "longitude", "isoCode"] ornate := by
    unfold Node.SameLiterals
    decide +kernel
  have same : List.Forall₂ (Action.SameLiterals (start.inspected (actions plain)))
      (actions plain) (actions ornate) :=
    .cons (.submit .all literals) (.cons (.same _) .nil)
  obtain ⟨⟨-, matched⟩, -⟩ := only_literals_matter start same
  exact ⟨same, matched.network, matched.resolvers⟩

end Session

end IdResolution
