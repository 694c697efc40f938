import IdResolution.Proofs.Resolver.Basic
import IdResolution.Scan
import Mathlib.Data.List.Nodup
import Mathlib.Data.List.Perm.Basic

/-!
# Keys queued one by one

To submit a node is to queue its keys one after the other, resolver by resolver.  The
insertions made into a set may come in any order and from several nodes at a time: each
resolver holds the keys that were inserted for it, and the order shows in the order of
its queue alone.
-/

namespace IdResolution

/-! ## Order among first occurrences -/

theorem nodup_firstOccurrences {α : Type} [BEq α] [LawfulBEq α] (elements : List α) :
    (firstOccurrences elements).Nodup := by
  induction elements using List.reverseRecOn with
  | nil => exact List.nodup_nil
  | append_singleton elements last ih =>
      rw [firstOccurrences_append_singleton]
      split
      · exact ih
      · rename_i absent
        rw [← List.concat_eq_append]
        exact List.Nodup.concat (fun member => absent (List.contains_iff_mem.mpr member)) ih

theorem firstOccurrences_perm {α : Type} [BEq α] [LawfulBEq α] {elements others : List α}
    (perm : elements.Perm others) :
    (firstOccurrences elements).Perm (firstOccurrences others) := by
  rw [List.perm_ext_iff_of_nodup (nodup_firstOccurrences elements)
    (nodup_firstOccurrences others)]
  intro element
  rw [mem_firstOccurrences, mem_firstOccurrences]
  exact perm.mem_iff

/-- The kind of a key. -/
def Key.kind : Key → KeyKind
  | .coordinate _ => .coordinates
  | .identifier _ => .externalIds

namespace Resolver

variable {services counters : Nat}

/-! ## Insertions into a resolver -/

/-- Queue several keys one after the other. -/
def insertAll (keys : List Key) (resolver : Resolver services counters) :
    Resolver services counters :=
  keys.foldl (fun resolver key => resolver.insert key) resolver

theorem insertAll_coordinates (client : Client services counters)
    (memory : Memory Coordinate Coordinate) (places : List Coordinate) :
    (coordinates client memory).insertAll (places.map .coordinate) =
      coordinates client { memory with queue := memory.queue.insertAll places } := by
  induction places generalizing memory with
  | nil => rfl
  | cons place rest ih => exact ih { memory with queue := memory.queue.insert place }

theorem insertAll_externalIds (client : Client services counters) (properties : List String)
    (memory : Memory Identifier String) (ids : List Identifier) :
    (externalIds client properties memory).insertAll (ids.map .identifier) =
      externalIds client properties { memory with queue := memory.queue.insertAll ids } := by
  induction ids generalizing memory with
  | nil => rfl
  | cons id rest ih => exact ih { memory with queue := memory.queue.insert id }

/-- To submit a node is to queue its keys one after the other. -/
theorem submit_eq_insertAll (node : Node) (resolver : Resolver services counters) :
    resolver.submit node = resolver.insertAll (resolver.keys node) := by
  cases resolver with
  | coordinates client memory => exact (insertAll_coordinates client memory _).symm
  | externalIds client properties memory =>
      exact (insertAll_externalIds client properties memory _).symm

@[simp] theorem fresh_insert (key : Key) (resolver : Resolver services counters) :
    (resolver.insert key).fresh = resolver.fresh := by
  cases resolver <;> cases key <;> rfl

@[simp] theorem candidates?_insert (key : Key) (resolver : Resolver services counters)
    (address : Address) :
    (resolver.insert key).candidates? address = resolver.candidates? address := by
  cases resolver <;> cases key <;> rfl

/-- A key of the other kind changes nothing. -/
theorem insert_of_kind_ne {key : Key} {resolver : Resolver services counters}
    (other : key.kind ≠ resolver.kind) : resolver.insert key = resolver := by
  cases resolver <;> cases key <;> first | rfl | exact absurd rfl other

/-- The queue grows at its end. -/
theorem pending_prefix_insert (key : Key) (resolver : Resolver services counters) :
    resolver.pending <+: (resolver.insert key).pending := by
  have grows {κ : Type} [BEq κ] [Hashable κ] (queue : KeyQueue κ) (new : κ) :
      queue.toList <+: (queue.insert new).toList := by
    rw [KeyQueue.toList_insert]
    split
    · exact List.prefix_rfl
    · exact List.prefix_append _ _
  cases resolver with
  | coordinates client memory =>
      cases key with
      | coordinate coordinate => exact (grows memory.queue coordinate).map _
      | identifier identifier => exact List.prefix_rfl
  | externalIds client properties memory =>
      cases key with
      | coordinate coordinate => exact List.prefix_rfl
      | identifier identifier => exact (grows memory.queue identifier).map _

theorem pending_prefix_insertAll (keys : List Key) (resolver : Resolver services counters) :
    resolver.pending <+: (resolver.insertAll keys).pending := by
  induction keys generalizing resolver with
  | nil => exact List.prefix_rfl
  | cons key rest ih => exact (resolver.pending_prefix_insert key).trans (ih _)

/-- An inserted key is queued behind those queued before. -/
theorem FilledWith.insert {resolver : Resolver services counters} {keys : List Key}
    (filled : resolver.FilledWith keys) {key : Key} (kind : key.kind = resolver.kind) :
    (resolver.insert key).FilledWith (keys ++ [key]) := by
  cases resolver with
  | coordinates client memory =>
      rcases filled with ⟨coordinates, rfl, queued⟩
      cases key with
      | identifier identifier => contradiction
      | coordinate coordinate =>
          refine ⟨coordinates ++ [coordinate], ?_, ?_⟩
          · rw [List.map_append, List.map_singleton]
          · rw [queued, KeyQueue.insertAll_append]
            rfl
  | externalIds client properties memory =>
      rcases filled with ⟨identifiers, rfl, queued⟩
      cases key with
      | coordinate coordinate => contradiction
      | identifier identifier =>
          refine ⟨identifiers ++ [identifier], ?_, ?_⟩
          · rw [List.map_append, List.map_singleton]
          · rw [queued, KeyQueue.insertAll_append]
            rfl

@[simp] theorem fresh_insertAll (keys : List Key) (resolver : Resolver services counters) :
    (resolver.insertAll keys).fresh = resolver.fresh := by
  induction keys generalizing resolver with
  | nil => rfl
  | cons key rest ih => exact (ih (resolver.insert key)).trans (fresh_insert key resolver)

@[simp] theorem candidates?_insertAll (keys : List Key)
    (resolver : Resolver services counters) (address : Address) :
    (resolver.insertAll keys).candidates? address = resolver.candidates? address := by
  induction keys generalizing resolver with
  | nil => rfl
  | cons key rest ih =>
      exact (ih (resolver.insert key)).trans (candidates?_insert key resolver address)

/-- Of several keys, those of the right kind are queued behind those queued before. -/
theorem FilledWith.insertAll {resolver : Resolver services counters} {keys : List Key}
    (filled : resolver.FilledWith keys) (new : List Key) :
    (resolver.insertAll new).FilledWith
      (keys ++ new.filter fun key => key.kind = resolver.kind) := by
  induction new generalizing resolver keys with
  | nil =>
      rw [List.filter_nil, List.append_nil]
      exact filled
  | cons key rest ih =>
      have kindKept : (resolver.insert key).kind = resolver.kind := by
        rw [← kind_fresh, fresh_insert, kind_fresh]
      by_cases kind : key.kind = resolver.kind
      · rw [List.filter_cons_of_pos (by simpa using kind), List.append_cons, ← kindKept]
        exact ih (filled.insert kind)
      · rw [List.filter_cons_of_neg (by simpa using kind)]
        rw [Resolver.insertAll, List.foldl_cons, insert_of_kind_ne kind]
        exact ih filled

theorem kind_of_mem_keys {resolver : Resolver services counters} {node : Node} {key : Key}
    (member : key ∈ resolver.keys node) : key.kind = resolver.kind := by
  cases resolver with
  | coordinates client memory =>
      rcases List.mem_map.mp member with ⟨coordinate, -, rfl⟩
      rfl
  | externalIds client properties memory =>
      rcases List.mem_map.mp member with ⟨identifier, -, rfl⟩
      rfl

/-- Keys of the right kind are queued once they have been inserted. -/
theorem FilledWith.mem_pending_insertAll {resolver : Resolver services counters}
    {keys new : List Key} (filled : resolver.FilledWith keys) {key : Key}
    (kind : key.kind = resolver.kind) (member : key ∈ new) :
    key ∈ (resolver.insertAll new).pending := by
  rw [(filled.insertAll new).pending_eq, mem_firstOccurrences, List.mem_append]
  exact Or.inr (List.mem_filter.mpr ⟨member, decide_eq_true kind⟩)

theorem FilledWith.nodup_pending {resolver : Resolver services counters} {keys : List Key}
    (filled : resolver.FilledWith keys) : resolver.pending.Nodup := by
  rw [filled.pending_eq]
  exact nodup_firstOccurrences keys

/-- The order of insertions shows in the order of the queue alone. -/
theorem FilledWith.pending_insertAll_perm {resolver : Resolver services counters}
    {keys new others : List Key} (filled : resolver.FilledWith keys)
    (perm : new.Perm others) :
    (resolver.insertAll new).pending.Perm (resolver.insertAll others).pending := by
  rw [(filled.insertAll new).pending_eq, (filled.insertAll others).pending_eq]
  exact firstOccurrences_perm ((perm.filter _).append_left keys)

end Resolver

/-! ## Insertions into a set -/

namespace ResolverSet

variable {services counters : Nat}

/-- The keys among insertions that are meant for the resolver at a position. -/
def keysFor (index : Nat) (insertions : List Insertion) : List Key :=
  insertions.filterMap fun insertion => if insertion.1 = index then some insertion.2 else none

/-- Make several insertions one after the other. -/
def insertAll (insertions : List Insertion) (resolvers : ResolverSet services counters) :
    ResolverSet services counters :=
  insertions.foldl (fun resolvers insertion => resolvers.insert insertion) resolvers

/-- Submit several nodes one after the other. -/
def submitAll (nodes : List Node) (resolvers : ResolverSet services counters) :
    ResolverSet services counters :=
  nodes.foldl (fun resolvers node => resolvers.submit node) resolvers

theorem insertAll_append (insertions others : List Insertion)
    (resolvers : ResolverSet services counters) :
    resolvers.insertAll (insertions ++ others) =
      (resolvers.insertAll insertions).insertAll others :=
  List.foldl_append

theorem keysFor_append (index : Nat) (insertions others : List Insertion) :
    keysFor index (insertions ++ others) = keysFor index insertions ++ keysFor index others :=
  List.filterMap_append

@[simp] theorem mem_keysFor {index : Nat} {insertions : List Insertion} {key : Key} :
    key ∈ keysFor index insertions ↔ (index, key) ∈ insertions := by
  rw [keysFor, List.mem_filterMap]
  constructor
  · rintro ⟨⟨position, inserted⟩, member, selected⟩
    rw [Option.ite_none_right_eq_some] at selected
    rcases selected with ⟨rfl, same⟩
    cases same
    exact member
  · intro member
    exact ⟨(index, key), member, if_pos rfl⟩

theorem keysFor_map_mk (index position : Nat) (keys : List Key) :
    keysFor index (keys.map (position, ·)) = if position = index then keys else [] := by
  rw [keysFor, List.filterMap_map]
  split
  · rename_i same
    simp [same]
  · rename_i other
    simp [other]

theorem insertions_append_singleton (node : Node) (resolvers : ResolverSet services counters)
    (last : Resolver services counters) :
    insertions node (resolvers ++ [last]) =
      insertions node resolvers ++ (last.keys node).map (resolvers.length, ·) := by
  simp [insertions, List.zipIdx_append]

/-- A node's insertions for the resolver at a position are its keys for this resolver. -/
theorem keysFor_insertions (node : Node) (resolvers : ResolverSet services counters)
    (index : Nat) :
    keysFor index (resolvers.insertions node) =
      (resolvers[index]?.map (Resolver.keys node)).getD [] := by
  induction resolvers using List.reverseRecOn with
  | nil => rfl
  | append_singleton resolvers last ih =>
      rw [insertions_append_singleton, keysFor_append, ih, keysFor_map_mk]
      rcases Nat.lt_trichotomy index resolvers.length with before | same | behind
      · rw [List.getElem?_append_left before, if_neg (Nat.ne_of_gt before), List.append_nil]
      · subst same
        simp
      · have outside : resolvers[index]? = none :=
          List.getElem?_eq_none (Nat.le_of_lt behind)
        have stillOutside : (resolvers ++ [last])[index]? = none := by
          apply List.getElem?_eq_none
          rw [List.length_append, List.length_singleton]
          exact behind
        rw [if_neg (Nat.ne_of_lt behind), outside, stillOutside, List.append_nil]

theorem mem_insertions_of_mem_keys {resolvers : ResolverSet services counters} {index : Nat}
    {resolver : Resolver services counters} (found : resolvers[index]? = some resolver)
    {node : Node} {key : Key} (member : key ∈ resolver.keys node) :
    (index, key) ∈ resolvers.insertions node := by
  rw [← mem_keysFor, keysFor_insertions, found]
  exact member

/-- Each resolver gets the keys that are meant for it. -/
theorem getElem?_insertAll (insertions : List Insertion)
    (resolvers : ResolverSet services counters) (index : Nat) :
    (resolvers.insertAll insertions)[index]? =
      resolvers[index]?.map (Resolver.insertAll (keysFor index insertions)) := by
  induction insertions generalizing resolvers with
  | nil =>
      rw [insertAll, List.foldl_nil]
      cases resolvers[index]? <;> rfl
  | cons insertion rest ih =>
      have step : resolvers.insertAll (insertion :: rest) =
          (resolvers.insert insertion).insertAll rest := rfl
      rw [step, ih, insert, List.getElem?_modify]
      cases resolvers[index]? with
      | none => rfl
      | some resolver =>
          by_cases meant : insertion.1 = index
          · simp only [Option.map_eq_map, Option.map_some, if_pos meant, keysFor,
              List.filterMap_cons]
            rfl
          · simp only [Option.map_eq_map, Option.map_some, if_neg meant, keysFor,
              List.filterMap_cons]

/-- What insertions queue in a resolver that has seen nothing are the keys that are meant
for it, each once, in the order in which they were inserted first. -/
theorem pending_insertAll_of_fresh {resolvers : ResolverSet services counters} {index : Nat}
    {resolver : Resolver services counters} (found : resolvers[index]? = some resolver.fresh)
    (insertions : List Insertion) :
    (resolvers.insertAll insertions)[index]?.map Resolver.pending =
      some (firstOccurrences
        ((keysFor index insertions).filter fun key => key.kind = resolver.kind)) := by
  rw [getElem?_insertAll, found, ← resolver.kind_fresh]
  exact congrArg some ((Resolver.filledWith_fresh resolver).insertAll _).pending_eq

/-- To submit a node is to make its insertions. -/
theorem submit_eq_insertAll (node : Node) (resolvers : ResolverSet services counters) :
    resolvers.submit node = resolvers.insertAll (resolvers.insertions node) := by
  apply List.ext_getElem?
  intro index
  rw [getElem?_insertAll, keysFor_insertions, submit_eq_map, List.getElem?_map]
  cases resolvers[index]? with
  | none => rfl
  | some resolver => exact congrArg some (resolver.submit_eq_insertAll node)

/-! ## What insertions leave alone -/

theorem map_fresh_insertAll (insertions : List Insertion)
    (resolvers : ResolverSet services counters) :
    (resolvers.insertAll insertions).map Resolver.fresh = resolvers.map Resolver.fresh := by
  apply List.ext_getElem?
  intro index
  rw [List.getElem?_map, getElem?_insertAll, List.getElem?_map]
  cases resolvers[index]? <;> simp

/-- The insertions of a node depend on what the resolvers are, not on what they
remember. -/
theorem insertions_congr {resolvers others : ResolverSet services counters}
    (same : resolvers.map Resolver.fresh = others.map Resolver.fresh) (node : Node) :
    resolvers.insertions node = others.insertions node := by
  have forgetful (set : ResolverSet services counters) :
      set.insertions node = insertions node (set.map Resolver.fresh) := by
    simp [insertions, List.zipIdx_map, List.flatMap_map]
  rw [forgetful resolvers, forgetful others, same]

theorem accepts_congr {resolvers others : ResolverSet services counters}
    (same : resolvers.map Resolver.fresh = others.map Resolver.fresh) (node : Node) :
    resolvers.accepts node = others.accepts node := by
  have forgetful (set : ResolverSet services counters) :
      set.accepts node = accepts node (set.map Resolver.fresh) := by
    rw [accepts_eq_any, accepts_eq_any, List.any_map]
    congr 1
    funext resolver
    rw [Function.comp_apply, Resolver.accepts_eq, Resolver.accepts_eq, Resolver.keys_fresh]
  rw [forgetful resolvers, forgetful others, same]

@[simp] theorem insertions_insertAll (insertions : List Insertion)
    (resolvers : ResolverSet services counters) (node : Node) :
    (resolvers.insertAll insertions).insertions node = resolvers.insertions node :=
  insertions_congr (map_fresh_insertAll insertions resolvers) node

@[simp] theorem insertions_insert (insertion : Insertion)
    (resolvers : ResolverSet services counters) (node : Node) :
    (resolvers.insert insertion).insertions node = resolvers.insertions node :=
  insertions_insertAll [insertion] resolvers node

@[simp] theorem accepts_insertAll (insertions : List Insertion)
    (resolvers : ResolverSet services counters) (node : Node) :
    (resolvers.insertAll insertions).accepts node = resolvers.accepts node :=
  accepts_congr (map_fresh_insertAll insertions resolvers) node

/-- To submit nodes is to make the insertions of each in turn. -/
theorem submitAll_eq_insertAll (nodes : List Node)
    (resolvers : ResolverSet services counters) :
    resolvers.submitAll nodes =
      resolvers.insertAll (nodes.flatMap resolvers.insertions) := by
  induction nodes using List.reverseRecOn with
  | nil => rfl
  | append_singleton nodes last ih =>
      have step : resolvers.submitAll (nodes ++ [last]) =
          (resolvers.submitAll nodes).submit last := List.foldl_append
      rw [List.flatMap_append, List.flatMap_singleton, insertAll_append]
      rw [step, submit_eq_insertAll, ih, insertions_insertAll]

end ResolverSet

end IdResolution
