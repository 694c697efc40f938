import IdResolution.Client.Partition
import Mathlib.Algebra.Order.Floor.Div

/-!
# The chunks of a partition

A partition cuts a list without loss: its chunks, joined in order, are the list
again.  What is true of every item of a list is therefore true of every item of
every chunk, and the other way round.  There are as many chunks as the number of
items needs.  All chunks but the last are full, and no other cut of the list into
chunks that are not empty has this property.
-/

namespace IdResolution

variable {α : Type}

/-- The chunks of a list, joined in order, are the list. -/
@[simp] theorem flatten_partition (size : Nat) (items : List α) :
    (partition size items).flatten = items := by
  fun_induction partition size items with
  | case1 => rfl
  | case2 item rest ih => rw [List.flatten_cons, ih, List.take_append_drop]

/-- The items of a list are those of its chunks. -/
theorem mem_partition_iff (size : Nat) {items : List α} {item : α} :
    (∃ chunk ∈ partition size items, item ∈ chunk) ↔ item ∈ items := by
  rw [← List.mem_flatten, flatten_partition]

/-! ## Step by step -/

/-- A list that is not empty is cut behind its first chunk, and what is left is cut in the
same way.  A size of zero counts as one, so that less is left each time. -/
theorem partition_of_ne_nil (size : Nat) {items : List α} (nonempty : items ≠ []) :
    partition size items =
      items.take (max size 1) :: partition size (items.drop (max size 1)) := by
  obtain ⟨item, rest, rfl⟩ := List.exists_cons_of_ne_nil nonempty
  rw [partition]

/-- A size of zero counts as one. -/
theorem partition_max (size : Nat) (items : List α) :
    partition (max size 1) items = partition size items := by
  have counted : max (max size 1) 1 = max size 1 := by omega
  fun_induction partition size items with
  | case1 => rw [partition]
  | case2 item rest ih => rw [partition, counted, ih]

/-- A list that fits in one chunk is that chunk. -/
theorem partition_of_length_le {size : Nat} {items : List α} (nonempty : items ≠ [])
    (fits : items.length ≤ size) : partition size items = [items] := by
  have counted : items.length ≤ max size 1 := le_max_of_le_left fits
  rw [partition_of_ne_nil size nonempty, List.take_of_length_le counted,
    List.drop_of_length_le counted, partition]

/-! ## The number of chunks -/

/-- A list has as many chunks as its length needs. -/
theorem length_partition {size : Nat} (positive : 0 < size) (items : List α) :
    (partition size items).length = chunkCount size items.length := by
  have counted : max size 1 = size := max_eq_left positive
  fun_induction partition size items with
  | case1 =>
      rw [List.length_nil, List.length_nil, chunkCount, Nat.zero_add]
      exact (Nat.div_eq_of_lt (Nat.sub_lt positive Nat.one_pos)).symm
  | case2 item rest ih =>
      rw [List.length_cons, ih, counted, List.length_drop, chunkCount, chunkCount]
      have some : 0 < (item :: rest).length := Nat.succ_pos rest.length
      generalize (item :: rest).length = count at some ⊢
      by_cases short : count ≤ size
      · have none : (count - size + size - 1) / size = 0 := Nat.div_eq_of_lt (by omega)
        have one : (count + size - 1) / size = 1 :=
          Nat.div_eq_of_lt_le (by omega) (by omega)
        rw [none, one]
      · have fewer : count - size + size - 1 = count - 1 := by omega
        have all : count + size - 1 = count - 1 + size := by omega
        rw [fewer, all, Nat.add_div_right (count - 1) positive]

theorem chunkCount_eq_ceilDiv (size count : Nat) :
    chunkCount size count = count ⌈/⌉ size :=
  (Nat.ceilDiv_eq_add_pred_div count size).symm

/-! ## The only cut -/

/-- Chunks make up a list: joined in order they are the list, none of them is empty, all
but the last have the given size, and the last has at most that. -/
structure CutOf (size : Nat) (items : List α) (chunks : List (List α)) : Prop where
  joined : chunks.flatten = items
  nonempty : ∀ chunk ∈ chunks, chunk ≠ []
  full : ∀ chunk ∈ chunks.dropLast, chunk.length = size
  short : ∀ chunk ∈ chunks.getLast?, chunk.length ≤ size

namespace CutOf

variable {size : Nat} {items : List α} {chunk : List α} {chunks : List (List α)}

theorem eq_nil_iff (cut : CutOf size items chunks) : chunks = [] ↔ items = [] := by
  constructor
  · rintro rfl
    exact cut.joined.symm
  · rintro rfl
    cases chunks with
    | nil => rfl
    | cons first rest =>
        have empty : first = [] := List.flatten_eq_nil_iff.mp cut.joined first List.mem_cons_self
        exact absurd empty (cut.nonempty first List.mem_cons_self)

/-- The first chunk takes what fits from the front of the list, and the others make up
what is left. -/
theorem uncons (cut : CutOf size items (chunk :: chunks)) :
    chunk = items.take size ∧ CutOf size (items.drop size) chunks := by
  have split := cut.joined
  rw [List.flatten_cons] at split
  cases chunks with
  | nil =>
      have fits : chunk.length ≤ size := cut.short chunk rfl
      rw [List.flatten_nil, List.append_nil] at split
      rw [← split, List.take_of_length_le fits, List.drop_of_length_le fits]
      exact ⟨rfl, rfl, by simp, by simp, by simp⟩
  | cons next others =>
      have filled : chunk.length = size := cut.full chunk List.mem_cons_self
      rw [← split, List.take_left' filled, List.drop_left' filled]
      refine ⟨rfl, rfl, ?_, ?_, ?_⟩
      · intro other listed
        exact cut.nonempty other (List.mem_cons_of_mem chunk listed)
      · intro other listed
        exact cut.full other (List.mem_cons_of_mem chunk listed)
      · intro other last
        exact cut.short other (by rwa [List.getLast?_cons_cons])

/-- A list has no two cuts into chunks of one size. -/
theorem unique {others : List (List α)} (cut : CutOf size items chunks)
    (cutOthers : CutOf size items others) : chunks = others := by
  induction chunks generalizing items others with
  | nil => exact (cutOthers.eq_nil_iff.mpr (cut.eq_nil_iff.mp rfl)).symm
  | cons chunk chunks ih =>
      cases others with
      | nil => exact absurd (cut.eq_nil_iff.mpr (cutOthers.eq_nil_iff.mp rfl)) (by simp)
      | cons other others =>
          obtain ⟨first, rest⟩ := cut.uncons
          obtain ⟨firstOther, restOthers⟩ := cutOthers.uncons
          rw [first, firstOther, ih rest restOthers]

/-- To a cut of what is left behind the front of a list, the front is one more chunk. -/
theorem cons (positive : 0 < size) (nonempty : items ≠ [])
    (cut : CutOf size (items.drop size) chunks) :
    CutOf size items (items.take size :: chunks) := by
  have front : (items.take size).length ≤ size := List.length_take_le size items
  refine ⟨?_, ?_, ?_, ?_⟩
  · rw [List.flatten_cons, cut.joined, List.take_append_drop]
  · rw [List.forall_mem_cons]
    refine ⟨?_, cut.nonempty⟩
    rw [Ne, List.take_eq_nil_iff]
    simp [nonempty, positive.ne']
  · cases chunks with
    | nil => simp
    | cons next others =>
        rw [List.dropLast_cons_cons, List.forall_mem_cons]
        refine ⟨?_, cut.full⟩
        -- Something is left behind the front, so that the front is full.
        have left : items.drop size ≠ [] := by
          rw [Ne, ← cut.eq_nil_iff]
          exact List.cons_ne_nil next others
        rw [Ne, List.drop_eq_nil_iff] at left
        exact List.length_take_of_le (by omega)
  · cases chunks with
    | nil =>
        intro last found
        obtain rfl := Option.some.inj found
        exact front
    | cons next others =>
        rw [List.getLast?_cons_cons]
        exact cut.short

end CutOf

/-- A partition is such a cut: the step behind the first chunk leaves less of the list, and
an empty list has no chunks. -/
theorem cutOf_partition (size : Nat) (items : List α) :
    CutOf (max size 1) items (partition size items) := by
  by_cases empty : items = []
  · rw [empty, partition]
    exact ⟨rfl, by simp, by simp, by simp⟩
  · rw [partition_of_ne_nil size empty]
    exact (cutOf_partition size (items.drop (max size 1))).cons (by omega) empty
termination_by items.length
decreasing_by
  have positive := List.length_pos_iff.mpr empty
  rw [List.length_drop]
  omega

/-- A list is partitioned into chunks that make it up, of which all but the last are full and
none is empty, and this is the only such cut.  Its number of chunks is the length of the list
over the size, rounded up.  A size of zero counts as one. -/
theorem partition_is_only_cut (size : Nat) (items : List α) :
    (∀ chunks, CutOf (max size 1) items chunks ↔ chunks = partition size items) ∧
      (partition size items).length = items.length ⌈/⌉ max size 1 := by
  constructor
  · intro chunks
    constructor
    · intro cut
      exact cut.unique (cutOf_partition size items)
    · rintro rfl
      exact cutOf_partition size items
  · rw [← partition_max, length_partition (by omega), chunkCount_eq_ceilDiv]

end IdResolution
