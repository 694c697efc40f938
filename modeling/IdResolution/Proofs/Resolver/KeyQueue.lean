import IdResolution.Proofs.Resolver.Cache
import IdResolution.Resolver.KeyQueue

/-!
# What a queue holds after insertions

In a queue that is built by insertions, the set and the list beside it agree.  The
list holds the inserted keys at their first occurrences.
-/

namespace IdResolution

namespace KeyQueue

variable {κ : Type} [BEq κ] [Hashable κ]

theorem insertAll_append (queue : KeyQueue κ) (keys others : List κ) :
    queue.insertAll (keys ++ others) = (queue.insertAll keys).insertAll others := by
  simp only [insertAll, List.foldl_append]

/-- The set of a queue and its list have the same keys, and the list has each once. -/
structure WellFormed (queue : KeyQueue κ) : Prop where
  contains_iff {key : κ} : queue.contains key = true ↔ key ∈ queue.toList
  nodup : queue.toList.Nodup

theorem wellFormed_empty : ({} : KeyQueue κ).WellFormed where
  contains_iff := by simp [contains]
  nodup := List.nodup_nil

variable [LawfulBEq κ] {queue : KeyQueue κ}

theorem contains_insert (queue : KeyQueue κ) (new key : κ) :
    (queue.insert new).contains key = (new == key || queue.contains key) := by
  unfold insert add
  split
  · rename_i present
    cases same : new == key with
    | false => rfl
    | true =>
        rw [beq_iff_eq] at same
        rw [← same, present]
        rfl
  · exact Std.HashSet.contains_insert

theorem WellFormed.insert (formed : queue.WellFormed) (new : κ) :
    (queue.insert new).WellFormed where
  contains_iff {key} := by
    rw [contains_insert, toList_insert, Bool.or_eq_true, beq_iff_eq, formed.contains_iff]
    split
    · rename_i present
      rw [formed.contains_iff] at present
      constructor
      · intro inserted
        rcases inserted with rfl | member
        · exact present
        · exact member
      · exact Or.inr
    · rw [List.mem_append, List.mem_singleton, or_comm, eq_comm]
  nodup := by
    rw [toList_insert]
    split
    · exact formed.nodup
    · rename_i absent
      rw [formed.contains_iff] at absent
      apply List.nodup_append.mpr
      refine ⟨formed.nodup, List.pairwise_singleton _ new, ?_⟩
      intro key member other otherMember same
      rw [List.mem_singleton] at otherMember
      subst otherMember same
      exact absent member

theorem WellFormed.insertAll (formed : queue.WellFormed) (keys : List κ) :
    (queue.insertAll keys).WellFormed := by
  induction keys generalizing queue with
  | nil => exact formed
  | cons key rest ih => exact ih (formed.insert key)

/-- A queue filled with keys holds them at their first occurrences. -/
@[simp] theorem toList_insertAll_empty (keys : List κ) :
    (({} : KeyQueue κ).insertAll keys).toList = firstOccurrences keys := by
  induction keys using List.reverseRecOn with
  | nil => rfl
  | append_singleton keys last ih =>
      have formed : (({} : KeyQueue κ).insertAll keys).WellFormed :=
        wellFormed_empty.insertAll keys
      have step : ({} : KeyQueue κ).insertAll (keys ++ [last]) =
          (({} : KeyQueue κ).insertAll keys).insert last :=
        insertAll_append {} keys [last]
      rw [step, toList_insert, ih, firstOccurrences_append_singleton, ← ih]
      simp only [formed.contains_iff, List.contains_iff_mem]

end KeyQueue

end IdResolution
