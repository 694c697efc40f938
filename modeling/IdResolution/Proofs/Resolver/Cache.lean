import IdResolution.Resolver.Cache
import Mathlib.Data.List.Basic
import Mathlib.Data.List.Induction

/-!
# What a cache holds after a response

The first occurrences of a list are its elements in order, each once.  After the
entries of a response have been taken in, a key has the first occurrences of the
candidates in the last entry for it that names any, and otherwise what it had.
-/

namespace IdResolution

/-! ## First occurrences -/

section FirstOccurrences

variable {α : Type} [BEq α]

theorem firstOccurrences_append_singleton (elements : List α) (element : α) :
    firstOccurrences (elements ++ [element]) =
      if (firstOccurrences elements).contains element then firstOccurrences elements
      else firstOccurrences elements ++ [element] := by
  rw [firstOccurrences, List.foldl_append]
  rfl

variable [LawfulBEq α]

@[simp] theorem mem_firstOccurrences {elements : List α} {element : α} :
    element ∈ firstOccurrences elements ↔ element ∈ elements := by
  induction elements using List.reverseRecOn with
  | nil => rfl
  | append_singleton elements last ih =>
      rw [firstOccurrences_append_singleton, List.mem_append, List.mem_singleton]
      split
      · rename_i present
        rw [ih]
        constructor
        · exact Or.inl
        · intro listed
          rcases listed with member | rfl
          · exact member
          · exact ih.mp (List.contains_iff_mem.mp present)
      · rw [List.mem_append, List.mem_singleton, ih]

/-- First occurrences are what is left when later repetitions are erased. -/
theorem firstOccurrences_eq_eraseDups (elements : List α) :
    firstOccurrences elements = elements.eraseDups := by
  induction elements using List.reverseRecOn with
  | nil => rfl
  | append_singleton elements last ih =>
      rw [firstOccurrences_append_singleton, List.eraseDups_append, ih]
      by_cases present : last ∈ elements
      · have erased : [last].removeAll elements = [] := by
          simp [List.removeAll, present]
        rw [erased, if_pos (by simpa using present), List.eraseDups_nil, List.append_nil]
      · have kept : [last].removeAll elements = [last] := by
          simp [List.removeAll, present]
        rw [kept, if_neg (by simpa using present)]
        rfl

@[simp] theorem firstOccurrences_eq_nil_iff {elements : List α} :
    firstOccurrences elements = [] ↔ elements = [] := by
  simp only [List.eq_nil_iff_forall_not_mem, mem_firstOccurrences]

/-- The first element is the first of the first occurrences. -/
@[simp] theorem head?_firstOccurrences (elements : List α) :
    (firstOccurrences elements).head? = elements.head? := by
  cases elements with
  | nil => rfl
  | cons element rest =>
      rw [firstOccurrences_eq_eraseDups, List.eraseDups_cons]
      rfl

variable {β : Type} [BEq β] [LawfulBEq β] {image : α → β}

theorem contains_map_of_injective (injective : Function.Injective image)
    (elements : List α) (element : α) :
    (elements.map image).contains (image element) = elements.contains element := by
  rw [Bool.eq_iff_iff, List.contains_iff_mem, List.contains_iff_mem]
  exact List.mem_map_of_injective injective

/-- An injective image keeps first occurrences apart. -/
theorem firstOccurrences_map (injective : Function.Injective image) (elements : List α) :
    firstOccurrences (elements.map image) = (firstOccurrences elements).map image := by
  induction elements using List.reverseRecOn with
  | nil => rfl
  | append_singleton elements last ih =>
      rw [List.map_append, List.map_cons, List.map_nil]
      rw [firstOccurrences_append_singleton, firstOccurrences_append_singleton, ih]
      rw [contains_map_of_injective injective]
      split
      · rfl
      · rw [List.map_append, List.map_cons, List.map_nil]

end FirstOccurrences

/-! ## Entries taken in -/

/-- The number of entries with a candidate adds up over the parts of a response. -/
theorem storedCount_append {γ : Type} (entries others : List (γ × List String)) :
    storedCount (entries ++ others) = storedCount entries + storedCount others :=
  List.countP_append

namespace Cache

variable {γ : Type} [BEq γ] [Hashable γ]

/-- An entry is passed over when it names no candidate. -/
theorem store?_eq_none_iff (cache : Cache γ) (key : γ) {candidates : List String} :
    cache.store? key candidates = none ↔ candidates = [] := by
  rw [← firstOccurrences_eq_nil_iff, store?]
  split
  next none => simp [none]
  next kept some => simpa using some

/-- The entries are stored one after the other, and those with a candidate are counted. -/
theorem take_eq (cache : Cache γ) (entries : List (γ × List String)) :
    cache.take entries = (storedCount entries,
      entries.foldl (fun cache entry => cache.store entry.1 entry.2) cache) := by
  induction entries using List.reverseRecOn with
  | nil => rfl
  | append_singleton entries last ih =>
      rw [take, List.foldl_append, ← take, ih, List.foldl_append, storedCount_append]
      simp only [List.foldl_cons, List.foldl_nil, store]
      generalize entries.foldl (fun cache entry =>
        (cache.store? entry.1 entry.2).getD cache) cache = before
      cases stored : before.store? last.1 last.2 with
      | none =>
          have empty := (store?_eq_none_iff before last.1).mp stored
          simp [storedCount, empty]
      | some after =>
          have named : last.2 ≠ [] := by
            rw [Ne, ← store?_eq_none_iff before last.1, stored]
            exact Option.some_ne_none after
          simp [storedCount, named]

/-- The count is the number of entries with a candidate, whatever the cache holds. -/
theorem count_take (cache : Cache γ) (entries : List (γ × List String)) :
    (cache.take entries).1 = storedCount entries := by
  rw [take_eq]

theorem fold_cons (cache : Cache γ) (entry : γ × List String) (rest : List (γ × List String)) :
    cache.fold (entry :: rest) = (cache.store entry.1 entry.2).fold rest := by
  rw [fold, fold, take_eq, take_eq, List.foldl_cons]

theorem fold_append (cache : Cache γ) (entries others : List (γ × List String)) :
    cache.fold (entries ++ others) = (cache.fold entries).fold others := by
  rw [fold, fold, fold, take_eq, take_eq, take_eq, List.foldl_append]

theorem fold_append_singleton (cache : Cache γ) (entries : List (γ × List String))
    (last : γ × List String) :
    cache.fold (entries ++ [last]) = (cache.fold entries).store last.1 last.2 := by
  rw [fold_append, fold_cons]
  rfl

variable [LawfulBEq γ]

/-- An entry with candidates replaces what was known for its key; any other entry
changes nothing. -/
theorem candidates?_store (cache : Cache γ) (key address : γ) (candidates : List String) :
    (cache.store key candidates).candidates? address =
      if key == address && !candidates.isEmpty then some (firstOccurrences candidates)
      else cache.candidates? address := by
  cases kept : firstOccurrences candidates with
  | nil =>
      rw [firstOccurrences_eq_nil_iff] at kept
      subst kept
      rw [store, (store?_eq_none_iff cache key).mpr rfl]
      simp
  | cons first rest =>
      have nonempty : candidates.isEmpty = false := by
        cases candidates with
        | nil => contradiction
        | cons _ _ => rfl
      simp only [store, store?, kept, Option.getD_some, candidates?,
        Std.HashMap.getElem?_insert, nonempty, Bool.not_false, Bool.and_true]

/-- When entries with one key always name the same candidates, only the keys of the
entries count, neither their order nor their number. -/
theorem candidates?_fold (cache : Cache γ) {entries : List (γ × List String)}
    {listed : γ → List String} (uniform : ∀ entry ∈ entries, entry.2 = listed entry.1)
    (key : γ) :
    (cache.fold entries).candidates? key =
      if (entries.map Prod.fst).contains key && !(listed key).isEmpty then
        some (firstOccurrences (listed key))
      else cache.candidates? key := by
  induction entries using List.reverseRecOn with
  | nil => rfl
  | append_singleton entries last ih =>
      rw [List.forall_mem_append, List.forall_mem_singleton] at uniform
      rw [fold_append_singleton, candidates?_store, ih uniform.1, uniform.2]
      rw [List.map_append, List.map_cons, List.map_nil, List.contains_append]
      by_cases same : last.1 = key
      · subst same
        cases listed last.1 <;> simp
      · have other : [last.1].contains key = false := by
          simpa using Ne.symm same
        rw [other, Bool.or_false, beq_eq_false_iff_ne.mpr same, Bool.false_and]
        rfl

end Cache

end IdResolution
