import IdResolution.Proofs.Resolver.Cache
import Mathlib.Algebra.Ring.Nat

/-!
# The last entry counts

A service may answer one key with several entries, in any order and some of them empty.
What a cache holds for a key after a response comes from the last entry for it that names
a candidate; where there is none, what was known before stays.  It follows that the
responses to the chunks of a request may be taken in one by one or all together, and that
a response that comes twice brings nothing new.
-/

namespace IdResolution

variable {γ : Type}

/-- The candidates in the last entry for a key that names any. -/
def lastCandidates? [BEq γ] (entries : List (γ × List String)) (key : γ) :
    Option (List String) :=
  (entries.filter fun entry => entry.1 == key && !entry.2.isEmpty).getLast?.map Prod.snd

/-- Of two parts of a response, the later one counts where it names candidates. -/
theorem lastCandidates?_append [BEq γ] (entries others : List (γ × List String)) (key : γ) :
    lastCandidates? (entries ++ others) key =
      (lastCandidates? others key).or (lastCandidates? entries key) := by
  rw [lastCandidates?, List.filter_append, List.getLast?_append, Option.map_or]
  rfl

theorem lastCandidates?_singleton [BEq γ] (entry : γ × List String) (key : γ) :
    lastCandidates? [entry] key =
      if entry.1 == key && !entry.2.isEmpty then some entry.2 else none := by
  rw [lastCandidates?, List.filter_singleton, Bool.cond_eq_ite]
  split <;> rfl

namespace Cache

variable [BEq γ] [Hashable γ]

theorem fold_flatten (cache : Cache γ) (responses : List (List (γ × List String))) :
    cache.fold responses.flatten = responses.foldl fold cache := by
  induction responses generalizing cache with
  | nil => rfl
  | cons first rest ih => rw [List.flatten_cons, fold_append, ih, List.foldl_cons]

/-- Take in one more response, on top of what was counted and cached before it. -/
def resume (taken : Nat × Cache γ) (response : List (γ × List String)) : Nat × Cache γ :=
  let next := taken.2.take response
  (taken.1 + next.1, next.2)

/-- Two parts of a response may be taken in one after the other. -/
theorem take_append (cache : Cache γ) (entries others : List (γ × List String)) :
    cache.take (entries ++ others) = resume (cache.take entries) others := by
  apply Prod.ext
  · rw [resume, count_take, count_take, count_take, storedCount_append]
  · exact cache.fold_append entries others

/-- The responses to the chunks of a request may be taken in one after the other. -/
theorem take_flatten (cache : Cache γ) (responses : List (List (γ × List String))) :
    cache.take responses.flatten = responses.foldl resume (0, cache) := by
  induction responses using List.reverseRecOn with
  | nil => rfl
  | append_singleton responses last ih =>
      rw [List.flatten_append, List.flatten_singleton, take_append, ih, List.foldl_append]
      rfl

variable [LawfulBEq γ]

/-- A key has the candidates of the last entry for it that names any, each once, or else
what it had. -/
theorem candidates?_fold_eq_last (cache : Cache γ) (entries : List (γ × List String))
    (key : γ) :
    (cache.fold entries).candidates? key =
      ((lastCandidates? entries key).map List.eraseDups).or (cache.candidates? key) := by
  induction entries using List.reverseRecOn with
  | nil => rfl
  | append_singleton entries last ih =>
      rw [fold_append_singleton, candidates?_store, lastCandidates?_append,
        lastCandidates?_singleton]
      split
      · rw [firstOccurrences_eq_eraseDups]
        rfl
      · exact ih

/-- Caches that hold the same for every key hold as many keys. -/
theorem size_congr {first second : Cache γ}
    (same : ∀ key, first.candidates? key = second.candidates? key) :
    first.size = second.size :=
  (Std.HashMap.Equiv.of_forall_getElem?_eq same).size_eq

/-- Taking the same response in again changes nothing. -/
theorem candidates?_fold_twice (cache : Cache γ) (entries : List (γ × List String))
    (key : γ) :
    ((cache.fold entries).fold entries).candidates? key =
      (cache.fold entries).candidates? key := by
  rw [candidates?_fold_eq_last _ entries, candidates?_fold_eq_last cache]
  cases lastCandidates? entries key <;> rfl

/-- Whatever a cache holds and whatever entries a response has: each key has afterwards
the candidates of the last entry for it that names any, at their first occurrences, and
what it had if there is no such entry.  The count that comes with the cache is the number
of entries with a candidate.  A response may be taken in part by part, as the responses to
the chunks of a request are, with the counts added.  A response that is taken in a second
time changes nothing, and its entries count as before. -/
theorem fold_keeps_last_candidates (cache : Cache γ) (entries : List (γ × List String)) :
    let folded := cache.fold entries
    (∀ key, folded.candidates? key =
      ((lastCandidates? entries key).map List.eraseDups).or (cache.candidates? key)) ∧
    cache.take entries = ((entries.filter (·.2 ≠ [])).length, folded) ∧
    (∀ others, cache.fold (entries ++ others) = folded.fold others ∧
      (cache.take (entries ++ others)).1 = (cache.take entries).1 + (folded.take others).1) ∧
    (∀ responses : List (List (γ × List String)),
      cache.fold responses.flatten = responses.foldl fold cache ∧
        cache.take responses.flatten = responses.foldl resume (0, cache)) ∧
    (∀ key, (folded.fold entries).candidates? key = folded.candidates? key) ∧
    (folded.fold entries).size = folded.size ∧
    (folded.take entries).1 = (cache.take entries).1 := by
  intro folded
  have again := cache.candidates?_fold_twice entries
  have named : storedCount entries = (entries.filter (·.2 ≠ [])).length := by
    rw [storedCount, List.countP_eq_length_filter]
    congr 2
    funext entry
    cases entry.2 <;> rfl
  refine ⟨cache.candidates?_fold_eq_last entries, ?_, ?_, ?_, again, size_congr again, ?_⟩
  · rw [← named, ← cache.count_take entries]
    rfl
  · intro others
    exact ⟨cache.fold_append entries others, congrArg Prod.fst (cache.take_append entries others)⟩
  · exact fun responses => ⟨cache.fold_flatten responses, cache.take_flatten responses⟩
  · rw [count_take, count_take]

/-- A later entry replaces an earlier one for its key, but an empty one leaves it. -/
theorem fold_keeps_last_candidates_over_empty_entry :
    let cache : Cache String := ({} : Cache String).store "isoCode:IN" ["country/IND"]
    let entries := [("isoCode:AT", ["geoId/AT"]),
      ("isoCode:AT", ["wikidataId/Q40", "country/AUT", "wikidataId/Q40"]),
      ("isoCode:AT", []), ("isoCode:IN", [])]
    (cache.fold entries).candidates? "isoCode:AT" = some ["wikidataId/Q40", "country/AUT"] ∧
      (cache.fold entries).candidates? "isoCode:IN" = some ["country/IND"] ∧
        (cache.take entries).1 = 2 := by
  intro cache entries
  obtain ⟨last, counted, -⟩ := fold_keeps_last_candidates cache entries
  refine ⟨?_, ?_, ?_⟩
  · rw [last]
    rfl
  · rw [last, candidates?_store]
    rfl
  · rw [counted]
    rfl

end Cache

end IdResolution
