import Std.Data.HashMap

/-!
# Candidate caches

The candidates that the service gave for each resolved key, the best first.
Entries of a response are taken in one after the other: the first occurrence of
each candidate counts, an entry without candidates changes nothing, and any other
replaces what was known for its key.
-/

namespace IdResolution

/-- The elements of a list at their first occurrences. -/
def firstOccurrences {α : Type} [BEq α] (elements : List α) : List α :=
  elements.foldl (fun kept element =>
    if kept.contains element then kept else kept ++ [element]) []

variable {γ : Type} [BEq γ] [Hashable γ]

/-- The candidates of resolved keys. -/
structure Cache (γ : Type) [BEq γ] [Hashable γ] where
  known : Std.HashMap γ (List String) := {}

namespace Cache

/-- The candidates of a key, if it is resolved. -/
def candidates? (cache : Cache γ) (key : γ) : Option (List String) :=
  cache.known[key]?

/-- The first candidate of a key. -/
def first? (cache : Cache γ) (key : γ) : Option String :=
  (cache.candidates? key).bind List.head?

/-- The number of resolved keys. -/
def size (cache : Cache γ) : Nat :=
  cache.known.size

/-- Store the candidates of an entry under its key, unless it names none. -/
def store? (cache : Cache γ) (key : γ) (candidates : List String) : Option (Cache γ) :=
  match firstOccurrences candidates with
  | [] => none
  | kept => some ⟨cache.known.insert key kept⟩

/-- Take in the entries of a response in order, and count those that are stored. -/
def take (cache : Cache γ) (entries : List (γ × List String)) : Nat × Cache γ :=
  entries.foldl (fun taken entry =>
    match taken.2.store? entry.1 entry.2 with
    | some stored => (taken.1 + 1, stored)
    | none => taken) (0, cache)

/-- The cache once an entry of a response is taken in. -/
def store (cache : Cache γ) (key : γ) (candidates : List String) : Cache γ :=
  (cache.store? key candidates).getD cache

/-- The cache once the entries of a response are taken in. -/
def fold (cache : Cache γ) (entries : List (γ × List String)) : Cache γ :=
  (cache.take entries).2

end Cache

/-- The number of entries that have a candidate. -/
def storedCount {γ : Type} (entries : List (γ × List String)) : Nat :=
  entries.countP fun entry => !entry.2.isEmpty

end IdResolution
