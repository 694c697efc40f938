/-!
# Partition into chunks

A list is cut into contiguous chunks of a given size; only the last may be
shorter.  A size of zero counts as one.
-/

namespace IdResolution

variable {α : Type}

/-- Cut a list into chunks: while there are items left, the next chunk takes as many of
them as it may hold. -/
def partition (size : Nat) : List α → List (List α)
  | [] => []
  | item :: rest =>
      (item :: rest).take (max size 1) ::
        partition size ((item :: rest).drop (max size 1))
termination_by items => items.length
decreasing_by
  simp only [List.length_drop, List.length_cons]
  omega

/-- The number of chunks of at most `size` items that `count` items need. -/
def chunkCount (size count : Nat) : Nat :=
  (count + size - 1) / size

end IdResolution
