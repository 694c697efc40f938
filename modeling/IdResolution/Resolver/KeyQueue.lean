import Std.Data.HashSet

/-!
# Key queues

The keys that await resolution, each once, in the order in which they were first
submitted.  Nothing is ever taken out.  A set beside the list answers quickly
whether a key is queued.
-/

namespace IdResolution

variable {κ : Type} [BEq κ] [Hashable κ]

/-- Queued keys. -/
structure KeyQueue (κ : Type) [BEq κ] [Hashable κ] where
  members : Std.HashSet κ := {}
  order : Array κ := #[]

namespace KeyQueue

/-- The queued keys in order. -/
def toList (queue : KeyQueue κ) : List κ :=
  queue.order.toList

/-- The number of queued keys. -/
def size (queue : KeyQueue κ) : Nat :=
  queue.order.size

/-- Whether a key is queued. -/
def contains (queue : KeyQueue κ) (key : κ) : Bool :=
  queue.members.contains key

/-- Queue a key unless it is queued already, and tell whether it was new. -/
def add (queue : KeyQueue κ) (key : κ) : Bool × KeyQueue κ :=
  if queue.contains key then (false, queue)
  else (true, ⟨queue.members.insert key, queue.order.push key⟩)

/-- The queue once a key is in it. -/
def insert (queue : KeyQueue κ) (key : κ) : KeyQueue κ :=
  (queue.add key).2

/-- Queue each of several keys in turn. -/
def insertAll (queue : KeyQueue κ) (keys : List κ) : KeyQueue κ :=
  keys.foldl insert queue

@[simp] theorem length_toList (queue : KeyQueue κ) : queue.toList.length = queue.size := by
  simp [toList, size]

@[simp] theorem toList_empty : ({} : KeyQueue κ).toList = [] := rfl

/-- A key joins the end of the list unless it is queued. -/
theorem toList_insert (queue : KeyQueue κ) (key : κ) :
    (queue.insert key).toList =
      if queue.contains key then queue.toList else queue.toList ++ [key] := by
  unfold insert add
  split <;> simp [toList]

end KeyQueue

end IdResolution
