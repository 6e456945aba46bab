import Mathlib.Data.List.Basic
import Mathlib.Tactic.Common

/-! # A bounded first-in first-out queue

The specification of a queue that refuses items instead of growing or blocking. Both operations are
total: `push` answers whether the item was accepted, and `pop` answers nothing on an empty queue.
-/

namespace BoundedQueue

variable {α : Type*} {capacity : ℕ}

def push (capacity : ℕ) (queue : List α) (item : α) : Bool × List α :=
  if queue.length < capacity then (true, queue ++ [item]) else (false, queue)

def pop (queue : List α) : Option α × List α := (queue.head?, queue.tail)

/-- One operation together with its answer. -/
inductive Op (α : Type*) where
  | push (item : α) (accepted : Bool)
  | pop (result : Option α)
deriving DecidableEq

/-- The operation, called on `queue`, gives its recorded answer and leaves `next`. -/
def Serves (capacity : ℕ) (queue : List α) : Op α → List α → Prop
  | .push item accepted, next => push capacity queue item = (accepted, next)
  | .pop result, next => pop queue = (result, next)

theorem push_room {queue : List α} (room : queue.length < capacity) (item : α) :
    push capacity queue item = (true, queue ++ [item]) := if_pos room

theorem push_full {queue : List α} (full : queue.length = capacity) (item : α) :
    push capacity queue item = (false, queue) := if_neg (by omega)

end BoundedQueue
