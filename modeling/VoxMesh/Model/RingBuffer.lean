import VoxMesh.Machine.Run
import VoxMesh.Math.Circular
import Mathlib.Logic.Function.Basic

/-! # The single-producer single-consumer ring buffer

`SpscRingBuffer` is the memory of the source's class: `capacity + 1` slots, the two atomic indices and
the three counters. `tryPush` and `tryPop` are the two operations run alone. `Spsc.step` runs one
producer and one consumer interleaved at their individual atomic steps: loading the own index, loading
the other index and deciding, writing or moving out the slot, storing the index, counting. Writing a
slot and moving out of it take two steps each, so the other side can act while the slot is half done;
what the slot holds meanwhile, and what a moved-from slot holds, is arbitrary and chosen by the label.

`Spsc.History` records what the calls were given and what they returned. No step reads it.
-/

namespace VoxMesh.Audio

structure SpscRingBuffer (α : Type*) (capacity : ℕ) where
  slots : Fin (capacity + 1) → α
  head : Fin (capacity + 1) := 0
  tail : Fin (capacity + 1) := 0
  pushed : ℕ := 0
  popped : ℕ := 0
  rejected : ℕ := 0

namespace SpscRingBuffer

variable {α : Type*} {capacity : ℕ}

/-- Allocation up front: every slot holds a default item. -/
def create (α : Type*) [Inhabited α] (capacity : ℕ) : SpscRingBuffer α capacity where
  slots _ := default

def increment (index : Fin (capacity + 1)) : Fin (capacity + 1) := Circular.next index

def size (buffer : SpscRingBuffer α capacity) : ℕ := Circular.distance buffer.head buffer.tail

def empty (buffer : SpscRingBuffer α capacity) : Bool := buffer.size == 0

def write (buffer : SpscRingBuffer α capacity) (index : Fin (capacity + 1)) (item : α) :
    SpscRingBuffer α capacity := { buffer with slots := Function.update buffer.slots index item }

def tryPush (buffer : SpscRingBuffer α capacity) (item : α) : Bool × SpscRingBuffer α capacity :=
  let head := buffer.head
  let next := increment head
  if next = buffer.tail then (false, { buffer with rejected := buffer.rejected + 1 })
  else (true, { buffer.write head item with head := next, pushed := buffer.pushed + 1 })

def tryPop (buffer : SpscRingBuffer α capacity) : Option α × SpscRingBuffer α capacity :=
  let tail := buffer.tail
  if tail = buffer.head then (none, buffer)
  else (some (buffer.slots tail), { buffer with tail := increment tail, popped := buffer.popped + 1 })

end SpscRingBuffer

namespace Spsc

variable {α : Type*} {capacity : ℕ}

/-- Where the producer is inside `tryPush`, with its local variables. -/
inductive Producer (α : Type*) (capacity : ℕ) where
  | idle
  | called (item : α)
  | loadedHead (item : α) (head : Fin (capacity + 1))
  | full (item : α)
  | checked (item : α) (head : Fin (capacity + 1))
  | writing (item : α) (head : Fin (capacity + 1))
  | written (item : α) (head : Fin (capacity + 1))
  | published
deriving DecidableEq

/-- Where the consumer is inside `tryPop`, with its local variables. -/
inductive Consumer (α : Type*) (capacity : ℕ) where
  | idle
  | called
  | loadedTail (tail : Fin (capacity + 1))
  | checked (tail : Fin (capacity + 1))
  | moving (tail : Fin (capacity + 1))
  | moved (item : α) (tail : Fin (capacity + 1))
  | released (item : α)
deriving DecidableEq

/-- What the calls were given and what they gave back. -/
structure History (α : Type*) where
  /-- Items of all `tryPush` calls. -/
  offered : List α := []
  /-- Items made visible by a store of the head index. -/
  accepted : List α := []
  /-- Items left with the caller by a rejected `tryPush`. -/
  handedBack : List α := []
  /-- Items moved out of their slots. -/
  taken : List α := []
  /-- Number of stores of the tail index. -/
  freed : ℕ := 0
  /-- Items returned by completed `tryPop` calls. -/
  returned : List α := []
deriving DecidableEq

structure State (α : Type*) (capacity : ℕ) where
  buffer : SpscRingBuffer α capacity
  producer : Producer α capacity := .idle
  consumer : Consumer α capacity := .idle
  history : History α := {}

/-- A step of the schedule: a call begins, or one side takes its next atomic step. -/
inductive Label (α : Type*) where
  | push (item : α)
  | pop
  | producer (torn : α)
  | consumer (movedFrom : α)

def producerStep (state : State α capacity) (torn : α) : Option (State α capacity) :=
  match state.producer with
  | .idle => none
  | .called item => some { state with producer := .loadedHead item state.buffer.head }
  | .loadedHead item head =>
      if SpscRingBuffer.increment head = state.buffer.tail then some { state with producer := .full item }
      else some { state with producer := .checked item head }
  | .full item => some { state with
      producer := .idle
      buffer := { state.buffer with rejected := state.buffer.rejected + 1 }
      history := { state.history with handedBack := state.history.handedBack ++ [item] } }
  | .checked item head => some { state with
      producer := .writing item head
      buffer := state.buffer.write head torn }
  | .writing item head => some { state with
      producer := .written item head
      buffer := state.buffer.write head item }
  | .written item head => some { state with
      producer := .published
      buffer := { state.buffer with head := SpscRingBuffer.increment head }
      history := { state.history with accepted := state.history.accepted ++ [item] } }
  | .published => some { state with
      producer := .idle
      buffer := { state.buffer with pushed := state.buffer.pushed + 1 } }

def consumerStep (state : State α capacity) (movedFrom : α) : Option (State α capacity) :=
  match state.consumer with
  | .idle => none
  | .called => some { state with consumer := .loadedTail state.buffer.tail }
  | .loadedTail tail =>
      if tail = state.buffer.head then some { state with consumer := .idle }
      else some { state with consumer := .checked tail }
  | .checked tail => some { state with consumer := .moving tail }
  | .moving tail => some { state with
      consumer := .moved (state.buffer.slots tail) tail
      buffer := state.buffer.write tail movedFrom
      history := { state.history with taken := state.history.taken ++ [state.buffer.slots tail] } }
  | .moved item tail => some { state with
      consumer := .released item
      buffer := { state.buffer with tail := SpscRingBuffer.increment tail }
      history := { state.history with freed := state.history.freed + 1 } }
  | .released item => some { state with
      consumer := .idle
      buffer := { state.buffer with popped := state.buffer.popped + 1 }
      history := { state.history with returned := state.history.returned ++ [item] } }

def step (state : State α capacity) : Label α → Option (State α capacity)
  | .push item =>
      match state.producer with
      | .idle => some { state with
          producer := .called item
          history := { state.history with offered := state.history.offered ++ [item] } }
      | _ => none
  | .pop =>
      match state.consumer with
      | .idle => some { state with consumer := .called }
      | _ => none
  | .producer torn => producerStep state torn
  | .consumer movedFrom => consumerStep state movedFrom

/-- Both sides idle on a freshly allocated buffer. -/
def initial (slots : Fin (capacity + 1) → α) : State α capacity := { buffer := { slots := slots } }

end Spsc

end VoxMesh.Audio
