import VoxMesh.Machine.BoundedQueue
import VoxMesh.Model.RingBuffer
import Mathlib.Data.List.TakeDrop

/-! # What the ring's memory holds

The ring is a window on an unbounded tape: `accepted` is everything ever published, `freed` counts the
slots given back, and the two indices are the cells of these two positions. `Stores` says that the slots
from position `kept` on still hold their items; `kept` runs one ahead of `freed` while the consumer has
moved an item out of a slot that it has not released yet.

Each write to the memory has one lemma here. The operations run alone follow from them, and so do the
interleaved steps.
-/

namespace VoxMesh.Audio.SpscRingBuffer

variable {α : Type*} {capacity : ℕ}

/-- The cell that a position of the tape occupies. -/
def cell (capacity position : ℕ) : Fin (capacity + 1) := @Fin.ofNat (capacity + 1) Nat.instNeZeroSucc position

theorem increment_cell (position : ℕ) : increment (cell capacity position) = cell capacity (position + 1) :=
  Circular.next_ofNat position

theorem cell_ne {first second : ℕ} (before : first < second) (near : second ≤ first + capacity) :
    cell capacity first ≠ cell capacity second :=
  Circular.ofNat_ne before (by omega)

theorem cell_revolution (position : ℕ) : cell capacity (position + capacity + 1) = cell capacity position := by
  apply Fin.ext
  exact Nat.add_mod_right position (capacity + 1)

structure Stores (buffer : SpscRingBuffer α capacity) (accepted : List α) (freed kept : ℕ) : Prop where
  head : buffer.head = cell capacity accepted.length
  tail : buffer.tail = cell capacity freed
  order : freed ≤ kept
  available : kept ≤ accepted.length
  room : accepted.length ≤ freed + capacity
  slots : ∀ i (bound : i < accepted.length), kept ≤ i → buffer.slots (cell capacity i) = accepted[i]

namespace Stores

variable {buffer : SpscRingBuffer α capacity} {accepted : List α} {freed kept : ℕ}

theorem create (slots : Fin (capacity + 1) → α) : Stores { slots := slots } ([] : List α) 0 0 :=
  ⟨rfl, rfl, Nat.le_refl 0, Nat.le_refl 0, Nat.zero_le _, fun _ bound _ => absurd bound (Nat.not_lt_zero _)⟩

/-- The counters are no part of the memory. -/
theorem recount (stores : Stores buffer accepted freed kept) (pushed popped rejected : ℕ) :
    Stores { buffer with pushed := pushed, popped := popped, rejected := rejected } accepted freed kept :=
  ⟨stores.head, stores.tail, stores.order, stores.available, stores.room, stores.slots⟩

theorem size_eq (stores : Stores buffer accepted freed kept) : buffer.size = accepted.length - freed := by
  have order := stores.order
  have available := stores.available
  have room := stores.room
  rw [size, stores.head, stores.tail]
  apply Circular.distance_ofNat <;> omega

theorem full_iff (stores : Stores buffer accepted freed kept) :
    increment buffer.head = buffer.tail ↔ accepted.length = freed + capacity := by
  have order := stores.order
  have available := stores.available
  have room := stores.room
  rw [stores.head, stores.tail, increment_cell]
  constructor
  · intro same
    by_contra notFull
    exact @cell_ne capacity _ _ (by omega) (by omega) same.symm
  · intro full
    rw [full, cell_revolution]

theorem empty_iff (stores : Stores buffer accepted freed kept) :
    buffer.tail = buffer.head ↔ freed = accepted.length := by
  have order := stores.order
  have available := stores.available
  have room := stores.room
  rw [stores.head, stores.tail]
  constructor
  · intro same
    by_contra notEmpty
    exact @cell_ne capacity _ _ (by omega) (by omega) same
  · intro empty
    rw [empty]

/-- The slot at the head is free for any write while the ring has room. -/
theorem write_head (stores : Stores buffer accepted freed kept) (notFull : accepted.length < freed + capacity)
    (item : α) : Stores (buffer.write buffer.head item) accepted freed kept := by
  have order := stores.order
  refine ⟨stores.head, stores.tail, order, stores.available, stores.room, ?_⟩
  intro i bound inside
  have apart : cell capacity i ≠ buffer.head := by
    rw [stores.head]
    exact cell_ne bound (by omega)
  exact (Function.update_of_ne apart item buffer.slots).trans (stores.slots i bound inside)

theorem publish (stores : Stores buffer accepted freed kept) (notFull : accepted.length < freed + capacity)
    {item : α} (written : buffer.slots buffer.head = item) :
    Stores { buffer with head := increment buffer.head } (accepted ++ [item]) freed kept := by
  have available := stores.available
  have length : (accepted ++ [item]).length = accepted.length + 1 := by simp
  refine ⟨?_, stores.tail, stores.order, by omega, by omega, ?_⟩
  · rw [length, ← increment_cell, ← stores.head]
  · intro i bound inside
    rcases Nat.lt_or_ge i accepted.length with old | new
    · rw [List.getElem_append_left old]
      exact stores.slots i old inside
    · obtain rfl : i = accepted.length := by omega
      rw [List.getElem_append_right (Nat.le_refl _), ← stores.head]
      simpa using written

/-- The oldest item is intact until the consumer moves it out. -/
theorem oldest (stores : Stores buffer accepted freed freed) (notEmpty : freed < accepted.length) :
    buffer.slots buffer.tail = accepted[freed] := by
  rw [stores.tail]
  exact stores.slots freed notEmpty (Nat.le_refl _)

/-- Moving the oldest item out spoils its slot only. -/
theorem vacate (stores : Stores buffer accepted freed freed) (notEmpty : freed < accepted.length)
    (movedFrom : α) : Stores (buffer.write buffer.tail movedFrom) accepted freed (freed + 1) := by
  have room := stores.room
  refine ⟨stores.head, stores.tail, Nat.le_succ _, notEmpty, room, ?_⟩
  intro i bound inside
  have apart : cell capacity i ≠ buffer.tail := by
    rw [stores.tail]
    exact (cell_ne (by omega) (by omega)).symm
  exact (Function.update_of_ne apart movedFrom buffer.slots).trans (stores.slots i bound (by omega))

theorem release (stores : Stores buffer accepted freed (freed + 1)) :
    Stores { buffer with tail := increment buffer.tail } accepted (freed + 1) (freed + 1) := by
  have available := stores.available
  have room := stores.room
  refine ⟨stores.head, ?_, Nat.le_refl _, available, by omega, stores.slots⟩
  rw [← increment_cell, ← stores.tail]

/-- Freeing a slot whose item was not moved out. -/
theorem skip (stores : Stores buffer accepted freed freed) (notEmpty : freed < accepted.length) :
    Stores { buffer with tail := increment buffer.tail } accepted (freed + 1) (freed + 1) := by
  have room := stores.room
  refine ⟨stores.head, ?_, Nat.le_refl _, notEmpty, by omega, ?_⟩
  · rw [← increment_cell, ← stores.tail]
  · intro i bound inside
    exact stores.slots i bound (by omega)

end Stores

/-- A successful `tryPop` leaves one item less. -/
theorem size_tryPop {buffer : SpscRingBuffer α capacity} (popped : buffer.tryPop.1.isSome) :
    buffer.tryPop.2.size + 1 = buffer.size := by
  rw [tryPop] at popped ⊢
  split at popped
  next => contradiction
  next apart =>
    rw [if_neg apart]
    exact Circular.distance_next apart

/-- There is nothing to pop in an empty ring only. -/
theorem size_of_tryPop_none {buffer : SpscRingBuffer α capacity} (none : buffer.tryPop.1 = .none) :
    buffer.size = 0 := by
  rw [tryPop] at none
  split at none
  next same => rw [size, same, Circular.distance_self]
  next => contradiction

/-- The ring holds these items, oldest first. -/
def Holds (buffer : SpscRingBuffer α capacity) (queue : List α) : Prop :=
  ∃ accepted freed, Stores buffer accepted freed freed ∧ queue = accepted.drop freed

theorem holds_create [Inhabited α] : Holds (create α capacity) [] :=
  ⟨[], 0, Stores.create _, rfl⟩

namespace Holds

variable {buffer : SpscRingBuffer α capacity} {queue : List α}

theorem length_le (holds : Holds buffer queue) : queue.length ≤ capacity := by
  obtain ⟨accepted, freed, stores, rfl⟩ := holds
  have room := stores.room
  rw [List.length_drop]
  omega

theorem size_eq (holds : Holds buffer queue) : buffer.size = queue.length := by
  obtain ⟨accepted, freed, stores, rfl⟩ := holds
  rw [stores.size_eq, List.length_drop]

/-- Alone, `tryPush` is the push of the bounded queue. -/
theorem tryPush (holds : Holds buffer queue) (item : α) :
    (buffer.tryPush item).1 = (BoundedQueue.push capacity queue item).1 ∧
      Holds (buffer.tryPush item).2 (BoundedQueue.push capacity queue item).2 := by
  obtain ⟨accepted, freed, stores, rfl⟩ := holds
  have available := stores.available
  have room := stores.room
  have length : (accepted.drop freed).length = accepted.length - freed := List.length_drop
  by_cases full : increment buffer.head = buffer.tail
  · have count := stores.full_iff.mp full
    have same : buffer.tryPush item = (false, { buffer with rejected := buffer.rejected + 1 }) := if_pos full
    rw [same, BoundedQueue.push_full (by omega)]
    refine ⟨rfl, accepted, freed, ?_, rfl⟩
    exact stores.recount buffer.pushed buffer.popped (buffer.rejected + 1)
  · have notFull : accepted.length < freed + capacity := by
      have := mt stores.full_iff.mpr full
      omega
    have same : buffer.tryPush item = (true, { buffer.write buffer.head item with
      head := increment buffer.head, pushed := buffer.pushed + 1 }) := if_neg full
    rw [same, BoundedQueue.push_room (by omega)]
    have written : (buffer.write buffer.head item).slots buffer.head = item := Function.update_self ..
    refine ⟨rfl, accepted ++ [item], freed, ?_, ?_⟩
    · exact ((stores.write_head notFull item).publish notFull written).recount
        (buffer.pushed + 1) buffer.popped buffer.rejected
    · rw [List.drop_append_of_le_length available]

/-- Alone, `tryPop` is the pop of the bounded queue. -/
theorem tryPop (holds : Holds buffer queue) :
    buffer.tryPop.1 = (BoundedQueue.pop queue).1 ∧ Holds buffer.tryPop.2 (BoundedQueue.pop queue).2 := by
  obtain ⟨accepted, freed, stores, rfl⟩ := holds
  have available := stores.available
  by_cases empty : buffer.tail = buffer.head
  · have none := stores.empty_iff.mp empty
    have same : buffer.tryPop = (.none, buffer) := if_pos empty
    rw [same, BoundedQueue.pop, List.drop_of_length_le (by omega)]
    exact ⟨rfl, accepted, freed, stores, (List.drop_of_length_le (by omega)).symm⟩
  · have some : freed < accepted.length := by
      have := mt stores.empty_iff.mpr empty
      omega
    have same : buffer.tryPop = (.some (buffer.slots buffer.tail),
      { buffer with tail := increment buffer.tail, popped := buffer.popped + 1 }) := if_neg empty
    rw [same, BoundedQueue.pop]
    refine ⟨?_, accepted, freed + 1, ?_, List.tail_drop⟩
    · rw [List.head?_drop, List.getElem?_eq_getElem some, stores.oldest some]
    · exact (stores.skip some).recount buffer.pushed (buffer.popped + 1) buffer.rejected

end Holds

end VoxMesh.Audio.SpscRingBuffer
