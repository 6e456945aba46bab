import VoxMesh.Machine.Run
import VoxMesh.Proofs.RingBuffer

/-! # The invariant of the interleaved ring buffer

The producer is the only one to move the head and the consumer the only one to move the tail, so each
side's copy of its own index is current; its copy of the other side's index may be stale, and then the
ring has more room, or more items, than the side believes. `Linearized` states this for every point of
both operations. `producer_keeps` and `consumer_keeps` say that one step of either side preserves it,
and `step_serves` that the step does to the published items what one operation of a bounded queue does,
or nothing.
-/

namespace VoxMesh.Audio.Spsc

open SpscRingBuffer

variable {α : Type*} {capacity : ℕ}

namespace Producer

/-- The item that a call still owns. -/
def pending : Producer α capacity → List α
  | .idle | .published => []
  | .called item | .loadedHead item _ | .full item | .checked item _ | .writing item _ | .written item _ => [item]

/-- Items published but not counted yet. -/
def uncounted : Producer α capacity → ℕ
  | .published => 1
  | _ => 0

/-- The slot that a call writes or has written, from its decision to its publication. -/
def owns : Producer α capacity → Option (Fin (capacity + 1))
  | .checked _ head | .writing _ head | .written _ head => some head
  | _ => none

/-- A call that has not decided to write: every step of a rejected call starts here. -/
def undecided : Producer α capacity → Bool
  | .called _ | .loadedHead _ _ | .full _ => true
  | _ => false

def Current (state : State α capacity) : Producer α capacity → Prop
  | .loadedHead _ head => head = state.buffer.head
  | .checked _ head | .writing _ head => head = state.buffer.head ∧
      state.history.accepted.length < state.history.freed + capacity
  | .written item head => head = state.buffer.head ∧
      state.history.accepted.length < state.history.freed + capacity ∧ state.buffer.slots head = item
  | _ => True

end Producer

namespace Consumer

/-- Slots whose item is out but which are not freed yet. -/
def ahead : Consumer α capacity → ℕ
  | .moved _ _ => 1
  | _ => 0

/-- The item on its way to the caller. -/
def holding : Consumer α capacity → List α
  | .moved item _ | .released item => [item]
  | _ => []

/-- The slot that a call moves out of or has moved out of, from its decision to the slot's release. -/
def owns : Consumer α capacity → Option (Fin (capacity + 1))
  | .checked tail | .moving tail | .moved _ tail => some tail
  | _ => none

def Current (state : State α capacity) : Consumer α capacity → Prop
  | .loadedTail tail | .moved _ tail => tail = state.buffer.tail
  | .checked tail | .moving tail => tail = state.buffer.tail ∧
      state.history.freed < state.history.accepted.length
  | _ => True

end Consumer

structure Linearized (state : State α capacity) : Prop where
  memory : Stores state.buffer state.history.accepted state.history.freed
    (state.history.freed + state.consumer.ahead)
  producer : state.producer.Current state
  consumer : state.consumer.Current state
  taken : state.history.taken = state.history.accepted.take (state.history.freed + state.consumer.ahead)
  returned : state.history.taken = state.history.returned ++ state.consumer.holding
  pushed : state.buffer.pushed + state.producer.uncounted = state.history.accepted.length
  popped : state.buffer.popped = state.history.returned.length
  rejected : state.buffer.rejected = state.history.handedBack.length
  calls : state.history.accepted.length + state.history.handedBack.length + state.producer.pending.length =
    state.history.offered.length
  acceptedOrder : (state.history.accepted ++ state.producer.pending).Sublist state.history.offered
  handedBackOrder : (state.history.handedBack ++ state.producer.pending).Sublist state.history.offered

/-- The items a reader of both indices would count as queued. -/
def State.contents (state : State α capacity) : List α := state.history.accepted.drop state.history.freed

/-- The operation that takes effect at a step, with the answer its caller gets. -/
def effect (state : State α capacity) : Label α → Option (BoundedQueue.Op α)
  | .push _ | .pop => none
  | .producer _ =>
      match state.producer with
      | .loadedHead item head => if increment head = state.buffer.tail then some (.push item false) else none
      | .written item _ => some (.push item true)
      | _ => none
  | .consumer _ =>
      match state.consumer with
      | .loadedTail tail => if tail = state.buffer.head then some (.pop none) else none
      | .moved item _ => some (.pop (some item))
      | _ => none

namespace Linearized

theorem start (slots : Fin (capacity + 1) → α) : Linearized (initial slots) where
  memory := Stores.create slots
  producer := trivial
  consumer := trivial
  taken := rfl
  returned := rfl
  pushed := rfl
  popped := rfl
  rejected := rfl
  calls := rfl
  acceptedOrder := List.Sublist.refl _
  handedBackOrder := List.Sublist.refl _

variable {state next : State α capacity}

theorem push_keeps (inv : Linearized state) {item : α} (taken : step state (.push item) = some next) :
    Linearized next := by
  obtain ⟨buffer, producer, consumer, history⟩ := state
  cases producer with
  | idle =>
    obtain rfl := Option.some.inj taken
    have calls := inv.calls
    have acceptedOrder := inv.acceptedOrder
    have handedBackOrder := inv.handedBackOrder
    simp only [Producer.pending, List.append_nil, List.length_nil, Nat.add_zero] at calls acceptedOrder handedBackOrder
    exact { inv with
      producer := trivial
      consumer := by cases consumer <;> exact inv.consumer
      calls := by simp [Producer.pending, calls]
      acceptedOrder := acceptedOrder.append (List.Sublist.refl [item])
      handedBackOrder := handedBackOrder.append (List.Sublist.refl [item]) }
  | _ => cases taken

theorem pop_keeps (inv : Linearized state) (taken : step state .pop = some next) : Linearized next := by
  obtain ⟨buffer, producer, consumer, history⟩ := state
  cases consumer with
  | idle =>
    obtain rfl := Option.some.inj taken
    exact { inv with
      producer := by cases producer <;> exact inv.producer
      consumer := trivial }
  | _ => cases taken

theorem producer_keeps (inv : Linearized state) {torn : α} (taken : producerStep state torn = some next) :
    Linearized next := by
  obtain ⟨buffer, producer, consumer, history⟩ := state
  have memory : Stores buffer history.accepted history.freed (history.freed + consumer.ahead) := inv.memory
  cases producer with
  | idle => cases taken
  | called item =>
    obtain rfl := Option.some.inj taken
    exact { inv with
      producer := rfl
      consumer := by cases consumer <;> exact inv.consumer }
  | loadedHead item head =>
    have current : head = buffer.head := inv.producer
    simp only [producerStep] at taken
    split at taken
    next full =>
      obtain rfl := Option.some.inj taken
      exact { inv with
        producer := trivial
        consumer := by cases consumer <;> exact inv.consumer }
    next notFull =>
      obtain rfl := Option.some.inj taken
      have room : history.accepted.length < history.freed + capacity := by
        have := mt memory.full_iff.mpr (current ▸ notFull)
        have := memory.room
        omega
      exact { inv with
        producer := ⟨current, room⟩
        consumer := by cases consumer <;> exact inv.consumer }
  | full item =>
    obtain rfl := Option.some.inj taken
    have calls := inv.calls
    have rejected := inv.rejected
    simp only [Producer.pending, List.length_singleton] at calls rejected
    exact { inv with
      memory := memory.recount buffer.pushed buffer.popped (buffer.rejected + 1)
      producer := trivial
      consumer := by cases consumer <;> exact inv.consumer
      rejected := by simp [rejected]
      calls := by simp [Producer.pending, ← calls, Nat.add_assoc]
      acceptedOrder := by
        simpa only [Producer.pending, List.append_nil] using
          (List.sublist_append_left history.accepted [item]).trans inv.acceptedOrder
      handedBackOrder := by simpa only [Producer.pending, List.append_nil] using inv.handedBackOrder }
  | checked item head =>
    obtain ⟨current, room⟩ : head = buffer.head ∧ _ := inv.producer
    obtain rfl := Option.some.inj taken
    subst current
    exact { inv with
      memory := memory.write_head room torn
      producer := ⟨rfl, room⟩
      consumer := by cases consumer <;> exact inv.consumer }
  | writing item head =>
    obtain ⟨current, room⟩ : head = buffer.head ∧ _ := inv.producer
    obtain rfl := Option.some.inj taken
    subst current
    exact { inv with
      memory := memory.write_head room item
      producer := ⟨rfl, room, Function.update_self ..⟩
      consumer := by cases consumer <;> exact inv.consumer }
  | written item head =>
    obtain ⟨current, room, stored⟩ : head = buffer.head ∧ _ ∧ _ := inv.producer
    obtain rfl := Option.some.inj taken
    subst current
    have available := memory.available
    have calls := inv.calls
    have pushed := inv.pushed
    simp only [Producer.pending, Producer.uncounted, List.length_singleton] at calls pushed
    have length : (history.accepted ++ [item]).length = history.accepted.length + 1 := by simp
    exact { inv with
      memory := memory.publish room stored
      producer := trivial
      consumer := by
        cases consumer with
        | checked tail => exact ⟨inv.consumer.1, Nat.lt_of_lt_of_le inv.consumer.2 (by simp)⟩
        | moving tail => exact ⟨inv.consumer.1, Nat.lt_of_lt_of_le inv.consumer.2 (by simp)⟩
        | _ => exact inv.consumer
      taken := inv.taken.trans (List.take_append_of_le_length available).symm
      pushed := by simp [Producer.uncounted, ← pushed]
      calls := by simp only [Producer.pending, length, List.length_nil]; omega
      acceptedOrder := by simpa [Producer.pending] using inv.acceptedOrder
      handedBackOrder := by
        simpa only [Producer.pending, List.append_nil] using
          (List.sublist_append_left history.handedBack [item]).trans inv.handedBackOrder }
  | published =>
    obtain rfl := Option.some.inj taken
    exact { inv with
      memory := memory.recount (buffer.pushed + 1) buffer.popped buffer.rejected
      producer := trivial
      consumer := by cases consumer <;> exact inv.consumer
      pushed := inv.pushed }

/-- Moving an item out of its slot leaves the producer's slot alone. -/
private theorem vacate_current (memory : Stores state.buffer state.history.accepted state.history.freed
      state.history.freed) (notEmpty : state.history.freed < state.history.accepted.length)
    (movedFrom : α) (consumer : Consumer α capacity) (taken : List α)
    (current : state.producer.Current state) :
    state.producer.Current { state with
      consumer := consumer
      buffer := state.buffer.write state.buffer.tail movedFrom
      history := { state.history with taken := taken } } := by
  obtain ⟨buffer, producer, before, history⟩ := state
  cases producer with
  | written item head =>
    obtain ⟨same, room, stored⟩ : head = buffer.head ∧ _ ∧ _ := current
    have apart : head ≠ buffer.tail := fun collide =>
      Nat.ne_of_lt notEmpty (memory.empty_iff.mp (collide.symm.trans same))
    have kept : Function.update buffer.slots buffer.tail movedFrom head = buffer.slots head :=
      Function.update_of_ne apart _ _
    exact ⟨same, room, kept.trans stored⟩
  | _ => exact current

/-- Freeing a slot only gives the producer more room. -/
private theorem release_current (tail : Fin (capacity + 1)) (consumer : Consumer α capacity)
    (current : state.producer.Current state) :
    state.producer.Current { state with
      consumer := consumer
      buffer := { state.buffer with tail := tail }
      history := { state.history with freed := state.history.freed + 1 } } := by
  obtain ⟨buffer, producer, before, history⟩ := state
  cases producer with
  | checked item head => exact ⟨current.1, by have := current.2; simp only at this ⊢; omega⟩
  | writing item head => exact ⟨current.1, by have := current.2; simp only at this ⊢; omega⟩
  | written item head => exact ⟨current.1, by have := current.2.1; simp only at this ⊢; omega, current.2.2⟩
  | _ => exact current

theorem consumer_keeps (inv : Linearized state) {movedFrom : α}
    (taken : consumerStep state movedFrom = some next) : Linearized next := by
  obtain ⟨buffer, producer, consumer, history⟩ := state
  have memory : Stores buffer history.accepted history.freed (history.freed + consumer.ahead) := inv.memory
  cases consumer with
  | idle => cases taken
  | called =>
    obtain rfl := Option.some.inj taken
    exact { inv with
      producer := by cases producer <;> exact inv.producer
      consumer := rfl }
  | loadedTail tail =>
    have current : tail = buffer.tail := inv.consumer
    simp only [consumerStep] at taken
    split at taken
    next empty =>
      obtain rfl := Option.some.inj taken
      exact { inv with
        producer := by cases producer <;> exact inv.producer
        consumer := trivial }
    next notEmpty =>
      obtain rfl := Option.some.inj taken
      have available : history.freed < history.accepted.length := by
        have := mt memory.empty_iff.mpr (current ▸ notEmpty)
        have := memory.order.trans memory.available
        omega
      exact { inv with
        producer := by cases producer <;> exact inv.producer
        consumer := ⟨current, available⟩ }
  | checked tail =>
    obtain rfl := Option.some.inj taken
    exact { inv with
      producer := by cases producer <;> exact inv.producer
      consumer := inv.consumer }
  | moving tail =>
    obtain ⟨current, available⟩ : tail = buffer.tail ∧ history.freed < history.accepted.length := inv.consumer
    obtain rfl := Option.some.inj taken
    subst current
    exact { inv with
      memory := memory.vacate available movedFrom
      producer := vacate_current memory available movedFrom _ _ inv.producer
      consumer := rfl
      taken := by
        have prior : history.taken = history.accepted.take history.freed := inv.taken
        have oldest : buffer.slots buffer.tail = history.accepted[history.freed] := memory.oldest available
        simp only [Consumer.ahead, prior, oldest, List.take_append_getElem]
      returned := by
        have prior : history.taken = history.returned ++ [] := inv.returned
        simp only [Consumer.holding, prior, List.append_nil] }
  | moved item tail =>
    obtain rfl : tail = buffer.tail := inv.consumer
    obtain rfl := Option.some.inj taken
    exact { inv with
      memory := memory.release
      producer := release_current _ _ inv.producer
      consumer := trivial }
  | released item =>
    obtain rfl := Option.some.inj taken
    have popped := inv.popped
    simp only at popped
    exact { inv with
      memory := memory.recount buffer.pushed (buffer.popped + 1) buffer.rejected
      producer := by cases producer <;> exact inv.producer
      consumer := trivial
      returned := by simpa [Consumer.holding] using inv.returned
      popped := by simp [popped] }

theorem keeps {label : Label α} (inv : Linearized state) (taken : step state label = some next) :
    Linearized next := by
  cases label with
  | push item => exact inv.push_keeps taken
  | pop => exact inv.pop_keeps taken
  | producer torn => exact inv.producer_keeps taken
  | consumer movedFrom => exact inv.consumer_keeps taken

/-- What the consumer holds while the slot is not free yet is the oldest item. -/
theorem moved_head (inv : Linearized state) {item : α} {tail : Fin (capacity + 1)}
    (moved : state.consumer = .moved item tail) : state.contents = item :: state.contents.tail := by
  have available := inv.memory.available
  have taken := inv.taken
  have returned := inv.returned
  simp only [moved, Consumer.ahead, Consumer.holding] at available taken returned
  rw [List.take_add_one, List.getElem?_eq_getElem (by omega), Option.toList_some] at taken
  rw [State.contents, List.tail_drop, List.drop_eq_getElem_cons (by omega)]
  have same := (List.append_inj' (returned.symm.trans taken) rfl).2
  rw [← (List.cons.inj same).1]

/-- A step either leaves the queue as it is or is one operation of a bounded queue on it. -/
theorem serves {label : Label α} (inv : Linearized state) (taken : step state label = some next) :
    match effect state label with
    | none => next.contents = state.contents
    | some op => BoundedQueue.Serves capacity state.contents op next.contents := by
  have memory := inv.memory
  have length : state.contents.length = state.history.accepted.length - state.history.freed := List.length_drop
  have order := memory.order.trans memory.available
  cases label with
  | push item =>
    simp only [step] at taken
    split at taken
    · obtain rfl := Option.some.inj taken
      rfl
    · cases taken
  | pop =>
    simp only [step] at taken
    split at taken
    · obtain rfl := Option.some.inj taken
      rfl
    · cases taken
  | producer torn =>
    have current := inv.producer
    simp only [step, producerStep] at taken
    simp only [effect]
    cases here : state.producer with
    | loadedHead item head =>
      simp only [here] at taken current
      obtain rfl : head = state.buffer.head := current
      simp only
      split at taken
      next full =>
        obtain rfl := Option.some.inj taken
        rw [if_pos full]
        exact BoundedQueue.push_full (by have := memory.full_iff.mp full; omega) item
      next notFull =>
        obtain rfl := Option.some.inj taken
        rw [if_neg notFull]
        rfl
    | written item head =>
      simp only [here] at taken current
      have room := current.2.1
      obtain rfl := Option.some.inj taken
      have appended : (state.history.accepted ++ [item]).drop state.history.freed = state.contents ++ [item] :=
        List.drop_append_of_le_length order
      exact (BoundedQueue.push_room (by omega) item).trans (congrArg (Prod.mk true) appended.symm)
    | idle => simp only [here] at taken; cases taken
    | _ =>
      simp only [here] at taken
      obtain rfl := Option.some.inj taken
      rfl
  | consumer movedFrom =>
    have current := inv.consumer
    simp only [step, consumerStep] at taken
    simp only [effect]
    cases here : state.consumer with
    | loadedTail tail =>
      simp only [here] at taken current
      obtain rfl : tail = state.buffer.tail := current
      simp only
      split at taken
      next empty =>
        obtain rfl := Option.some.inj taken
        rw [if_pos empty]
        have none : state.contents = [] := List.drop_of_length_le (memory.empty_iff.mp empty).ge
        change BoundedQueue.pop state.contents = (.none, state.contents)
        rw [none]
        rfl
      next notEmpty =>
        obtain rfl := Option.some.inj taken
        rw [if_neg notEmpty]
        rfl
    | moved item tail =>
      have head := inv.moved_head here
      simp only [here] at taken
      obtain rfl := Option.some.inj taken
      have dropped : state.history.accepted.drop (state.history.freed + 1) = state.contents.tail :=
        List.tail_drop.symm
      change BoundedQueue.pop state.contents = (some item, state.history.accepted.drop (state.history.freed + 1))
      rw [dropped, BoundedQueue.pop]
      rw [head]
      rfl
    | idle => simp only [here] at taken; cases taken
    | _ =>
      simp only [here] at taken
      obtain rfl := Option.some.inj taken
      rfl

end Linearized

end VoxMesh.Audio.Spsc
