import VoxMesh.Proofs.RingBufferSteps
import Mathlib.Data.List.Induction

/-! # The ring buffer is a linearizable bounded queue

Every reachable state of the interleaved ring is a `BoundedFifo`: what comes out is a prefix of what
went in, the two sides never touch one slot at a time, an item is handed back only after a load that showed
a full ring (`found_full`), a pop returns nothing only from an empty one, and the counters are exact when
nobody is inside a call. `linearizes` adds
that each step is, for an observer of the published items, no operation or one atomic operation of
`BoundedQueue` with the answer the caller gets.
-/

namespace VoxMesh.Audio.Spsc

open SpscRingBuffer

variable {α : Type*} {capacity : ℕ}

structure BoundedFifo (state : State α capacity) : Prop where
  /-- Items move out in the order they were pushed, none skipped, none twice. -/
  taken_prefix : state.history.taken <+: state.history.accepted
  returned_prefix : state.history.returned <+: state.history.accepted
  /-- The calls that succeeded published their own items, in the order of the calls. -/
  accepted_sublist : state.history.accepted.Sublist state.history.offered
  /-- The calls that failed left their own items with their callers. -/
  handedBack_sublist : state.history.handedBack.Sublist state.history.offered
  bounded : state.history.accepted.length ≤ state.history.freed + capacity
  /-- The slot being written and the slot being moved out of are different slots. -/
  exclusive : ∀ head ∈ state.producer.owns, ∀ tail ∈ state.consumer.owns, head ≠ tail
  /-- A push decides to fail only when its load of the tail shows a full ring. -/
  refuses_full : ∀ torn item next, producerStep state torn = some next → state.producer ≠ .full item →
    next.producer = .full item → state.buffer.size = capacity
  /-- An item is handed back only by a push that has decided to fail. -/
  handsBack : ∀ label next, step state label = some next → next.history.handedBack ≠ state.history.handedBack →
    ∃ item, state.producer = .full item ∧ next.history.handedBack = state.history.handedBack ++ [item]
  /-- No step of a failing push writes a slot or an index, and the item comes back as it was offered. -/
  refuses_unchanged : ∀ torn next, state.producer.undecided → producerStep state torn = some next →
    next.buffer.slots = state.buffer.slots ∧ next.buffer.head = state.buffer.head ∧
      next.buffer.tail = state.buffer.tail ∧
      ∀ item, state.producer = .full item → next.history.handedBack = state.history.handedBack ++ [item]
  /-- A pop comes back empty only when its load of the head shows an empty ring. -/
  misses_empty : ∀ tail movedFrom next, state.consumer = .loadedTail tail →
    consumerStep state movedFrom = some next → next.consumer = .idle → state.buffer.size = 0
  /-- A pop that returns without an item returns at an empty ring. -/
  returns_nothing : ∀ label next, step state label = some next → state.consumer ≠ .idle → next.consumer = .idle →
    next.history.returned = state.history.returned → state.buffer.empty = true
  /-- The counters agree with the indices and the calls when no call is in progress. -/
  quiescent : state.producer = .idle → state.consumer = .idle →
    state.buffer.pushed = state.buffer.popped + state.buffer.size ∧
      state.buffer.pushed + state.buffer.rejected = state.history.offered.length
  linearizes : ∀ label next, step state label = some next →
    match effect state label with
    | none => next.contents = state.contents
    | some op => BoundedQueue.Serves capacity state.contents op next.contents

section Sides

variable {state next : State α capacity}

theorem producerStep_consumer {torn : α} (taken : producerStep state torn = some next) :
    next.consumer = state.consumer ∧ next.history.returned = state.history.returned := by
  simp only [producerStep] at taken
  cases here : state.producer with
  | idle => simp only [here] at taken; cases taken
  | loadedHead item head =>
    simp only [here] at taken
    split at taken <;> obtain rfl := Option.some.inj taken <;> exact ⟨rfl, rfl⟩
  | _ =>
    simp only [here] at taken
    obtain rfl := Option.some.inj taken
    exact ⟨rfl, rfl⟩

theorem consumerStep_producer {movedFrom : α} (taken : consumerStep state movedFrom = some next) :
    next.producer = state.producer ∧ next.history.handedBack = state.history.handedBack := by
  simp only [consumerStep] at taken
  cases here : state.consumer with
  | idle => simp only [here] at taken; cases taken
  | loadedTail tail =>
    simp only [here] at taken
    split at taken <;> obtain rfl := Option.some.inj taken <;> exact ⟨rfl, rfl⟩
  | _ =>
    simp only [here] at taken
    obtain rfl := Option.some.inj taken
    exact ⟨rfl, rfl⟩

theorem push_keeps_consumer {item : α} (taken : step state (.push item) = some next) :
    next.producer = .called item ∧ next.consumer = state.consumer ∧
      next.history.handedBack = state.history.handedBack := by
  simp only [step] at taken
  split at taken
  next => obtain rfl := Option.some.inj taken; exact ⟨rfl, rfl, rfl⟩
  next => contradiction

theorem pop_keeps_producer (taken : step state .pop = some next) :
    state.consumer = .idle ∧ next.producer = state.producer ∧
      next.history.handedBack = state.history.handedBack := by
  simp only [step] at taken
  split at taken
  next idle => obtain rfl := Option.some.inj taken; exact ⟨idle, rfl, rfl⟩
  next => contradiction

end Sides

namespace Linearized

variable {state : State α capacity}

theorem taken_prefix (inv : Linearized state) : state.history.taken <+: state.history.accepted := by
  rw [inv.taken]
  exact List.take_prefix _ _

private theorem exclusive (inv : Linearized state) :
    ∀ head ∈ state.producer.owns, ∀ tail ∈ state.consumer.owns, head ≠ tail := by
  intro head writing tail moving same
  have memory := inv.memory
  have headIndex : head = state.buffer.head := by
    have current := inv.producer
    cases here : state.producer <;> simp only [here, Producer.owns, Option.mem_def, reduceCtorEq,
      Option.some.injEq] at writing <;> simp only [here] at current <;> exact writing ▸ current.1
  have tailIndex : tail = state.buffer.tail ∧ state.history.freed < state.history.accepted.length := by
    have current := inv.consumer
    have available := memory.available
    cases here : state.consumer with
    | moved item slot =>
      simp only [here, Consumer.owns, Option.mem_def, Option.some.injEq, Consumer.ahead] at moving current available
      exact ⟨moving ▸ current, available⟩
    | checked slot | moving slot =>
      simp only [here, Consumer.owns, Option.mem_def, Option.some.injEq] at moving current
      exact ⟨moving ▸ current.1, current.2⟩
    | _ => simp only [here, Consumer.owns, Option.mem_def, reduceCtorEq] at moving
  obtain ⟨tailIndex, notEmpty⟩ := tailIndex
  have := memory.empty_iff.mp (tailIndex ▸ headIndex ▸ same.symm)
  omega

/-- A push decides to fail at the load of the tail, when the ring is full. -/
private theorem loads_full (inv : Linearized state) {torn item : α} {next : State α capacity}
    (taken : producerStep state torn = some next) (after : next.producer = .full item) :
    (∃ head, state.producer = .loadedHead item head) ∧ state.buffer.size = capacity := by
  have current := inv.producer
  simp only [producerStep] at taken
  cases here : state.producer with
  | loadedHead own head =>
    simp only [here] at taken current
    obtain rfl : head = state.buffer.head := current
    split at taken
    next full =>
      have count := inv.memory.full_iff.mp full
      obtain rfl := Option.some.inj taken
      obtain rfl := Producer.full.inj after
      refine ⟨⟨state.buffer.head, rfl⟩, ?_⟩
      rw [inv.memory.size_eq]
      omega
    next notFull =>
      obtain rfl := Option.some.inj taken
      cases after
  | idle => simp only [here] at taken; cases taken
  | _ =>
    simp only [here] at taken
    obtain rfl := Option.some.inj taken
    cases after

private theorem misses_empty (inv : Linearized state) : ∀ tail movedFrom next, state.consumer = .loadedTail tail →
    consumerStep state movedFrom = some next → next.consumer = .idle → state.buffer.size = 0 := by
  intro tail movedFrom next here taken after
  have current := inv.consumer
  simp only [here] at current
  obtain rfl : tail = state.buffer.tail := current
  simp only [consumerStep, here] at taken
  split at taken
  next empty =>
    have count := inv.memory.empty_iff.mp empty
    rw [inv.memory.size_eq]
    omega
  next notEmpty =>
    obtain rfl := Option.some.inj taken
    cases after

private theorem returns_nothing (inv : Linearized state) : ∀ label next, step state label = some next →
    state.consumer ≠ .idle → next.consumer = .idle → next.history.returned = state.history.returned →
      state.buffer.empty = true := by
  intro label next taken calling after same
  cases label with
  | push item => exact absurd ((push_keeps_consumer taken).2.1.symm.trans after) calling
  | pop => exact absurd (pop_keeps_producer taken).1 calling
  | producer torn => exact absurd ((producerStep_consumer taken).1.symm.trans after) calling
  | consumer movedFrom =>
    cases here : state.consumer with
    | idle => exact absurd here calling
    | loadedTail tail => exact beq_iff_eq.mpr (inv.misses_empty tail movedFrom next here taken after)
    | released item =>
      simp only [step, consumerStep, here] at taken
      obtain rfl := Option.some.inj taken
      exact absurd same (by simp)
    | _ =>
      simp only [step, consumerStep, here] at taken
      obtain rfl := Option.some.inj taken
      cases after

private theorem quiescent (inv : Linearized state) (quietProducer : state.producer = .idle)
    (quietConsumer : state.consumer = .idle) :
    state.buffer.pushed = state.buffer.popped + state.buffer.size ∧
      state.buffer.pushed + state.buffer.rejected = state.history.offered.length := by
  have pushed := inv.pushed
  have popped := inv.popped
  have rejected := inv.rejected
  have calls := inv.calls
  have memory := inv.memory
  have taken := congrArg List.length inv.taken
  have returned := congrArg List.length inv.returned
  simp only [quietProducer, quietConsumer, Producer.uncounted, Producer.pending, Consumer.ahead,
    Consumer.holding, List.length_nil, List.append_nil, List.length_take] at pushed calls memory taken returned
  have size := memory.size_eq
  have available := memory.available
  omega

end Linearized

private theorem refuses_unchanged (state : State α capacity) : ∀ torn next, state.producer.undecided →
    producerStep state torn = some next → next.buffer.slots = state.buffer.slots ∧
      next.buffer.head = state.buffer.head ∧ next.buffer.tail = state.buffer.tail ∧
      ∀ item, state.producer = .full item → next.history.handedBack = state.history.handedBack ++ [item] := by
  intro torn next undecided taken
  simp only [producerStep] at taken
  cases here : state.producer with
  | called item =>
    simp only [here] at taken
    obtain rfl := Option.some.inj taken
    exact ⟨rfl, rfl, rfl, by rintro own ⟨⟩⟩
  | loadedHead item head =>
    simp only [here] at taken
    split at taken <;> obtain rfl := Option.some.inj taken <;> exact ⟨rfl, rfl, rfl, by rintro own ⟨⟩⟩
  | full item =>
    simp only [here] at taken
    obtain rfl := Option.some.inj taken
    refine ⟨rfl, rfl, rfl, ?_⟩
    rintro own ⟨⟩
    rfl
  | _ => simp only [here, Producer.undecided, Bool.false_eq_true] at undecided

private theorem handsBack (state : State α capacity) : ∀ label next, step state label = some next →
    next.history.handedBack ≠ state.history.handedBack →
      ∃ item, state.producer = .full item ∧ next.history.handedBack = state.history.handedBack ++ [item] := by
  intro label next taken grown
  cases label with
  | push item => exact absurd (push_keeps_consumer taken).2.2 grown
  | pop => exact absurd (pop_keeps_producer taken).2.2 grown
  | consumer movedFrom => exact absurd (consumerStep_producer taken).2 grown
  | producer torn =>
    cases here : state.producer with
    | idle => simp only [step, producerStep, here] at taken; cases taken
    | full item =>
      simp only [step, producerStep, here] at taken
      obtain rfl := Option.some.inj taken
      exact ⟨item, rfl, rfl⟩
    | loadedHead item head =>
      simp only [step, producerStep, here] at taken
      split at taken <;> obtain rfl := Option.some.inj taken <;> exact absurd rfl grown
    | _ =>
      simp only [step, producerStep, here] at taken
      obtain rfl := Option.some.inj taken
      exact absurd rfl grown

theorem Linearized.boundedFifo {state : State α capacity} (inv : Linearized state) : BoundedFifo state where
  taken_prefix := inv.taken_prefix
  returned_prefix := (List.prefix_append _ _).trans (inv.returned ▸ inv.taken_prefix)
  accepted_sublist := (List.sublist_append_left _ _).trans inv.acceptedOrder
  handedBack_sublist := (List.sublist_append_left _ _).trans inv.handedBackOrder
  bounded := inv.memory.room
  exclusive := inv.exclusive
  refuses_full _ _ _ taken _ after := (inv.loads_full taken after).2
  handsBack := handsBack state
  refuses_unchanged := refuses_unchanged state
  misses_empty := inv.misses_empty
  returns_nothing := inv.returns_nothing
  quiescent := inv.quiescent
  linearizes _ _ taken := inv.serves taken

theorem linearized_of_run {slots : Fin (capacity + 1) → α} {schedule : List (Label α)} {state : State α capacity}
    (run : Machine.Run step (initial slots) schedule state) : Linearized state :=
  run.invariant (fun _ _ _ inv taken => Linearized.keeps inv taken) (Linearized.start slots)

/-- The last step of a push that is about to hand its item back found the ring full. -/
theorem found_full {slots : Fin (capacity + 1) → α} {schedule : List (Label α)} {state : State α capacity} {item : α}
    (run : Machine.Run step (initial slots) schedule state) (refusing : state.producer = .full item) :
    ∃ before torn after middle, schedule = before ++ .producer torn :: after ∧
      Machine.Run step (initial slots) before middle ∧ (∃ head, middle.producer = .loadedHead item head) ∧
      middle.buffer.size = capacity ∧ ∀ label ∈ after, ∀ torn, label ≠ .producer torn := by
  induction schedule using List.reverseRecOn generalizing state with
  | nil =>
    obtain rfl := Machine.Run.nil_iff.mp run
    cases refusing
  | append_singleton schedule label ih =>
    obtain ⟨last, earlier, taken⟩ := Machine.Run.snoc_iff.mp run
    have still (same : state.producer = last.producer) (other : ∀ torn, label ≠ .producer torn) :
        ∃ before torn after middle, schedule ++ [label] = before ++ .producer torn :: after ∧
          Machine.Run step (initial slots) before middle ∧ (∃ head, middle.producer = .loadedHead item head) ∧
          middle.buffer.size = capacity ∧ ∀ label ∈ after, ∀ torn, label ≠ .producer torn := by
      obtain ⟨before, torn, after, middle, rfl, start, loaded, full, rest⟩ := ih earlier (same.symm.trans refusing)
      refine ⟨before, torn, after ++ [label], middle, by simp, start, loaded, full, fun entry member => ?_⟩
      rcases List.mem_append.mp member with early | here
      · exact rest entry early
      · exact List.mem_singleton.mp here ▸ other
    cases label with
    | push own => exact absurd ((push_keeps_consumer taken).1.symm.trans refusing) (by simp)
    | pop => exact still (pop_keeps_producer taken).2.1 (by simp)
    | consumer movedFrom => exact still (consumerStep_producer taken).1 (by simp)
    | producer torn =>
      obtain ⟨loaded, full⟩ := (linearized_of_run earlier).loads_full taken refusing
      exact ⟨schedule, torn, [], last, rfl, earlier, loaded, full, by simp⟩

/-- Under every interleaving of one producer and one consumer the ring is a bounded queue. -/
theorem ring_buffer_linearizable (slots : Fin (capacity + 1) → α) (schedule : List (Label α))
    (state : State α capacity) (run : Machine.Run step (initial slots) schedule state) : BoundedFifo state :=
  (linearized_of_run run).boundedFifo

/-- A ring for one item: the second push is refused while the first item is still inside. -/
theorem ring_buffer_linearizable_refusal : ∃ state : State ℕ 1,
    Machine.Run step (initial fun _ => 0) ([.push 7] ++ List.replicate 6 (.producer 0) ++ [.push 8, .pop,
      .producer 0, .consumer 0, .producer 0, .consumer 0, .producer 0] ++ List.replicate 4 (.consumer 0)) state ∧
    state.history.returned = [7] ∧ state.history.handedBack = [8] ∧ BoundedFifo state := by
  have outcome : (Machine.exec step (initial fun _ : Fin 2 => 0) ([.push 7] ++
      List.replicate 6 (.producer 0) ++ [.push 8, .pop, .producer 0, .consumer 0, .producer 0, .consumer 0,
      .producer 0] ++ List.replicate 4 (.consumer 0))).map
      (fun state => (state.history.returned, state.history.handedBack)) = some ([7], [8]) := by
    decide +kernel
  obtain ⟨state, run, same⟩ := Option.map_eq_some_iff.mp outcome
  obtain ⟨returned, handedBack⟩ := Prod.mk.inj same
  exact ⟨state, run, returned, handedBack, ring_buffer_linearizable _ _ state run⟩

end VoxMesh.Audio.Spsc
