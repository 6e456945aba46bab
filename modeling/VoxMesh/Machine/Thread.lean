import VoxMesh.Machine.Run

/-! # One thread among others

A `Thread` is the computation of one thread on a state that it shares with the others. The steps of the
others come from a labeled machine. They happen only where the thread yields, and the thread's agenda says
which of them happen at each of its yields: one agenda is one interleaving. A thread that waits for a lock
yields, and has no outcome when the lock is still taken after that.

`Ensures` is the Hoare triple of a thread under every interleaving. An assertion about shared state is of
use across a yield when no step of the others can falsify it (`Stable`). `Completes` says that from every
state the others can let the thread run to its end.
-/

namespace Machine

/-- The shared state, and the steps of the others at each yield still to come. -/
structure View (σ ℓ : Type) where
  shared : σ
  agenda : List (List ℓ) := []

abbrev Thread (σ ℓ : Type) := StateT (View σ ℓ) Option

namespace Thread

variable {σ ℓ α β : Type}

/-- A step on state that the others leave alone. -/
def act (action : σ → α × σ) : Thread σ ℓ α := fun view =>
  some ((action view.shared).1, { view with shared := (action view.shared).2 })

def read (f : σ → α) : Thread σ ℓ α := act fun s => (f s, s)

def update (f : σ → σ) : Thread σ ℓ Unit := act fun s => ((), f s)

/-- Let the other threads take the steps that are next on the agenda. -/
def yield (others : σ → ℓ → Option σ) : Thread σ ℓ Unit := fun view =>
  match view.agenda with
  | [] => some ((), view)
  | steps :: later => (exec others view.shared steps).map fun shared => ((), ⟨shared, later⟩)

/-- A critical section, entered with the lock free. -/
def critical (free : σ → Bool) (action : σ → α × σ) : Thread σ ℓ α := fun view =>
  if free view.shared then some ((action view.shared).1, { view with shared := (action view.shared).2 }) else none

/-- Wait for the lock and run a critical section. -/
def locked (others : σ → ℓ → Option σ) (free : σ → Bool) (action : σ → α × σ) : Thread σ ℓ α := do
  yield others
  critical free action

/-- Wait until the others have brought the condition about. -/
def await (others : σ → ℓ → Option σ) (ready : σ → Bool) : Thread σ ℓ Unit := locked others ready fun s => ((), s)

/-- The result of the thread under the given interleaving, and the state it leaves. -/
def run (thread : Thread σ ℓ α) (agenda : List (List ℓ)) (s : σ) : Option (α × σ) :=
  (thread ⟨s, agenda⟩).map fun (result, view) => (result, view.shared)

/-- No step of the others falsifies the assertion. -/
def Stable (others : σ → ℓ → Option σ) (P : σ → Prop) : Prop :=
  ∀ s label t, others s label = some t → P s → P t

/-- Started where `P` holds, the thread ends where `Q` holds of its result. -/
def Ensures (P : σ → Prop) (thread : Thread σ ℓ α) (Q : α → σ → Prop) : Prop :=
  ∀ view result view', thread view = some (result, view') → P view.shared → Q result view'.shared

/-- From every state the others can let the thread run to its end, by steps of the given kind. -/
def Completes (kind : ℓ → Prop) (thread : Thread σ ℓ α) : Prop :=
  ∀ s, ∃ agenda result t, (∀ steps ∈ agenda, ∀ label ∈ steps, kind label) ∧
    ∀ later, thread ⟨s, agenda ++ later⟩ = some (result, ⟨t, later⟩)

/-- From every state the others can free the lock, by steps of the given kind. -/
def Frees (others : σ → ℓ → Option σ) (kind : ℓ → Prop) (free : σ → Bool) : Prop :=
  ∀ s, ∃ steps t, Run others s steps t ∧ free t = true ∧ ∀ label ∈ steps, kind label

theorem bind_eq_some {first : Thread σ ℓ α} {next : α → Thread σ ℓ β} {view last : View σ ℓ} {result : β} :
    (first >>= next) view = some (result, last) ↔
      ∃ value middle, first view = some (value, middle) ∧ next value middle = some (result, last) := by
  change (first view).bind (fun (value, middle) => next value middle) = _ ↔ _
  simp only [Option.bind_eq_some_iff, Prod.exists]

namespace Stable

variable {others : σ → ℓ → Option σ} {P : σ → Prop}

theorem exec (stable : Stable others P) {s t : σ} {steps : List ℓ}
    (run : exec others s steps = some t) (holds : P s) : P t :=
  Run.invariant (fun s label t holds taken => stable s label t taken holds) run holds

end Stable

namespace Ensures

variable {others : σ → ℓ → Option σ} {P P' : σ → Prop} {Q Q' : α → σ → Prop} {R : β → σ → Prop}

theorem run {thread : Thread σ ℓ α} (ensures : Ensures P thread Q) {agenda : List (List ℓ)} {s t : σ}
    {result : α} (outcome : thread.run agenda s = some (result, t)) (holds : P s) : Q result t := by
  obtain ⟨⟨value, view⟩, done, same⟩ := Option.map_eq_some_iff.mp outcome
  obtain ⟨rfl, rfl⟩ := Prod.mk.inj same
  exact ensures _ _ _ done holds

theorem pure (value : α) (post : ∀ s, P s → Q value s) : Ensures P (Pure.pure value : Thread σ ℓ α) Q := by
  intro view result view' outcome holds
  obtain ⟨rfl, rfl⟩ := Prod.mk.inj (Option.some.inj outcome)
  exact post _ holds

theorem bind {thread : Thread σ ℓ α} {next : α → Thread σ ℓ β} (first : Ensures P thread Q)
    (second : ∀ value, Ensures (Q value) (next value) R) : Ensures P (thread >>= next) R := by
  intro view result view' outcome holds
  obtain ⟨value, middle, left, right⟩ := bind_eq_some.mp outcome
  exact second value middle result view' right (first view value middle left holds)

/-- A step whose result is known. -/
theorem bind_eq {thread : Thread σ ℓ α} {next : α → Thread σ ℓ β} (known : α)
    (first : Ensures P thread fun value s => value = known ∧ P' s) (second : Ensures P' (next known) R) :
    Ensures P (thread >>= next) R :=
  bind first fun _ _ _ _ outcome holds => second _ _ _ (holds.1 ▸ outcome) holds.2

theorem conseq {thread : Thread σ ℓ α} (ensures : Ensures P thread Q) (pre : ∀ s, P' s → P s)
    (post : ∀ value s, Q value s → Q' value s) : Ensures P' thread Q' :=
  fun view result view' outcome holds => post _ _ (ensures view result view' outcome (pre _ holds))

/-- What the thread keeps may be added to what it ensures. -/
theorem keeping {thread : Thread σ ℓ α} {K : σ → Prop} (ensures : Ensures P thread Q)
    (keeps : Ensures (fun s => P s ∧ K s) thread fun _ => K) :
    Ensures (fun s => P s ∧ K s) thread fun value s => Q value s ∧ K s :=
  fun view result view' outcome holds =>
    ⟨ensures view result view' outcome holds.1, keeps view result view' outcome holds⟩

theorem both {thread : Thread σ ℓ α} (first : Ensures P thread Q) (second : Ensures P thread Q') :
    Ensures P thread fun value s => Q value s ∧ Q' value s :=
  fun view result view' outcome holds =>
    ⟨first view result view' outcome holds, second view result view' outcome holds⟩

/-- A fact that does not depend on the state may be used to prove a triple. -/
theorem of_fact {fact : Prop} {thread : Thread σ ℓ α} (ensures : fact → Ensures P thread Q) :
    Ensures (fun s => fact ∧ P s) thread Q :=
  fun view result view' outcome holds => ensures holds.1 view result view' outcome holds.2

theorem of_exists {ι : Type} {P : ι → σ → Prop} {thread : Thread σ ℓ α} (each : ∀ i, Ensures (P i) thread Q) :
    Ensures (fun s => ∃ i, P i s) thread Q := by
  rintro view result view' outcome ⟨i, holds⟩
  exact each i view result view' outcome holds

theorem ite {condition : Prop} [Decidable condition] {first second : Thread σ ℓ α}
    (yes : condition → Ensures P first Q) (no : ¬ condition → Ensures P second Q) :
    Ensures P (if condition then first else second) Q := by
  split
  next holds => exact yes holds
  next fails => exact no fails

theorem act {action : σ → α × σ} (post : ∀ s, P s → Q (action s).1 (action s).2) :
    Ensures P (act action : Thread σ ℓ α) Q := by
  intro view result view' outcome holds
  obtain ⟨rfl, rfl⟩ := Prod.mk.inj (Option.some.inj outcome)
  exact post _ holds

theorem read (f : σ → α) : Ensures P (read f : Thread σ ℓ α) fun value s => value = f s ∧ P s :=
  act fun _ holds => ⟨rfl, holds⟩

theorem update {f : σ → σ} {Q : Unit → σ → Prop} (post : ∀ s, P s → Q () (f s)) :
    Ensures P (update f : Thread σ ℓ Unit) Q := act post

theorem yield (stable : Stable others P) : Ensures P (yield others) fun _ => P := by
  intro view result view' outcome holds
  unfold Thread.yield at outcome
  split at outcome
  next => exact (Prod.mk.inj (Option.some.inj outcome)).2 ▸ holds
  next steps later _ =>
    obtain ⟨shared, run, same⟩ := Option.map_eq_some_iff.mp outcome
    exact (Prod.mk.inj same).2 ▸ stable.exec run holds

theorem locked {free : σ → Bool} {action : σ → α × σ} (stable : Stable others P)
    (post : ∀ s, P s → free s = true → Q (action s).1 (action s).2) :
    Ensures P (locked others free action) Q := by
  refine bind (yield stable) fun _ => ?_
  intro view result view' outcome holds
  unfold critical at outcome
  split at outcome
  next unlocked =>
    obtain ⟨rfl, rfl⟩ := Prod.mk.inj (Option.some.inj outcome)
    exact post _ holds unlocked
  next => contradiction

end Ensures

namespace Completes

variable {others : σ → ℓ → Option σ} {free : σ → Bool} {kind : ℓ → Prop}

theorem run {thread : Thread σ ℓ α} (completes : Completes kind thread) (s : σ) :
    ∃ agenda result t, (∀ steps ∈ agenda, ∀ label ∈ steps, kind label) ∧
      thread.run agenda s = some (result, t) := by
  obtain ⟨agenda, result, t, kinds, outcome⟩ := completes s
  refine ⟨agenda, result, t, kinds, ?_⟩
  rw [Thread.run, ← List.append_nil agenda, outcome []]
  rfl

theorem pure (value : α) : Completes kind (Pure.pure value : Thread σ ℓ α) :=
  fun s => ⟨[], value, s, nofun, fun _ => rfl⟩

theorem bind {thread : Thread σ ℓ α} {next : α → Thread σ ℓ β} (first : Completes kind thread)
    (second : ∀ value, Completes kind (next value)) : Completes kind (thread >>= next) := by
  intro s
  obtain ⟨before, value, middle, left, outcome⟩ := first s
  obtain ⟨after, result, t, right, ended⟩ := second value middle
  refine ⟨before ++ after, result, t, fun steps member => ?_, fun later => ?_⟩
  · rcases List.mem_append.mp member with early | late
    · exact left steps early
    · exact right steps late
  · rw [List.append_assoc]
    exact bind_eq_some.mpr ⟨value, _, outcome (after ++ later), ended later⟩

theorem ite {condition : Prop} [Decidable condition] {first second : Thread σ ℓ α}
    (yes : Completes kind first) (no : Completes kind second) :
    Completes kind (if condition then first else second) := by
  split
  next => exact yes
  next => exact no

theorem act (action : σ → α × σ) : Completes kind (act action : Thread σ ℓ α) :=
  fun s => ⟨[], (action s).1, (action s).2, nofun, fun _ => rfl⟩

theorem read (f : σ → α) : Completes kind (read f : Thread σ ℓ α) := act _

theorem update (f : σ → σ) : Completes kind (update f : Thread σ ℓ Unit) := act _

theorem yield : Completes kind (yield others) :=
  fun s => ⟨[[]], (), s, by simp, fun _ => rfl⟩

theorem locked (frees : Frees others kind free) (action : σ → α × σ) :
    Completes kind (locked others free action) := by
  intro s
  obtain ⟨steps, t, run, unlocked, kinds⟩ := frees s
  refine ⟨[steps], (action t).1, (action t).2, by simpa using kinds, fun later => ?_⟩
  refine bind_eq_some.mpr ⟨(), ⟨t, later⟩, ?_, if_pos unlocked⟩
  exact congrArg (Option.map fun shared => ((), (⟨shared, later⟩ : View σ ℓ))) run

/-- What the thread changes may be what lets the others end its wait. -/
theorem update_await {change : σ → σ}
    (leads : ∀ s, ∃ steps t, Run others (change s) steps t ∧ free t = true ∧ ∀ label ∈ steps, kind label) :
    Completes kind (Thread.update change >>= fun _ => await others free) := by
  intro s
  obtain ⟨steps, t, run, ready, kinds⟩ := leads s
  refine ⟨[steps], (), t, by simpa using kinds, fun later => ?_⟩
  refine bind_eq_some.mpr ⟨(), ⟨change s, steps :: later⟩, rfl, bind_eq_some.mpr ⟨(), ⟨t, later⟩, ?_, if_pos ready⟩⟩
  exact congrArg (Option.map fun shared => ((), (⟨shared, later⟩ : View σ ℓ))) run

end Completes

end Thread

end Machine
