import Mathlib.Algebra.Order.Group.Multiset

/-! # Handles

A program takes handles from a heap and has to give each of them back once. Where it uses or frees a handle that is
null or no longer live it has no outcome: a program that has one frees nothing twice and uses nothing that it has freed.

`Holds` is the Hoare triple of such a program, with an outcome that may be an exception. Its assertions are about the
program's state and the handles that it owns. The rest of the heap stays as it is, so every triple carries its frame.
-/

namespace Machine

structure Handle (κ : Type) where
  kind : κ
  number : ℕ
deriving DecidableEq

/-- What is owned through a pointer, which may be null. -/
def owned {κ : Type} : Option (Handle κ) → Multiset (Handle κ)
  | none => 0
  | some handle => {handle}

@[simp] theorem owned_none {κ : Type} : owned (none : Option (Handle κ)) = 0 := rfl

@[simp] theorem owned_some {κ : Type} (handle : Handle κ) : owned (some handle) = {handle} := rfl

/-- The live handles. A number is given out once. -/
structure Heap (κ : Type) where
  live : Multiset (Handle κ) := 0
  next : ℕ := 0
  below : ∀ handle ∈ live, handle.number < next := by simp
  distinct : (live.map Handle.number).Nodup := by simp

variable {κ : Type}

namespace Heap

/-- The next number is not in use. -/
theorem fresh (heap : Heap κ) : heap.next ∉ heap.live.map Handle.number := by
  intro used
  obtain ⟨handle, member, same⟩ := Multiset.mem_map.mp used
  exact absurd (heap.below handle member) (by omega)

def alloc (heap : Heap κ) (kind : κ) : Heap κ where
  live := ⟨kind, heap.next⟩ ::ₘ heap.live
  next := heap.next + 1
  below handle member := by
    rcases Multiset.mem_cons.mp member with rfl | earlier
    · exact Nat.lt_succ_self _
    · exact Nat.lt_succ_of_lt (heap.below handle earlier)
  distinct := by
    rw [Multiset.map_cons, Multiset.nodup_cons]
    exact ⟨heap.fresh, heap.distinct⟩

variable [DecidableEq κ]

def remove (heap : Heap κ) (handle : Handle κ) : Heap κ where
  live := heap.live.erase handle
  next := heap.next
  below other member := heap.below other (Multiset.mem_of_mem_erase member)
  distinct := Multiset.nodup_of_le (Multiset.map_le_map (Multiset.erase_le _ _)) heap.distinct

end Heap

/-- A program with a state of its own that may end in an exception. -/
abbrev Handling (κ σ ε : Type) := ExceptT ε (StateT (σ × Heap κ) Option)

/-- What holds of a program's state and of the handles that it owns. -/
abbrev Assertion (κ σ : Type) := σ → Multiset (Handle κ) → Prop

namespace Handling

variable {σ ε ε' α β : Type}

def act (action : σ → α × σ) : Handling κ σ ε α :=
  ExceptT.mk fun (s, heap) => some (.ok (action s).1, ((action s).2, heap))

/-- A step that the program must not take. -/
def misuse : Handling κ σ ε α := ExceptT.mk fun _ => none

def allocate (kind : κ) : Handling κ σ ε (Handle κ) :=
  ExceptT.mk fun (s, heap) => some (.ok ⟨kind, heap.next⟩, (s, heap.alloc kind))

/-- Run the program, and hand out its exception as a value. -/
def attempt (program : Handling κ σ ε α) : Handling κ σ ε' (Except ε α) :=
  ExceptT.mk fun state => (program.run state).map fun (outcome, state) => (.ok outcome, state)

section Use

variable [DecidableEq κ]

/-- Use the handle behind a pointer. -/
def touch : Option (Handle κ) → Handling κ σ ε Unit
  | none => misuse
  | some handle => ExceptT.mk fun (s, heap) => if handle ∈ heap.live then some (.ok (), (s, heap)) else none

def free : Option (Handle κ) → Handling κ σ ε Unit
  | none => misuse
  | some handle => ExceptT.mk fun (s, heap) =>
      if handle ∈ heap.live then some (.ok (), (s, heap.remove handle)) else none

/-- Free the handle, unless the pointer is null. -/
def release (pointer : Option (Handle κ)) : Handling κ σ ε Unit :=
  if pointer.isSome then free pointer else pure ()

end Use

/-- Started where `P` holds of the handles it owns, the program has an outcome, of which `R` holds, and leaves the rest
of the heap alone. -/
def Holds (P : Assertion κ σ) (program : Handling κ σ ε α) (R : Except ε α → Assertion κ σ) : Prop :=
  ∀ s heap owned rest, heap.live = owned + rest → P s owned → ∃ outcome t heap' owned',
    program.run (s, heap) = some (outcome, (t, heap')) ∧ heap'.live = owned' + rest ∧ R outcome t owned'

namespace Holds

variable {P P' M : Assertion κ σ} {R R' : Except ε α → Assertion κ σ} {S : Except ε β → Assertion κ σ}

theorem conseq {program : Handling κ σ ε α} (holds : Holds P program R) (pre : ∀ s owned, P' s owned → P s owned)
    (post : ∀ outcome s owned, R outcome s owned → R' outcome s owned) : Holds P' program R' := by
  intro s heap owned rest live assumed
  obtain ⟨outcome, t, heap', owned', ran, live', result⟩ := holds s heap owned rest live (pre s owned assumed)
  exact ⟨outcome, t, heap', owned', ran, live', post outcome t owned' result⟩

theorem pure (value : α) (post : ∀ s owned, P s owned → R (.ok value) s owned) :
    Holds P (Pure.pure value : Handling κ σ ε α) R :=
  fun s heap owned _ live assumed => ⟨.ok value, s, heap, owned, rfl, live, post s owned assumed⟩

theorem throw (error : ε) (post : ∀ s owned, P s owned → R (.error error) s owned) :
    Holds P (MonadExcept.throw error : Handling κ σ ε α) R :=
  fun s heap owned _ live assumed => ⟨.error error, s, heap, owned, rfl, live, post s owned assumed⟩

theorem of_fact {fact : Prop} {program : Handling κ σ ε α} (holds : fact → Holds P program R) :
    Holds (fun s owned => fact ∧ P s owned) program R :=
  fun s heap owned rest live assumed => holds assumed.1 s heap owned rest live assumed.2

theorem bind {program : Handling κ σ ε α} {next : α → Handling κ σ ε β} (first : Holds P program R)
    (second : ∀ value, Holds (R (.ok value)) (next value) S)
    (fails : ∀ error s owned, R (.error error) s owned → S (.error error) s owned) : Holds P (program >>= next) S := by
  intro s heap owned rest live assumed
  obtain ⟨outcome, t, heap', owned', ran, live', result⟩ := first s heap owned rest live assumed
  have steps : (program >>= next).run (s, heap) =
      (program.run (s, heap)).bind fun (outcome, state) => ExceptT.bindCont next outcome state := rfl
  rw [ran, Option.bind_some] at steps
  cases outcome with
  | ok value =>
    obtain ⟨outcome, u, heap'', owned'', ran', live'', result'⟩ := second value t heap' owned' rest live' result
    exact ⟨outcome, u, heap'', owned'', steps.trans ran', live'', result'⟩
  | error error => exact ⟨.error error, t, heap', owned', steps, live', fails error t owned' result⟩

/-- A step that succeeds with a known value. -/
theorem bind_eq {program : Handling κ σ ε α} {next : α → Handling κ σ ε β} (known : α)
    (first : Holds P program fun outcome s owned => outcome = .ok known ∧ M s owned) (second : Holds M (next known) S) :
    Holds P (program >>= next) S := by
  refine bind first (fun value => of_fact fun same => ?_) fun error s owned holds => ?_
  · exact Except.ok.inj same ▸ second
  · exact absurd holds.1 (by simp)

theorem ite {condition : Prop} [Decidable condition] {first second : Handling κ σ ε α}
    (yes : condition → Holds P first R) (no : ¬ condition → Holds P second R) :
    Holds P (if condition then first else second) R := by
  split
  next holds => exact yes holds
  next fails => exact no fails

theorem of_exists {ι : Type} {P : ι → Assertion κ σ} {program : Handling κ σ ε α} (each : ∀ i, Holds (P i) program R) :
    Holds (fun s owned => ∃ i, P i s owned) program R := by
  rintro s heap owned rest live ⟨i, assumed⟩
  exact each i s heap owned rest live assumed

theorem act {action : σ → α × σ} (post : ∀ s owned, P s owned → R (.ok (action s).1) (action s).2 owned) :
    Holds P (act action : Handling κ σ ε α) R :=
  fun s heap owned _ live assumed => ⟨.ok (action s).1, (action s).2, heap, owned, rfl, live, post s owned assumed⟩

theorem attempt {program : Handling κ σ ε α} (holds : Holds P program R) :
    Holds P (attempt program : Handling κ σ ε' (Except ε α)) fun outcome s owned =>
      ∃ result, outcome = .ok result ∧ R result s owned := by
  intro s heap owned rest live assumed
  obtain ⟨result, t, heap', owned', ran, live', post⟩ := holds s heap owned rest live assumed
  exact ⟨.ok result, t, heap', owned', congrArg (Option.map _) ran, live', result, rfl, post⟩

theorem allocate (kind : κ) {R : Except ε (Handle κ) → Assertion κ σ}
    (post : ∀ s owned handle, P s owned → R (.ok handle) s (handle ::ₘ owned)) :
    Holds P (allocate kind : Handling κ σ ε (Handle κ)) R := by
  intro s heap owned rest live assumed
  refine ⟨.ok ⟨kind, heap.next⟩, s, heap.alloc kind, ⟨kind, heap.next⟩ ::ₘ owned, rfl, ?_, post s owned _ assumed⟩
  rw [Multiset.cons_add, ← live]
  rfl

section Use

variable [DecidableEq κ] {R : Except ε Unit → Assertion κ σ}

theorem touch {pointer : Option (Handle κ)}
    (post : ∀ s owned, P s owned → (∃ handle ∈ owned, pointer = some handle) ∧ R (.ok ()) s owned) :
    Holds P (touch pointer : Handling κ σ ε Unit) R := by
  intro s heap owned rest live assumed
  obtain ⟨⟨handle, member, rfl⟩, result⟩ := post s owned assumed
  have held : handle ∈ heap.live := live ▸ Multiset.mem_add.mpr (.inl member)
  exact ⟨.ok (), s, heap, owned, if_pos held, live, result⟩

theorem free {pointer : Option (Handle κ)}
    (post : ∀ s owned, P s owned → ∃ handle left, pointer = some handle ∧ owned = handle ::ₘ left ∧ R (.ok ()) s left) :
    Holds P (free pointer : Handling κ σ ε Unit) R := by
  intro s heap owned rest live assumed
  obtain ⟨handle, left, rfl, rfl, result⟩ := post s owned assumed
  have held : handle ∈ heap.live := by
    rw [live, Multiset.cons_add]
    exact Multiset.mem_cons_self _ _
  refine ⟨.ok (), s, heap.remove handle, left, if_pos held, ?_, result⟩
  change heap.live.erase handle = left + rest
  rw [live, Multiset.cons_add, Multiset.erase_cons_head]

theorem release {pointer : Option (Handle κ)}
    (post : ∀ s all, P s all → ∃ left, all = owned pointer + left ∧ R (.ok ()) s left) :
    Holds P (release pointer : Handling κ σ ε Unit) R := by
  refine Holds.ite (fun present => free fun s all assumed => ?_) fun null => pure () fun s all assumed => ?_
  · obtain ⟨handle, rfl⟩ := Option.isSome_iff_exists.mp present
    obtain ⟨left, split, result⟩ := post s all assumed
    exact ⟨handle, left, rfl, split, result⟩
  · obtain rfl := Option.not_isSome_iff_eq_none.mp null
    obtain ⟨left, split, result⟩ := post s all assumed
    rwa [split, owned_none, zero_add]

end Use

end Holds

end Handling

end Machine
