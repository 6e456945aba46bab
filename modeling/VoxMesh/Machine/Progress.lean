import Mathlib.Algebra.Ring.Nat
import VoxMesh.Machine.Run

/-! # Machines that come to rest

A rank bounds how long a machine can go on: where an invariant holds, each step takes the rank down by one at
least, up to what its label pays in (`Ranked`). So the length of a run is bounded by the rank of its first state and
what its labels pay in. If some of the labels that pay in nothing are always enabled short of a goal, they lead to it.
-/

namespace Machine

variable {σ ℓ : Type*} {step : σ → ℓ → Option σ}

/-- Where the invariant holds, a step keeps it or reaches the goal, and costs one of the rank and of what its label
pays in. -/
structure Ranked (step : σ → ℓ → Option σ) (I goal : σ → Prop) (rank : σ → ℕ) (pays : ℓ → ℕ) : Prop where
  keeps : ∀ s label t, I s → step s label = some t → I t ∨ goal t
  falls : ∀ s label t, I s → step s label = some t → rank t + 1 ≤ rank s + pays label

namespace Ranked

variable {I goal : σ → Prop} {rank : σ → ℕ} {pays : ℓ → ℕ}

/-- A run that does not pass the goal is no longer than its rank and its labels allow. -/
theorem length_le (ranked : Ranked step I goal rank pays) {s t : σ} {labels : List ℓ} (run : Run step s labels t)
    (start : I s) (short : Along step (fun s _ => ¬ goal s) s labels) :
    labels.length + rank t ≤ rank s + (labels.map pays).sum := by
  induction labels generalizing s with
  | nil =>
    rw [Run.nil_iff.mp run]
    exact Nat.le_of_eq (Nat.zero_add _)
  | cons label rest ih =>
    obtain ⟨next, taken, tail⟩ := Run.cons_iff.mp run
    have fall := ranked.falls s label next start taken
    rw [List.length_cons, List.map_cons, List.sum_cons]
    rcases ranked.keeps s label next start taken with still | reached
    · have later := ih tail still (short.2 next taken)
      omega
    · cases rest with
      | nil =>
        rw [Run.nil_iff.mp tail]
        simpa [Nat.add_comm] using fall
      | cons other rest => exact absurd reached (short.2 next taken).1

/-- Where some label that is allowed and pays in nothing is enabled short of the goal, such labels lead to it. -/
theorem reaches (ranked : Ranked step I goal rank pays) {allowed : ℓ → Prop}
    (enabled : ∀ s, I s → ¬ goal s → ∃ label, (allowed label ∧ pays label = 0) ∧ (step s label).isSome = true) (s : σ)
    (start : I s) :
    ∃ labels t, Run step s labels t ∧ (∀ label ∈ labels, allowed label ∧ pays label = 0) ∧ goal t := by
  induction bound : rank s using Nat.strongRecOn generalizing s with
  | ind bound' ih =>
    by_cases reached : goal s
    · exact ⟨[], s, Run.nil_iff.mpr rfl, by simp, reached⟩
    · obtain ⟨label, free, takes⟩ := enabled s start reached
      obtain ⟨next, taken⟩ := Option.isSome_iff_exists.mp takes
      have fall := ranked.falls s label next start taken
      rcases ranked.keeps s label next start taken with still | there
      · obtain ⟨labels, t, run, all, goes⟩ := ih (rank next) (by omega) next still rfl
        exact ⟨label :: labels, t, Run.cons_iff.mpr ⟨next, taken, run⟩, List.forall_mem_cons.mpr ⟨free, all⟩, goes⟩
      · exact ⟨[label], next, Run.cons_iff.mpr ⟨next, taken, Run.nil_iff.mpr rfl⟩,
          List.forall_mem_singleton.mpr free, there⟩

end Ranked

end Machine
