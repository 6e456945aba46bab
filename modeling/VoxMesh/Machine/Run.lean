import Mathlib.Data.List.Basic
import Mathlib.Data.Option.Basic
import Mathlib.Tactic.Common

/-! # Finite runs of a labeled machine

A machine is a partial step function `step : σ → ℓ → Option σ`: a label that is not enabled in
a state has no successor. A schedule is a list of labels, so one schedule fixes one interleaving
of all the parties whose steps the labels name. `Run step s labels t` says that the schedule is
executable from `s` and ends in `t`.

Invariants are proved per step and transported along runs. A conditional invariant needs only
the steps of the run at hand to meet a condition on their source state and label (`Along`).
-/

namespace Machine

variable {σ ℓ : Type*} {step : σ → ℓ → Option σ}

/-- Execute a schedule; `none` when some label is not enabled where it is taken. -/
def exec (step : σ → ℓ → Option σ) : σ → List ℓ → Option σ
  | s, [] => some s
  | s, label :: rest => (step s label).bind fun next => exec step next rest

/-- The schedule is executable from `s` and ends in `t`. -/
def Run (step : σ → ℓ → Option σ) (s : σ) (labels : List ℓ) (t : σ) : Prop :=
  exec step s labels = some t

/-- Some schedule leads from `s` to `t`. -/
def Reaches (step : σ → ℓ → Option σ) (s t : σ) : Prop := ∃ labels, Run step s labels t

/-- Every step that the schedule takes from `s` meets `P` at its source state and label. -/
def Along (step : σ → ℓ → Option σ) (P : σ → ℓ → Prop) : σ → List ℓ → Prop
  | _, [] => True
  | s, label :: rest => P s label ∧ ∀ next, step s label = some next → Along step P next rest

namespace Run

@[simp] theorem nil_iff {s t : σ} : Run step s [] t ↔ t = s := by
  simp only [Run, exec, Option.some.injEq, eq_comm]

@[simp] theorem cons_iff {s t : σ} {label : ℓ} {rest : List ℓ} :
    Run step s (label :: rest) t ↔ ∃ next, step s label = some next ∧ Run step next rest t := by
  simp only [Run, exec, Option.bind_eq_some_iff]

/-- A run can be cut at any label; both pieces share the state at the cut. -/
theorem append_iff {s t : σ} {first second : List ℓ} :
    Run step s (first ++ second) t ↔ ∃ middle, Run step s first middle ∧ Run step middle second t := by
  induction first generalizing s with
  | nil => simp
  | cons label rest ih =>
    simp only [List.cons_append, cons_iff, ih]
    constructor
    · rintro ⟨next, taken, middle, left, right⟩
      exact ⟨middle, ⟨next, taken, left⟩, right⟩
    · rintro ⟨middle, ⟨next, taken, left⟩, right⟩
      exact ⟨next, taken, middle, left, right⟩

theorem append {s middle t : σ} {first second : List ℓ} (left : Run step s first middle)
    (right : Run step middle second t) : Run step s (first ++ second) t :=
  append_iff.mpr ⟨middle, left, right⟩

theorem snoc_iff {s t : σ} {labels : List ℓ} {label : ℓ} :
    Run step s (labels ++ [label]) t ↔
      ∃ middle, Run step s labels middle ∧ step middle label = some t := by
  simp only [append_iff, cons_iff, nil_iff, exists_eq_right']

/-- The endpoint is determined by the schedule. -/
theorem unique {s t t' : σ} {labels : List ℓ} (left : Run step s labels t)
    (right : Run step s labels t') : t = t' :=
  Option.some.inj (left.symm.trans right)

/-- What every step preserves holds at the end of every run. -/
theorem invariant {I : σ → Prop}
    (keeps : ∀ s label t, I s → step s label = some t → I t)
    {s t : σ} {labels : List ℓ} (run : Run step s labels t) (start : I s) : I t := by
  induction labels generalizing s with
  | nil => exact nil_iff.mp run ▸ start
  | cons label rest ih =>
    obtain ⟨next, taken, tail⟩ := cons_iff.mp run
    exact ih tail (keeps s label next start taken)

/-- What every step under a condition preserves holds at the end of every run whose steps
all meet that condition. -/
theorem invariant_along {I : σ → Prop} {P : σ → ℓ → Prop}
    (keeps : ∀ s label t, I s → P s label → step s label = some t → I t)
    {s t : σ} {labels : List ℓ} (run : Run step s labels t) (along : Along step P s labels)
    (start : I s) : I t := by
  induction labels generalizing s with
  | nil => exact nil_iff.mp run ▸ start
  | cons label rest ih =>
    obtain ⟨next, taken, tail⟩ := cons_iff.mp run
    exact ih tail (along.2 next taken) (keeps s label next start along.1 taken)

/-- A count that, where an invariant holds, grows exactly at the steps that miss the condition is unchanged
exactly on the runs whose steps all meet it. -/
theorem along_iff_count {I : σ → Prop} {P : σ → ℓ → Prop} (count : σ → ℕ)
    (keeps : ∀ s label t, I s → step s label = some t → I t)
    (meets : ∀ s label t, I s → step s label = some t → P s label → count t = count s)
    (misses : ∀ s label t, I s → step s label = some t → ¬ P s label → count s < count t)
    {s t : σ} {labels : List ℓ} (run : Run step s labels t) (start : I s) :
    Along step P s labels ↔ count t = count s := by
  have grows : ∀ s label t, I s → step s label = some t → count s ≤ count t := by
    intro s label t holds taken
    by_cases condition : P s label
    · exact Nat.le_of_eq (meets s label t holds taken condition).symm
    · exact Nat.le_of_lt (misses s label t holds taken condition)
  have later : ∀ labels {s t : σ}, Run step s labels t → I s → count s ≤ count t := by
    intro labels s t run start
    refine (run.invariant (I := fun u => I u ∧ count s ≤ count u) ?_ ⟨start, Nat.le_refl _⟩).2
    rintro u label v ⟨holds, bound⟩ taken
    exact ⟨keeps u label v holds taken, Nat.le_trans bound (grows u label v holds taken)⟩
  induction labels generalizing s with
  | nil => simp [Along, nil_iff.mp run]
  | cons label rest ih =>
    obtain ⟨next, taken, tail⟩ := cons_iff.mp run
    have still := keeps s label next start taken
    have rise := later rest tail still
    simp only [Along, taken, Option.some.injEq, forall_eq']
    constructor
    · rintro ⟨here, along⟩
      exact ((ih tail still).mp along).trans (meets s label next start taken here)
    · intro same
      by_cases condition : P s label
      · have here := meets s label next start taken condition
        exact ⟨condition, (ih tail still).mpr (same.trans here.symm)⟩
      · have here := misses s label next start taken condition
        omega

/-- When the condition keeps an invariant that ensures a property, and no step reaches the property without the
condition, the property holds all along a run exactly if every step meets the condition. -/
theorem along_iff_prefixes {I Q : σ → Prop} {P : σ → ℓ → Prop}
    (keeps : ∀ s label t, I s → P s label → step s label = some t → I t) (safe : ∀ s, I s → Q s)
    (needs : ∀ s label t, I s → step s label = some t → Q t → P s label)
    {s t : σ} {labels : List ℓ} (run : Run step s labels t) (start : I s) :
    Along step P s labels ↔ ∀ first rest seen, labels = first ++ rest → Run step s first seen → Q seen := by
  induction labels generalizing s with
  | nil =>
    refine iff_of_true trivial ?_
    rintro first rest seen split begun
    obtain ⟨rfl, -⟩ := List.append_eq_nil_iff.mp split.symm
    exact nil_iff.mp begun ▸ safe s start
  | cons label labels ih =>
    obtain ⟨next, taken, tail⟩ := cons_iff.mp run
    constructor
    · rintro ⟨here, along⟩ first rest seen split begun
      cases first with
      | nil => exact nil_iff.mp begun ▸ safe s start
      | cons other first =>
        obtain ⟨rfl, remaining⟩ := List.cons.inj split
        obtain ⟨middle, same, later⟩ := cons_iff.mp begun
        obtain rfl := Option.some.inj (taken.symm.trans same)
        exact (ih tail (keeps s label next start here taken)).mp (along next taken) first rest seen remaining later
    · intro holds
      have after (first rest : List ℓ) (seen : σ) (split : labels = first ++ rest) (begun : Run step next first seen) :
          Q seen := holds (label :: first) rest seen (congrArg _ split) (cons_iff.mpr ⟨next, taken, begun⟩)
      have here := needs s label next start taken (after [] labels next rfl (nil_iff.mpr rfl))
      refine ⟨here, fun other same => ?_⟩
      obtain rfl := Option.some.inj (taken.symm.trans same)
      exact (ih tail (keeps s label next start here taken)).mpr after

end Run

namespace Along

variable {P : σ → ℓ → Prop}

instance decidable [∀ s label, Decidable (P s label)] : (s : σ) → (labels : List ℓ) → Decidable (Along step P s labels)
  | _, [] => isTrue trivial
  | s, label :: rest =>
      match taken : step s label with
      | none => decidable_of_iff (P s label) (by simp [Along, taken])
      | some next =>
          have := decidable next rest
          decidable_of_iff (P s label ∧ Along step P next rest) (by simp [Along, taken])

theorem append_iff {s : σ} {first second : List ℓ} :
    Along step P s (first ++ second) ↔
      Along step P s first ∧ ∀ middle, Run step s first middle → Along step P middle second := by
  induction first generalizing s with
  | nil => simp [Along]
  | cons label rest ih =>
    simp only [List.cons_append, Along, ih, Run.cons_iff]
    constructor
    · rintro ⟨here, later⟩
      refine ⟨⟨here, fun next taken => (later next taken).1⟩, ?_⟩
      rintro middle ⟨next, taken, left⟩
      exact (later next taken).2 middle left
    · rintro ⟨⟨here, later⟩, tail⟩
      exact ⟨here, fun next taken => ⟨later next taken, fun middle left => tail middle ⟨next, taken, left⟩⟩⟩

theorem of_forall {labels : List ℓ} (each : ∀ label ∈ labels, ∀ s, P s label) (s : σ) : Along step P s labels := by
  induction labels generalizing s with
  | nil => trivial
  | cons label rest ih =>
    exact ⟨each label (List.mem_cons_self ..) s, fun next _ => ih (fun other member => each other
      (List.mem_cons_of_mem _ member)) next⟩

theorem imp {Q R : σ → ℓ → Prop} (carry : ∀ s label, P s label → Q s label → R s label) {s : σ} {labels : List ℓ}
    (given : Along step P s labels) (along : Along step Q s labels) : Along step R s labels := by
  induction labels generalizing s with
  | nil => trivial
  | cons label rest ih =>
    exact ⟨carry _ _ given.1 along.1, fun next taken => ih (given.2 next taken) (along.2 next taken)⟩

theorem mono {Q : σ → ℓ → Prop} (weaken : ∀ s label, P s label → Q s label) {s : σ}
    {labels : List ℓ} (along : Along step P s labels) : Along step Q s labels :=
  along.imp (fun s label here _ => weaken s label here) along

end Along

namespace Reaches

theorem refl (s : σ) : Reaches step s s := ⟨[], Run.nil_iff.mpr rfl⟩

theorem next {s t u : σ} {label : ℓ} (reached : Reaches step s t) (taken : step t label = some u) :
    Reaches step s u := by
  obtain ⟨labels, run⟩ := reached
  exact ⟨labels ++ [label], Run.snoc_iff.mpr ⟨t, run, taken⟩⟩

end Reaches

end Machine
