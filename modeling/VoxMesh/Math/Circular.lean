import Mathlib.Data.Fin.Basic
import Mathlib.Data.Nat.ModEq
import Mathlib.Tactic.Common

/-! # Circular indices

A ring of `n` cells is addressed by positions of an unbounded tape taken modulo `n`. Advancing a
cell index advances the tape position (`next_ofNat`), positions less than `n` apart address
different cells (`ofNat_ne`), and the distance between two cells recovers the distance of the
positions (`distance_ofNat`).

A list of `n` cells that is overwritten cell by cell holds the last `n` entries of the tape written so far
(`Window`), and stepping back by a cell steps back on the tape (`pred_mod`).
-/

namespace Circular

variable {n : ℕ} [NeZero n]

/-- The cell after `index`, wrapping from the last cell to the first. -/
def next (index : Fin n) : Fin n := if last : index.val + 1 = n then 0 else ⟨index.val + 1, by omega⟩

/-- Cells from `tail` forward to `head`. -/
def distance (head tail : Fin n) : ℕ :=
  if tail.val ≤ head.val then head.val - tail.val else n - tail.val + head.val

@[simp] theorem val_ofNat (position : ℕ) : (Fin.ofNat n position).val = position % n := rfl

theorem next_ofNat (position : ℕ) : next (Fin.ofNat n position) = Fin.ofNat n (position + 1) := by
  have positive : 0 < n := Nat.pos_of_neZero n
  have bound := Nat.mod_lt position positive
  apply Fin.ext
  unfold next
  split
  next last =>
    rw [val_ofNat] at last ⊢
    rw [Nat.add_mod, Fin.val_zero]
    rcases Nat.eq_or_lt_of_le positive with one | more
    · simp only [← one, Nat.mod_one]
    · rw [Nat.mod_eq_of_lt more, last, Nat.mod_self]
  next inner =>
    rw [val_ofNat] at inner
    simp only [val_ofNat]
    rw [Nat.add_mod, Nat.mod_eq_of_lt (a := 1) (by omega),
      Nat.mod_eq_of_lt (a := position % n + 1) (by omega)]

/-- Tape positions less than a revolution apart address different cells. -/
theorem ofNat_ne {first second : ℕ} (before : first < second) (near : second < first + n) :
    Fin.ofNat n first ≠ Fin.ofNat n second := by
  intro same
  have residues : first % n = second % n := congrArg Fin.val same
  have multiple := (Nat.modEq_iff_dvd' before.le).mp residues
  have := Nat.le_of_dvd (by omega) multiple
  omega

/-- The distance of two cells is the distance of their tape positions within one revolution. -/
theorem distance_ofNat {head tail : ℕ} (order : tail ≤ head) (near : head < tail + n) :
    distance (Fin.ofNat n head) (Fin.ofNat n tail) = head - tail := by
  have positive : 0 < n := Nat.pos_of_neZero n
  have tailCell := Nat.mod_lt tail positive
  have tailSplit := Nat.div_add_mod tail n
  obtain ⟨gap, rfl⟩ := Nat.exists_eq_add_of_le order
  have headCell : (tail + gap) % n = if tail % n + gap < n then tail % n + gap else tail % n + gap - n := by
    rw [← Nat.mod_add_mod]
    split
    next inner => exact Nat.mod_eq_of_lt inner
    next wrapped => rw [Nat.mod_eq_sub_mod (by omega), Nat.mod_eq_of_lt (by omega)]
  simp only [distance, val_ofNat, headCell]
  split_ifs <;> omega

omit [NeZero n] in
theorem distance_self (index : Fin n) : distance index index = 0 := by simp [distance]

/-- A step of the tail towards the head shortens the distance by one. -/
theorem distance_next {head tail : Fin n} (apart : tail ≠ head) :
    distance head (next tail) + 1 = distance head tail := by
  have headBound := head.isLt
  have tailBound := tail.isLt
  have different : tail.val ≠ head.val := fun same => apart (Fin.ext same)
  unfold distance next
  split
  next last =>
    rw [Fin.val_zero]
    split_ifs <;> omega
  next inner =>
    dsimp only
    split_ifs <;> omega

omit [NeZero n] in
/-- One step back from a position addresses the cell before, wrapping from the first cell to the last. -/
theorem pred_mod {position : ℕ} (positive : 0 < position) (some : 0 < n) :
    (if position % n = 0 then n - 1 else position % n - 1) = (position - 1) % n := by
  have bound := Nat.mod_lt position some
  have split := Nat.div_add_mod position n
  split
  next first =>
    obtain ⟨laps, same⟩ := Nat.dvd_of_mod_eq_zero first
    obtain ⟨before, rfl⟩ : ∃ before, laps = before + 1 := Nat.exists_eq_add_one.mpr (by
      rcases Nat.eq_zero_or_pos laps with rfl | more
      · omega
      · exact more)
    have back : position - 1 = n - 1 + n * before := by
      rw [same, Nat.mul_succ]
      omega
    rw [back, Nat.add_mul_mod_self_left, Nat.mod_eq_of_lt (by omega)]
  next inner =>
    have back : position - 1 = position % n - 1 + n * (position / n) := by omega
    have small : position % n - 1 < n := by omega
    rw [back, Nat.add_mul_mod_self_left, Nat.mod_eq_of_lt small]

/-- The cells hold the end of the tape, each entry in the cell that its position addresses. -/
structure Window {α : Type*} (cells tape : List α) : Prop where
  full : cells.length ≤ tape.length
  held : ∀ position, tape.length ≤ position + cells.length → position < tape.length →
    cells[position % cells.length]? = tape[position]?

namespace Window

variable {α : Type*} {cells tape : List α}

theorem self (cells : List α) : Window cells cells :=
  ⟨Nat.le_refl _, fun _ _ bound => by rw [Nat.mod_eq_of_lt bound]⟩

/-- The next entry of the tape overwrites the oldest one in the cells. -/
theorem write (window : Window cells tape) (entry : α) :
    Window (cells.set (tape.length % cells.length) entry) (tape ++ [entry]) := by
  have full := window.full
  refine ⟨?_, fun position recent bound => ?_⟩
  · rw [List.length_set, List.length_append]
    exact Nat.le_add_right_of_le full
  rw [List.length_append, List.length_singleton] at bound recent
  rw [List.length_set] at recent ⊢
  rcases Nat.lt_succ_iff_lt_or_eq.mp bound with older | rfl
  · have apart : tape.length % cells.length ≠ position % cells.length := by
      intro same
      have multiple := (Nat.modEq_iff_dvd' older.le).mp same.symm
      have := Nat.le_of_dvd (by omega) multiple
      omega
    rw [List.getElem?_set_ne apart, List.getElem?_append_left older]
    exact window.held position (by omega) older
  · rcases Nat.eq_zero_or_pos cells.length with none | some
    · omega
    · rw [List.getElem?_set_self (Nat.mod_lt _ some), List.getElem?_concat_length]

end Window

end Circular
