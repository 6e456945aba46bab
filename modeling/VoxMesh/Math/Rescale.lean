import Mathlib.Data.Nat.Basic
import Mathlib.Tactic.Linarith
import Mathlib.Tactic.Ring

/-! # Integer rescaling between two tick units

`rescale a b n` converts a count `n` of coarse ticks into fine ticks when `b` coarse ticks last as
long as `a` fine ones, rounding down. Converting a span of fine ticks into whole coarse ticks and
placing them after a position rounds down twice. The two roundings never overshoot the span, and
together they fall short of it by at most one coarse tick (`rescale_add_le`, `le_rescale_add`).
-/

namespace Rescale

/-- `n` ticks of a clock with `b` ticks per `a` ticks of the target clock, rounded down. -/
def rescale (a b n : ℕ) : ℕ := n * a / b

/-- One tick of the source clock, rounded up to target ticks. -/
def tickCeil (a b : ℕ) : ℕ := (a + b - 1) / b

variable {a b : ℕ}

@[simp] theorem rescale_zero : rescale a b 0 = 0 := by simp [rescale]

theorem rescale_mul_le (n : ℕ) : rescale a b n * b ≤ n * a := Nat.div_mul_le_self _ _

theorem lt_rescale_mul (hb : 0 < b) (n : ℕ) : n * a < rescale a b n * b + b := by
  have := Nat.lt_div_mul_add (a := n * a) hb
  simpa [rescale] using this

theorem rescale_mono {m n : ℕ} (le : m ≤ n) : rescale a b m ≤ rescale a b n :=
  Nat.div_le_div_right (Nat.mul_le_mul_right a le)

/-- Rounding a sum down keeps at least the rounded parts. -/
theorem add_le_rescale (m n : ℕ) : rescale a b m + rescale a b n ≤ rescale a b (m + n) := by
  rw [rescale, rescale, rescale, Nat.add_mul]
  exact Nat.div_add_div_le_add_div

/-- It gains at most one tick over them. -/
theorem rescale_le_add (hb : 0 < b) (m n : ℕ) : rescale a b (m + n) ≤ rescale a b m + rescale a b n + 1 := by
  have first := lt_rescale_mul (a := a) hb m
  have second := lt_rescale_mul (a := a) hb n
  have sum := rescale_mul_le (a := a) (b := b) (m + n)
  have total : rescale a b (m + n) * b < (rescale a b m + rescale a b n + 1 + 1) * b := by
    rw [Nat.add_mul m] at sum
    simp only [Nat.add_mul, Nat.one_mul]
    omega
  exact Nat.lt_succ_iff.mp (Nat.lt_of_mul_lt_mul_right total)

theorem le_tickCeil_mul (hb : 0 < b) : a ≤ tickCeil a b * b := by
  have := Nat.lt_div_mul_add (a := a + b - 1) hb
  simp only [tickCeil]
  omega

/-- Whole coarse ticks placed after a position do not pass the end of the span. -/
theorem rescale_add_le (hb : 0 < b) (position span : ℕ) :
    rescale a b (position + rescale b a span) ≤ rescale a b position + span := by
  have room : rescale b a span * a ≤ span * b := rescale_mul_le span
  calc rescale a b (position + rescale b a span)
      ≤ (position * a + span * b) / b := by
        apply Nat.div_le_div_right
        rw [Nat.add_mul]
        omega
    _ = rescale a b position + span := by rw [Nat.add_mul_div_right _ _ hb, rescale]

/-- The placed ticks fall short of the span by at most one coarse tick. -/
theorem le_rescale_add (ha : 0 < a) (hb : 0 < b) (position span : ℕ) :
    rescale a b position + span ≤ rescale a b (position + rescale b a span) + tickCeil a b := by
  have short : span * b < rescale b a span * a + a := lt_rescale_mul ha span
  have start : rescale a b position * b ≤ position * a := rescale_mul_le position
  have placed := lt_rescale_mul (a := a) hb (position + rescale b a span)
  have tick : a ≤ tickCeil a b * b := le_tickCeil_mul hb
  have total : (rescale a b position + span) * b <
      (rescale a b (position + rescale b a span) + tickCeil a b + 1) * b := by
    rw [Nat.add_mul position] at placed
    simp only [Nat.add_mul, Nat.one_mul]
    omega
  exact Nat.lt_succ_iff.mp (Nat.lt_of_mul_lt_mul_right total)

end Rescale
