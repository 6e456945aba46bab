import Mathlib.Algebra.Group.Int.Defs
import Mathlib.Algebra.Group.Nat.Defs
import Mathlib.Data.Int.Basic
import Mathlib.Tactic.Common

/-! # Fixed-width integer results

A program computes with 64-bit words; its specification speaks of integers. Code that is
parametric in an `Arithmetic` is executed in both ways: `Arithmetic.machine` stores every signed
result in two's complement and every unsigned result modulo `2 ^ 64`, `Arithmetic.exact` stores
the integer itself. The two agree on every result that the word can hold.
-/

namespace FixedWidth

/-- Two's complement storage of a signed result. -/
def int64 (x : ℤ) : ℤ := x.bmod (2 ^ 64)

/-- Two's complement storage of a signed 32-bit result. -/
def int32 (x : ℤ) : ℤ := x.bmod (2 ^ 32)

/-- Modular storage of an unsigned result. -/
def uint64 (n : ℕ) : ℕ := n % 2 ^ 64

/-- A signed value converted to an unsigned word. -/
def toUint64 (x : ℤ) : ℕ := (x % 2 ^ 64).toNat

/-- The signed 64-bit range. -/
def InInt64 (x : ℤ) : Prop := -2 ^ 63 ≤ x ∧ x < 2 ^ 63

instance (x : ℤ) : Decidable (InInt64 x) := inferInstanceAs (Decidable (_ ∧ _))

theorem int64_of_inInt64 {x : ℤ} (range : InInt64 x) : int64 x = x := by
  obtain ⟨low, high⟩ := range
  rw [int64, Int.bmod_def]
  omega

theorem int32_of_lt {n : ℕ} (bound : n < 2 ^ 31) : int32 n = n := by
  rw [int32, Int.bmod_def]
  omega

theorem toUint64_of_lt {n : ℕ} (bound : n < 2 ^ 64) : toUint64 n = n := by
  rw [toUint64]
  omega

theorem uint64_of_lt {n : ℕ} (bound : n < 2 ^ 64) : uint64 n = n := Nat.mod_eq_of_lt bound

theorem uint64_le (n : ℕ) : uint64 n ≤ n := Nat.mod_le n _

/-- A value past the signed range is stored a lap lower. -/
theorem int64_of_past {x : ℤ} (low : 2 ^ 63 ≤ x) (high : x < 2 ^ 64) : int64 x = x - 2 ^ 64 := by
  rw [int64, Int.bmod_def]
  omega

/-- Two sums that differ by less than a lap are stored apart. -/
theorem int64_add_inj (x : ℤ) {m n : ℕ} (small : m < 2 ^ 63) (other : n < 2 ^ 63) :
    int64 (x + m) = int64 (x + n) ↔ m = n := by
  rw [int64, int64, Int.bmod_def, Int.bmod_def]
  omega

/-- Overflow always shows in the quotient by less than half the range. -/
theorem int64_tdiv_eq_iff {product divisor : ℕ} (positive : 0 < divisor) (small : divisor ≤ 2 ^ 63) :
    (int64 product).tdiv divisor = (product / divisor : ℕ) ↔ product < 2 ^ 63 := by
  constructor
  · intro same
    by_contra overflow
    have wrapped : int64 product ≤ product - 2 ^ 64 := by
      rw [int64, Int.bmod_def]
      omega
    have some : 0 < product / divisor := Nat.div_pos (by omega) positive
    have quotient := Nat.lt_div_mul_add (a := product) positive
    rcases Int.lt_or_le (int64 product) 0 with negative | natural
    · have below := Int.tdiv_nonneg (Int.neg_nonneg_of_nonpos (Int.le_of_lt negative)) (Int.natCast_nonneg divisor)
      rw [Int.neg_tdiv] at below
      omega
    · obtain ⟨word, stored⟩ := Int.eq_ofNat_of_zero_le natural
      rw [stored, ← Int.ofNat_tdiv, Int.ofNat_inj] at same
      have whole := Nat.div_mul_le_self word divisor
      rw [same] at whole
      omega
  · intro fits
    rw [int64_of_inInt64 ⟨by omega, by omega⟩]
    rfl

theorem uint64_div_eq_iff {product divisor : ℕ} (positive : 0 < divisor) (small : divisor ≤ 2 ^ 64) :
    uint64 product / divisor = product / divisor ↔ product < 2 ^ 64 := by
  refine ⟨fun same => ?_, fun fits => by rw [uint64_of_lt fits]⟩
  by_contra overflow
  have wrapped : uint64 product + 2 ^ 64 ≤ product := by
    rw [uint64]
    omega
  have quotient := Nat.lt_div_mul_add (a := product) positive
  have whole := Nat.div_mul_le_self (uint64 product) divisor
  rw [same] at whole
  omega

/-- How a computation stores its signed and unsigned results. -/
structure Arithmetic where
  signed : ℤ → ℤ
  unsigned : ℕ → ℕ

namespace Arithmetic

/-- The 64-bit words of the machine. -/
def machine : Arithmetic := ⟨int64, uint64⟩

/-- Unbounded integers. -/
def exact : Arithmetic := ⟨id, id⟩

/-- Unsigned storage never enlarges a value. -/
class Truncating (arith : Arithmetic) : Prop where
  unsigned_le : ∀ n, arith.unsigned n ≤ n

instance : Truncating machine := ⟨uint64_le⟩
instance : Truncating exact := ⟨fun _ => le_rfl⟩

@[simp] theorem exact_signed (x : ℤ) : exact.signed x = x := rfl
@[simp] theorem exact_unsigned (n : ℕ) : exact.unsigned n = n := rfl
@[simp] theorem machine_signed (x : ℤ) : machine.signed x = int64 x := rfl
@[simp] theorem machine_unsigned (n : ℕ) : machine.unsigned n = uint64 n := rfl

end Arithmetic

end FixedWidth
