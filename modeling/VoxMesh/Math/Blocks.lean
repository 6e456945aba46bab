import Mathlib.Algebra.Order.Ring.Nat
import Mathlib.Data.List.Basic
import Mathlib.Tactic.Common

/-! # Cutting a stream into blocks

A buffer collects a stream and releases it in blocks of one size. Block `k` of the stream starts at position
`k * size`, and after `count` blocks the buffer holds the rest of the stream. A block that has been released
does not change when the stream grows (`block_append`), and the blocks together are the stream up to the rest
(`flatten_blocks`).
-/

namespace Blocks

variable {α : Type*} {size : ℕ} {stream more : List α} {k count : ℕ}

/-- Block `k` of the stream; the last block may be short. -/
def block (size : ℕ) (stream : List α) (k : ℕ) : List α := (stream.drop (k * size)).take size

/-- The stream after its first `count` blocks. -/
def rest (size : ℕ) (stream : List α) (count : ℕ) : List α := stream.drop (count * size)

@[simp] theorem take_rest : (rest size stream k).take size = block size stream k := rfl

@[simp] theorem drop_rest : (rest size stream k).drop size = rest size stream (k + 1) := by
  rw [rest, rest, List.drop_drop, Nat.succ_mul]

@[simp] theorem rest_zero : rest size stream 0 = stream := by rw [rest, Nat.zero_mul, List.drop_zero]

@[simp] theorem length_rest : (rest size stream count).length = stream.length - count * size := by
  rw [rest, List.length_drop]

theorem rest_append (released : count * size ≤ stream.length) :
    rest size (stream ++ more) count = rest size stream count ++ more := by
  rw [rest, rest, List.drop_append_of_le_length released]

theorem length_block (full : (k + 1) * size ≤ stream.length) : (block size stream k).length = size := by
  rw [Nat.succ_mul] at full
  rw [block, List.length_take, List.length_drop]
  omega

/-- A full block is settled. -/
theorem block_append (full : (k + 1) * size ≤ stream.length) :
    block size (stream ++ more) k = block size stream k := by
  rw [Nat.succ_mul] at full
  rw [block, block, List.drop_append_of_le_length (by omega), List.take_append_of_le_length]
  rw [List.length_drop]
  omega

/-- The blocks joined are the stream up to the rest. -/
theorem flatten_blocks (size : ℕ) (stream : List α) (count : ℕ) :
    ((List.range count).map (block size stream)).flatten = stream.take (count * size) := by
  induction count with
  | zero => simp
  | succ count ih =>
    rw [List.range_succ, List.map_append, List.flatten_append, ih, List.map_singleton, List.flatten_singleton, block,
      Nat.succ_mul, List.take_add]

/-- While a buffer holds less than a block, it has released every full block. -/
theorem count_eq (released : count * size ≤ stream.length) (short : (rest size stream count).length < size) :
    count = stream.length / size := by
  rw [length_rest] at short
  symm
  rw [Nat.div_eq_iff (by omega)]
  constructor <;> simp only [Nat.mul_comm] at * <;> omega

end Blocks
