import VoxMesh.Math.Circular
import VoxMesh.Proofs.FirDecimator
import Mathlib.Algebra.BigOperators.Group.Finset.Basic
import Mathlib.Data.List.GetD

/-! # The decimator against direct convolution

`process` keeps the last inputs in a circular history, walks it backwards, and counts a phase. Seen over a stretch
of calls between two resets, the history is a window on a tape of zeros followed by the stretch, so the filter sum
at an input is the direct convolution there, and the phase picks every `factor`-th input. The output of a stretch is
a function of its joined input alone.
-/

namespace VoxMesh.Dsp

open VoxMesh.Audio Circular Finset

/-- A call on the decimator. -/
inductive DecimatorCall where
  | process (input : List Sample)
  | reset
deriving DecidableEq

/-- The input of each stretch between resets. -/
def stretches : List DecimatorCall → List (List Sample)
  | [] => [[]]
  | .process input :: rest => (stretches rest).modifyHead (input ++ ·)
  | .reset :: rest => [] :: stretches rest

/-- The sample at a position of the stretch; before the stretch there is silence. -/
def sampleAt (samples : List Sample) (position : ℤ) : ℚ :=
  if 0 ≤ position then (samples.getD position.toNat 0).toInt else 0

/-- The direct convolution at a position of the stretch. -/
def convolveAt (coefficients : List ℚ) (samples : List Sample) (position : ℕ) : ℚ :=
  ∑ k ∈ range coefficients.length, coefficients.getD k 0 * sampleAt samples (position - k)

/-- Every `factor`-th value of the direct convolution. -/
def convolved (factor : ℕ) (coefficients : List ℚ) (samples : List Sample) : List Sample :=
  (List.range ((samples.length + factor - 1) / factor)).map fun j =>
    clampToS16 (convolveAt coefficients samples (j * factor))

namespace FirDecimator

/-- A decimator that has not been given anything yet, as `create` makes it. -/
def fresh (factor : ℕ) (coefficients : List ℚ) : FirDecimator where
  factor := factor
  coefficients := coefficients
  history := List.replicate coefficients.length 0

/-- The output of each stretch between resets. -/
def outputs : FirDecimator → List DecimatorCall → List (List Sample)
  | _, [] => [[]]
  | decimator, .process input :: rest =>
      ((decimator.process input).1.outputs rest).modifyHead ((decimator.process input).2 ++ ·)
  | decimator, .reset :: rest => [] :: decimator.reset.outputs rest

/-- The zeros that the history begins with, followed by the samples. -/
def tape (taps : ℕ) (samples : List Sample) : List ℚ :=
  List.replicate taps 0 ++ samples.map fun sample => (sample.toInt : ℚ)

theorem length_tape (taps : ℕ) (samples : List Sample) : (tape taps samples).length = taps + samples.length := by
  rw [tape, List.length_append, List.length_replicate, List.length_map]

theorem tape_snoc (taps : ℕ) (samples : List Sample) (sample : Sample) :
    tape taps (samples ++ [sample]) = tape taps samples ++ [(sample.toInt : ℚ)] := by
  rw [tape, List.map_append, ← List.append_assoc]
  rfl

/-- Up to `taps` entries back, the tape holds the samples, and silence before them. -/
theorem tape_getD {taps position k : ℕ} (near : k < taps) (samples : List Sample) (bound : position < samples.length) :
    (tape taps samples).getD (taps + position - k) 0 = sampleAt samples (position - k) := by
  rw [tape, sampleAt]
  split
  next inside =>
    have index : taps + position - k = (List.replicate taps (0 : ℚ)).length + (position - k) := by
      rw [List.length_replicate]
      omega
    have offset : ((position : ℤ) - k).toNat = position - k := by omega
    have within : position - k < samples.length := by omega
    rw [index, List.getD_append_right _ _ _ _ (Nat.le_add_right ..), Nat.add_sub_cancel_left, offset,
      List.getD_eq_getElem _ _ within, List.getD_eq_getElem _ _ (by rwa [List.length_map]), List.getElem_map]
  next before =>
    rw [List.getD_append _ _ _ _ (by rw [List.length_replicate]; omega), List.getD_replicate _ (by omega)]

/-- Walking the history backwards from a position of the tape is walking the tape backwards. -/
theorem convolve_window {history tape : List ℚ} (window : Window history tape) (coefficients : List ℚ) (position : ℕ)
    (bound : position < tape.length) (room : tape.length + coefficients.length ≤ position + 1 + history.length) :
    convolve history coefficients (position % history.length) =
      ∑ k ∈ range coefficients.length, coefficients.getD k 0 * tape.getD (position - k) 0 := by
  induction coefficients generalizing position with
  | nil => rfl
  | cons coefficient rest ih =>
    rw [List.length_cons] at room
    have newest : history.getD (position % history.length) 0 = tape.getD position 0 := by
      rw [List.getD_eq_getElem?_getD, List.getD_eq_getElem?_getD, window.held position (by omega) bound]
    rw [convolve, List.length_cons, sum_range_succ', newest, add_comm, List.getD_cons_zero, Nat.sub_zero]
    congr 1
    cases rest with
    | nil => rfl
    | cons second more =>
      have full := window.full
      rw [List.length_cons] at room
      have positive : 0 < position := by omega
      rw [pred_mod positive (by omega), ih (position - 1) (by omega) (by rw [List.length_cons]; omega)]
      refine sum_congr rfl fun k _ => ?_
      rw [List.getD_cons_succ, Nat.sub_sub, Nat.add_comm 1 k]

/-- The state once the samples of a stretch are fed. -/
structure Fed (factor : ℕ) (coefficients : List ℚ) (samples : List Sample) (decimator : FirDecimator) : Prop where
  sameFactor : decimator.factor = factor
  sameCoefficients : decimator.coefficients = coefficients
  phase : decimator.phase = samples.length % factor
  historyPos : decimator.historyPos = samples.length % coefficients.length
  size : decimator.history.length = coefficients.length
  window : Window decimator.history (tape coefficients.length samples)

theorem fed_fresh (factor : ℕ) (coefficients : List ℚ) : (fresh factor coefficients).Fed factor coefficients [] where
  sameFactor := rfl
  sameCoefficients := rfl
  phase := (Nat.zero_mod _).symm
  historyPos := (Nat.zero_mod _).symm
  size := List.length_replicate
  window := by
    rw [tape, List.map_nil, List.append_nil]
    exact Window.self _

section Fed

variable {factor : ℕ} {coefficients : List ℚ} {samples : List Sample} {decimator : FirDecimator}

theorem Fed.feed (fed : decimator.Fed factor coefficients samples) (sample : Sample) :
    (decimator.feed sample).1.Fed factor coefficients (samples ++ [sample]) where
  sameFactor := fed.sameFactor
  sameCoefficients := fed.sameCoefficients
  phase := by
    rw [List.length_append, List.length_singleton, ← Nat.mod_add_mod, ← fed.phase, ← fed.sameFactor]
    rfl
  historyPos := by
    rw [List.length_append, List.length_singleton, ← Nat.mod_add_mod, ← fed.historyPos, ← fed.sameCoefficients]
    rfl
  size := (List.length_set ..).trans fed.size
  window := by
    have written := fed.window.write (sample.toInt : ℚ)
    rwa [length_tape, fed.size, Nat.add_mod_left, ← fed.historyPos, ← tape_snoc] at written

/-- An output sample is due at every `factor`-th input, and is the direct convolution there. -/
theorem Fed.feed_output (fed : decimator.Fed factor coefficients samples) (some : coefficients ≠ []) (sample : Sample) :
    (decimator.feed sample).2 = if samples.length % factor = 0
      then [clampToS16 (convolveAt coefficients (samples ++ [sample]) samples.length)] else [] := by
  have after := fed.feed sample
  have taps := List.length_pos_of_ne_nil some
  have length : (samples ++ [sample]).length = samples.length + 1 := List.length_append
  have walked := convolve_window after.window coefficients (coefficients.length + samples.length)
    (by rw [length_tape, length]; omega) (by rw [length_tape, length, after.size]; omega)
  rw [after.size, Nat.add_mod_left] at walked
  have value : convolve (decimator.feed sample).1.history decimator.coefficients decimator.historyPos =
      convolveAt coefficients (samples ++ [sample]) samples.length := by
    rw [fed.sameCoefficients, fed.historyPos, walked, convolveAt]
    refine sum_congr rfl fun k member => ?_
    rw [tape_getD (mem_range.mp member) _ (by rw [length]; omega)]
  rw [FirDecimator.feed, fed.phase]
  exact congrArg (fun value => if samples.length % factor = 0 then [clampToS16 value] else []) value

end Fed

theorem sampleAt_append {position : ℤ} {samples : List Sample} (bound : position < samples.length)
    (more : List Sample) : sampleAt (samples ++ more) position = sampleAt samples position := by
  rw [sampleAt, sampleAt]
  split
  next inside => rw [List.getD_append _ _ _ _ (by omega)]
  next => rfl

/-- How many outputs are due after one more input. -/
theorem due_succ {factor : ℕ} (positive : 0 < factor) (count : ℕ) : (count + 1 + factor - 1) / factor =
    (count + factor - 1) / factor + if count % factor = 0 then 1 else 0 := by
  have split := Nat.div_add_mod count factor
  have small := Nat.mod_lt count positive
  have after : (count + 1 + factor - 1) / factor = count / factor + 1 := by
    rw [Nat.add_right_comm, Nat.add_sub_cancel, Nat.add_div_right _ positive]
  rw [after]
  split
  next due =>
    have before : count + factor - 1 = factor - 1 + factor * (count / factor) := by omega
    have rest : factor - 1 < factor := Nat.sub_lt positive Nat.one_pos
    rw [before, Nat.add_mul_div_left _ _ positive, Nat.div_eq_of_lt rest, Nat.zero_add]
  next notDue =>
    have before : count + factor - 1 = count % factor - 1 + factor * (count / factor + 1) := by
      rw [Nat.mul_succ]
      omega
    have rest : count % factor - 1 < factor := by omega
    rw [before, Nat.add_mul_div_left _ _ positive, Nat.div_eq_of_lt rest, Nat.zero_add, Nat.add_zero]

/-- What is put out for the inputs so far does not depend on later ones. -/
theorem convolved_snoc {factor : ℕ} (positive : 0 < factor) (coefficients : List ℚ) (samples : List Sample)
    (sample : Sample) : convolved factor coefficients (samples ++ [sample]) =
      convolved factor coefficients samples ++ if samples.length % factor = 0
        then [clampToS16 (convolveAt coefficients (samples ++ [sample]) samples.length)] else [] := by
  have earlier : (List.range ((samples.length + factor - 1) / factor)).map (fun j =>
      clampToS16 (convolveAt coefficients (samples ++ [sample]) (j * factor))) =
        convolved factor coefficients samples := by
    refine List.map_congr_left fun j member => congrArg clampToS16 (sum_congr rfl fun k _ => ?_)
    have room := (Nat.le_div_iff_mul_le positive).mp (List.mem_range.mp member)
    rw [Nat.succ_mul] at room
    rw [sampleAt_append (by omega)]
  rw [convolved, List.length_append, List.length_singleton, due_succ positive]
  split
  next due =>
    have last : (samples.length + factor - 1) / factor * factor = samples.length := by
      obtain ⟨blocks, same⟩ := Nat.dvd_of_mod_eq_zero due
      have before : samples.length + factor - 1 = factor - 1 + factor * blocks := by omega
      have rest : factor - 1 < factor := Nat.sub_lt positive Nat.one_pos
      rw [before, Nat.add_mul_div_left _ _ positive, Nat.div_eq_of_lt rest, Nat.zero_add, same, Nat.mul_comm]
    rw [List.range_succ, List.map_append, List.map_singleton, earlier, last]
  next => rw [Nat.add_zero, earlier, List.append_nil]

/-- What one stretch makes of a decimator, and of its output. -/
theorem process_fresh {factor : ℕ} {coefficients : List ℚ} (positive : 0 < factor) (some : coefficients ≠ [])
    (samples : List Sample) : ((fresh factor coefficients).process samples).1.Fed factor coefficients samples ∧
      ((fresh factor coefficients).process samples).2 = convolved factor coefficients samples := by
  induction samples using List.reverseRecOn with
  | nil =>
    refine ⟨fed_fresh factor coefficients, ?_⟩
    rw [convolved, List.length_nil, Nat.zero_add, Nat.div_eq_of_lt (by omega)]
    rfl
  | append_singleton samples sample ih =>
    obtain ⟨fed, output⟩ := ih
    rw [process_append_state, process_append_output, output, convolved_snoc positive]
    refine ⟨fed.feed sample, ?_⟩
    rw [← fed.feed_output some sample]
    exact congrArg _ (List.append_nil _)

theorem fresh_reset (factor : ℕ) (coefficients : List ℚ) :
    (fresh factor coefficients).reset = fresh factor coefficients := by
  simp [fresh, reset]

private theorem modifyHead_self (pieces : List (List Sample)) : pieces.modifyHead (fun piece => piece) = pieces :=
  congrFun List.modifyHead_id pieces

/-- The calls that follow the first samples of a stretch. -/
private theorem outputs_after {factor : ℕ} {coefficients : List ℚ} (positive : 0 < factor) (some : coefficients ≠ [])
    (samples : List Sample) (calls : List DecimatorCall) :
    (((fresh factor coefficients).process samples).1.outputs calls).modifyHead
        (((fresh factor coefficients).process samples).2 ++ ·) =
      ((stretches calls).modifyHead (samples ++ ·)).map (convolved factor coefficients) := by
  induction calls generalizing samples with
  | nil => simp [outputs, stretches, (process_fresh positive some samples).2]
  | cons call rest ih =>
    cases call with
    | process input =>
      have later := ih (samples ++ input)
      rw [process_append_state, process_append_output] at later
      simp only [outputs, stretches, List.modifyHead_modifyHead, Function.comp_def, ← List.append_assoc]
      exact later
    | reset =>
      have later := ih []
      simp only [process_nil, List.nil_append, modifyHead_self] at later
      simp only [outputs, stretches, List.modifyHead_cons, List.append_nil, List.map_cons, reset_process, fresh_reset,
        later, (process_fresh positive some samples).2]

/-- The output of each stretch between resets is every `factor`-th value of the direct convolution of its joined
input, however the input was cut into calls and whatever came before the reset. -/
theorem outputs_eq_convolved (factor : ℕ) (coefficients : List ℚ) (positive : 0 < factor) (some : coefficients ≠ [])
    (calls : List DecimatorCall) :
    (fresh factor coefficients).outputs calls = (stretches calls).map (convolved factor coefficients) := by
  have all := outputs_after positive some [] calls
  simpa only [process_nil, List.nil_append, modifyHead_self] using all

/-- Two calls of one stretch, a reset inside a decimation, and another stretch. -/
theorem outputs_eq_convolved_reset :
    let calls := [.process [10, 20], .process [30, 40], .reset, .process [50]]
    stretches calls = [[10, 20, 30, 40], [50]] ∧
      (create (fun _ _ => [1 / 2, 1 / 4]) 3 2).outputs calls =
        (stretches calls).map (convolved 3 [1 / 2, 1 / 4]) := by
  intro calls
  exact ⟨rfl, outputs_eq_convolved 3 [1 / 2, 1 / 4] (by decide) (by decide) calls⟩

end FirDecimator

end VoxMesh.Dsp
