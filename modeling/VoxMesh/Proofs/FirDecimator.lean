import VoxMesh.Model.SttStreamProducer
import Mathlib.Tactic.Common

/-! # What the decimator does to a stream

The decimator carries its state from call to call, so a stream may be cut anywhere (`process_append`), and a
reset forgets everything it was given (`reset_process`). Which samples are produced depends on the phase
alone: `trace` runs the decimator on tagged samples, and `trace_outputs` gives the tags of its output.
-/

namespace VoxMesh.Dsp

open VoxMesh.Audio

namespace FirDecimator

variable (decimator : FirDecimator)

@[simp] theorem process_nil : decimator.process [] = (decimator, []) := rfl

theorem process_append_state (first second : List Sample) :
    (decimator.process (first ++ second)).1 = ((decimator.process first).1.process second).1 := by
  induction first generalizing decimator with
  | nil => rfl
  | cons sample rest ih => exact ih (decimator.feed sample).1

/-- The output for a stream is the output for its pieces, one after the other. -/
theorem process_append_output (first second : List Sample) :
    (decimator.process (first ++ second)).2 =
      (decimator.process first).2 ++ ((decimator.process first).1.process second).2 := by
  induction first generalizing decimator with
  | nil => rfl
  | cons sample rest ih =>
    have later := ih (decimator.feed sample).1
    simp only [List.cons_append, process, later, List.append_assoc]

/-- A reset depends on the coefficients and the size of the history only. -/
theorem reset_process (samples : List Sample) : (decimator.process samples).1.reset = decimator.reset := by
  induction samples generalizing decimator with
  | nil => rfl
  | cons sample rest ih =>
    have here : (decimator.feed sample).1.reset = decimator.reset := by simp [feed, reset]
    exact (ih (decimator.feed sample).1).trans here

theorem reset_reset : decimator.reset.reset = decimator.reset := by simp [reset]

theorem reset_create (designLowPass : ℕ → ℚ → List ℚ) (factor taps : ℕ) :
    (create designLowPass factor taps).reset = create designLowPass factor taps := by
  simp [create, reset]

@[simp] theorem process_factor (samples : List Sample) : (decimator.process samples).1.factor = decimator.factor := by
  induction samples generalizing decimator with
  | nil => rfl
  | cons sample rest ih => exact ih (decimator.feed sample).1

theorem process_phase (samples : List Sample) (small : decimator.phase < decimator.factor) :
    (decimator.process samples).1.phase = (decimator.phase + samples.length) % decimator.factor := by
  induction samples generalizing decimator with
  | nil => exact (Nat.mod_eq_of_lt small).symm
  | cons sample rest ih =>
    have next : (decimator.feed sample).1.phase < (decimator.feed sample).1.factor := Nat.mod_lt _ (by omega)
    rw [process, ih _ next, List.length_cons]
    change ((decimator.phase + 1) % decimator.factor + rest.length) % decimator.factor = _
    rw [Nat.mod_add_mod, Nat.add_assoc, Nat.add_comm 1]

section Trace

variable {τ : Type*}

/-- The decimator on tagged samples: each output carries the tag of the sample that completed it. -/
def trace : FirDecimator → List (Sample × τ) → FirDecimator × List (Sample × τ)
  | decimator, [] => (decimator, [])
  | decimator, (sample, tag) :: rest =>
      let (decimator, output) := decimator.feed sample
      let (decimator, outputs) := decimator.trace rest
      (decimator, output.map (·, tag) ++ outputs)

theorem trace_state (tagged : List (Sample × τ)) :
    (decimator.trace tagged).1 = (decimator.process (tagged.map Prod.fst)).1 := by
  induction tagged generalizing decimator with
  | nil => rfl
  | cons entry rest ih => exact ih (decimator.feed entry.1).1

/-- Without the tags, it is the decimator's output. -/
theorem trace_samples (tagged : List (Sample × τ)) :
    (decimator.trace tagged).2.map Prod.fst = (decimator.process (tagged.map Prod.fst)).2 := by
  induction tagged generalizing decimator with
  | nil => rfl
  | cons entry rest ih =>
    have later := ih (decimator.feed entry.1).1
    simp only [trace, process, List.map_append, List.map_cons, List.map_map, later]
    congr 1
    exact List.map_id _

end Trace

section Phase

/-- Input samples until the next output sample is due. -/
def untilOutput : ℕ := (decimator.factor - decimator.phase) % decimator.factor

@[simp] theorem untilOutput_reset : decimator.reset.untilOutput = 0 := by simp [untilOutput, reset]

variable {decimator}

theorem feed_untilOutput_of_due (small : decimator.phase < decimator.factor) (due : decimator.phase = 0)
    (sample : Sample) : (decimator.feed sample).1.untilOutput + 1 = decimator.factor := by
  simp only [untilOutput, feed, due, Nat.zero_add]
  rcases Nat.lt_or_eq_of_le (Nat.one_le_of_lt small) with several | one
  · rw [Nat.mod_eq_of_lt several, Nat.mod_eq_of_lt (Nat.sub_lt (Nat.zero_lt_of_lt several) Nat.one_pos)]
    exact Nat.sub_add_cancel several.le
  · simp [← one]

theorem feed_untilOutput_of_not_due (small : decimator.phase < decimator.factor) (notDue : decimator.phase ≠ 0)
    (sample : Sample) : (decimator.feed sample).1.untilOutput + 1 = decimator.untilOutput := by
  have now : decimator.untilOutput = decimator.factor - decimator.phase := Nat.mod_eq_of_lt (by omega)
  rw [now]
  simp only [untilOutput, feed]
  rcases Nat.lt_or_eq_of_le (Nat.succ_le_of_lt small) with inner | last
  · rw [Nat.mod_eq_of_lt inner, Nat.mod_eq_of_lt (by omega)]
    omega
  · rw [show decimator.phase + 1 = decimator.factor from last, Nat.mod_self, Nat.sub_zero, Nat.mod_self]
    omega

theorem feed_phase_lt (small : decimator.phase < decimator.factor) (sample : Sample) :
    (decimator.feed sample).1.phase < (decimator.feed sample).1.factor := Nat.mod_lt _ (by omega)

/-- Every `factor` input samples make an output sample. -/
theorem process_length (small : decimator.phase < decimator.factor) (samples : List Sample) :
    decimator.untilOutput + decimator.factor * (decimator.process samples).2.length =
      samples.length + (decimator.process samples).1.untilOutput := by
  induction samples generalizing decimator with
  | nil => simp
  | cons sample rest ih =>
    have later := ih (feed_phase_lt small sample)
    have factor : (decimator.feed sample).1.factor = decimator.factor := rfl
    rw [factor] at later
    have state : (decimator.process (sample :: rest)).1 = ((decimator.feed sample).1.process rest).1 := rfl
    rw [state, process, List.length_append, List.length_cons]
    by_cases due : decimator.phase = 0
    · have here : (decimator.feed sample).2.length = 1 := by simp [feed, due]
      have next := feed_untilOutput_of_due small due sample
      have now : decimator.untilOutput = 0 := by simp [untilOutput, due]
      rw [here, Nat.mul_add, now]
      omega
    · have here : (decimator.feed sample).2.length = 0 := by simp [feed, due]
      have next := feed_untilOutput_of_not_due small due sample
      rw [here, Nat.zero_add]
      omega

/-- The tags of the output are those of every `factor`-th sample, from the next one due on. -/
theorem trace_outputs {τ : Type*} (small : decimator.phase < decimator.factor) (tagged : List (Sample × τ)) (j : ℕ) :
    ((decimator.trace tagged).2.map Prod.snd)[j]? =
      (tagged.map Prod.snd)[decimator.untilOutput + decimator.factor * j]? := by
  induction tagged generalizing decimator j with
  | nil => rfl
  | cons entry rest ih =>
    obtain ⟨sample, tag⟩ := entry
    have later := ih (feed_phase_lt small sample)
    have factor : (decimator.feed sample).1.factor = decimator.factor := rfl
    rw [factor] at later
    rw [trace, List.map_append, List.map_cons]
    by_cases due : decimator.phase = 0
    · have here : ((decimator.feed sample).2.map fun output => (output, tag)).map Prod.snd = [tag] := by
        simp [feed, due]
      have next := feed_untilOutput_of_due small due sample
      have now : decimator.untilOutput = 0 := by simp [untilOutput, due]
      rw [here, now, Nat.zero_add]
      cases j with
      | zero => rfl
      | succ j =>
        have index : decimator.factor * (j + 1) = (decimator.feed sample).1.untilOutput + decimator.factor * j + 1 := by
          rw [Nat.mul_succ]
          omega
        rw [index, List.getElem?_cons_succ, ← later j]
        rfl
    · have here : ((decimator.feed sample).2.map fun output => (output, tag)).map Prod.snd = [] := by
        simp [feed, due]
      have next := feed_untilOutput_of_not_due small due sample
      have index : decimator.untilOutput + decimator.factor * j =
          (decimator.feed sample).1.untilOutput + decimator.factor * j + 1 := by omega
      rw [here, index, List.getElem?_cons_succ, ← later j]
      rfl

end Phase

end FirDecimator

end VoxMesh.Dsp
