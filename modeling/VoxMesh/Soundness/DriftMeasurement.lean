import VoxMesh.Proofs.Timeline
import Mathlib.Data.Rat.Floor
import Mathlib.Tactic.FieldSimp
import Mathlib.Tactic.Linarith
import Mathlib.Tactic.NormNum
import Mathlib.Tactic.Positivity

/-! # Measuring the drift of a steady clock

A device whose sample clock deviates by a constant rate is measured to a fraction of a part per million, from
one drift window to the next. The deviation adds up, however, until a frame leaves the tolerance band; then
the synchronizer inserts silence, counts it as samples of the device, and the estimate of that window measures
the silence. The theorem covers all runs in which no silence is counted into a window.
-/

namespace VoxMesh.Audio

open FixedWidth

/-- The time at which a device with the given deviation stamps a sample. -/
def steadyStamp (rate : ℕ) (ppm : ℚ) (start : ℤ) (sample : ℕ) : ℤ :=
  start + ⌊(sample * kNanosPerSecond / rate * (1 + ppm / 1000000) : ℚ)⌋

/-- Frames of one size from a device whose clock deviates by a constant rate; none is lost, none is flagged. -/
structure OnSteadyClock (config : ClockSyncConfig) (ppm : ℚ) (start : ℤ) (samples : ℕ)
    (frames : List AudioFrame) : Prop where
  stamped : ∀ i (bound : i < frames.length),
    frames[i].timestamp = steadyStamp config.sampleRate ppm start (i * samples)
  size : ∀ frame ∈ frames, frame.sampleCountPerChannel = samples
  unflagged : ∀ frame ∈ frames, frame.discontinuity = false

section Estimate

variable {rate span : ℕ} {ppm : ℚ}

/-- The exact length of a span, against its length in whole nanoseconds. -/
private theorem span_bounds (rate_pos : 0 < rate) (second : rate ≤ span) :
    let whole := span * kNanosPerSecond / rate
    (kNanosPerSecond : ℚ) ≤ whole ∧ (whole : ℚ) ≤ span * kNanosPerSecond / rate ∧
      (span * kNanosPerSecond / rate : ℚ) ≤ whole + 1 := by
  intro whole
  have rate_pos' : (0 : ℚ) < rate := Nat.cast_pos.mpr rate_pos
  refine ⟨?_, ?_, ?_⟩
  · have long : kNanosPerSecond ≤ whole := by
      rw [Nat.le_div_iff_mul_le rate_pos, Nat.mul_comm]
      exact Nat.mul_le_mul_right _ second
    exact_mod_cast long
  · rw [le_div_iff₀ rate_pos']
    exact_mod_cast Nat.div_mul_le_self (span * kNanosPerSecond) rate
  · rw [div_le_iff₀ rate_pos', add_mul, one_mul]
    exact_mod_cast (Nat.lt_div_mul_add (a := span * kNanosPerSecond) rate_pos).le

/-- The time between two stamps is the length of the span, stretched by the deviation, up to a nanosecond. -/
private theorem stamp_bounds (rate : ℕ) (ppm : ℚ) (start : ℤ) (earlier span : ℕ) :
    |((steadyStamp rate ppm start (earlier + span) - steadyStamp rate ppm start earlier : ℤ) : ℚ) -
      span * kNanosPerSecond / rate * (1 + ppm / 1000000)| ≤ 1 := by
  have stretched : (((earlier + span : ℕ) : ℚ) * kNanosPerSecond / rate * (1 + ppm / 1000000)) =
      earlier * kNanosPerSecond / rate * (1 + ppm / 1000000) +
        span * kNanosPerSecond / rate * (1 + ppm / 1000000) := by
    push_cast
    ring
  have first := Int.floor_le (earlier * kNanosPerSecond / rate * (1 + ppm / 1000000) : ℚ)
  have first' := Int.lt_floor_add_one (earlier * kNanosPerSecond / rate * (1 + ppm / 1000000) : ℚ)
  have second := Int.floor_le (((earlier + span : ℕ) : ℚ) * kNanosPerSecond / rate * (1 + ppm / 1000000))
  have second' :=
    Int.lt_floor_add_one (((earlier + span : ℕ) : ℚ) * kNanosPerSecond / rate * (1 + ppm / 1000000))
  rw [steadyStamp, steadyStamp, add_sub_add_left_eq_sub, Int.cast_sub, abs_le]
  constructor <;> linarith

/-- Two rounded stamps and a rounded length hardly disturb an estimate over a second or more. -/
theorem estimate_near (rate_pos : 0 < rate) (deviation : |ppm| ≤ 1000) (start : ℤ) (earlier : ℕ)
    (second : rate ≤ span) :
    let whole := span * kNanosPerSecond / rate
    |((steadyStamp rate ppm start (earlier + span) - steadyStamp rate ppm start earlier - whole : ℤ) : ℚ) / whole *
      1000000 - ppm| ≤ 25 := by
  intro whole
  obtain ⟨long, below, above⟩ := span_bounds rate_pos second
  have stamps := stamp_bounds rate ppm start earlier span
  generalize steadyStamp rate ppm start (earlier + span) - steadyStamp rate ppm start earlier = elapsed at stamps ⊢
  rw [show span * kNanosPerSecond / rate = whole from rfl] at long below above
  generalize (span * kNanosPerSecond / rate : ℚ) = exact at stamps below above
  rw [abs_le] at deviation stamps
  have unit : (kNanosPerSecond : ℚ) = 1000000000 := by norm_num [kNanosPerSecond]
  rw [unit] at long
  have rounded : (exact - whole) * (1 + ppm / 1000000) ≤ 1 * (1001 / 1000) :=
    mul_le_mul (by linarith) (by linarith) (by linarith) zero_le_one
  have rounded' : 0 ≤ (exact - whole) * (1 + ppm / 1000000) := mul_nonneg (by linarith) (by linarith)
  have error : |(elapsed : ℚ) - whole * (1 + ppm / 1000000)| ≤ 3 := by
    rw [abs_le]
    constructor <;> linarith
  have positive : (0 : ℚ) < whole := by linarith
  have estimate : ((elapsed - whole : ℤ) : ℚ) / whole * 1000000 - ppm =
      (elapsed - whole * (1 + ppm / 1000000)) / whole * 1000000 := by
    push_cast
    field_simp
    ring
  rw [estimate, abs_mul, abs_div, abs_of_pos positive, abs_of_pos (by norm_num : (0 : ℚ) < 1000000)]
  have small : |(elapsed : ℚ) - whole * (1 + ppm / 1000000)| / whole ≤ 3 / 1000000000 :=
    div_le_div₀ (by norm_num) error (by norm_num) long
  linarith

end Estimate

namespace TrackSynchronizer

variable {sync : TrackSynchronizer} {frame : AudioFrame} {ppm : ℚ} {start : ℤ} {samples index : ℕ}

/-- Samples counted since drift was last measured. -/
def driftSpan (sync : TrackSynchronizer) : ℕ := sync.samplesSinceAnchor - sync.driftAnchorSamples

/-- The frame does not make the synchronizer count silence into the drift window, and a measurement that is due
stays within 64 bits. -/
structure MeasurableCall (sync : TrackSynchronizer) (frame : AudioFrame) : Prop where
  unhealed : ¬ (sync.anchored = true ∧ sync.config.tolerance < sync.delta .machine frame ∧
    sync.delta .machine frame ≤ sync.config.cap ∧
    0 < sync.durationToSamples .machine (sync.delta .machine frame))
  inRange : sync.config.driftWindowSamples ≤ sync.driftSpan → InInt64 (sync.driftSpan * kNanosPerSecond) ∧
    InInt64 (frame.timestamp - sync.driftAnchorTimestamp) ∧
    InInt64 (frame.timestamp - sync.driftAnchorTimestamp -
      (sync.driftSpan * kNanosPerSecond / sync.config.sampleRate : ℕ))

/-- Every call of a run is measurable. -/
def Measurable (sync : TrackSynchronizer) : List AudioFrame → Prop
  | [] => True
  | frame :: rest => sync.MeasurableCall frame ∧ (sync.process .machine frame).1.Measurable rest

/-- The drift window reaches back to the stamp of some frame, and the estimate is good. -/
structure Measures (sync : TrackSynchronizer) (ppm : ℚ) (start : ℤ) (samples index : ℕ) : Prop where
  window : sync.anchored = true → ∃ earlier, earlier ≤ index ∧
    sync.driftAnchorTimestamp = steadyStamp sync.config.sampleRate ppm start (earlier * samples) ∧
    sync.samplesSinceAnchor = sync.driftAnchorSamples + (index - earlier) * samples
  estimate : sync.drift.valid = true → |sync.drift.ppm - ppm| ≤ 25

/-- Without a flag, a measurable call anchors the timeline or inserts nothing. -/
theorem MeasurableCall.placement (measurable : sync.MeasurableCall frame) (unflagged : frame.discontinuity = false) :
    (sync.placement .machine frame).reanchors = true ∨
      sync.anchored = true ∧ (sync.placement .machine frame).reanchors = false ∧
        (sync.placement .machine frame).silence = 0 := by
  cases placed : sync.placement .machine frame with
  | first | truncated | overlap => exact .inl rfl
  | continuous => exact .inr ⟨(of_placement_continuous placed).1, rfl, rfl⟩
  | healed silence =>
    obtain ⟨anchored, within, -, amount⟩ := of_placement_healed placed
    have late := late_of_placement_healed placed unflagged
    refine .inr ⟨anchored, rfl, ?_⟩
    by_contra some
    exact measurable.unhealed ⟨anchored, late, within, amount ▸ Nat.pos_of_ne_zero some⟩

/-- A frame that anchors the timeline starts a new window. -/
theorem process_of_reanchors (anchors : (sync.placement .machine frame).reanchors = true)
    (window : 0 < sync.config.driftWindowSamples) :
    (sync.process .machine frame).1.drift = sync.drift ∧
      (sync.process .machine frame).1.driftAnchorTimestamp = frame.timestamp ∧
      (sync.process .machine frame).1.driftAnchorSamples = 0 ∧
      (sync.process .machine frame).1.samplesSinceAnchor = frame.sampleCountPerChannel := by
  rw [process_eq]
  simp only [place, anchors, ↓reduceIte, account, updateDrift, anchorAt, Nat.sub_self, window, Nat.zero_add, and_self]

/-- A frame that inserts nothing is measured when its window is complete. -/
theorem process_of_silent (keeps : (sync.placement .machine frame).reanchors = false)
    (silent : (sync.placement .machine frame).silence = 0) :
    (sync.process .machine frame).1.samplesSinceAnchor = sync.samplesSinceAnchor + frame.sampleCountPerChannel ∧
      if sync.driftSpan < sync.config.driftWindowSamples then
        (sync.process .machine frame).1.drift = sync.drift ∧
          (sync.process .machine frame).1.driftAnchorTimestamp = sync.driftAnchorTimestamp ∧
          (sync.process .machine frame).1.driftAnchorSamples = sync.driftAnchorSamples
      else
        (sync.process .machine frame).1.drift = (sync.updateDrift .machine frame).drift ∧
          (sync.process .machine frame).1.driftAnchorTimestamp = frame.timestamp ∧
          (sync.process .machine frame).1.driftAnchorSamples = sync.samplesSinceAnchor := by
  rw [process_eq]
  simp only [place, keeps, silent, account, updateDrift, Nat.add_zero, Bool.false_eq_true, ↓reduceIte, driftSpan]
  split <;> exact ⟨rfl, rfl, rfl, rfl⟩

/-- A measurement that is due and in range. -/
theorem MeasurableCall.drift (measurable : sync.MeasurableCall frame)
    (complete : sync.config.driftWindowSamples ≤ sync.driftSpan) :
    (sync.updateDrift .machine frame).drift =
      if 0 < sync.driftSpan * kNanosPerSecond / sync.config.sampleRate then
        ⟨((frame.timestamp - sync.driftAnchorTimestamp -
            (sync.driftSpan * kNanosPerSecond / sync.config.sampleRate : ℕ) : ℤ) : ℚ) /
          (sync.driftSpan * kNanosPerSecond / sync.config.sampleRate : ℕ) * 1000000, true⟩
      else sync.drift := by
  obtain ⟨product, elapsed, deviation⟩ := measurable.inRange complete
  have count : InInt64 sync.driftSpan := by
    unfold InInt64 kNanosPerSecond at *
    omega
  have duration : sync.samplesToDuration .machine sync.driftSpan =
      (sync.driftSpan * kNanosPerSecond / sync.config.sampleRate : ℕ) := by
    rw [samplesToDuration, Arithmetic.machine_signed, Arithmetic.machine_signed, int64_of_inInt64 count,
      int64_of_inInt64 product]
    exact samplesToDuration_exact sync sync.driftSpan
  have due : ¬ sync.samplesSinceAnchor - sync.driftAnchorSamples < sync.config.driftWindowSamples :=
    not_lt.mpr complete
  simp only [updateDrift, due, ↓reduceIte, Arithmetic.machine_signed]
  rw [show sync.samplesSinceAnchor - sync.driftAnchorSamples = sync.driftSpan from rfl, duration,
    int64_of_inInt64 elapsed, int64_of_inInt64 deviation]
  simp only [Int.natCast_pos, Int.cast_natCast]

/-- One measurable call on the next frame of the device. -/
theorem Measures.step (measures : sync.Measures ppm start samples index) (deviation : |ppm| ≤ 1000)
    (window : sync.config.sampleRate ≤ sync.config.driftWindowSamples) (measurable : sync.MeasurableCall frame)
    (stamped : frame.timestamp = steadyStamp sync.config.sampleRate ppm start (index * samples))
    (size : frame.sampleCountPerChannel = samples) (unflagged : frame.discontinuity = false) :
    (sync.process .machine frame).1.Measures ppm start samples (index + 1) := by
  have rate := sync.config.rate_pos
  rcases measurable.placement unflagged with anchors | ⟨anchored, keeps, silent⟩
  · obtain ⟨drift, timestamp, none, counted⟩ := process_of_reanchors anchors (by omega)
    refine ⟨fun _ => ⟨index, by omega, ?_, ?_⟩, fun valid => ?_⟩
    · rw [timestamp, stamped, process_config]
    · rw [none, counted, size, Nat.add_sub_cancel_left]
      omega
    · rw [drift] at valid ⊢
      exact measures.estimate valid
  · obtain ⟨earlier, order, anchor, counted⟩ := measures.window anchored
    obtain ⟨total, rest⟩ := process_of_silent keeps silent
    split at rest
    next early =>
      obtain ⟨drift, timestamp, since⟩ := rest
      refine ⟨fun _ => ⟨earlier, by omega, ?_, ?_⟩, fun valid => ?_⟩
      · rw [timestamp, anchor, process_config]
      · rw [since, total, counted, size, Nat.sub_add_comm order, Nat.add_mul, Nat.one_mul, Nat.add_assoc]
      · rw [drift] at valid ⊢
        exact measures.estimate valid
    next complete =>
      obtain ⟨drift, timestamp, since⟩ := rest
      refine ⟨fun _ => ⟨index, by omega, ?_, ?_⟩, fun valid => ?_⟩
      · rw [timestamp, stamped, process_config]
      · rw [since, total, size, Nat.add_sub_cancel_left, Nat.one_mul]
      · have span : sync.driftSpan = (index - earlier) * samples := by
          rw [driftSpan, counted, Nat.add_sub_cancel_left]
        have indices : index * samples = earlier * samples + sync.driftSpan := by
          rw [span, ← Nat.add_mul, Nat.add_sub_cancel' order]
        rw [drift, measurable.drift (by omega)] at valid ⊢
        split at valid
        next some =>
          rw [if_pos some, stamped, anchor, indices]
          exact estimate_near rate deviation start (earlier * samples) (by omega)
        next none =>
          rw [if_neg none]
          exact measures.estimate valid

/-- The step lemma along a run. -/
theorem Measures.run {frames : List AudioFrame} (measures : sync.Measures ppm start samples index)
    (deviation : |ppm| ≤ 1000) (window : sync.config.sampleRate ≤ sync.config.driftWindowSamples)
    (measurable : sync.Measurable frames)
    (stamped : ∀ i (bound : i < frames.length),
      frames[i].timestamp = steadyStamp sync.config.sampleRate ppm start ((index + i) * samples))
    (size : ∀ frame ∈ frames, frame.sampleCountPerChannel = samples)
    (unflagged : ∀ frame ∈ frames, frame.discontinuity = false) :
    (sync.run .machine frames).1.Measures ppm start samples (index + frames.length) := by
  induction frames generalizing sync index with
  | nil => exact measures
  | cons frame rest ih =>
    have here := measures.step deviation window measurable.1 (stamped 0 (by simp)) (size frame (List.mem_cons_self ..))
      (unflagged frame (List.mem_cons_self ..))
    have later := ih here (by rwa [process_config]) measurable.2 ?_
      (fun other member => size other (List.mem_cons_of_mem _ member))
      (fun other member => unflagged other (List.mem_cons_of_mem _ member))
    · rwa [Nat.add_assoc, Nat.add_comm 1] at later
    · intro i bound
      have here := stamped (i + 1) (by simpa using bound)
      rw [process_config, Nat.add_assoc, Nat.add_comm 1]
      exact here

end TrackSynchronizer

/-- After any number of frames from a device with a constant deviation, in every run that counts no silence into
a drift window, a valid estimate is within 25 ppm of the deviation. -/
theorem drift_measured (config : ClockSyncConfig) (window : config.sampleRate ≤ config.driftWindowSamples) (ppm : ℚ)
    (deviation : |ppm| ≤ 1000) (start : ℤ) (samples : ℕ) (frames : List AudioFrame)
    (device : OnSteadyClock config ppm start samples frames)
    (measurable : (TrackSynchronizer.create config).Measurable frames) :
    let drift := ((TrackSynchronizer.create config).run .machine frames).1.drift
    drift.valid = true → |drift.ppm - ppm| ≤ 25 := by
  have fresh : (TrackSynchronizer.create config).Measures ppm start samples 0 := ⟨nofun, nofun⟩
  refine (fresh.run deviation window measurable (fun i bound => ?_) device.size device.unflagged).estimate
  rw [device.stamped i bound, Nat.zero_add]
  rfl

private def briefConfig (jitterTolerance : ℤ) : ClockSyncConfig where
  sampleRate := 1000
  jitterTolerance := jitterTolerance
  driftWindowSamples := 1000

/-- Three seconds of a device that runs slow by a thousandth. -/
private def slowFrames : List AudioFrame :=
  [0, 1001000000, 2002000000].map fun timestamp =>
    { timestamp := timestamp, sampleRate := 1000, channels := 1, payload := List.replicate 2000 0 }

private theorem slowFrames_steady (jitterTolerance : ℤ) :
    OnSteadyClock (briefConfig jitterTolerance) 1000 0 1000 slowFrames := by
  have stamped : ∀ i : Fin 3, slowFrames[i.val].timestamp = steadyStamp 1000 1000 0 (i.val * 1000) := by
    decide +kernel
  exact ⟨fun i bound => stamped ⟨i, bound⟩, by decide +kernel, by decide⟩

/-- With a tolerance of one millisecond the third frame is healed with two samples of silence, and the estimate
is off by two thousand. -/
theorem drift_measured_healed :
    OnSteadyClock (briefConfig 1) 1000 0 1000 slowFrames ∧
      (briefConfig 1).sampleRate ≤ (briefConfig 1).driftWindowSamples ∧ 1 ≤ (briefConfig 1).jitterTolerance ∧
      let drift := ((TrackSynchronizer.create (briefConfig 1)).run .machine slowFrames).1.drift
      drift.valid = true ∧ ¬ |drift.ppm - 1000| ≤ 25 := by
  have estimate : ((TrackSynchronizer.create (briefConfig 1)).run .machine slowFrames).1.drift =
      ⟨-1000000 / 1002000000 * 1000000, true⟩ := by decide +kernel
  refine ⟨slowFrames_steady 1, by decide, by decide, ?_⟩
  rw [estimate]
  norm_num

/-- With the usual tolerance of twenty milliseconds the same frames are measured. -/
theorem drift_measured_tolerated :
    let drift := ((TrackSynchronizer.create (briefConfig 20)).run .machine slowFrames).1.drift
    drift.valid = true ∧ |drift.ppm - 1000| ≤ 25 := by
  have measurable : (TrackSynchronizer.create (briefConfig 20)).Measurable slowFrames :=
    ⟨⟨by decide +kernel, by decide +kernel⟩, ⟨by decide +kernel, by decide +kernel⟩,
      ⟨by decide +kernel, by decide +kernel⟩, trivial⟩
  have valid : ((TrackSynchronizer.create (briefConfig 20)).run .machine slowFrames).1.drift.valid = true := by
    decide +kernel
  exact ⟨valid, drift_measured (briefConfig 20) (by decide) 1000 (by norm_num) 0 1000 slowFrames
    (slowFrames_steady 20) measurable valid⟩

end VoxMesh.Audio
