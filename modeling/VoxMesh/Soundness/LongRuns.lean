import VoxMesh.Proofs.Healing
import VoxMesh.Proofs.Timeline
import VoxMesh.Soundness.SttStream
import Mathlib.Tactic.IntervalCases

/-! # Timestamps of long runs

Elapsed time is computed as a product of samples and nanoseconds, divided by the rate. The product leaves its
64-bit word long before the quotient would: for the synchronizer after 9223372036 samples since the anchor, for
the transcription producer after 18446744073 samples put out, whatever the rate. Up to there every elapsed time
is exact and no timestamp steps back; past it the first elapsed time is wrong
(`elapsed_exact_iff`).
-/

namespace VoxMesh.Audio

open FixedWidth

namespace TrackSynchronizer

/-- No frame of the run becomes the anchor. -/
def Continuous (sync : TrackSynchronizer) : List AudioFrame → Prop
  | [] => True
  | frame :: rest =>
      (sync.placement .machine frame).reanchors = false ∧ (sync.process .machine frame).1.Continuous rest

/-- The synchronizer after the first frames of a run. -/
def after (sync : TrackSynchronizer) (frames : List AudioFrame) (count : ℕ) : TrackSynchronizer :=
  (sync.run .machine (frames.take count)).1

/-- After every frame the product fits its word and the elapsed time is exact, and the expected timestamps never
decrease. -/
structure KeepsTime (sync : TrackSynchronizer) (frames : List AudioFrame) : Prop where
  product : ∀ i ≤ frames.length, InInt64 ((sync.after frames i).samplesSinceAnchor * kNanosPerSecond : ℕ)
  elapsed : ∀ i ≤ frames.length,
    (sync.after frames i).samplesToDuration .machine (sync.after frames i).samplesSinceAnchor =
      ((sync.after frames i).samplesSinceAnchor * kNanosPerSecond / sync.config.sampleRate : ℕ)
  expected : ∀ i j, i ≤ j → j ≤ frames.length →
    (sync.after frames i).expected .machine ≤ (sync.after frames j).expected .machine

/-- The counter stays small, and the timestamps do not pass the end of the clock on the way. -/
structure InTime (sync : TrackSynchronizer) (total : ℕ) : Prop where
  counter : total ≤ 9223372036
  clock : sync.anchorTimestamp + sync.config.offset total < 2 ^ 63 ∨
    2 ^ 63 ≤ sync.anchorTimestamp + sync.config.offset sync.samplesSinceAnchor

/-- What a continuous run does to the timeline. -/
structure Extends (sync later : TrackSynchronizer) : Prop where
  config : later.config = sync.config
  anchorTimestamp : later.anchorTimestamp = sync.anchorTimestamp
  samplesSinceAnchor : sync.samplesSinceAnchor ≤ later.samplesSinceAnchor

theorem Extends.trans {first second third : TrackSynchronizer} (left : first.Extends second)
    (right : second.Extends third) : first.Extends third :=
  ⟨right.config.trans left.config, right.anchorTimestamp.trans left.anchorTimestamp,
    left.samplesSinceAnchor.trans right.samplesSinceAnchor⟩

section Runs

variable {sync : TrackSynchronizer} {frame : AudioFrame} {frames first second : List AudioFrame}

/-- One frame that does not become the anchor. -/
private theorem process_extends (keeps : (sync.placement .machine frame).reanchors = false) :
    sync.Extends (sync.process .machine frame).1 := by
  refine ⟨process_config .., ?_, ?_⟩
  · rw [process_anchorTimestamp, keeps, if_neg Bool.false_ne_true]
  · rw [process_samplesSinceAnchor, keeps, if_neg Bool.false_ne_true]
    omega

theorem Continuous.extends (continuous : sync.Continuous frames) : sync.Extends (sync.run .machine frames).1 := by
  induction frames generalizing sync with
  | nil => exact ⟨rfl, rfl, Nat.le_refl _⟩
  | cons frame rest ih => exact (process_extends continuous.1).trans (ih continuous.2)

theorem continuous_append_iff : sync.Continuous (first ++ second) ↔
    sync.Continuous first ∧ (sync.run .machine first).1.Continuous second := by
  induction first generalizing sync with
  | nil => exact (and_iff_right trivial).symm
  | cons frame rest ih => exact (and_congr_right fun _ => ih).trans and_assoc.symm

private theorem Continuous.after_extends (continuous : sync.Continuous frames) {i j : ℕ} (order : i ≤ j) :
    (sync.after frames i).Extends (sync.after frames j) := by
  have cut : frames.take j = frames.take i ++ (frames.drop i).take (j - i) := by
    rw [← List.take_add, Nat.add_sub_cancel' order]
  have whole : frames = frames.take i ++ ((frames.drop i).take (j - i) ++ (frames.drop i).drop (j - i)) := by
    rw [List.take_append_drop, List.take_append_drop]
  rw [whole, continuous_append_iff, continuous_append_iff] at continuous
  rw [after, after, cut, run_append_state]
  exact continuous.2.1.extends

end Runs

section Elapsed

variable {sync : TrackSynchronizer}

/-- The elapsed time is exact while the product fits its word, and only then. -/
theorem samplesToDuration_eq_iff (rate : sync.config.sampleRate ≤ 384000) {samples : ℕ}
    (elapsed : samples * kNanosPerSecond / sync.config.sampleRate < 2 ^ 63) :
    sync.samplesToDuration .machine samples = (samples * kNanosPerSecond / sync.config.sampleRate : ℕ) ↔
      samples ≤ 9223372036 := by
  have positive := sync.config.rate_pos
  have product : samples * kNanosPerSecond < 2 ^ 63 * 384000 :=
    ((Nat.div_lt_iff_lt_mul positive).mp elapsed).trans_le (Nat.mul_le_mul_left _ rate)
  have counted : int64 samples = samples := int64_of_inInt64 ⟨by omega, by
    unfold kNanosPerSecond at product
    omega⟩
  rw [samplesToDuration, Arithmetic.machine_signed, Arithmetic.machine_signed, counted, ← Nat.cast_mul,
    int64_tdiv_eq_iff positive (by omega)]
  unfold kNanosPerSecond
  omega

/-- The expected timestamp as a word, while the elapsed time is exact. -/
private theorem expected_eq (exact : sync.samplesToDuration .machine sync.samplesSinceAnchor =
    (sync.samplesSinceAnchor * kNanosPerSecond / sync.config.sampleRate : ℕ)) :
    sync.expected .machine = int64 (sync.anchorTimestamp + sync.config.offset sync.samplesSinceAnchor) := by
  rw [expected, exact]
  rfl

end Elapsed

section KeepsTime

variable {sync : TrackSynchronizer} {frames : List AudioFrame}

private theorem Continuous.fits (continuous : sync.Continuous frames) {i : ℕ} (within : i ≤ frames.length)
    {bound : ℕ} (total : (sync.after frames frames.length).samplesSinceAnchor ≤ bound) :
    (sync.after frames i).samplesSinceAnchor ≤ bound :=
  (continuous.after_extends within).samplesSinceAnchor.trans total

/-- In time, the expected timestamps are sums in range, or all of them a lap lower. -/
private theorem expected_mono {first second : TrackSynchronizer} (extended : first.Extends second)
    (clock : InInt64 first.anchorTimestamp) {total : ℕ} (reached : second.samplesSinceAnchor ≤ total)
    (small : first.config.offset total < 2 ^ 63)
    (lap : first.anchorTimestamp + first.config.offset total < 2 ^ 63 ∨
      2 ^ 63 ≤ first.anchorTimestamp + first.config.offset first.samplesSinceAnchor) :
    int64 (first.anchorTimestamp + first.config.offset first.samplesSinceAnchor) ≤
      int64 (second.anchorTimestamp + second.config.offset second.samplesSinceAnchor) := by
  rw [extended.config, extended.anchorTimestamp]
  have early : first.config.offset first.samplesSinceAnchor ≤ first.config.offset second.samplesSinceAnchor :=
    Rescale.rescale_mono extended.samplesSinceAnchor
  have late : first.config.offset second.samplesSinceAnchor ≤ first.config.offset total := Rescale.rescale_mono reached
  obtain ⟨low, high⟩ := clock
  rcases lap with inside | past
  · rw [int64_of_inInt64 ⟨by omega, by omega⟩, int64_of_inInt64 ⟨by omega, by omega⟩]
    omega
  · rw [int64_of_past (by omega) (by omega), int64_of_past (by omega) (by omega)]
    omega

/-- A continuous run keeps time exactly when it ends in time. -/
theorem keepsTime_iff (continuous : sync.Continuous frames) (rate : sync.config.sampleRate ≤ 384000)
    (clock : InInt64 sync.anchorTimestamp)
    (elapsed :
      (sync.after frames frames.length).samplesSinceAnchor * kNanosPerSecond / sync.config.sampleRate < 2 ^ 63) :
    sync.KeepsTime frames ↔ sync.InTime (sync.after frames frames.length).samplesSinceAnchor := by
  have extends_to (i : ℕ) : sync.Extends (sync.after frames i) := continuous.after_extends (Nat.zero_le i)
  have exact_iff : ∀ i ≤ frames.length,
      (sync.after frames i).samplesToDuration .machine (sync.after frames i).samplesSinceAnchor =
          ((sync.after frames i).samplesSinceAnchor * kNanosPerSecond / sync.config.sampleRate : ℕ) ↔
        (sync.after frames i).samplesSinceAnchor ≤ 9223372036 := by
    intro i within
    have config := (extends_to i).config
    have earlier := continuous.fits within (Nat.le_refl _)
    have shorter := (Nat.div_le_div_right (Nat.mul_le_mul_right kNanosPerSecond earlier)).trans_lt elapsed
    rw [← config] at rate shorter ⊢
    exact samplesToDuration_eq_iff rate shorter
  have position (i : ℕ) (within : i ≤ frames.length) (small : (sync.after frames i).samplesSinceAnchor ≤ 9223372036) :
      (sync.after frames i).expected .machine = int64 ((sync.after frames i).anchorTimestamp +
        (sync.after frames i).config.offset (sync.after frames i).samplesSinceAnchor) := by
    apply expected_eq
    rw [(extends_to i).config]
    exact (exact_iff i within).mpr small
  constructor
  · intro keeps
    have counter := (exact_iff _ (Nat.le_refl _)).mp (keeps.elapsed _ (Nat.le_refl _))
    refine ⟨counter, ?_⟩
    by_contra across
    rw [not_or, Int.not_lt, Int.not_le] at across
    obtain ⟨past, inside⟩ := across
    have ordered := keeps.expected 0 _ (Nat.zero_le _) (Nat.le_refl _)
    rw [position 0 (Nat.zero_le _) (continuous.fits (Nat.zero_le _) counter), position _ (Nat.le_refl _) counter,
      (extends_to frames.length).config, (extends_to frames.length).anchorTimestamp] at ordered
    have start : sync.after frames 0 = sync := rfl
    have small : sync.config.offset (sync.after frames frames.length).samplesSinceAnchor < 2 ^ 63 := elapsed
    obtain ⟨low, high⟩ := clock
    rw [start, int64_of_inInt64 ⟨by omega, inside⟩, int64_of_past past (by omega)] at ordered
    omega
  · intro inTime
    have counter (i : ℕ) (within : i ≤ frames.length) := continuous.fits within inTime.counter
    refine ⟨fun i within => ?_, fun i within => (exact_iff i within).mpr (counter i within),
      fun i j order within => ?_⟩
    · have small := counter i within
      unfold InInt64 kNanosPerSecond
      omega
    have start := extends_to i
    rw [position i (order.trans within) (counter i (order.trans within)), position j within (counter j within)]
    apply expected_mono (continuous.after_extends order) (start.anchorTimestamp ▸ clock)
      (continuous.fits within (Nat.le_refl _))
    · rw [start.config]
      exact elapsed
    · rw [start.config, start.anchorTimestamp]
      refine inTime.clock.imp_right fun past => past.trans ?_
      exact Int.add_le_add_left (Int.ofNat_le.mpr (Rescale.rescale_mono start.samplesSinceAnchor)) _

end KeepsTime

end TrackSynchronizer

end VoxMesh.Audio

namespace VoxMesh.Dsp

open VoxMesh.Audio FixedWidth

namespace SttStreamProducer

/-- Nanoseconds from the anchor to output frame `k`, rounded down. -/
def offset (producer : SttStreamProducer) (k : ℕ) : ℕ :=
  k * producer.samplesPerOutputFrame * kNanosPerSecond / producer.config.output.sampleRate

/-- For every output frame the product fits its word and the elapsed time added to the anchor is exact, and the
timestamps never decrease. -/
structure KeepsTime (producer : SttStreamProducer) (frames : List AudioFrame) (anchor : ℤ) : Prop where
  product : ∀ k < (producer.run frames).2.length, k * producer.samplesPerOutputFrame * kNanosPerSecond < 2 ^ 64
  elapsed : ∀ k (bound : k < (producer.run frames).2.length),
    (producer.run frames).2[k].timestamp = int64 (anchor + producer.offset k)
  ordered : ∀ k l (order : k ≤ l) (bound : l < (producer.run frames).2.length),
    (producer.run frames).2[k].timestamp ≤ (producer.run frames).2[l].timestamp

/-- Before output frame `k` the counter is small, and the timestamps have not reached the end of the clock. -/
structure InTime (producer : SttStreamProducer) (anchor : ℤ) (k : ℕ) : Prop where
  counter : k * producer.samplesPerOutputFrame ≤ 18446744073
  clock : anchor + producer.offset k < 2 ^ 63

variable {designLowPass : ℕ → ℚ → List ℚ} {config : SttStreamConfig} {producer : SttStreamProducer}

private theorem timestamp_eq (created : Created designLowPass config producer) {frames : List AudioFrame}
    {first : AudioFrame} (head : (producer.accepted frames).head? = some first) {k : ℕ}
    (bound : k < (producer.run frames).2.length)
    (small : producer.offset k < 2 ^ 63) :
    (producer.run frames).2[k].timestamp = int64 (first.timestamp +
      (uint64 (k * producer.samplesPerOutputFrame * kNanosPerSecond) / producer.config.output.sampleRate : ℕ)) := by
  have below : uint64 (k * producer.samplesPerOutputFrame * kNanosPerSecond) / producer.config.output.sampleRate <
      2 ^ 63 := (Nat.div_le_div_right (uint64_le _)).trans_lt small
  simp only [(created.run frames).outputs, getElem_released, outputFrame, anchored, head, Option.map_some,
    Option.getD_some]
  rw [int64_of_inInt64 ⟨(by decide : (-2 ^ 63 : ℤ) ≤ 0).trans (Int.natCast_nonneg _), by exact_mod_cast below⟩]

/-- A run keeps time exactly when each of its outputs is in time. -/
theorem keepsTime_iff (created : Created designLowPass config producer) {frames : List AudioFrame}
    (rate : producer.config.output.sampleRate ≤ 384000) {first : AudioFrame}
    (head : (producer.accepted frames).head? = some first) (clock : InInt64 first.timestamp)
    (elapsed : ∀ k < (producer.run frames).2.length, producer.offset k < 2 ^ 63) :
    producer.KeepsTime frames first.timestamp ↔
      ∀ k < (producer.run frames).2.length, producer.InTime first.timestamp k := by
  have positive : 0 < producer.config.output.sampleRate := by
    rw [created.producer]
    exact created.outputRate
  have exact_iff (k : ℕ) (bound : k < (producer.run frames).2.length) :
      (producer.run frames).2[k].timestamp = int64 (first.timestamp + producer.offset k) ↔
        k * producer.samplesPerOutputFrame ≤ 18446744073 := by
    have below := (Nat.div_le_div_right (c := producer.config.output.sampleRate)
      (uint64_le (k * producer.samplesPerOutputFrame * kNanosPerSecond))).trans_lt (elapsed k bound)
    rw [timestamp_eq created head bound (elapsed k bound), int64_add_inj _ below (elapsed k bound), offset,
      uint64_div_eq_iff positive (by omega)]
    unfold kNanosPerSecond
    omega
  obtain ⟨low, high⟩ := clock
  constructor
  · intro keeps k bound
    refine ⟨(exact_iff k bound).mp (keeps.elapsed k bound), ?_⟩
    by_contra past
    have start : (producer.run frames).2[0].timestamp = first.timestamp := by
      rw [keeps.elapsed 0 (by omega), offset, Nat.zero_mul, Nat.zero_mul, Nat.zero_div, Nat.cast_zero, add_zero,
        int64_of_inInt64 ⟨low, high⟩]
    have ordered := keeps.ordered 0 k (Nat.zero_le k) bound
    have small := elapsed k bound
    rw [start, keeps.elapsed k bound, int64_of_past (by omega) (by omega)] at ordered
    omega
  · intro inTime
    have stamp (k : ℕ) (bound : k < (producer.run frames).2.length) :=
      (exact_iff k bound).mpr (inTime k bound).counter
    refine ⟨fun k bound => ?_, stamp, fun k l order bound => ?_⟩
    · have small := (inTime k bound).counter
      unfold kNanosPerSecond
      omega
    · have small := (inTime l bound).clock
      have later : producer.offset k ≤ producer.offset l :=
        Nat.div_le_div_right (Nat.mul_le_mul_right _ (Nat.mul_le_mul_right _ order))
      rw [stamp k (order.trans_lt bound), stamp l bound, int64_of_inInt64 ⟨by omega, by omega⟩,
        int64_of_inInt64 ⟨by omega, by omega⟩]
      omega

end SttStreamProducer

end VoxMesh.Dsp

namespace VoxMesh

open Audio FixedWidth

/-- A run keeps time exactly up to the given lengths: a continuous run of a synchronizer at any rate, and the
outputs of a transcription producer at any output rate, as long as the true elapsed time fits a signed word. -/
theorem elapsed_exact_iff (sync : TrackSynchronizer) (designLowPass : ℕ → ℚ → List ℚ) (config : Dsp.SttStreamConfig)
    (producer : Dsp.SttStreamProducer) (frames : List AudioFrame) :
    (sync.Continuous frames → sync.config.sampleRate ≤ 384000 → InInt64 sync.anchorTimestamp →
      (sync.after frames frames.length).samplesSinceAnchor * kNanosPerSecond / sync.config.sampleRate < 2 ^ 63 →
      (sync.KeepsTime frames ↔ sync.InTime (sync.after frames frames.length).samplesSinceAnchor)) ∧
    (Dsp.SttStreamProducer.create designLowPass config = some producer →
      producer.config.output.sampleRate ≤ 384000 → ∀ first : AudioFrame,
      (producer.accepted frames).head? = some first → InInt64 first.timestamp →
      (∀ k < (producer.run frames).2.length, producer.offset k < 2 ^ 63) →
      (producer.KeepsTime frames first.timestamp ↔
        ∀ k < (producer.run frames).2.length, producer.InTime first.timestamp k)) :=
  ⟨fun continuous rate clock elapsed => TrackSynchronizer.keepsTime_iff continuous rate clock elapsed,
    fun created rate _ head clock elapsed => Dsp.SttStreamProducer.keepsTime_iff
      (Dsp.SttStreamProducer.created_of_create created) rate head clock elapsed⟩

section Schedule

/-- Ten milliseconds of silence at 48 kHz, on time. -/
private def scheduled (index : ℕ) : AudioFrame where
  timestamp := index * 10000000
  sampleRate := 48000
  channels := 1
  payload := List.replicate 960 0

private theorem scheduled_samples (index : ℕ) : (scheduled index).sampleCountPerChannel = 480 :=
  AudioFrame.sampleCountPerChannel_of_length Nat.one_pos (List.length_replicate ..)

private structure OnSchedule (sync : TrackSynchronizer) (count : ℕ) : Prop where
  config : sync.config = {}
  anchored : sync.anchored = true
  anchorTimestamp : sync.anchorTimestamp = 0
  samplesSinceAnchor : sync.samplesSinceAnchor = 480 * count

variable {sync : TrackSynchronizer} {count : ℕ}

private theorem OnSchedule.placement (onSchedule : OnSchedule sync count) (room : 480 * count ≤ 9223372036) :
    sync.placement .machine (scheduled count) = .continuous := by
  have rate : sync.config.sampleRate = 48000 := by rw [onSchedule.config]
  have elapsed : 480 * count * kNanosPerSecond / 48000 = count * 10000000 := by
    unfold kNanosPerSecond
    omega
  have duration : sync.samplesToDuration .machine sync.samplesSinceAnchor = (count * 10000000 : ℕ) := by
    rw [onSchedule.samplesSinceAnchor, ← elapsed, ← rate]
    exact (TrackSynchronizer.samplesToDuration_eq_iff (by omega) (by rw [rate, elapsed]; omega)).mpr room
  have expected : sync.expected .machine = count * 10000000 := by
    rw [TrackSynchronizer.expected, duration, onSchedule.anchorTimestamp, zero_add, Arithmetic.machine_signed,
      int64_of_inInt64 ⟨by omega, by omega⟩, Nat.cast_mul]
    rfl
  have delta : sync.delta .machine (scheduled count) = 0 := by
    rw [TrackSynchronizer.delta, expected, scheduled, sub_self]
    rfl
  rw [TrackSynchronizer.placement, delta, onSchedule.anchored, onSchedule.config]
  rfl

private theorem OnSchedule.process (onSchedule : OnSchedule sync count) (room : 480 * count ≤ 9223372036) :
    OnSchedule (sync.process .machine (scheduled count)).1 (count + 1) := by
  have keeps : (sync.placement .machine (scheduled count)).reanchors = false := by
    rw [onSchedule.placement room]
    rfl
  constructor
  · rw [TrackSynchronizer.process_config, onSchedule.config]
  · exact TrackSynchronizer.process_anchored ..
  · rw [TrackSynchronizer.process_anchorTimestamp, keeps, if_neg Bool.false_ne_true, onSchedule.anchorTimestamp]
  · rw [TrackSynchronizer.process_samplesSinceAnchor, keeps, if_neg Bool.false_ne_true, onSchedule.placement room,
      onSchedule.samplesSinceAnchor, scheduled_samples]
    rfl

private theorem OnSchedule.run (onSchedule : OnSchedule sync count) {more : ℕ}
    (room : 480 * (count + more) ≤ 9223372516) :
    sync.Continuous ((List.range' count more).map scheduled) ∧
      OnSchedule (sync.run .machine ((List.range' count more).map scheduled)).1 (count + more) := by
  induction more generalizing sync count with
  | zero => exact ⟨trivial, onSchedule⟩
  | succ more ih =>
    have placed := onSchedule.placement (by omega)
    obtain ⟨continuous, later⟩ := ih (onSchedule.process (by omega)) (by omega)
    rw [Nat.add_right_comm, Nat.add_assoc] at later
    refine ⟨⟨?_, continuous⟩, later⟩
    rw [placed]
    rfl

private theorem standardRate_pos : 0 < 48000 := by decide

private def standardSync : ClockSyncConfig where
  rate_pos := standardRate_pos
  channels_pos := Nat.one_pos

private def started : TrackSynchronizer :=
  ((TrackSynchronizer.create standardSync).process .machine (scheduled 0)).1

private theorem started_onSchedule : OnSchedule started 1 := by
  have first : (TrackSynchronizer.create standardSync).placement .machine (scheduled 0) = .first := rfl
  constructor
  · exact TrackSynchronizer.process_config ..
  · exact TrackSynchronizer.process_anchored ..
  · rw [started, TrackSynchronizer.process_anchorTimestamp, first]
    rfl
  · rw [started, TrackSynchronizer.process_samplesSinceAnchor, first, scheduled_samples]
    rfl

/-- After 192153.59 seconds at 48 kHz, every frame on time, the elapsed time is negative. -/
theorem elapsed_wrapped : ∃ frames : List AudioFrame, started.Continuous frames ∧
    (started.after frames frames.length).samplesSinceAnchor * kNanosPerSecond / 48000 = 192153590000000 ∧
    (started.after frames frames.length).samplesToDuration .machine
      (started.after frames frames.length).samplesSinceAnchor = -192153578202282 ∧
    (started.after frames frames.length).expected .machine < started.expected .machine ∧
    ¬ started.KeepsTime frames := by
  obtain ⟨continuous, last⟩ := @OnSchedule.run started 1 started_onSchedule 19215358 (by decide)
  refine ⟨(List.range' 1 19215358).map scheduled, continuous, ?_⟩
  generalize (List.range' 1 19215358).map scheduled = frames at last
  have whole : started.after frames frames.length = (started.run .machine frames).1 := by
    rw [TrackSynchronizer.after, List.take_length]
  rw [← whole] at last
  have counter : (started.after frames frames.length).samplesSinceAnchor = 9223372320 := last.samplesSinceAnchor
  have elapsed : (started.after frames frames.length).samplesToDuration .machine
      (started.after frames frames.length).samplesSinceAnchor = -192153578202282 := by
    rw [TrackSynchronizer.samplesToDuration, counter, last.config]
    decide
  have late : (started.after frames frames.length).expected .machine = -192153578202282 := by
    rw [TrackSynchronizer.expected, elapsed, last.anchorTimestamp]
    decide
  have early : started.expected .machine = 10000000 := by
    rw [TrackSynchronizer.expected, TrackSynchronizer.samplesToDuration, started_onSchedule.samplesSinceAnchor,
      started_onSchedule.config, started_onSchedule.anchorTimestamp]
    decide
  have overflow : ¬ InInt64 ((started.after frames frames.length).samplesSinceAnchor * kNanosPerSecond : ℕ) := by
    rw [counter]
    decide
  exact ⟨by rw [counter]; decide, elapsed, by rw [late, early]; decide,
    fun keeps => overflow (keeps.product _ (Nat.le_refl _))⟩

end Schedule

/-- From 8 kHz to 4 kHz, in frames of a millisecond. -/
private def narrowband : Dsp.SttStreamConfig where
  input := { sampleRate := 8000, format := .pcmS16Le }
  output := { sampleRate := 4000, format := .pcmS16Le }
  frameDuration := 1

private def narrowbandProducer : Dsp.SttStreamProducer where
  config := narrowband
  decimator := Dsp.FirDecimator.create Dsp.averaging 2
  samplesPerOutputFrame := 4

theorem elapsed_exact_iff_short : started.KeepsTime [scheduled 1] ∧
    narrowbandProducer.KeepsTime [Dsp.toneFrame 8000 16] 0 := by
  obtain ⟨continuous, last⟩ := @OnSchedule.run started 1 started_onSchedule 1 (by decide)
  rw [List.range'_one, List.map_singleton] at continuous last
  have counter : (started.after [scheduled 1] [scheduled 1].length).samplesSinceAnchor = 960 := by
    rw [TrackSynchronizer.after, List.take_length, last.samplesSinceAnchor]
  have outputs : (narrowbandProducer.run [Dsp.toneFrame 8000 16]).2.length = 2 := by decide +kernel
  constructor
  · apply ((elapsed_exact_iff started Dsp.averaging narrowband narrowbandProducer [scheduled 1]).1 continuous
      (by rw [started_onSchedule.config]; decide) (by rw [started_onSchedule.anchorTimestamp]; decide) ?_).mpr
    · rw [counter]
      refine ⟨by decide, .inl ?_⟩
      rw [started_onSchedule.config, started_onSchedule.anchorTimestamp]
      decide
    · rw [counter, started_onSchedule.config]
      decide
  · apply ((elapsed_exact_iff started Dsp.averaging narrowband narrowbandProducer [Dsp.toneFrame 8000 16]).2 rfl
      (by decide) (Dsp.toneFrame 8000 16) rfl (by decide) ?_).mpr
    · rw [outputs]
      intro k bound
      interval_cases k <;> exact ⟨by decide, by decide⟩
    · rw [outputs]
      intro k bound
      interval_cases k <;> decide

end VoxMesh
