import VoxMesh.Model.FakeBackend
import VoxMesh.Proofs.CaptureStream
import VoxMesh.Proofs.Timeline
import VoxMesh.Soundness.AlignedStream

/-! # Healing losses between frames of one cadence

All frames last a whole number of samples, and each one starts where its predecessor ends, or is flagged
and starts later. The sample clock then never runs ahead of the device by a tick of the nanosecond clock
and never behind by a sample (`Synced`), so no frame is early, an unflagged frame is within tolerance and
needs no silence, and a flagged one is healed by the missing samples, rounded to less than two.
-/

namespace VoxMesh.Audio

open FixedWidth Testing

/-- Frames of `samples` samples per channel that last exactly `interval` nanoseconds, on a clock no finer
than nanoseconds, with a tolerance of at least one sample period. -/
structure Cadence (config : ClockSyncConfig) (interval : ℤ) (samples : ℕ) : Prop where
  whole : config.sampleRate * interval = samples * kNanosPerSecond
  coarse : config.sampleRate ≤ kNanosPerSecond
  tolerance : config.samplePeriod ≤ config.tolerance

/-- The gap before a frame, with two sample periods to spare, is within the silence cap. -/
def WithinCap (config : ClockSyncConfig) (gap : ℤ) : Prop :=
  config.sampleRate * gap + 2 * kNanosPerSecond ≤ config.sampleRate * config.cap

instance (config : ClockSyncConfig) (gap : ℤ) : Decidable (WithinCap config gap) :=
  inferInstanceAs (Decidable (_ ≤ _))

namespace TrackSynchronizer

/-- The sample clock started at `start`, has counted `total` samples, and agrees with a device whose next
frame is due at `due`. -/
structure Synced (sync : TrackSynchronizer) (start due : ℤ) (total : ℕ) : Prop where
  anchored : sync.anchored = true
  anchor : sync.anchorTimestamp = start
  counted : sync.samplesSinceAnchor = total
  ahead : total * kNanosPerSecond < sync.config.sampleRate * (due - start) + sync.config.sampleRate
  behind : sync.config.sampleRate * (due - start) < (total + 1) * kNanosPerSecond

section Call

variable {config : ClockSyncConfig} {interval : ℤ} {samples total : ℕ} {sync : TrackSynchronizer}
variable {start due : ℤ} {frame : AudioFrame}

/-- The delay of a frame behind the sample clock is its gap, up to the clock's own error. -/
theorem Synced.delta_bounds (synced : sync.Synced start due total) (frame : AudioFrame) :
    sync.config.sampleRate * (frame.timestamp - start) - total * kNanosPerSecond ≤
        sync.config.sampleRate * sync.delta .exact frame ∧
      sync.config.sampleRate * sync.delta .exact frame <
        sync.config.sampleRate * (frame.timestamp - start) - total * kNanosPerSecond + sync.config.sampleRate := by
  have below : (sync.config.offset total * sync.config.sampleRate : ℤ) ≤ total * kNanosPerSecond := by
    exact_mod_cast Rescale.rescale_mul_le (a := kNanosPerSecond) (b := sync.config.sampleRate) total
  have above : (total * kNanosPerSecond : ℤ) < sync.config.offset total * sync.config.sampleRate +
      sync.config.sampleRate := by
    exact_mod_cast Rescale.lt_rescale_mul (a := kNanosPerSecond) sync.config.rate_pos total
  rw [delta_exact, synced.anchor, synced.counted]
  constructor <;> linarith

/-- The silence of a healed gap, in nanosecond units. -/
theorem healed_silence_bounds {silence : ℕ} (late : 0 ≤ sync.delta .exact frame)
    (amount : silence = sync.durationToSamples .exact (sync.delta .exact frame)) :
    (silence * kNanosPerSecond : ℤ) ≤ sync.config.sampleRate * sync.delta .exact frame ∧
      sync.config.sampleRate * sync.delta .exact frame < silence * kNanosPerSecond + kNanosPerSecond := by
  have length : ((sync.delta .exact frame).toNat : ℤ) = sync.delta .exact frame := Int.toNat_of_nonneg late
  have below : (silence * kNanosPerSecond : ℤ) ≤ (sync.delta .exact frame).toNat * sync.config.sampleRate := by
    rw [amount, durationToSamples_exact]
    exact_mod_cast Rescale.rescale_mul_le (a := sync.config.sampleRate) (b := kNanosPerSecond) _
  have above : ((sync.delta .exact frame).toNat * sync.config.sampleRate : ℤ) <
      silence * kNanosPerSecond + kNanosPerSecond := by
    rw [amount, durationToSamples_exact]
    exact_mod_cast Rescale.lt_rescale_mul (a := sync.config.sampleRate) (b := kNanosPerSecond) (by decide) _
  rw [length] at below above
  constructor <;> linarith

/-- One call on a frame that follows the device's last one: no re-anchor, and silence for the gap. -/
structure Healed (sync : TrackSynchronizer) (frame : AudioFrame) (start due : ℤ) (total : ℕ) : Prop where
  keeps : (sync.placement .exact frame).reanchors = false
  quiet : frame.discontinuity = false → (sync.placement .exact frame).silence = 0
  ahead : ((total + (sync.placement .exact frame).silence : ℕ) * kNanosPerSecond : ℤ) <
    sync.config.sampleRate * (frame.timestamp - start) + sync.config.sampleRate
  behind : sync.config.sampleRate * (frame.timestamp - start) <
    ((total + (sync.placement .exact frame).silence : ℕ) + 1) * kNanosPerSecond

/-- A frame is never earlier than its gap says. -/
private theorem Synced.gap_le_delta (synced : sync.Synced start due total) (frame : AudioFrame) :
    frame.timestamp - due ≤ sync.delta .exact frame := by
  have rate : (0 : ℤ) < sync.config.sampleRate := Int.natCast_pos.mpr sync.config.rate_pos
  obtain ⟨below, -⟩ := synced.delta_bounds frame
  have ahead := synced.ahead
  by_contra early
  have tick : sync.config.sampleRate * sync.delta .exact frame ≤
      sync.config.sampleRate * (frame.timestamp - due - 1) :=
    Int.mul_le_mul_of_nonneg_left (by omega) rate.le
  linarith

/-- A frame without a gap is at most one sample period late. -/
private theorem Synced.delta_le_period (synced : sync.Synced start due total) (seamless : frame.timestamp = due) :
    sync.delta .exact frame ≤ sync.config.samplePeriod := by
  have rate : (0 : ℤ) < sync.config.sampleRate := Int.natCast_pos.mpr sync.config.rate_pos
  obtain ⟨-, above⟩ := synced.delta_bounds frame
  have behind := synced.behind
  have period : (kNanosPerSecond : ℤ) ≤ sync.config.samplePeriod * sync.config.sampleRate := by
    exact_mod_cast Rescale.le_tickCeil_mul (a := kNanosPerSecond) sync.config.rate_pos
  rw [seamless] at above
  by_contra late
  have tick : sync.config.sampleRate * (sync.config.samplePeriod + 1 : ℤ) ≤
      sync.config.sampleRate * sync.delta .exact frame :=
    Int.mul_le_mul_of_nonneg_left (by omega) rate.le
  linarith

theorem Synced.healed (synced : sync.Synced start due total) (cadence : Cadence sync.config interval samples)
    (order : due ≤ frame.timestamp) (seamless : frame.discontinuity = false → frame.timestamp = due)
    (within : WithinCap sync.config (frame.timestamp - due)) : Healed sync frame start due total := by
  have rate : (0 : ℤ) < sync.config.sampleRate := Int.natCast_pos.mpr sync.config.rate_pos
  have coarse : (sync.config.sampleRate : ℤ) ≤ kNanosPerSecond := by exact_mod_cast cadence.coarse
  obtain ⟨below, above⟩ := synced.delta_bounds frame
  have gap := synced.gap_le_delta frame
  have ahead := synced.ahead
  have behind := synced.behind
  have tolerance := cadence.tolerance
  cases placed : sync.placement .exact frame with
  | first => exact absurd (synced.anchored.symm.trans (placement_eq_first_iff.mp placed)) nofun
  | overlap =>
    have early := of_placement_overlap placed
    omega
  | truncated silence =>
    have beyond := of_placement_truncated placed
    have tick : sync.config.sampleRate * sync.config.cap ≤ sync.config.sampleRate * sync.delta .exact frame :=
      Int.mul_le_mul_of_nonneg_left beyond.le rate.le
    unfold WithinCap at within
    linarith
  | continuous =>
    have due : frame.timestamp = due := by
      cases flagged : frame.discontinuity with
      | false => exact seamless flagged
      | true =>
        have := flag_of_placement_continuous placed flagged
        omega
    refine ⟨by rw [placed]; rfl, fun _ => by rw [placed]; rfl, ?_, ?_⟩
    · simpa [placed, Placement.silence, due] using ahead
    · simpa [placed, Placement.silence, due] using behind
  | healed silence =>
    obtain ⟨-, -, late, amount⟩ := of_placement_healed placed
    have delayed : 0 ≤ sync.delta .exact frame := by omega
    obtain ⟨atMost, atLeast⟩ := healed_silence_bounds delayed amount
    refine ⟨by rw [placed]; rfl, ?_, ?_, ?_⟩
    · intro unflagged
      have beyond := late_of_placement_healed placed unflagged
      have period := synced.delta_le_period (seamless unflagged)
      omega
    · rw [placed]
      simp only [Placement.silence, Nat.cast_add]
      linarith
    · rw [placed]
      simp only [Placement.silence, Nat.cast_add]
      linarith

/-- The sample clock agrees with the device again after the frame. -/
theorem Healed.synced (healed : Healed sync frame start due total) (synced : sync.Synced start due total)
    (cadence : Cadence sync.config interval samples) (length : frame.sampleCountPerChannel = samples) :
    (sync.process .exact frame).1.Synced start (frame.timestamp + interval)
      (total + (sync.placement .exact frame).silence + samples) := by
  have whole := cadence.whole
  have ahead := healed.ahead
  have behind := healed.behind
  refine ⟨process_anchored _ _ _, ?_, ?_, ?_, ?_⟩
  · simp [healed.keeps, synced.anchor]
  · simp [healed.keeps, synced.counted, length]
  · rw [process_config, Nat.cast_add]
    linarith
  · rw [process_config, Nat.cast_add]
    linarith

end Call

/-- The first frame anchors the timeline. -/
theorem synced_first (sync : TrackSynchronizer) {frame : AudioFrame} {interval : ℤ} {samples : ℕ}
    (cadence : Cadence sync.config interval samples) (fresh : sync.anchored = false)
    (length : frame.sampleCountPerChannel = samples) :
    (sync.process .exact frame).1.Synced frame.timestamp (frame.timestamp + interval) samples := by
  have first : sync.placement .exact frame = .first := placement_eq_first_iff.mpr fresh
  have rate := sync.config.rate_pos
  have whole := cadence.whole
  refine ⟨process_anchored _ _ _, ?_, ?_, ?_, ?_⟩
  · simp [first, Placement.reanchors]
  · simp [first, Placement.reanchors, length]
  · rw [process_config, add_sub_cancel_left, whole]
    omega
  · rw [process_config, add_sub_cancel_left, whole]
    simp only [kNanosPerSecond]
    omega

/-- The drains of successive calls. -/
def drains (arith : Arithmetic) (sync : TrackSynchronizer) : List AudioFrame → List Drain
  | [] => []
  | frame :: rest => ⟨frame, (sync.process arith frame).2⟩ :: (sync.process arith frame).1.drains arith rest

theorem run_append_state (arith : Arithmetic) (sync : TrackSynchronizer) (first second : List AudioFrame) :
    (sync.run arith (first ++ second)).1 = ((sync.run arith first).1.run arith second).1 := by
  induction first generalizing sync with
  | nil => rfl
  | cons frame rest ih => simp only [List.cons_append, run, ih]

theorem drains_append (arith : Arithmetic) (sync : TrackSynchronizer) (first second : List AudioFrame) :
    sync.drains arith (first ++ second) =
      sync.drains arith first ++ (sync.run arith first).1.drains arith second := by
  induction first generalizing sync with
  | nil => rfl
  | cons frame rest ih => simp only [List.cons_append, drains, run, ih]

theorem drains_output (arith : Arithmetic) (sync : TrackSynchronizer) (frames : List AudioFrame) :
    (sync.drains arith frames).flatMap (·.output) = (sync.run arith frames).2 := by
  induction frames generalizing sync with
  | nil => rfl
  | cons frame rest ih => simp only [drains, List.flatMap_cons, run, ih]

/-- In range, the machine drains what the integers drain. -/
theorem drains_machine {machine exact : TrackSynchronizer} {frames : List AudioFrame}
    (same : machine.SameTimeline exact) (fits : exact.Fits frames) :
    machine.drains .machine frames = exact.drains .exact frames := by
  induction frames generalizing machine exact with
  | nil => rfl
  | cons frame rest ih =>
    obtain ⟨output, next⟩ := process_machine same fits.1
    simp only [drains, output, ih next fits.2]

theorem silence_of_process (arith : Arithmetic) (sync : TrackSynchronizer) (frame : AudioFrame) :
    (⟨frame, (sync.process arith frame).2⟩ : Drain).silence = (sync.placement arith frame).silence :=
  process_silence_samples arith sync frame

theorem samplesOf_process (arith : Arithmetic) (sync : TrackSynchronizer) (frame : AudioFrame) :
    samplesOf (sync.process arith frame).2 =
      (sync.placement arith frame).silence + frame.sampleCountPerChannel := by
  have real : (sync.emitted arith frame).sampleCountPerChannel = frame.sampleCountPerChannel := rfl
  rw [samplesOf, process_output, silences]
  split
  next => simp [AlignedFrame.samples, silenceFrame_samples, real]
  next none =>
    have zero : (sync.placement arith frame).silence = 0 := by omega
    simp [AlignedFrame.samples, real, zero]

end TrackSynchronizer

/-- A drained frame stands where the device's time puts it, and its silence is the missing span, both to
less than two samples; a frame that is not flagged has none. -/
structure OnDeviceTime (config : ClockSyncConfig) (interval start : ℤ) (previous : AudioFrame) (total : ℕ)
    (drain : Drain) : Prop where
  position : |((total + drain.silence : ℕ) * kNanosPerSecond : ℤ) -
    config.sampleRate * (drain.frame.timestamp - start)| < 2 * kNanosPerSecond
  missing : |(drain.silence * kNanosPerSecond : ℤ) -
    config.sampleRate * (drain.frame.timestamp - previous.timestamp - interval)| < 2 * kNanosPerSecond
  quiet : drain.frame.discontinuity = false → drain.silence = 0

/-- Every drain of a list is on the device's time, after `total` samples have been put out. -/
def AllOnDeviceTime (config : ClockSyncConfig) (interval start : ℤ) : AudioFrame → ℕ → List Drain → Prop
  | _, _, [] => True
  | previous, total, drain :: rest =>
      OnDeviceTime config interval start previous total drain ∧
        AllOnDeviceTime config interval start drain.frame (total + samplesOf drain.output) rest

theorem samplesOf_append (first second : List AlignedFrame) :
    samplesOf (first ++ second) = samplesOf first + samplesOf second := by
  rw [samplesOf, List.map_append, List.sum_append, samplesOf, samplesOf]

/-- Any two neighbours in a list whose tail is on the device's time. -/
theorem AllOnDeviceTime.of_split {config : ClockSyncConfig} {interval start : ℤ} {total : ℕ}
    {head earlier drain : Drain} {rest before after : List Drain}
    (onTime : AllOnDeviceTime config interval start head.frame (total + samplesOf head.output) rest)
    (split : head :: rest = before ++ earlier :: drain :: after) :
    OnDeviceTime config interval start earlier.frame
      (total + samplesOf ((before ++ [earlier]).flatMap (·.output))) drain := by
  induction before generalizing head rest total with
  | nil =>
    obtain ⟨rfl, rfl⟩ := List.cons.inj split
    simpa using onTime.1
  | cons first more ih =>
    obtain ⟨rfl, same⟩ := List.cons.inj split
    cases rest with
    | nil => exact absurd same (by simp)
    | cons second later =>
      have here := ih onTime.2 same
      rwa [Nat.add_assoc, ← samplesOf_append, ← List.flatMap_cons, ← List.cons_append] at here

namespace TrackSynchronizer

/-- The gap between two consecutive frames leaves room for the silence. -/
def Spans (config : ClockSyncConfig) (interval : ℤ) (earlier later : AudioFrame) : Prop :=
  Follows interval earlier later ∧ WithinCap config (later.timestamp - earlier.timestamp - interval)

theorem Synced.drains_onTime {sync : TrackSynchronizer} {interval start : ℤ} {samples total : ℕ}
    {previous : AudioFrame} {frames : List AudioFrame}
    (synced : sync.Synced start (previous.timestamp + interval) total)
    (cadence : Cadence sync.config interval samples)
    (lengths : ∀ frame ∈ frames, frame.sampleCountPerChannel = samples)
    (chain : (previous :: frames).IsChain (Spans sync.config interval)) :
    AllOnDeviceTime sync.config interval start previous total (sync.drains .exact frames) := by
  induction frames generalizing sync previous total with
  | nil => trivial
  | cons frame rest ih =>
    obtain ⟨⟨follows, within⟩, later⟩ := List.isChain_cons_cons.mp chain
    have coarse : (sync.config.sampleRate : ℤ) ≤ kNanosPerSecond := by exact_mod_cast cadence.coarse
    have healed := synced.healed cadence follows.order follows.seamless (by
      simpa only [sub_sub] using within)
    have next := healed.synced synced cadence (lengths frame (List.mem_cons_self ..))
    refine ⟨⟨?_, ?_, ?_⟩, ?_⟩
    · rw [silence_of_process, abs_lt]
      have ahead := healed.ahead
      have behind := healed.behind
      constructor <;> linarith
    · rw [silence_of_process, abs_lt]
      have ahead := healed.ahead
      have behind := healed.behind
      have ahead' := synced.ahead
      have behind' := synced.behind
      rw [Nat.cast_add] at ahead behind
      constructor <;> linarith
    · rw [silence_of_process]
      exact healed.quiet
    · have length := lengths frame (List.mem_cons_self ..)
      have rest := ih next (by rwa [process_config]) (fun frame member => lengths frame (List.mem_cons_of_mem _ member))
        (by rwa [process_config])
      rw [process_config] at rest
      rwa [samplesOf_process, length, ← Nat.add_assoc]

end TrackSynchronizer

end VoxMesh.Audio
