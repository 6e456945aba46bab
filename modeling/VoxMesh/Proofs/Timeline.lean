import VoxMesh.Proofs.Placement

/-! # The machine's timeline and the exact timeline

Over the integers the expected position is the anchor plus the rounded duration of the samples
since, and a gap is filled with as many whole samples as fit. `Fits` says that along a run the
sample counter times a billion and the timestamp sums stay within the signed 64-bit range. It is a
condition on the exact run alone, and under it the machine takes the same branch at every frame
and emits the same stream (`run_machine`). The drift bookkeeping does not influence the output and
is not compared.
-/

namespace VoxMesh.Audio

open FixedWidth

namespace TrackSynchronizer

theorem samplesToDuration_exact (sync : TrackSynchronizer) (samples : ℕ) :
    sync.samplesToDuration .exact samples = sync.config.offset samples := by
  simp only [samplesToDuration, Arithmetic.exact_signed, ClockSyncConfig.offset, Rescale.rescale]
  rw [← Nat.cast_mul, Int.ofNat_tdiv]

theorem durationToSamples_exact (sync : TrackSynchronizer) (duration : ℤ) :
    sync.durationToSamples .exact duration =
      Rescale.rescale sync.config.sampleRate kNanosPerSecond duration.toNat := by
  unfold durationToSamples
  split
  next early => simp [Int.toNat_of_nonpos early]
  next late => rfl

theorem expected_exact (sync : TrackSynchronizer) :
    sync.expected .exact = sync.anchorTimestamp + sync.config.offset sync.samplesSinceAnchor := by
  simp only [expected, Arithmetic.exact_signed, samplesToDuration_exact]

theorem delta_exact (sync : TrackSynchronizer) (frame : AudioFrame) :
    sync.delta .exact frame =
      frame.timestamp - sync.anchorTimestamp - sync.config.offset sync.samplesSinceAnchor := by
  simp only [delta, Arithmetic.exact_signed, expected_exact]
  ring

section Branches

variable {arith : Arithmetic} {sync : TrackSynchronizer} {frame : AudioFrame}

theorem placement_eq_first_iff : sync.placement arith frame = .first ↔ sync.anchored = false := by
  unfold placement
  split_ifs <;> simp_all

theorem of_placement_continuous (continuous : sync.placement arith frame = .continuous) :
    sync.anchored = true ∧ -sync.config.tolerance ≤ sync.delta arith frame ∧
      sync.delta arith frame ≤ sync.config.tolerance := by
  unfold placement at continuous
  split_ifs at continuous with unanchored late truncated overlap
  exact ⟨by simpa using unanchored, by omega, by omega⟩

theorem of_placement_healed {silence : ℕ} (healed : sync.placement arith frame = .healed silence) :
    sync.anchored = true ∧ sync.delta arith frame ≤ sync.config.cap ∧
      (sync.config.tolerance < sync.delta arith frame ∨ 0 < sync.delta arith frame) ∧
      silence = sync.durationToSamples arith (sync.delta arith frame) := by
  unfold placement at healed
  split_ifs at healed with unanchored late truncated overlap
  have within : sync.delta arith frame ≤ sync.config.cap := by omega
  rw [min_eq_left within] at healed
  exact ⟨by simpa using unanchored, within, late.imp id And.right, (Placement.healed.inj healed).symm⟩

/-- A continuous frame is not a flagged late one. -/
theorem flag_of_placement_continuous (continuous : sync.placement arith frame = .continuous)
    (flagged : frame.discontinuity = true) : sync.delta arith frame ≤ 0 := by
  unfold placement at continuous
  split_ifs at continuous with unanchored late truncated overlap
  by_contra positive
  exact late (.inr ⟨flagged, by omega⟩)

/-- An unflagged frame is healed only beyond the tolerance. -/
theorem late_of_placement_healed {silence : ℕ} (healed : sync.placement arith frame = .healed silence)
    (unflagged : frame.discontinuity = false) : sync.config.tolerance < sync.delta arith frame := by
  unfold placement at healed
  split_ifs at healed with unanchored late truncated overlap
  rcases late with beyond | ⟨flagged, -⟩
  · exact beyond
  · exact absurd (flagged.symm.trans unflagged) nofun

theorem of_placement_truncated {silence : ℕ} (truncated : sync.placement arith frame = .truncated silence) :
    sync.config.cap < sync.delta arith frame := by
  unfold placement at truncated
  split_ifs at truncated with unanchored late beyond overlap
  exact beyond

theorem of_placement_overlap (overlap : sync.placement arith frame = .overlap) :
    sync.delta arith frame < -sync.config.tolerance := by
  unfold placement at overlap
  split_ifs at overlap with unanchored late beyond early
  exact early

end Branches

/-- The arithmetic of one call stays in range: the sample counter after any silence, in
nanosecond units, and both timestamp sums. -/
def FitsCall (sync : TrackSynchronizer) (frame : AudioFrame) : Prop :=
  sync.anchored = true →
    InInt64 ((sync.samplesSinceAnchor + (sync.placement .exact frame).silence : ℕ) * kNanosPerSecond) ∧
    InInt64 (sync.expected .exact) ∧ InInt64 (sync.delta .exact frame)

instance (sync : TrackSynchronizer) (frame : AudioFrame) : Decidable (sync.FitsCall frame) :=
  inferInstanceAs (Decidable (_ → _))

/-- The arithmetic of the exact run stays in range. -/
def Fits (sync : TrackSynchronizer) : List AudioFrame → Prop
  | [] => True
  | frame :: rest => sync.FitsCall frame ∧ (sync.process .exact frame).1.Fits rest

instance decidableFits : (sync : TrackSynchronizer) → (frames : List AudioFrame) →
    Decidable (sync.Fits frames)
  | _, [] => isTrue trivial
  | sync, frame :: rest =>
      haveI := decidableFits (sync.process .exact frame).1 rest
      inferInstanceAs (Decidable (_ ∧ _))

/-- Equality of everything that influences the output. -/
structure SameTimeline (first second : TrackSynchronizer) : Prop where
  config : first.config = second.config
  stats : first.stats = second.stats
  anchored : first.anchored = second.anchored
  anchorTimestamp : first.anchorTimestamp = second.anchorTimestamp
  samplesSinceAnchor : first.samplesSinceAnchor = second.samplesSinceAnchor
  nextOutputSequence : first.nextOutputSequence = second.nextOutputSequence

theorem SameTimeline.refl (sync : TrackSynchronizer) : sync.SameTimeline sync :=
  ⟨rfl, rfl, rfl, rfl, rfl, rfl⟩

section Machine

variable {machine exact : TrackSynchronizer} {frame : AudioFrame}

private theorem expected_machine (same : machine.SameTimeline exact) (fits : exact.FitsCall frame)
    (anchored : exact.anchored = true) : machine.expected .machine = exact.expected .exact := by
  obtain ⟨counter, sum, _⟩ := fits anchored
  have product : InInt64 ((exact.samplesSinceAnchor : ℤ) * kNanosPerSecond) := by
    unfold InInt64 at counter ⊢
    push_cast at counter ⊢
    omega
  have counted : InInt64 (exact.samplesSinceAnchor : ℤ) := by
    unfold InInt64 at product ⊢
    push_cast at product ⊢
    omega
  have duration : machine.samplesToDuration .machine machine.samplesSinceAnchor =
      exact.samplesToDuration .exact exact.samplesSinceAnchor := by
    simp only [samplesToDuration, same.config, same.samplesSinceAnchor, Arithmetic.machine_signed,
      Arithmetic.exact_signed, int64_of_inInt64 counted, int64_of_inInt64 product]
  simp only [expected, duration, same.anchorTimestamp, Arithmetic.machine_signed, Arithmetic.exact_signed]
  exact int64_of_inInt64 sum

private theorem delta_machine (same : machine.SameTimeline exact) (fits : exact.FitsCall frame)
    (anchored : exact.anchored = true) : machine.delta .machine frame = exact.delta .exact frame := by
  rw [delta, expected_machine same fits anchored]
  exact int64_of_inInt64 (fits anchored).2.2

private theorem durationToSamples_machine (same : machine.SameTimeline exact) {duration : ℤ}
    (room : exact.durationToSamples .exact duration * kNanosPerSecond < 2 ^ 63) :
    machine.durationToSamples .machine duration = exact.durationToSamples .exact duration := by
  have product : duration.toNat * exact.config.sampleRate < 2 ^ 64 := by
    rw [durationToSamples_exact] at room
    have short := Rescale.lt_rescale_mul (a := exact.config.sampleRate) (b := kNanosPerSecond)
      (by decide) duration.toNat
    simp only [kNanosPerSecond] at room short
    omega
  simp only [durationToSamples, same.config, Arithmetic.machine_unsigned, Arithmetic.exact_unsigned,
    uint64_of_lt product]

private theorem placement_machine (same : machine.SameTimeline exact) (fits : exact.FitsCall frame) :
    machine.placement .machine frame = exact.placement .exact frame := by
  cases anchored : exact.anchored with
  | false =>
    rw [placement_eq_first_iff.mpr anchored, placement_eq_first_iff.mpr (same.anchored.trans anchored)]
  | true =>
    have late := delta_machine same fits anchored
    have counter := (fits anchored).1
    simp only [placement, same.anchored, anchored, same.config, late, Bool.not_true, Bool.false_eq_true,
      ↓reduceIte] at counter ⊢
    split
    next gap =>
      simp only [gap, ↓reduceIte] at counter
      have silence : machine.durationToSamples .machine (min (exact.delta .exact frame) exact.config.cap) =
          exact.durationToSamples .exact (min (exact.delta .exact frame) exact.config.cap) := by
        apply durationToSamples_machine same
        split at counter <;>
        · simp only [Placement.silence, InInt64, kNanosPerSecond] at counter ⊢
          push_cast at counter
          omega
      rw [silence]
    next => rfl

/-- One call in range: the same output and the same timeline. -/
theorem process_machine (same : machine.SameTimeline exact) (fits : exact.FitsCall frame) :
    (machine.process .machine frame).2 = (exact.process .exact frame).2 ∧
      (machine.process .machine frame).1.SameTimeline (exact.process .exact frame).1 := by
  have branch := placement_machine same fits
  refine ⟨?_, ?_⟩
  · have silences : machine.silences .machine frame (exact.placement .exact frame) =
        exact.silences .exact frame (exact.placement .exact frame) := by
      cases anchored : exact.anchored with
      | false => simp [TrackSynchronizer.silences, placement_eq_first_iff.mpr anchored, Placement.silence]
      | true =>
        simp only [TrackSynchronizer.silences, silenceFrame, makeSilenceFrame, same.config,
          same.nextOutputSequence, expected_machine same fits anchored]
    simp only [process_output, emitted, branch, silences, same.nextOutputSequence]
  · constructor <;> simp only [process_config, process_stats, process_anchored, process_anchorTimestamp,
      process_samplesSinceAnchor, process_nextOutputSequence, branch, same.config, same.stats,
      same.anchorTimestamp, same.samplesSinceAnchor, same.nextOutputSequence]

/-- While the exact run stays in range, the machine emits exactly its stream. -/
theorem run_machine {frames : List AudioFrame} (same : machine.SameTimeline exact)
    (fits : exact.Fits frames) :
    (machine.run .machine frames).2 = (exact.run .exact frames).2 ∧
      (machine.run .machine frames).1.SameTimeline (exact.run .exact frames).1 := by
  induction frames generalizing machine exact with
  | nil => exact ⟨rfl, same⟩
  | cons frame rest ih =>
    obtain ⟨output, next⟩ := process_machine same fits.1
    obtain ⟨outputs, last⟩ := ih next fits.2
    exact ⟨by simp only [run, output, outputs], last⟩

end Machine

/-- What a new synchronizer makes of the frames. -/
def alignedFrames (config : ClockSyncConfig) (frames : List AudioFrame) : List AudioFrame :=
  ((create config).run .machine frames).2.map (·.frame)

end TrackSynchronizer

end VoxMesh.Audio
