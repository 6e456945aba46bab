import VoxMesh.Soundness.MasterTimeline

/-! # Aligning an aligned stream

A second synchronizer is fed what the first one put out. Silence starts exactly where it is expected, and the frame
behind it is off by the rounding of the silence only, less than a sample period. So the second one anchors where the
first one did, counts the same samples, and passes every frame as it is, as long as the tolerance covers a sample
period and no gap was truncated: `Retraces` is the simulation between the two.
-/

namespace VoxMesh.Audio

open FixedWidth

/-- The branch that a frame takes the second time, once no samples are missing before it. -/
def Placement.settled : Placement → Placement
  | .healed _ => .continuous
  | placement => placement

namespace TrackSynchronizer

/-- The second synchronizer agrees with the first in everything that decides on the output. -/
structure Retraces (sync twin : TrackSynchronizer) : Prop where
  config : twin.config = sync.config
  anchored : twin.anchored = sync.anchored
  anchorTimestamp : twin.anchorTimestamp = sync.anchorTimestamp
  samplesSinceAnchor : twin.samplesSinceAnchor = sync.samplesSinceAnchor
  nextOutputSequence : twin.nextOutputSequence = sync.nextOutputSequence

theorem Retraces.refl (sync : TrackSynchronizer) : sync.Retraces sync := ⟨rfl, rfl, rfl, rfl, rfl⟩

/-- The synchronizer once it has put out the silence before the frame. -/
def silenced (sync : TrackSynchronizer) (placement : Placement) : TrackSynchronizer :=
  { sync with
    samplesSinceAnchor := sync.samplesSinceAnchor + placement.silence
    nextOutputSequence := sync.nextOutputSequence + placement.inserted }

variable {sync twin : TrackSynchronizer} {frame : AudioFrame}

theorem silenced_of_quiet {placement : Placement} (quiet : ¬ 0 < placement.silence) :
    sync.silenced placement = sync := by
  have none : placement.silence = 0 := by omega
  rw [silenced, Placement.inserted, if_neg quiet, none]
  rfl

theorem Retraces.expected (retraces : sync.Retraces twin) : twin.expected .exact = sync.expected .exact := by
  rw [expected_exact, expected_exact, retraces.config, retraces.anchorTimestamp, retraces.samplesSinceAnchor]

/-- A frame that needs no silence, keeps its flag and has the next number passes as it is. -/
theorem process_passes (quiet : (twin.placement .exact frame).silence = 0)
    (flag : (twin.placement .exact frame).flag frame.discontinuity = frame.discontinuity)
    (numbered : frame.sequence = twin.nextOutputSequence) : (twin.process .exact frame).2 = [⟨frame, false⟩] := by
  have silences : twin.silences .exact frame (twin.placement .exact frame) = [] := by
    rw [TrackSynchronizer.silences, if_neg (by omega)]
  have unchanged : twin.emitted .exact frame = frame := by
    rw [emitted, flag, Placement.inserted, if_neg (by omega), Nat.add_zero, ← numbered]
  rw [process_output, silences, unchanged]
  rfl

/-- The silence that the first synchronizer puts out is where the second one expects it. -/
theorem Retraces.silence_placement (retraces : sync.Retraces twin) (anchored : sync.anchored = true)
    (tolerance : 0 ≤ sync.config.tolerance) (frame : AudioFrame) (samples : ℕ) :
    twin.delta .exact (sync.silenceFrame .exact frame samples) = 0 ∧
      twin.placement .exact (sync.silenceFrame .exact frame samples) = .continuous := by
  have onTime : twin.delta .exact (sync.silenceFrame .exact frame samples) = 0 := by
    rw [delta, retraces.expected]
    exact sub_self _
  refine ⟨onTime, ?_⟩
  rw [placement, retraces.anchored, anchored, onTime, retraces.config]
  simp only [Bool.not_true, Bool.false_eq_true, ↓reduceIte, lt_self_iff_false, and_false, or_false]
  rw [if_neg (by omega), if_neg (by omega)]

/-- The second synchronizer passes the silence, and then has the samples that were missing. -/
theorem Retraces.silence (retraces : sync.Retraces twin) (anchored : sync.anchored = true)
    (tolerance : 0 ≤ sync.config.tolerance) (frame : AudioFrame) {placement : Placement}
    (some : 0 < placement.silence) :
    (twin.process .exact (sync.silenceFrame .exact frame placement.silence)).2 =
        [⟨sync.silenceFrame .exact frame placement.silence, false⟩] ∧
      (sync.silenced placement).Retraces
        (twin.process .exact (sync.silenceFrame .exact frame placement.silence)).1 := by
  obtain ⟨-, continuous⟩ := retraces.silence_placement anchored tolerance frame placement.silence
  have one : placement.inserted = 1 := if_pos some
  refine ⟨process_passes (by rw [continuous]; rfl) (by rw [continuous]; rfl) retraces.nextOutputSequence.symm, ?_⟩
  constructor
  · exact (process_config ..).trans retraces.config
  · exact (process_anchored ..).trans anchored.symm
  · rw [process_anchorTimestamp, continuous]
    exact retraces.anchorTimestamp
  · rw [process_samplesSinceAnchor, continuous, silenceFrame_samples]
    exact congrArg (· + placement.silence) retraces.samplesSinceAnchor
  · rw [process_nextOutputSequence, continuous, retraces.nextOutputSequence, silenced, one]
    rfl

/-- A frame near its expected position passes, unless it is flagged and late. -/
theorem placement_continuous (anchored : twin.anchored = true)
    (early : -twin.config.tolerance ≤ twin.delta .exact frame) (late : twin.delta .exact frame ≤ twin.config.tolerance)
    (flagged : frame.discontinuity = true → twin.delta .exact frame ≤ 0) :
    twin.placement .exact frame = .continuous := by
  rw [placement, anchored, if_neg (by decide), if_neg, if_neg (not_lt.mpr early)]
  rintro (beyond | ⟨flag, behind⟩)
  · exact absurd late (not_le.mpr beyond)
  · exact absurd (flagged flag) (not_le.mpr behind)

theorem placement_overlap (anchored : twin.anchored = true) (tolerance : 0 ≤ twin.config.tolerance)
    (early : twin.delta .exact frame < -twin.config.tolerance) : twin.placement .exact frame = .overlap := by
  rw [placement, anchored, if_neg (by decide), if_neg, if_pos early]
  rintro (beyond | ⟨-, behind⟩)
  · omega
  · omega

/-- The frame behind the silence is at most a sample period later than the second synchronizer expects it. -/
theorem Retraces.settled_delta {silence : ℕ} (healed : sync.placement .exact frame = .healed silence)
    (retraces : (sync.silenced (.healed silence)).Retraces twin) (tolerance : 0 ≤ sync.config.tolerance) :
    0 ≤ twin.delta .exact (sync.emitted .exact frame) ∧
      twin.delta .exact (sync.emitted .exact frame) ≤ sync.config.samplePeriod := by
  obtain ⟨anchored, -, gap, amount⟩ := of_placement_healed healed
  have positive : 0 < sync.delta .exact frame := gap.elim (fun late => by omega) id
  have length : ((sync.delta .exact frame).toNat : ℤ) = sync.delta .exact frame := Int.toNat_of_nonneg positive.le
  have upper := Rescale.rescale_add_le (a := kNanosPerSecond) sync.config.rate_pos sync.samplesSinceAnchor
    (sync.delta .exact frame).toNat
  have lower := Rescale.le_rescale_add (a := kNanosPerSecond) (by decide) sync.config.rate_pos sync.samplesSinceAnchor
    (sync.delta .exact frame).toNat
  rw [durationToSamples_exact] at amount
  rw [← amount] at upper lower
  have samples : twin.samplesSinceAnchor = sync.samplesSinceAnchor + silence := retraces.samplesSinceAnchor
  have anchor : twin.anchorTimestamp = sync.anchorTimestamp := retraces.anchorTimestamp
  have config : twin.config = sync.config := retraces.config
  have stamp : (sync.emitted .exact frame).timestamp = frame.timestamp := rfl
  rw [delta_exact, config, anchor, samples, stamp]
  rw [delta_exact] at length
  simp only [ClockSyncConfig.offset, ClockSyncConfig.samplePeriod, delta_exact] at *
  omega

/-- Behind the silence, the second synchronizer takes the branch of the first one, except that nothing is missing. -/
theorem Retraces.real_placement (retraces : (sync.silenced (sync.placement .exact frame)).Retraces twin)
    (period : sync.config.samplePeriod ≤ sync.config.tolerance)
    (complete : (sync.placement .exact frame).truncatedCount = 0) :
    twin.placement .exact (sync.emitted .exact frame) = (sync.placement .exact frame).settled := by
  have tolerance : 0 ≤ sync.config.tolerance := le_trans (Int.natCast_nonneg _) period
  have config : twin.config = sync.config := retraces.config
  have same (quiet : (sync.placement .exact frame).silence = 0) :
      twin.delta .exact (sync.emitted .exact frame) = sync.delta .exact frame := by
    have samples : twin.samplesSinceAnchor = sync.samplesSinceAnchor :=
      retraces.samplesSinceAnchor.trans (congrArg (sync.samplesSinceAnchor + ·) quiet)
    have anchor : twin.anchorTimestamp = sync.anchorTimestamp := retraces.anchorTimestamp
    rw [delta_exact, delta_exact, config, samples, anchor]
    rfl
  cases placed : sync.placement .exact frame with
  | first =>
    have unanchored : sync.anchored = false := placement_eq_first_iff.mp placed
    exact placement_eq_first_iff.mpr (retraces.anchored.trans unanchored)
  | continuous =>
    obtain ⟨anchored, early, late⟩ := of_placement_continuous placed
    have unmoved := same (by rw [placed]; rfl)
    refine placement_continuous (retraces.anchored.trans anchored) ?_ ?_ fun flagged => ?_
    · rwa [unmoved, config]
    · rwa [unmoved, config]
    · rw [unmoved]
      refine flag_of_placement_continuous placed (.trans ?_ flagged)
      rw [emitted, placed]
      rfl
  | healed silence =>
    rw [placed] at retraces
    obtain ⟨anchored, -, -, -⟩ := of_placement_healed placed
    obtain ⟨early, late⟩ := retraces.settled_delta placed tolerance
    refine placement_continuous (retraces.anchored.trans anchored) ?_ ?_ fun flagged => ?_
    · rw [config]
      omega
    · rw [config]
      omega
    · rw [emitted, placed] at flagged
      cases flagged
  | truncated silence =>
    rw [placed] at complete
    cases complete
  | overlap =>
    have anchored : sync.anchored = true := by
      by_contra unanchored
      rw [Bool.not_eq_true] at unanchored
      cases placed.symm.trans (placement_eq_first_iff.mpr unanchored)
    refine placement_overlap (retraces.anchored.trans anchored) (config ▸ tolerance) ?_
    rw [same (by rw [placed]; rfl), config]
    exact of_placement_overlap placed

/-- The second synchronizer passes the frame, and stays in step with the first one. -/
theorem Retraces.real (retraces : (sync.silenced (sync.placement .exact frame)).Retraces twin)
    (period : sync.config.samplePeriod ≤ sync.config.tolerance)
    (complete : (sync.placement .exact frame).truncatedCount = 0) :
    (twin.process .exact (sync.emitted .exact frame)).2 = [⟨sync.emitted .exact frame, false⟩] ∧
      (sync.process .exact frame).1.Retraces (twin.process .exact (sync.emitted .exact frame)).1 := by
  have settled := retraces.real_placement period complete
  have quiet : (sync.placement .exact frame).settled.silence = 0 := by
    cases placed : sync.placement .exact frame with
    | truncated silence => simp [placed, Placement.truncatedCount] at complete
    | first | continuous | healed _ | overlap => rfl
  have reanchors : (sync.placement .exact frame).settled.reanchors = (sync.placement .exact frame).reanchors := by
    cases sync.placement .exact frame <;> rfl
  have kept : (sync.placement .exact frame).settled.flag ((sync.placement .exact frame).flag frame.discontinuity) =
      (sync.placement .exact frame).flag frame.discontinuity := by
    cases sync.placement .exact frame <;> rfl
  refine ⟨process_passes (by rwa [settled]) (by rw [settled]; exact kept) retraces.nextOutputSequence.symm, ?_⟩
  have anchor : twin.anchorTimestamp = sync.anchorTimestamp := retraces.anchorTimestamp
  have samples : twin.samplesSinceAnchor = sync.samplesSinceAnchor + (sync.placement .exact frame).silence :=
    retraces.samplesSinceAnchor
  have next : twin.nextOutputSequence = sync.nextOutputSequence + (sync.placement .exact frame).inserted :=
    retraces.nextOutputSequence
  have length : (sync.emitted .exact frame).sampleCountPerChannel = frame.sampleCountPerChannel := rfl
  constructor
  · rw [process_config, process_config]
    exact retraces.config
  · rw [process_anchored, process_anchored]
  · rw [process_anchorTimestamp, process_anchorTimestamp, settled, reanchors, anchor]
    rfl
  · rw [process_samplesSinceAnchor, process_samplesSinceAnchor, settled, reanchors, quiet, samples, length,
      Nat.add_zero]
  · have none : (sync.placement .exact frame).settled.inserted = 0 := if_neg (by omega)
    rw [process_nextOutputSequence, process_nextOutputSequence, settled, next, none, Nat.add_zero]

/-- The frames of one call, put out again. -/
theorem Retraces.process (retraces : sync.Retraces twin) (period : sync.config.samplePeriod ≤ sync.config.tolerance)
    (complete : (sync.placement .exact frame).truncatedCount = 0) :
    (twin.run .exact ((sync.process .exact frame).2.map (·.frame))).2 =
        ((sync.process .exact frame).2.map (·.frame)).map (⟨·, false⟩) ∧
      (sync.process .exact frame).1.Retraces (twin.run .exact ((sync.process .exact frame).2.map (·.frame))).1 := by
  have tolerance : 0 ≤ sync.config.tolerance := le_trans (Int.natCast_nonneg _) period
  rw [process_output, silences]
  split
  next some =>
    obtain ⟨passes, silenced⟩ := retraces.silence (anchored_of_silence some) tolerance frame some
    obtain ⟨again, after⟩ := silenced.real period complete
    exact ⟨by simp [run, passes, again], after⟩
  next none =>
    have silenced : (sync.silenced (sync.placement .exact frame)).Retraces twin := by rwa [silenced_of_quiet none]
    obtain ⟨again, after⟩ := silenced.real period complete
    exact ⟨by simp [run, again], after⟩

/-- The range conditions of the first synchronizer's call cover those of the second one behind the silence. -/
theorem Retraces.real_fits (retraces : (sync.silenced (sync.placement .exact frame)).Retraces twin)
    (period : sync.config.samplePeriod ≤ sync.config.tolerance)
    (complete : (sync.placement .exact frame).truncatedCount = 0) (fits : sync.FitsCall frame)
    (stamp : InInt64 frame.timestamp) : twin.FitsCall (sync.emitted .exact frame) := by
  intro anchored
  have tolerance : 0 ≤ sync.config.tolerance := le_trans (Int.natCast_nonneg _) period
  obtain ⟨counter, sum, difference⟩ := fits (retraces.anchored.symm.trans anchored)
  have config : twin.config = sync.config := retraces.config
  have anchor : twin.anchorTimestamp = sync.anchorTimestamp := retraces.anchorTimestamp
  have samples : twin.samplesSinceAnchor = sync.samplesSinceAnchor + (sync.placement .exact frame).silence :=
    retraces.samplesSinceAnchor
  have arrival : (sync.emitted .exact frame).timestamp = frame.timestamp := rfl
  have later : sync.config.offset sync.samplesSinceAnchor ≤
      sync.config.offset (sync.samplesSinceAnchor + (sync.placement .exact frame).silence) :=
    Rescale.rescale_mono (Nat.le_add_right ..)
  have bounds : 0 ≤ twin.delta .exact (sync.emitted .exact frame) ∨
      twin.delta .exact (sync.emitted .exact frame) = sync.delta .exact frame := by
    cases placed : sync.placement .exact frame with
    | first =>
      have unanchored : sync.anchored = false := placement_eq_first_iff.mp placed
      exact absurd (anchored.symm.trans (retraces.anchored.trans unanchored)) nofun
    | healed silence => exact .inl (Retraces.settled_delta placed (placed ▸ retraces) tolerance).1
    | truncated silence => simp [placed, Placement.truncatedCount] at complete
    | continuous | overlap =>
      right
      rw [placed] at samples
      rw [delta_exact, delta_exact, config, anchor, samples, arrival]
      rfl
  rw [retraces.real_placement period complete, samples, expected_exact, config, anchor, samples]
  rw [delta_exact, config, anchor, samples, arrival] at bounds ⊢
  rw [delta_exact] at bounds difference
  rw [expected_exact] at sum
  refine ⟨?_, ?_, ?_⟩
  · cases placed : sync.placement .exact frame with
    | truncated silence => simp [placed, Placement.truncatedCount] at complete
    | first | continuous | healed _ | overlap =>
      rw [placed] at counter
      exact counter
  · simp only [InInt64] at *
    omega
  · simp only [InInt64] at *
    omega

/-- The second synchronizer's arithmetic stays in range when the first one's does. -/
theorem Retraces.process_fits (retraces : sync.Retraces twin)
    (period : sync.config.samplePeriod ≤ sync.config.tolerance)
    (complete : (sync.placement .exact frame).truncatedCount = 0) (fits : sync.FitsCall frame)
    (stamp : InInt64 frame.timestamp) : twin.Fits ((sync.process .exact frame).2.map (·.frame)) := by
  have tolerance : 0 ≤ sync.config.tolerance := le_trans (Int.natCast_nonneg _) period
  rw [process_output, silences]
  split
  next some =>
    have anchored := anchored_of_silence some
    obtain ⟨counter, sum, -⟩ := fits anchored
    obtain ⟨onTime, continuous⟩ := retraces.silence_placement anchored tolerance frame
      (sync.placement .exact frame).silence
    refine ⟨fun _ => ⟨?_, ?_, ?_⟩, ?_, trivial⟩
    · change InInt64 ((twin.samplesSinceAnchor + (twin.placement .exact
        (sync.silenceFrame .exact frame (sync.placement .exact frame).silence)).silence : ℕ) * kNanosPerSecond)
      have none : Placement.continuous.silence = 0 := rfl
      rw [continuous, none, Nat.add_zero, retraces.samplesSinceAnchor]
      simp only [InInt64, kNanosPerSecond] at counter ⊢
      push_cast at counter ⊢
      omega
    · rwa [retraces.expected]
    · change InInt64 (twin.delta .exact (sync.silenceFrame .exact frame (sync.placement .exact frame).silence))
      rw [onTime]
      decide
    · exact (retraces.silence anchored tolerance frame some).2.real_fits period complete fits stamp
  next none =>
    have silenced : (sync.silenced (sync.placement .exact frame)).Retraces twin := by rwa [silenced_of_quiet none]
    exact ⟨silenced.real_fits period complete fits stamp, trivial⟩

theorem run_append_output (arith : Arithmetic) (sync : TrackSynchronizer) (first second : List AudioFrame) :
    (sync.run arith (first ++ second)).2 =
      (sync.run arith first).2 ++ ((sync.run arith first).1.run arith second).2 := by
  induction first generalizing sync with
  | nil => rfl
  | cons frame rest ih => simp only [List.cons_append, run, ih, List.append_assoc]

theorem fits_append {first second : List AudioFrame} :
    sync.Fits (first ++ second) ↔ sync.Fits first ∧ (sync.run .exact first).1.Fits second := by
  induction first generalizing sync with
  | nil => simp [Fits, run]
  | cons frame rest ih => simp only [List.cons_append, Fits, run, ih, and_assoc]

/-- Truncated gaps stay counted. -/
theorem gapsTruncated_le (arith : Arithmetic) (sync : TrackSynchronizer) (frames : List AudioFrame) :
    sync.stats.gapsTruncated ≤ (sync.run arith frames).1.stats.gapsTruncated := by
  induction frames generalizing sync with
  | nil => exact Nat.le_refl _
  | cons frame rest ih =>
    have later := ih (sync.process arith frame).1
    rw [process_stats] at later
    exact (Nat.le_add_right _ _).trans later

/-- The second synchronizer puts out what the first one did, all along a run without truncated gaps. -/
theorem Retraces.run (retraces : sync.Retraces twin) (period : sync.config.samplePeriod ≤ sync.config.tolerance)
    {frames : List AudioFrame} (complete : (sync.run .exact frames).1.stats.gapsTruncated = 0) (fits : sync.Fits frames)
    (stamps : ∀ frame ∈ frames, InInt64 frame.timestamp) :
    (twin.run .exact ((sync.run .exact frames).2.map (·.frame))).2 =
        ((sync.run .exact frames).2.map (·.frame)).map (⟨·, false⟩) ∧
      twin.Fits ((sync.run .exact frames).2.map (·.frame)) := by
  induction frames generalizing sync twin with
  | nil => exact ⟨rfl, trivial⟩
  | cons frame rest ih =>
    have sofar := gapsTruncated_le .exact (sync.process .exact frame).1 rest
    have none : (sync.process .exact frame).1.stats.gapsTruncated = 0 :=
      Nat.eq_zero_of_le_zero (sofar.trans_eq complete)
    rw [process_stats, ClockSyncStats.record] at none
    have untruncated : (sync.placement .exact frame).truncatedCount = 0 := Nat.eq_zero_of_add_eq_zero_left none
    have stamp := stamps frame (List.mem_cons_self ..)
    obtain ⟨again, after⟩ := retraces.process period untruncated
    obtain ⟨outputs, later⟩ := ih after (by rwa [process_config]) complete fits.2
      fun other member => stamps other (List.mem_cons_of_mem _ member)
    rw [TrackSynchronizer.run, List.map_append, run_append_output, fits_append, again, outputs, List.map_append]
    exact ⟨rfl, retraces.process_fits period untruncated fits.1 stamp, later⟩

end TrackSynchronizer

/-- What a synchronizer has put out passes through a new one unchanged, without more silence, if no gap was truncated
and the jitter tolerance covers a sample period. The frames' timestamps and the first run's arithmetic are in range. -/
theorem aligned_stream_unchanged (config : ClockSyncConfig) (frames : List AudioFrame)
    (period : config.samplePeriod ≤ config.tolerance) (stamps : ∀ frame ∈ frames, InInt64 frame.timestamp)
    (fits : (TrackSynchronizer.create config).Fits frames)
    (complete : ((TrackSynchronizer.create config).run .machine frames).1.stats.gapsTruncated = 0) :
    ((TrackSynchronizer.create config).run .machine (TrackSynchronizer.alignedFrames config frames)).2 =
      (TrackSynchronizer.alignedFrames config frames).map (⟨·, false⟩) := by
  obtain ⟨output, last⟩ := TrackSynchronizer.run_machine (.refl (TrackSynchronizer.create config)) fits
  rw [last.stats] at complete
  obtain ⟨again, range⟩ := (TrackSynchronizer.Retraces.refl (TrackSynchronizer.create config)).run period complete fits
    stamps
  rw [TrackSynchronizer.alignedFrames, output, (TrackSynchronizer.run_machine (.refl _) range).1]
  exact again

/-- A frame, one that is flagged and late by one and a half samples, and one that comes early and overlaps. -/
private def unevenFrames : List AudioFrame :=
  [{ timestamp := 0, sampleRate := 48000, channels := 1, payload := [1, 1] },
    { timestamp := 52083, sampleRate := 48000, channels := 1, discontinuity := true, payload := [2, 2] },
    { timestamp := -30000000, sampleRate := 48000, channels := 1, payload := [3, 3] }]

/-- A healed gap and an overlap, put out again with the flags of the first time. -/
theorem aligned_stream_unchanged_uneven :
    (TrackSynchronizer.alignedFrames {} unevenFrames).map (fun frame => (frame.timestamp, frame.discontinuity)) =
        [(0, false), (20833, true), (52083, false), (-30000000, true)] ∧
      ((TrackSynchronizer.create {}).run .machine (TrackSynchronizer.alignedFrames {} unevenFrames)).2 =
        (TrackSynchronizer.alignedFrames {} unevenFrames).map (⟨·, false⟩) :=
  ⟨by decide +kernel, aligned_stream_unchanged {} unevenFrames (by decide) (by decide) (by decide +kernel)
    (by decide +kernel)⟩

end VoxMesh.Audio
