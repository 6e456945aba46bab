import VoxMesh.Proofs.Timeline
import VoxMesh.Soundness.AlignedStream

/-! # The aligned stream stays on the master timeline

Each output frame of a run is marked as an anchor when it is the first real frame or when its call
counted a truncated gap or an overlap. Folding over the stream gives, before every frame, the
timestamp of the latest anchor and the samples output since, that anchor included. The two floor
divisions of the code never accumulate: the position of a frame is rounded from the whole sample
count, and a healed gap ends within one sample period of the frame that closed it.
-/

namespace VoxMesh.Audio

open FixedWidth

/-- An output frame with the mark of an anchor. -/
structure MarkedFrame where
  output : AlignedFrame
  anchor : Bool
deriving DecidableEq, Repr

/-- The call was the first one, or it counted a truncated gap or an overlap. -/
def isAnchor (before after : ClockSyncStats) : Bool :=
  before.framesProcessed == 0 || before.gapsTruncated != after.gapsTruncated ||
    before.overlapsDetected != after.overlapsDetected

namespace TrackSynchronizer

/-- The outputs of one call, with the real frame marked when the call made it an anchor. -/
def markedProcess (arith : Arithmetic) (sync : TrackSynchronizer) (frame : AudioFrame) : List MarkedFrame :=
  (sync.process arith frame).2.map fun output =>
    ⟨output, !output.synthesized && isAnchor sync.stats (sync.process arith frame).1.stats⟩

def markedRun (arith : Arithmetic) (sync : TrackSynchronizer) : List AudioFrame → List MarkedFrame
  | [] => []
  | frame :: rest =>
      sync.markedProcess arith frame ++ (sync.process arith frame).1.markedRun arith rest

/-- Marking adds nothing to the stream. -/
theorem markedRun_output (arith : Arithmetic) (sync : TrackSynchronizer) (frames : List AudioFrame) :
    (sync.markedRun arith frames).map (·.output) = (sync.run arith frames).2 := by
  induction frames generalizing sync with
  | nil => rfl
  | cons frame rest ih =>
    simp only [markedRun, markedProcess, run, List.map_append, ih, List.map_map, Function.comp_def, List.map_id']

end TrackSynchronizer

/-- Timestamp of the latest anchor and the samples output since, after one more frame. -/
def sinceAnchor (latest : Option (ℤ × ℕ)) (marked : MarkedFrame) : Option (ℤ × ℕ) :=
  if marked.anchor then some (marked.output.frame.timestamp, marked.output.samples)
  else latest.map fun (timestamp, samples) => (timestamp, samples + marked.output.samples)

/-- The position of an output frame on the timeline of the latest anchor before it. A real anchor is
its own latest anchor, with no samples in between. -/
structure OnTimeline (config : ClockSyncConfig) (latest : Option (ℤ × ℕ)) (marked : MarkedFrame) : Prop where
  silence : marked.output.synthesized = true → ∃ anchor samples, latest = some (anchor, samples) ∧
    marked.output.frame.timestamp = anchor + config.offset samples
  real : marked.output.synthesized = false → ∃ anchor samples,
    (if marked.anchor then some (marked.output.frame.timestamp, 0) else latest) = some (anchor, samples) ∧
    |marked.output.frame.timestamp - anchor - config.offset samples| ≤ max config.tolerance config.samplePeriod
  flagged : marked.anchor = true → latest.isSome → marked.output.frame.discontinuity = true

namespace TrackSynchronizer

/-- The state of the synchronizer that the fold over its past output recovers. -/
structure Tracks (sync : TrackSynchronizer) (latest : Option (ℤ × ℕ)) : Prop where
  anchor : latest = if sync.anchored then some (sync.anchorTimestamp, sync.samplesSinceAnchor) else none
  started : sync.stats.framesProcessed = 0 ↔ sync.anchored = false

theorem Tracks.create (config : ClockSyncConfig) : (TrackSynchronizer.create config).Tracks none :=
  ⟨rfl, by simp [TrackSynchronizer.create]⟩

variable {sync : TrackSynchronizer} {frame : AudioFrame} {latest : Option (ℤ × ℕ)}

/-- Anchors are exactly the frames whose placement re-anchors. -/
theorem isAnchor_eq {arith : Arithmetic} (tracks : sync.Tracks latest) :
    isAnchor sync.stats (sync.process arith frame).1.stats = (sync.placement arith frame).reanchors := by
  have first : sync.placement arith frame = .first ↔ sync.anchored = false := placement_eq_first_iff
  simp only [isAnchor, process_stats, ClockSyncStats.record]
  cases placed : sync.placement arith frame <;>
    simp_all [tracks.started, Placement.reanchors, Placement.truncatedCount, Placement.overlapCount]

theorem markedProcess_eq {arith : Arithmetic} (tracks : sync.Tracks latest) :
    sync.markedProcess arith frame =
      (sync.silences arith frame (sync.placement arith frame)).map (⟨·, false⟩) ++
        [⟨⟨sync.emitted arith frame, false⟩, (sync.placement arith frame).reanchors⟩] := by
  rw [markedProcess, isAnchor_eq tracks, process_output, List.map_append]
  congr 1
  rw [silences]
  split <;> simp

/-- A gap of positive length is filled to within one sample period of its end. -/
theorem healed_error (config : ClockSyncConfig) (position : ℕ) {gap : ℤ} (late : 0 < gap) :
    |gap + config.offset position - config.offset
      (position + Rescale.rescale config.sampleRate kNanosPerSecond gap.toNat)| ≤ config.samplePeriod := by
  have length : (gap.toNat : ℤ) = gap := Int.toNat_of_nonneg late.le
  have upper := Rescale.rescale_add_le (a := kNanosPerSecond) config.rate_pos position gap.toNat
  have lower := Rescale.le_rescale_add (a := kNanosPerSecond) (by decide) config.rate_pos position gap.toNat
  simp only [ClockSyncConfig.offset, ClockSyncConfig.samplePeriod]
  rw [abs_le]
  omega

/-- The real frame of a call lies on the timeline of its latest anchor. -/
private theorem emitted_on_timeline (frame : AudioFrame) (tolerance : 0 ≤ sync.config.tolerance)
    (tracks : sync.Tracks latest) :
    OnTimeline sync.config (latest.map fun (anchor, samples) =>
        (anchor, samples + (sync.placement .exact frame).silence))
      ⟨⟨sync.emitted .exact frame, false⟩, (sync.placement .exact frame).reanchors⟩ := by
  refine ⟨fun synthesized => absurd synthesized Bool.false_ne_true, fun _ => ?_, fun anchor started => ?_⟩
  · cases placed : sync.placement .exact frame with
    | first | truncated _ | overlap =>
      refine ⟨frame.timestamp, 0, rfl, ?_⟩
      simp [emitted, ClockSyncConfig.offset]
    | continuous =>
      obtain ⟨anchored, early, late⟩ := of_placement_continuous placed
      refine ⟨sync.anchorTimestamp, sync.samplesSinceAnchor, ?_, ?_⟩
      · simp [Placement.reanchors, Placement.silence, tracks.anchor, anchored]
      · rw [delta_exact] at early late
        exact le_max_of_le_left (abs_le.mpr ⟨early, late⟩)
    | healed silence =>
      obtain ⟨anchored, _, gap, amount⟩ := of_placement_healed placed
      have positive : 0 < sync.delta .exact frame := gap.elim (fun late => by omega) id
      refine ⟨sync.anchorTimestamp, sync.samplesSinceAnchor + silence, ?_, ?_⟩
      · simp [Placement.reanchors, Placement.silence, tracks.anchor, anchored]
      · have error := healed_error sync.config sync.samplesSinceAnchor positive
        rw [durationToSamples_exact] at amount
        rw [← amount, delta_exact] at error
        refine le_max_of_le_right (le_trans (le_of_eq (congrArg _ ?_)) error)
        simp only [emitted]
        ring
  · cases placed : sync.placement .exact frame with
    | first =>
      have unanchored := placement_eq_first_iff.mp placed
      simp [tracks.anchor, unanchored] at started
    | continuous | healed _ => simp [placed, Placement.reanchors] at anchor
    | truncated _ | overlap => simp [emitted, placed, Placement.flag]

end TrackSynchronizer

/-- Every output of the list lies on the timeline of the latest anchor before it. -/
def AllOnTimeline (config : ClockSyncConfig) : Option (ℤ × ℕ) → List MarkedFrame → Prop
  | _, [] => True
  | latest, marked :: rest => OnTimeline config latest marked ∧ AllOnTimeline config (sinceAnchor latest marked) rest

namespace AllOnTimeline

variable {config : ClockSyncConfig} {latest : Option (ℤ × ℕ)}

theorem append {first second : List MarkedFrame} (left : AllOnTimeline config latest first)
    (right : AllOnTimeline config (first.foldl sinceAnchor latest) second) :
    AllOnTimeline config latest (first ++ second) := by
  induction first generalizing latest with
  | nil => exact right
  | cons marked rest ih => exact ⟨left.1, ih left.2 right⟩

theorem of_split {before after : List MarkedFrame} {marked : MarkedFrame}
    (all : AllOnTimeline config latest (before ++ marked :: after)) :
    OnTimeline config (before.foldl sinceAnchor latest) marked := by
  induction before generalizing latest with
  | nil => exact all.1
  | cons earlier rest ih => exact ih all.2

end AllOnTimeline

namespace TrackSynchronizer

variable {sync : TrackSynchronizer} {frame : AudioFrame} {latest : Option (ℤ × ℕ)}

theorem anchored_of_silence {arith : Arithmetic} (some : 0 < (sync.placement arith frame).silence) :
    sync.anchored = true := by
  cases anchored : sync.anchored
  · simp [placement_eq_first_iff.mpr anchored, Placement.silence] at some
  · rfl

/-- The silence of a call starts where the sample clock stopped, and the fold counts it. -/
private theorem silences_on_timeline (frame : AudioFrame) (tracks : sync.Tracks latest) :
    AllOnTimeline sync.config latest
        ((sync.silences .exact frame (sync.placement .exact frame)).map (⟨·, false⟩)) ∧
      ((sync.silences .exact frame (sync.placement .exact frame)).map (⟨·, false⟩)).foldl sinceAnchor latest =
        latest.map fun (anchor, samples) => (anchor, samples + (sync.placement .exact frame).silence) := by
  rw [silences]
  split
  next some =>
    have anchored := anchored_of_silence some
    refine ⟨⟨⟨fun _ => ⟨sync.anchorTimestamp, sync.samplesSinceAnchor, ?_, ?_⟩, ?_, ?_⟩, trivial⟩, ?_⟩
    · rw [tracks.anchor, if_pos anchored]
    · exact expected_exact sync
    · intro real
      contradiction
    · intro anchor
      contradiction
    · simp [sinceAnchor, AlignedFrame.samples, silenceFrame_samples]
  next none =>
    obtain zero : (sync.placement .exact frame).silence = 0 := by omega
    exact ⟨trivial, by simp [zero]⟩

/-- One call keeps to the timeline and leaves the fold at the synchronizer's own anchor. -/
private theorem call_on_timeline (frame : AudioFrame) (tolerance : 0 ≤ sync.config.tolerance)
    (tracks : sync.Tracks latest) :
    AllOnTimeline sync.config latest (sync.markedProcess .exact frame) ∧
      (sync.process .exact frame).1.Tracks ((sync.markedProcess .exact frame).foldl sinceAnchor latest) := by
  obtain ⟨silent, folded⟩ := silences_on_timeline frame tracks
  have real := emitted_on_timeline frame tolerance tracks
  have samples : (sync.emitted .exact frame).sampleCountPerChannel = frame.sampleCountPerChannel := rfl
  rw [markedProcess_eq tracks]
  refine ⟨silent.append ⟨folded ▸ real, trivial⟩, ?_, ?_⟩
  · rw [List.foldl_append, folded, tracks.anchor]
    simp only [List.foldl_cons, List.foldl_nil, sinceAnchor, process_anchored, process_anchorTimestamp,
      process_samplesSinceAnchor, AlignedFrame.samples, samples, ↓reduceIte]
    cases placed : sync.placement .exact frame with
    | first | truncated _ | overlap => simp [Placement.reanchors, emitted]
    | continuous => simp [Placement.reanchors, (of_placement_continuous placed).1, Placement.silence]
    | healed silence => simp [Placement.reanchors, (of_placement_healed placed).1, Placement.silence]
  · simp [process_stats, ClockSyncStats.record]

/-- A run over the integers keeps every output on the timeline. -/
theorem run_on_timeline (tolerance : 0 ≤ sync.config.tolerance) (tracks : sync.Tracks latest)
    (frames : List AudioFrame) : AllOnTimeline sync.config latest (sync.markedRun .exact frames) := by
  induction frames generalizing sync latest with
  | nil => trivial
  | cons frame rest ih =>
    obtain ⟨here, next⟩ := call_on_timeline frame tolerance tracks
    have still : 0 ≤ (sync.process .exact frame).1.config.tolerance := by rwa [process_config]
    have later := ih still next
    rw [process_config] at later
    exact here.append later

/-- In range, the machine also marks the same anchors. -/
theorem markedRun_machine {machine exact : TrackSynchronizer} {frames : List AudioFrame}
    (same : machine.SameTimeline exact) (fits : exact.Fits frames) :
    machine.markedRun .machine frames = exact.markedRun .exact frames := by
  induction frames generalizing machine exact with
  | nil => rfl
  | cons frame rest ih =>
    obtain ⟨output, next⟩ := process_machine same fits.1
    simp only [markedRun, markedProcess, output, same.stats, next.stats, ih next fits.2]

end TrackSynchronizer

end VoxMesh.Audio
