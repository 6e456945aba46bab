import VoxMesh.Model.ClockSync
import Mathlib.Algebra.Order.Group.Nat

/-! # What one call of the synchronizer can do

`placement` classifies a frame by the branch of `process` that handles it. The lemmas below give
every component of the result as a function of the placement: the output frames, the statistics,
the anchor, the sample position and the next sequence number. They hold for every storage of the
intermediate results, so also for the wrapped results of the machine.
-/

namespace VoxMesh.Audio

open FixedWidth

/-- The branches of `TrackSynchronizer.process`; gaps carry the samples of silence inserted. -/
inductive Placement where
  | first
  | continuous
  | healed (silence : ℕ)
  | truncated (silence : ℕ)
  | overlap
deriving DecidableEq, Repr

namespace Placement

/-- Samples of silence inserted before the frame. -/
def silence : Placement → ℕ
  | .healed silence | .truncated silence => silence
  | _ => 0

/-- Number of synthesized frames. -/
def inserted (placement : Placement) : ℕ := if 0 < placement.silence then 1 else 0

/-- The frame becomes the new anchor of the timeline. -/
def reanchors : Placement → Bool
  | .first | .truncated _ | .overlap => true
  | _ => false

/-- The discontinuity flag that the frame leaves with. -/
def flag (incoming : Bool) : Placement → Bool
  | .first | .continuous => incoming
  | .healed _ => false
  | .truncated _ | .overlap => true

def healedCount : Placement → ℕ
  | .healed _ => 1
  | _ => 0

def truncatedCount : Placement → ℕ
  | .truncated _ => 1
  | _ => 0

def overlapCount : Placement → ℕ
  | .overlap => 1
  | _ => 0

theorem inserted_le_gaps (placement : Placement) :
    placement.inserted ≤ placement.healedCount + placement.truncatedCount := by
  cases placement with
  | healed n | truncated n => simp only [inserted, healedCount, truncatedCount]; split <;> omega
  | first | continuous | overlap => simp [inserted, silence]

end Placement

/-- The counters after one more call. -/
def ClockSyncStats.record (stats : ClockSyncStats) (placement : Placement) : ClockSyncStats where
  framesProcessed := stats.framesProcessed + 1
  framesSynthesized := stats.framesSynthesized + placement.inserted
  silenceSamplesInserted := stats.silenceSamplesInserted + placement.silence
  gapsHealed := stats.gapsHealed + placement.healedCount
  gapsTruncated := stats.gapsTruncated + placement.truncatedCount
  overlapsDetected := stats.overlapsDetected + placement.overlapCount

namespace TrackSynchronizer

variable (arith : Arithmetic) (sync : TrackSynchronizer) (frame : AudioFrame)

/-- The branch that `process` takes on the frame. -/
def placement : Placement :=
  if !sync.anchored then .first
  else if sync.config.tolerance < sync.delta arith frame ∨
      (frame.discontinuity ∧ 0 < sync.delta arith frame) then
    let silence := sync.durationToSamples arith (min (sync.delta arith frame) sync.config.cap)
    if sync.config.cap < sync.delta arith frame then .truncated silence else .healed silence
  else if sync.delta arith frame < -sync.config.tolerance then .overlap
  else .continuous

/-- The silence frame that the gap branch would synthesize. -/
def silenceFrame (samples : ℕ) : AudioFrame :=
  (sync.makeSilenceFrame samples (sync.expected arith) frame).2

/-- The synchronizer between the comparison with the timeline and the frame's own accounting. -/
def place (placement : Placement) : TrackSynchronizer :=
  let counted : TrackSynchronizer :=
    { sync with
      stats := sync.stats.record placement
      nextOutputSequence := sync.nextOutputSequence + placement.inserted
      samplesSinceAnchor := sync.samplesSinceAnchor + placement.silence }
  if placement.reanchors then counted.anchorAt frame.timestamp else counted

/-- The synthesized part of the output. -/
def silences (placement : Placement) : List AlignedFrame :=
  if 0 < placement.silence then [⟨sync.silenceFrame arith frame placement.silence, true⟩] else []

/-- The state on entry to `align`: only the call counter has moved. -/
private def entered : TrackSynchronizer :=
  { sync with stats := { sync.stats with framesProcessed := sync.stats.framesProcessed + 1 } }

private theorem healGap_eq (silence : ℕ)
    (amount : sync.durationToSamples arith (min (sync.delta arith frame) sync.config.cap) = silence) :
    let placement := if sync.config.cap < sync.delta arith frame then Placement.truncated silence
      else Placement.healed silence
    sync.entered.healGap arith frame =
      (sync.place frame placement, sync.silences arith frame placement,
        { frame with discontinuity := placement.flag frame.discontinuity }) := by
  have same : sync.entered.durationToSamples arith
      (min (sync.entered.delta arith frame) sync.entered.config.cap) = silence := amount
  have late : sync.entered.delta arith frame = sync.delta arith frame := rfl
  have limit : sync.entered.config.cap = sync.config.cap := rfl
  simp only [healGap, same]
  rw [late, limit]
  by_cases truncated : sync.config.cap < sync.delta arith frame <;> by_cases some : 0 < silence
  all_goals simp only [truncated, some, ↓reduceIte, place, silences, silenceFrame, Placement.silence,
    Placement.reanchors, Placement.flag, Bool.false_eq_true, entered, anchorAt, makeSilenceFrame,
    ClockSyncStats.record, Placement.inserted, Placement.healedCount, Placement.truncatedCount,
    Placement.overlapCount, Nat.add_zero]
  · rfl
  · obtain rfl : silence = 0 := by omega
    rfl
  · rfl
  · obtain rfl : silence = 0 := by omega
    rfl

private theorem align_eq : sync.entered.align arith frame =
    (sync.place frame (sync.placement arith frame),
      sync.silences arith frame (sync.placement arith frame),
      { frame with discontinuity := (sync.placement arith frame).flag frame.discontinuity }) := by
  have late : sync.entered.delta arith frame = sync.delta arith frame := rfl
  have limits : sync.entered.config = sync.config := rfl
  have anchoring : sync.entered.anchored = sync.anchored := rfl
  simp only [align, placement, late, limits, anchoring]
  split
  · rfl
  · split
    · exact healGap_eq arith sync frame _ rfl
    · split
      · rfl
      · rfl

/-- The real frame as it is pushed onto the output. -/
def emitted : AudioFrame :=
  { frame with
    sequence := sync.nextOutputSequence + (sync.placement arith frame).inserted
    discontinuity := (sync.placement arith frame).flag frame.discontinuity }

/-- The accounting of a numbered frame: drift first, then its samples. -/
def account (frame : AudioFrame) (samples : ℕ) : TrackSynchronizer :=
  let drifted := ({ sync with nextOutputSequence := sync.nextOutputSequence + 1 }
    : TrackSynchronizer).updateDrift arith frame
  { drifted with samplesSinceAnchor := drifted.samplesSinceAnchor + samples }

section Fields

@[simp] theorem place_config (placement : Placement) : (sync.place frame placement).config = sync.config := by
  unfold place; split <;> rfl

@[simp] theorem place_stats (placement : Placement) :
    (sync.place frame placement).stats = sync.stats.record placement := by
  unfold place; split <;> rfl

@[simp] theorem place_anchorTimestamp (placement : Placement) :
    (sync.place frame placement).anchorTimestamp =
      if placement.reanchors then frame.timestamp else sync.anchorTimestamp := by
  unfold place; split <;> rfl

@[simp] theorem place_samplesSinceAnchor (placement : Placement) :
    (sync.place frame placement).samplesSinceAnchor =
      if placement.reanchors then 0 else sync.samplesSinceAnchor + placement.silence := by
  unfold place; split <;> rfl

@[simp] theorem place_nextOutputSequence (placement : Placement) :
    (sync.place frame placement).nextOutputSequence = sync.nextOutputSequence + placement.inserted := by
  unfold place; split <;> rfl

@[simp] theorem place_anchored (placement : Placement) :
    (sync.place frame placement).anchored = (placement.reanchors || sync.anchored) := by
  unfold place; split <;> simp_all [anchorAt]

variable (samples : ℕ)

@[simp] theorem account_config : (sync.account arith frame samples).config = sync.config := by
  simp only [account, updateDrift]; split <;> rfl

@[simp] theorem account_stats : (sync.account arith frame samples).stats = sync.stats := by
  simp only [account, updateDrift]; split <;> rfl

@[simp] theorem account_anchored : (sync.account arith frame samples).anchored = sync.anchored := by
  simp only [account, updateDrift]; split <;> rfl

@[simp] theorem account_anchorTimestamp :
    (sync.account arith frame samples).anchorTimestamp = sync.anchorTimestamp := by
  simp only [account, updateDrift]; split <;> rfl

@[simp] theorem account_samplesSinceAnchor :
    (sync.account arith frame samples).samplesSinceAnchor = sync.samplesSinceAnchor + samples := by
  simp only [account, updateDrift]; split <;> rfl

@[simp] theorem account_nextOutputSequence :
    (sync.account arith frame samples).nextOutputSequence = sync.nextOutputSequence + 1 := by
  simp only [account, updateDrift]; split <;> rfl

end Fields

/-- One call: compare with the timeline, push the silence, push the frame, account for it. -/
theorem process_eq : sync.process arith frame =
    ((sync.place frame (sync.placement arith frame)).account arith (sync.emitted arith frame)
        frame.sampleCountPerChannel,
      sync.silences arith frame (sync.placement arith frame) ++ [⟨sync.emitted arith frame, false⟩]) := by
  have aligned := align_eq arith sync frame
  have unfolded : sync.process arith frame =
      let aligned := sync.entered.align arith frame
      let numbered := { aligned.2.2 with sequence := aligned.1.nextOutputSequence }
      (aligned.1.account arith numbered frame.sampleCountPerChannel, aligned.2.1 ++ [⟨numbered, false⟩]) := rfl
  rw [unfolded, aligned]
  simp only [place_nextOutputSequence, emitted]

theorem process_output : (sync.process arith frame).2 =
    sync.silences arith frame (sync.placement arith frame) ++ [⟨sync.emitted arith frame, false⟩] := by
  rw [process_eq]

@[simp] theorem process_config : (sync.process arith frame).1.config = sync.config := by
  rw [process_eq]; simp

@[simp] theorem process_stats :
    (sync.process arith frame).1.stats = sync.stats.record (sync.placement arith frame) := by
  rw [process_eq]; simp

@[simp] theorem process_anchored : (sync.process arith frame).1.anchored = true := by
  rw [process_eq]
  cases anchored : sync.anchored
  · simp [placement, anchored, Placement.reanchors]
  · simp [anchored]

@[simp] theorem process_anchorTimestamp : (sync.process arith frame).1.anchorTimestamp =
    if (sync.placement arith frame).reanchors then frame.timestamp else sync.anchorTimestamp := by
  rw [process_eq]; simp

@[simp] theorem process_samplesSinceAnchor : (sync.process arith frame).1.samplesSinceAnchor =
    (if (sync.placement arith frame).reanchors then 0
      else sync.samplesSinceAnchor + (sync.placement arith frame).silence) + frame.sampleCountPerChannel := by
  rw [process_eq]; simp

@[simp] theorem process_nextOutputSequence : (sync.process arith frame).1.nextOutputSequence =
    sync.nextOutputSequence + (sync.placement arith frame).inserted + 1 := by
  rw [process_eq]; simp

/-- A frame of the synchronizer's own format is put out in that format, and so is the silence before it. -/
theorem process_trackFormat
    (own : frame.trackFormat = ⟨sync.config.sampleRate, sync.config.channels, sync.config.format⟩) :
    ∀ output ∈ (sync.process arith frame).2, output.frame.trackFormat = frame.trackFormat := by
  intro output member
  rw [process_output, List.mem_append, List.mem_singleton] at member
  rcases member with silence | rfl
  · rw [silences] at silence
    split at silence
    next =>
      obtain rfl := List.mem_singleton.mp silence
      exact own.symm
    next => cases silence
  · rfl

end TrackSynchronizer

end VoxMesh.Audio
