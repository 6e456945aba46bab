import VoxMesh.Math.FixedWidth
import VoxMesh.Math.Rescale
import VoxMesh.Model.Types
import Mathlib.Algebra.Field.Rat

/-! # The per-track clock synchronizer

`TrackSynchronizer.process` aligns one captured frame with the master timeline and returns the
frame, preceded by a synthesized silence frame when a gap was healed. The code is stated once, for
any storage of intermediate results (`FixedWidth.Arithmetic`): `Arithmetic.machine` is the code's
own 64-bit arithmetic and `Arithmetic.exact` the same code over the integers. Sample counters,
statistics and sequence numbers are naturals. The drift estimate is the exact quotient that the
source computes in floating point.

An `AlignedFrame` remembers whether the synchronizer synthesized the frame. The code's own output
is the list of the `frame` fields; the mark is for the statements about it.

`Placement` names the branch that `process` takes. Each component of the result is given by the
placement alone, so proofs about runs never unfold the code.
-/

namespace VoxMesh.Audio

open FixedWidth

structure ClockSyncConfig where
  sampleRate : ℕ := 48000
  channels : ℕ := 1
  format : SampleFormat := .pcmS16Le
  jitterTolerance : ℤ := 20
  maxSilencePerGap : ℤ := 5000
  driftWindowSamples : ℕ := 48000
  rate_pos : 0 < sampleRate := by decide
  channels_pos : 0 < channels := by decide
deriving DecidableEq, Repr

structure DriftEstimate where
  ppm : ℚ := 0
  valid : Bool := false
deriving DecidableEq, Repr

structure ClockSyncStats where
  framesProcessed : ℕ := 0
  framesSynthesized : ℕ := 0
  silenceSamplesInserted : ℕ := 0
  gapsHealed : ℕ := 0
  gapsTruncated : ℕ := 0
  overlapsDetected : ℕ := 0
deriving DecidableEq, Repr

/-- A frame of the aligned stream, marked when the synchronizer made it up. -/
structure AlignedFrame where
  frame : AudioFrame
  synthesized : Bool
deriving DecidableEq, Repr

def AlignedFrame.samples (output : AlignedFrame) : ℕ := output.frame.sampleCountPerChannel

structure TrackSynchronizer where
  config : ClockSyncConfig
  stats : ClockSyncStats := {}
  drift : DriftEstimate := {}
  anchored : Bool := false
  anchorTimestamp : ℤ := 0
  samplesSinceAnchor : ℕ := 0
  nextOutputSequence : ℕ := 0
  driftAnchorTimestamp : ℤ := 0
  driftAnchorSamples : ℕ := 0
deriving DecidableEq, Repr

namespace ClockSyncConfig

/-- The jitter tolerance as `process` compares it, in nanoseconds. -/
def tolerance (config : ClockSyncConfig) : ℤ := millisToNanos config.jitterTolerance

/-- The silence cap as `process` compares it, in nanoseconds. -/
def cap (config : ClockSyncConfig) : ℤ := millisToNanos config.maxSilencePerGap

/-- Nanoseconds from the anchor to the given sample, rounded down. -/
def offset (config : ClockSyncConfig) (samples : ℕ) : ℕ :=
  Rescale.rescale kNanosPerSecond config.sampleRate samples

/-- One sample period, rounded up to nanoseconds. -/
def samplePeriod (config : ClockSyncConfig) : ℕ := Rescale.tickCeil kNanosPerSecond config.sampleRate

end ClockSyncConfig

namespace TrackSynchronizer

/-- A freshly constructed synchronizer. -/
def create (config : ClockSyncConfig) : TrackSynchronizer := { config := config }

variable (arith : Arithmetic)

def samplesToDuration (sync : TrackSynchronizer) (samples : ℕ) : ℤ :=
  (arith.signed (arith.signed samples * kNanosPerSecond)).tdiv sync.config.sampleRate

def durationToSamples (sync : TrackSynchronizer) (duration : ℤ) : ℕ :=
  if duration ≤ 0 then 0
  else arith.unsigned (duration.toNat * sync.config.sampleRate) / kNanosPerSecond

def makeSilenceFrame (sync : TrackSynchronizer) (samples : ℕ) (timestamp : ℤ) (like : AudioFrame) :
    TrackSynchronizer × AudioFrame :=
  ({ sync with nextOutputSequence := sync.nextOutputSequence + 1 },
    { track := like.track
      sequence := sync.nextOutputSequence
      timestamp := timestamp
      sampleRate := sync.config.sampleRate
      channels := sync.config.channels
      format := sync.config.format
      discontinuity := true
      payload := List.replicate (samples * sync.config.channels * bytesPerSample sync.config.format) 0 })

def anchorAt (sync : TrackSynchronizer) (timestamp : ℤ) : TrackSynchronizer :=
  { sync with
    anchored := true
    anchorTimestamp := timestamp
    samplesSinceAnchor := 0
    -- Drift across an anchor reset would measure the gap, not the clock.
    driftAnchorTimestamp := timestamp
    driftAnchorSamples := 0 }

def updateDrift (sync : TrackSynchronizer) (frame : AudioFrame) : TrackSynchronizer :=
  let samplesSinceDriftAnchor := sync.samplesSinceAnchor - sync.driftAnchorSamples
  if samplesSinceDriftAnchor < sync.config.driftWindowSamples then sync
  else
    let sampleElapsed := sync.samplesToDuration arith samplesSinceDriftAnchor
    let monotonicElapsed := arith.signed (frame.timestamp - sync.driftAnchorTimestamp)
    let deviation := arith.signed (monotonicElapsed - sampleElapsed)
    { sync with
      drift := if 0 < sampleElapsed then ⟨(deviation : ℚ) / sampleElapsed * 1000000, true⟩ else sync.drift
      driftAnchorTimestamp := frame.timestamp
      driftAnchorSamples := sync.samplesSinceAnchor }

/-- Where the sample clock expects the next frame. -/
def expected (sync : TrackSynchronizer) : ℤ :=
  arith.signed (sync.anchorTimestamp + sync.samplesToDuration arith sync.samplesSinceAnchor)

/-- How much later than expected the frame arrives. -/
def delta (sync : TrackSynchronizer) (frame : AudioFrame) : ℤ :=
  arith.signed (frame.timestamp - sync.expected arith)

/-- The gap branch: explicit silence up to the cap, then a healed or a truncated gap. -/
def healGap (sync : TrackSynchronizer) (frame : AudioFrame) :
    TrackSynchronizer × List AlignedFrame × AudioFrame :=
  let expected := sync.expected arith
  let delta := sync.delta arith frame
  let cap := sync.config.cap
  let truncated := cap < delta
  let silenceSamples := sync.durationToSamples arith (min delta cap)
  let (sync, output) :=
    if 0 < silenceSamples then
      let (sync, silence) := sync.makeSilenceFrame silenceSamples expected frame
      ({ sync with
          stats := { sync.stats with
            framesSynthesized := sync.stats.framesSynthesized + 1
            silenceSamplesInserted := sync.stats.silenceSamplesInserted + silenceSamples }
          samplesSinceAnchor := sync.samplesSinceAnchor + silenceSamples },
        [⟨silence, true⟩])
    else (sync, [])
  if truncated then
    -- The cap could not restore continuity: the flag is left standing.
    (({ sync with stats := { sync.stats with gapsTruncated := sync.stats.gapsTruncated + 1 } }
        : TrackSynchronizer).anchorAt frame.timestamp,
      output, { frame with discontinuity := true })
  else
    ({ sync with stats := { sync.stats with gapsHealed := sync.stats.gapsHealed + 1 } },
      output, { frame with discontinuity := false })

/-- The comparison of a frame with the timeline, before the frame itself is numbered. -/
def align (sync : TrackSynchronizer) (frame : AudioFrame) :
    TrackSynchronizer × List AlignedFrame × AudioFrame :=
  if !sync.anchored then (sync.anchorAt frame.timestamp, [], frame)
  else
    let delta := sync.delta arith frame
    let tolerance := sync.config.tolerance
    if tolerance < delta ∨ (frame.discontinuity ∧ 0 < delta) then sync.healGap arith frame
    else if delta < -tolerance then
      -- Samples are never discarded here: re-anchor and surface the overlap.
      (({ sync with stats := { sync.stats with overlapsDetected := sync.stats.overlapsDetected + 1 } }
          : TrackSynchronizer).anchorAt frame.timestamp,
        [], { frame with discontinuity := true })
    else (sync, [], frame)

def process (sync : TrackSynchronizer) (frame : AudioFrame) : TrackSynchronizer × List AlignedFrame :=
  let sync : TrackSynchronizer :=
    { sync with stats := { sync.stats with framesProcessed := sync.stats.framesProcessed + 1 } }
  let frameSamples := frame.sampleCountPerChannel
  let (sync, output, frame) := sync.align arith frame
  let frame := { frame with sequence := sync.nextOutputSequence }
  let sync : TrackSynchronizer := { sync with nextOutputSequence := sync.nextOutputSequence + 1 }
  -- Drift compares elapsed sample time with the frame's start, so it runs before its samples count.
  let sync := sync.updateDrift arith frame
  ({ sync with samplesSinceAnchor := sync.samplesSinceAnchor + frameSamples },
    output ++ [⟨frame, false⟩])

/-- The concatenated outputs of successive calls, and the state after them. -/
def run (sync : TrackSynchronizer) : List AudioFrame → TrackSynchronizer × List AlignedFrame
  | [] => (sync, [])
  | frame :: rest =>
      let (next, output) := sync.process arith frame
      let (last, outputs) := next.run rest
      (last, output ++ outputs)

end TrackSynchronizer

end VoxMesh.Audio
