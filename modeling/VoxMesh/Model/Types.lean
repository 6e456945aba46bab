import Mathlib.Tactic.Linarith
import Mathlib.Tactic.Ring

/-! # Audio formats, timestamps and frames

The strong types of the audio domain. A `SampleRate`, `ChannelCount`, `SequenceNumber` or
`MonotonicTimestamp` of the source is a one-field wrapper; here it is the wrapped number, unsigned
ones as naturals and the nanosecond timestamp as an integer. Configured durations keep the
source's millisecond unit and are converted where the source converts them.
-/

namespace VoxMesh.Audio

inductive SampleFormat where
  | pcmS16Le
  | float32Le
deriving DecidableEq, Repr

def bytesPerSample : SampleFormat → ℕ
  | .pcmS16Le => 2
  | .float32Le => 4

theorem bytesPerSample_pos (format : SampleFormat) : 0 < bytesPerSample format := by
  cases format <;> decide

/-- The synchronized tracks of a recording. -/
inductive TrackKind where
  | microphone
  | systemOutput
  | echoCancelledMicrophone
  | mix
  | sttStream
deriving DecidableEq, Repr

abbrev Byte := BitVec 8

/-- A 16-bit PCM sample. -/
abbrev Sample := BitVec 16

/-- The bytes of a sample in memory order. -/
def sampleBytes (sample : Sample) : List Byte := [sample.setWidth 8, (sample >>> 8).setWidth 8]

/-- A buffer of samples as bytes. -/
def pcmBytes (samples : List Sample) : List Byte := samples.flatMap sampleBytes

/-- A buffer of bytes as samples. -/
def pcmSamples : List Byte → List Sample
  | low :: high :: rest => (high.setWidth 16 <<< 8 ||| low.setWidth 16) :: pcmSamples rest
  | _ => []

theorem pcmBytes_length (samples : List Sample) : (pcmBytes samples).length = 2 * samples.length := by
  induction samples with
  | nil => rfl
  | cons sample rest ih =>
    rw [pcmBytes, List.flatMap_cons, List.length_append, List.length_cons]
    have pair : (sampleBytes sample).length = 2 := rfl
    rw [pcmBytes] at ih
    omega

abbrev kNanosPerSecond : ℕ := 1000000000

/-- Conversion of a configured millisecond duration to nanoseconds. -/
def millisToNanos (millis : ℤ) : ℤ := millis * 1000000

/-- Samples per channel in a frame of the given duration. -/
def samplesPerChannel (rate frameDuration : ℕ) : ℕ := rate * frameDuration / 1000

structure TrackFormat where
  sampleRate : ℕ := 48000
  channels : ℕ := 1
  format : SampleFormat := .float32Le
deriving DecidableEq, Repr

structure AudioFrame where
  track : TrackKind := .microphone
  sequence : ℕ := 0
  timestamp : ℤ := 0
  sampleRate : ℕ := 0
  channels : ℕ := 0
  format : SampleFormat := .pcmS16Le
  /-- The frame does not butt seamlessly against the previous one on its track. -/
  discontinuity : Bool := false
  payload : List Byte := []
deriving DecidableEq, Repr

namespace AudioFrame

def sampleCountPerChannel (frame : AudioFrame) : ℕ :=
  let stride := bytesPerSample frame.format * frame.channels
  if stride = 0 then 0 else frame.payload.length / stride

/-- The format that a frame claims to have. -/
def trackFormat (frame : AudioFrame) : TrackFormat := ⟨frame.sampleRate, frame.channels, frame.format⟩

/-- The frame with the two fields blanked that the aligned stream renumbers and re-flags. -/
def unlabeled (frame : AudioFrame) : AudioFrame := { frame with sequence := 0, discontinuity := false }

/-- A payload of whole samples holds exactly that many. -/
theorem sampleCountPerChannel_of_length {frame : AudioFrame} {samples : ℕ}
    (channels : 0 < frame.channels)
    (length : frame.payload.length = samples * frame.channels * bytesPerSample frame.format) :
    frame.sampleCountPerChannel = samples := by
  have stride : 0 < bytesPerSample frame.format * frame.channels :=
    Nat.mul_pos (bytesPerSample_pos _) channels
  rw [sampleCountPerChannel, if_neg stride.ne', length,
    show samples * frame.channels * bytesPerSample frame.format =
      samples * (bytesPerSample frame.format * frame.channels) by ring]
  exact Nat.mul_div_cancel _ stride

end AudioFrame

end VoxMesh.Audio
