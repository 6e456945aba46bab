import VoxMesh.Machine.Run
import VoxMesh.Model.ClockSync
import VoxMesh.Model.RingBuffer

/-! # The deterministic capture stream and the capture pipeline

`FakeCaptureStream` produces frames on demand and injects device loss and restarts. Its sink is any
function that may change a state of its own and answers whether it took the frame. The generator's
waveform is a function of the sample position.

`CapturePipeline` puts the pieces together: the stream delivers into a ring buffer, and a drain step pops
one frame and hands it to the synchronizer. `Drain` remembers a drained frame together with what the
synchronizer made of it.
-/

namespace VoxMesh.Audio

structure CaptureConfig where
  deviceId : String := ""
  track : TrackKind := .microphone
  sampleRate : ℕ := 48000
  channels : ℕ := 1
  format : SampleFormat := .pcmS16Le
  frameDuration : ℕ := 10
deriving DecidableEq, Repr

namespace CaptureConfig

/-- Frame duration in nanoseconds. -/
def frameInterval (config : CaptureConfig) : ℤ := millisToNanos config.frameDuration

def samplesPerFrame (config : CaptureConfig) : ℕ := samplesPerChannel config.sampleRate config.frameDuration

end CaptureConfig

structure CaptureStreamStats where
  framesEmitted : ℕ := 0
  framesDropped : ℕ := 0
  nextSequence : ℕ := 0
deriving DecidableEq, Repr

namespace Testing

structure SignalGenerator where
  channels : ℕ
  sampleAt : ℕ → Sample
  position : ℕ := 0

/-- Interleaved samples; the phase continues across calls. -/
def SignalGenerator.generate (generator : SignalGenerator) (size : ℕ) : List (Sample) × SignalGenerator :=
  let channels := max 1 generator.channels
  let frames := size / channels
  ((List.range frames).flatMap fun frame =>
      List.replicate channels (generator.sampleAt (generator.position + frame)),
    { generator with position := generator.position + frames })

structure FakeCaptureStream where
  config : CaptureConfig
  generator : SignalGenerator
  nextSequence : ℕ := 0
  nextTimestamp : ℤ := 0
  pendingDiscontinuity : Bool := false
  stopped : Bool := false
  stats : CaptureStreamStats := {}

namespace FakeCaptureStream

variable {σ : Type*} (onFrame : σ → AudioFrame → Bool × σ)

def create (config : CaptureConfig) (sampleAt : ℕ → Sample) : FakeCaptureStream where
  config := config
  generator := { channels := config.channels, sampleAt := sampleAt }

/-- The generated samples of the next frame. -/
def generated (stream : FakeCaptureStream) : List (Sample) × SignalGenerator :=
  stream.generator.generate (stream.config.samplesPerFrame * stream.config.channels)

def nextFrame (stream : FakeCaptureStream) : AudioFrame where
  track := stream.config.track
  sequence := stream.nextSequence
  timestamp := stream.nextTimestamp
  sampleRate := stream.config.sampleRate
  channels := stream.config.channels
  format := .pcmS16Le
  discontinuity := stream.pendingDiscontinuity
  payload := pcmBytes stream.generated.1

/-- The bookkeeping for one frame interval that has passed. -/
def advance (stream : FakeCaptureStream) : FakeCaptureStream :=
  { stream with
    nextSequence := stream.nextSequence + 1
    nextTimestamp := stream.nextTimestamp + stream.config.frameInterval }

/-- The bookkeeping for the sink's answer. -/
def account (stream : FakeCaptureStream) (accepted : Bool) : FakeCaptureStream :=
  if accepted then { stream with
    stats := { stream.stats with framesEmitted := stream.stats.framesEmitted + 1 }
    pendingDiscontinuity := false }
  else { stream with
    stats := { stream.stats with framesDropped := stream.stats.framesDropped + 1 }
    pendingDiscontinuity := true }

/-- One pass of the loop of `emitFrames`. -/
def emitFrame (stream : FakeCaptureStream) (sink : σ) : FakeCaptureStream × σ :=
  let (accepted, sink) := onFrame sink stream.nextFrame
  ((({ stream with generator := stream.generated.2 } : FakeCaptureStream).account accepted).advance, sink)

def emitLoop : ℕ → FakeCaptureStream → σ → FakeCaptureStream × σ
  | 0, stream, sink => (stream, sink)
  | count + 1, stream, sink =>
      let (stream, sink) := emitFrame onFrame stream sink
      emitLoop count stream sink

/-- The last line of `emitFrames` and of `skipFrames`. -/
def publish (stream : FakeCaptureStream) : FakeCaptureStream :=
  { stream with stats := { stream.stats with nextSequence := stream.nextSequence } }

def emitFrames (stream : FakeCaptureStream) (sink : σ) (count : ℕ) : FakeCaptureStream × σ :=
  if stream.stopped then (stream, sink)
  else
    let (stream, sink) := emitLoop onFrame count stream sink
    (stream.publish, sink)

def skipLoop : ℕ → FakeCaptureStream → FakeCaptureStream
  | 0, stream => stream
  | count + 1, stream => skipLoop count stream.advance

def skipFrames (stream : FakeCaptureStream) (count : ℕ) : FakeCaptureStream :=
  if stream.stopped || count == 0 then stream
  else
    let stream := skipLoop count stream
    { ({ stream with stats := { stream.stats with
        framesDropped := stream.stats.framesDropped + count } } : FakeCaptureStream).publish with
      pendingDiscontinuity := true }

def restart (stream : FakeCaptureStream) (gap : ℕ) : FakeCaptureStream :=
  if stream.stopped then stream
  else { stream with nextTimestamp := stream.nextTimestamp + gap, pendingDiscontinuity := true }

def stop (stream : FakeCaptureStream) : FakeCaptureStream := { stream with stopped := true }

end FakeCaptureStream

end Testing

/-- A drained frame with what the call of `process` returned for it. -/
structure Drain where
  frame : AudioFrame
  output : List AlignedFrame
deriving DecidableEq, Repr

/-- Samples per channel of a stretch of the aligned stream. -/
def samplesOf (outputs : List AlignedFrame) : ℕ := (outputs.map AlignedFrame.samples).sum

/-- Samples of silence that a drain put before its frame. -/
def Drain.silence (drain : Drain) : ℕ := samplesOf (drain.output.filter (·.synthesized))

namespace CapturePipeline

open Testing

/-- The ring behind the sink, with a record of what it accepted. -/
structure RingSink (capacity : ℕ) where
  buffer : SpscRingBuffer AudioFrame capacity
  accepted : List AudioFrame := []

def RingSink.onFrame {capacity : ℕ} (sink : RingSink capacity) (frame : AudioFrame) : Bool × RingSink capacity :=
  let (accepted, buffer) := sink.buffer.tryPush frame
  (accepted, { buffer := buffer, accepted := if accepted then sink.accepted ++ [frame] else sink.accepted })

structure State (capacity : ℕ) where
  stream : FakeCaptureStream
  sink : RingSink capacity
  synchronizer : TrackSynchronizer
  drains : List Drain := []

inductive Label where
  | emitFrames (count : ℕ)
  | skipFrames (count : ℕ)
  | restart (gap : ℕ)
  | stop
  | drain
deriving DecidableEq, Repr

variable {capacity : ℕ}

/-- Pop one frame, if there is one, and process it. -/
def drain (state : State capacity) : State capacity :=
  match state.sink.buffer.tryPop with
  | (none, buffer) => { state with sink := { state.sink with buffer := buffer } }
  | (some frame, buffer) =>
      let (synchronizer, output) := state.synchronizer.process .machine frame
      { state with
        sink := { state.sink with buffer := buffer }
        synchronizer := synchronizer
        drains := state.drains ++ [⟨frame, output⟩] }

def step (state : State capacity) : Label → Option (State capacity)
  | .emitFrames count =>
      let (stream, sink) := state.stream.emitFrames RingSink.onFrame state.sink count
      some { state with stream := stream, sink := sink }
  | .skipFrames count => some { state with stream := state.stream.skipFrames count }
  | .restart gap => some { state with stream := state.stream.restart gap }
  | .stop => some { state with stream := state.stream.stop }
  | .drain => some (drain state)

instance : Inhabited AudioFrame := ⟨{}⟩

def initial (capacity : ℕ) (capture : CaptureConfig) (sampleAt : ℕ → Sample) (config : ClockSyncConfig) :
    State capacity where
  stream := FakeCaptureStream.create capture sampleAt
  sink := { buffer := SpscRingBuffer.create AudioFrame capacity }
  synchronizer := { config := config }

/-- The drained frames in order. -/
def State.drained (state : State capacity) : List AudioFrame := state.drains.map (·.frame)

/-- Everything the synchronizer has put out. -/
def State.aligned (state : State capacity) : List AlignedFrame := state.drains.flatMap (·.output)

end CapturePipeline

end VoxMesh.Audio
