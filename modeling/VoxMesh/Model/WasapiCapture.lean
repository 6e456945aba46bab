import VoxMesh.Math.FixedWidth
import VoxMesh.Model.FakeBackend

/-! # The WASAPI capture stream

`captureLoop` waits for the device and drains its packets into the sink. What the system answers is a script:
each wait ends in one of the ways that the loop distinguishes, and a wait for data comes with the answers of the
inner loop. The end of the inner script is a packet size of zero, and the end of the outer one is a wait that has
not ended yet.
-/

namespace VoxMesh.Platform.Windows

open VoxMesh.Audio FixedWidth

/-- A packet as `GetBuffer` returns it. The buffer holds at least the bytes of its frames. -/
structure Packet where
  data : List Byte
  frames : ℕ
  flags : BitVec 32
  qpcPosition : ℕ

namespace Packet

/-- `AUDCLNT_BUFFERFLAGS_DATA_DISCONTINUITY` -/
def dataDiscontinuity (packet : Packet) : Bool := packet.flags &&& 1 != 0

/-- `AUDCLNT_BUFFERFLAGS_SILENT` -/
def silent (packet : Packet) : Bool := packet.flags &&& 2 != 0

end Packet

/-- The answers of `GetNextPacketSize` and `GetBuffer` in one pass of the inner loop. -/
inductive Poll where
  | sizeFailed
  | bufferFailed
  | packet (packet : Packet)

/-- How a wait ends. -/
inductive Wait where
  | stopRequested
  | failed
  /-- The data event or the timeout, with what the inner loop then gets. -/
  | woken (polls : List Poll)

structure WasapiCaptureStream where
  config : CaptureConfig
  nextSequence : ℕ := 0
  framesEmitted : ℕ := 0
  framesDropped : ℕ := 0
  pendingDiscontinuity : Bool := false

namespace WasapiCaptureStream

variable {σ : Type*} (onFrame : σ → AudioFrame → Bool × σ)

def stats (stream : WasapiCaptureStream) : CaptureStreamStats where
  framesEmitted := stream.framesEmitted
  framesDropped := stream.framesDropped
  nextSequence := stream.nextSequence

/-- The frame that is made of a packet; its position is in units of 100 ns. -/
def frameOf (stream : WasapiCaptureStream) (packet : Packet) : AudioFrame :=
  let bytes := packet.frames * (bytesPerSample stream.config.format * stream.config.channels)
  { track := stream.config.track
    sequence := stream.nextSequence
    timestamp := int64 (int64 packet.qpcPosition * 100)
    sampleRate := stream.config.sampleRate
    channels := stream.config.channels
    format := stream.config.format
    discontinuity := stream.pendingDiscontinuity || packet.dataDiscontinuity
    payload := if packet.silent then List.replicate bytes 0 else packet.data.take bytes }

/-- The bookkeeping for the sink's answer. -/
def account (stream : WasapiCaptureStream) (accepted : Bool) : WasapiCaptureStream :=
  let stream : WasapiCaptureStream :=
    if accepted then { stream with framesEmitted := stream.framesEmitted + 1, pendingDiscontinuity := false }
    else { stream with framesDropped := stream.framesDropped + 1, pendingDiscontinuity := true }
  { stream with nextSequence := stream.nextSequence + 1 }

/-- One pass of the inner loop that gets a packet. -/
def capturePacket (stream : WasapiCaptureStream) (sink : σ) (packet : Packet) : WasapiCaptureStream × σ :=
  let (accepted, sink) := onFrame sink (stream.frameOf packet)
  (stream.account accepted, sink)

/-- The inner loop, and whether the outer one goes on. -/
def drainPackets : List Poll → WasapiCaptureStream → σ → Bool × WasapiCaptureStream × σ
  | [], stream, sink => (true, stream, sink)
  | .sizeFailed :: _, stream, sink | .bufferFailed :: _, stream, sink => (false, stream, sink)
  | .packet packet :: rest, stream, sink =>
      let (stream, sink) := stream.capturePacket onFrame sink packet
      drainPackets rest stream sink

def captureLoop : List Wait → WasapiCaptureStream → σ → WasapiCaptureStream × σ
  | [], stream, sink => (stream, sink)
  | .stopRequested :: _, stream, sink | .failed :: _, stream, sink => (stream, sink)
  | .woken polls :: rest, stream, sink =>
      match drainPackets onFrame polls stream sink with
      | (false, stream, sink) => (stream, sink)
      | (true, stream, sink) => captureLoop rest stream sink

end WasapiCaptureStream

end VoxMesh.Platform.Windows
