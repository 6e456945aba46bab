import VoxMesh.Machine.Thread
import VoxMesh.Model.Config
import VoxMesh.Model.FakeBackend
import VoxMesh.Model.RecordingWriter
import VoxMesh.Model.Session
import VoxMesh.Model.SttStreamProducer

/-! # The recorder and its threads

`RecorderController` holds the members of the source's class; what the class has once for each of its two
tracks is a function of the track. `Recorder` adds what surrounds the controller: the disk, a stream that
`startTrack` has opened but not yet registered, where the drain thread is, and a history.

The capture threads push frames into rings and the drain thread empties them, each in the steps of
`environment`. A ring operation is one step. The drain thread holds the pipeline lock from the beginning of
a round to its end, and one pass of the loop of `drainPipelineLocked` is one step. Between two rounds it
looks at `drainStop_`, and may find it set later than it was. The history is a record of the current
recording that no step reads.
-/

namespace VoxMesh.Audio

inductive DeviceKind where
  | captureInput
  | renderOutput
deriving DecidableEq, Repr

structure AudioDeviceInfo where
  id : String := ""
  name : String := ""
  kind : DeviceKind := .captureInput
  isDefault : Bool := false
deriving DecidableEq, Repr

inductive CaptureError where
  | deviceNotFound
  | deviceUnavailable
  | formatNotSupported
  | permissionDenied
  | alreadyStopped
  | backendFailure
deriving DecidableEq, Repr

/-- The number of the enumerator. -/
def CaptureError.code : CaptureError → ℕ
  | .deviceNotFound => 0
  | .deviceUnavailable => 1
  | .formatNotSupported => 2
  | .permissionDenied => 3
  | .alreadyStopped => 4
  | .backendFailure => 5

end VoxMesh.Audio

namespace VoxMesh.App

open VoxMesh.Audio VoxMesh.Media VoxMesh.Dsp FixedWidth

/-- The controller's configuration keeps its defaults. -/
def config : RecorderConfig := {}

/-- The two tracks that the controller captures. -/
inductive Track where
  | microphone
  | systemOutput
deriving DecidableEq, Repr

namespace Track

def kind : Track → TrackKind
  | .microphone => .microphone
  | .systemOutput => .systemOutput

def channels : Track → ℕ
  | .microphone => 1
  | .systemOutput => 2

theorem channels_pos (track : Track) : 0 < track.channels := by cases track <;> decide

def title : Track → String
  | .microphone => "Microphone"
  | .systemOutput => "System output"

/-- The capture format, which is also the writer's. -/
def format (track : Track) : TrackFormat where
  sampleRate := 48000
  channels := track.channels
  format := .pcmS16Le

/-- The configuration of the track's synchronizers. -/
def sync (track : Track) : ClockSyncConfig where
  sampleRate := 48000
  channels := track.channels
  format := .pcmS16Le
  channels_pos := track.channels_pos

end Track

/-- A capture stream with the ring buffer that its sink fills. -/
structure CaptureLine where
  buffer : SpscRingBuffer AudioFrame config.ringBufferCapacityFrames
  running : Bool := true
  stats : CaptureStreamStats := {}

namespace CaptureLine

def opened : CaptureLine where
  buffer := .create AudioFrame config.ringBufferCapacityFrames

/-- A frame reaches the sink; the stream counts what the sink answers. -/
def onFrame (line : CaptureLine) (frame : AudioFrame) : Bool × CaptureLine :=
  let (accepted, buffer) := line.buffer.tryPush frame
  let stats := { line.stats with nextSequence := line.stats.nextSequence + 1 }
  (accepted, { line with
    buffer := buffer
    stats := if accepted then { stats with framesEmitted := stats.framesEmitted + 1 }
      else { stats with framesDropped := stats.framesDropped + 1 } })

end CaptureLine

structure TrackPipeline extends CaptureLine where
  synchronizer : TrackSynchronizer
  /-- Index into the writer's track list, negative for none. -/
  writerTrack : ℤ := -1
  feedsSttStream : Bool := false

/-- The transcription client, as the frames handed to it. -/
structure SttClient where
  endpoint : String
  sessionId : String
  frames : List AudioFrame := []
deriving DecidableEq

structure RecorderController where
  session : SessionState := .idle
  devices : Track → List AudioDeviceInfo := fun _ => []
  selected : Track → ℤ := fun _ => -1
  pipelines : Track → Option TrackPipeline := fun _ => none
  writer : Option FfmpegRecordingWriter := none
  sttProducer : Option SttStreamProducer := none
  sttClient : Option SttClient := none
  framesCaptured : ℕ := 0
  writerFailed : Bool := false
  writerFailureReported : Bool := false
  outputDirectory : String
  pendingOutputFile : String := ""
  lastRecordingFile : String := ""
  writerTracks : Track → ℤ := fun _ => -1
  sttEndpoint : String := ""
  sttActive : Bool := false
  transcriptLines : List String := []
  transcriptSegmentIds : List String := []
  lastError : String := ""
  statsTimer : Bool := false
  drainStop : Bool := false

inductive DrainThread where
  | resting
  /-- Inside a round, with the lock held. -/
  | draining (track : Track)
  /-- Out of its loop. -/
  | ended
deriving DecidableEq, Repr

/-- Where a round goes on when the track's ring is empty. -/
def DrainThread.after : Track → DrainThread
  | .microphone => .draining .systemOutput
  | .systemOutput => .resting

/-- What happened since the writer was opened. -/
structure History where
  /-- The frames that each ring dropped so far has accepted. -/
  rings : Track → List (List AudioFrame) := fun _ => []
  /-- The frames that the current ring has accepted. -/
  accepted : Track → List AudioFrame := fun _ => []
  /-- The frames popped from the current ring. -/
  drained : Track → List AudioFrame := fun _ => []
  /-- What the popped frames of the pipelines that feed the transcription stream were aligned to. -/
  fed : List AudioFrame := []
  /-- The frames handed to the writer, with the track index. -/
  writes : List (ℕ × AlignedFrame) := []
  /-- The answer of `finalize`. -/
  finalized : Option Bool := none

/-- How many frames the sinks have rejected since the writer was opened. -/
structure Rejections where
  total : ℕ := 0
  /-- How many of them before the pipelines were last dropped. -/
  earlier : ℕ := 0
deriving DecidableEq, Repr

structure Recorder where
  controller : RecorderController
  disk : Disk := {}
  opening : Track → Option CaptureLine := fun _ => none
  drain : DrainThread := .resting
  history : History := {}
  /-- The number of transcription sessions begun; no step reads it. -/
  sttSessions : ℕ := 0
  /-- No step reads it. -/
  rejections : Rejections := {}

/-- A sink was given a frame, and may have taken it. -/
def Rejections.offer (rejections : Rejections) (accepted : Bool) : Rejections :=
  if accepted then rejections else { rejections with total := rejections.total + 1 }

namespace History

/-- The sink was given a frame, and may have taken it. -/
def offer (history : History) (track : Track) (frame : AudioFrame) (accepted : Bool) : History :=
  if accepted then
    { history with accepted := Function.update history.accepted track (history.accepted track ++ [frame]) }
  else history

def pop (history : History) (track : Track) (frame : AudioFrame) : History :=
  { history with drained := Function.update history.drained track (history.drained track ++ [frame]) }

/-- The frame popped last was aligned to the given ones, and the pipeline may feed the transcription stream. -/
def feed (history : History) (feedsSttStream : Bool) (aligned : List AlignedFrame) : History :=
  { history with fed := history.fed ++ if feedsSttStream then aligned.map (·.frame) else [] }

def write (history : History) (index : ℕ) (handed : List AlignedFrame) : History :=
  { history with writes := history.writes ++ handed.map (index, ·) }

/-- The rings of the given tracks are dropped. -/
def close (history : History) (present : Track → Bool) : History where
  rings track := if present track then history.rings track ++ [history.accepted track] else history.rings track
  fed := history.fed
  writes := history.writes
  finalized := history.finalized

end History

/-- Upload what the producer makes of the aligned frames. -/
def feedStt (producer : SttStreamProducer) (client : SttClient) : List AlignedFrame → SttStreamProducer × SttClient
  | [] => (producer, client)
  | output :: rest =>
      let (producer, frames) := producer.process output.frame
      feedStt producer { client with frames := client.frames ++ frames } rest

/-- Write the aligned frames until one is refused. The last component lists those handed to the writer. -/
def writeAll (index : ℕ) (writer : FfmpegRecordingWriter) :
    List AlignedFrame → Io → Bool × FfmpegRecordingWriter × Io × List AlignedFrame
  | [], io => (true, writer, io, [])
  | output :: rest, io =>
      match writer.write index output.frame io with
      | (false, writer, io) => (false, writer, io, [output])
      | (true, writer, io) =>
          let (written, writer, io, handed) := writeAll index writer rest io
          (written, writer, io, output :: handed)

namespace Recorder

/-- Nobody holds the pipeline lock. -/
def unlocked (recorder : Recorder) : Bool :=
  match recorder.drain with
  | .draining _ => false
  | .resting | .ended => true

def setPipeline (recorder : Recorder) (track : Track) (pipeline : TrackPipeline) : Recorder :=
  { recorder with
    controller.pipelines := Function.update recorder.controller.pipelines track (some pipeline) }

/-- The aligned frames go to the transcription stream when the pipeline feeds it. -/
def uploadAligned (recorder : Recorder) (feedsSttStream : Bool) (aligned : List AlignedFrame) : Recorder :=
  match feedsSttStream, recorder.controller.sttProducer, recorder.controller.sttClient with
  | true, some producer, some client =>
      let (producer, client) := feedStt producer client aligned
      { recorder with controller.sttProducer := some producer, controller.sttClient := some client }
  | _, _, _ => recorder

/-- The aligned frames go to the writer, unless there is no track for them or a write has failed. -/
def writeAligned (recorder : Recorder) (writerTrack : ℤ) (aligned : List AlignedFrame)
    (answers : List FfmpegAnswer) : Recorder × List FfmpegAnswer :=
  match recorder.controller.writer with
  | none => (recorder, answers)
  | some writer =>
      if writerTrack < 0 || recorder.controller.writerFailed then (recorder, answers)
      else
        let (written, writer, io, handed) := writeAll writerTrack.toNat writer aligned ⟨recorder.disk, answers⟩
        ({ recorder with
            controller.writer := some writer
            controller.writerFailed := !written
            disk := io.disk
            history := recorder.history.write writerTrack.toNat handed },
          io.answers)

/-- The recorder once a frame is popped and aligned, and the aligned frames are counted. -/
def popFrame (recorder : Recorder) (track : Track) (pipeline : TrackPipeline) (frame : AudioFrame)
    (aligned : List AlignedFrame) : Recorder :=
  { recorder.setPipeline track pipeline with
    controller.framesCaptured := recorder.controller.framesCaptured + aligned.length
    history := (recorder.history.pop track frame).feed pipeline.feedsSttStream aligned }

/-- One pass of the loop of `drainPipelineLocked`, if there is a frame to pop. -/
def drainFrame (recorder : Recorder) (track : Track) (answers : List FfmpegAnswer) :
    Option (Recorder × List FfmpegAnswer) :=
  match recorder.controller.pipelines track with
  | none => none
  | some pipeline =>
      match pipeline.buffer.tryPop with
      | (none, _) => none
      | (some frame, buffer) =>
          let (synchronizer, aligned) := pipeline.synchronizer.process .machine frame
          let pipeline := { pipeline with buffer := buffer, synchronizer := synchronizer }
          let recorder := recorder.popFrame track pipeline frame aligned
          some ((recorder.uploadAligned pipeline.feedsSttStream aligned).writeAligned pipeline.writerTrack
            aligned answers)

def drainPipelineLoop (track : Track) : ℕ → Recorder → List FfmpegAnswer → Recorder × List FfmpegAnswer
  | 0, recorder, answers => (recorder, answers)
  | fuel + 1, recorder, answers =>
      match recorder.drainFrame track answers with
      | none => (recorder, answers)
      | some (recorder, answers) => drainPipelineLoop track fuel recorder answers

/-- The number of frames in the track's ring. -/
def waiting (recorder : Recorder) (track : Track) : ℕ :=
  ((recorder.controller.pipelines track).map (·.buffer.size)).getD 0

/-- Every pass takes a frame from the ring, so their number bounds the passes. -/
def drainPipelineLocked (recorder : Recorder) (track : Track) (answers : List FfmpegAnswer) :
    Recorder × List FfmpegAnswer :=
  drainPipelineLoop track (recorder.waiting track) recorder answers

end Recorder

/-- What the capture threads and the drain thread do. -/
inductive Environment where
  /-- A registered stream delivers a frame. -/
  | capture (track : Track) (frame : AudioFrame)
  /-- A stream delivers a frame before it is registered. -/
  | captureOpening (track : Track) (frame : AudioFrame)
  | drain (answers : List FfmpegAnswer)
  /-- The drain thread finds that it is to stop. -/
  | leave

namespace Recorder

def capture (recorder : Recorder) (track : Track) (frame : AudioFrame) : Option Recorder :=
  match recorder.controller.pipelines track with
  | none => none
  | some pipeline =>
      if !pipeline.running then none
      else
        let (accepted, line) := pipeline.toCaptureLine.onFrame frame
        some { recorder.setPipeline track { pipeline with toCaptureLine := line } with
          history := recorder.history.offer track frame accepted
          rejections := recorder.rejections.offer accepted }

def captureOpening (recorder : Recorder) (track : Track) (frame : AudioFrame) : Option Recorder :=
  match recorder.opening track with
  | none => none
  | some line =>
      let (accepted, line) := line.onFrame frame
      some { recorder with
        opening := Function.update recorder.opening track (some line)
        history := recorder.history.offer track frame accepted
        rejections := recorder.rejections.offer accepted }

/-- The drain thread takes the lock, handles one frame, or moves on when a ring is empty. -/
def drainStep (recorder : Recorder) (answers : List FfmpegAnswer) : Option Recorder :=
  match recorder.drain with
  -- the load is relaxed: a round may begin where the flag is set
  | .resting => some { recorder with drain := .draining .microphone }
  | .draining track =>
      match recorder.drainFrame track answers with
      | some (recorder, _) => some recorder
      | none => some { recorder with drain := .after track }
  | .ended => none

def leave (recorder : Recorder) : Option Recorder :=
  if recorder.drain = .resting ∧ recorder.controller.drainStop then some { recorder with drain := .ended } else none

def environment (recorder : Recorder) : Environment → Option Recorder
  | .capture track frame => recorder.capture track frame
  | .captureOpening track frame => recorder.captureOpening track frame
  | .drain answers => recorder.drainStep answers
  | .leave => recorder.leave

end Recorder

end VoxMesh.App
