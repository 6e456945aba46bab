import VoxMesh.Math.Text
import VoxMesh.Model.Recorder

/-! # The operations of the recorder

Each operation is the computation of the UI thread that the source's function of the same name performs. It
yields to the other threads before it stops a stream and before it takes the pipeline lock; what it does in
between touches nothing that they touch. The answers of the operating system, the capture backend, FFmpeg
and the transcription service are arguments. A function without a result answers true.
-/

namespace VoxMesh.App

open VoxMesh.Audio VoxMesh.Media VoxMesh.Dsp Machine

abbrev Ui := Thread Recorder Environment

/-- `QString::arg` -/
def arg (text value : String) : String := String.ofList (Text.arg text.toList value.toList)

/-- The error of a stream that does not start. -/
def captureFailure (device : AudioDeviceInfo) (error : CaptureError) : String :=
  arg (arg "Failed to start capture on \"%1\" (error %2)." (if device.name.isEmpty then device.id else device.name))
    (toString error.code)

/-- The error of a write that failed. -/
def writeFailure : String := "Saving the recording failed; capture continues but audio is no longer written to disk."

namespace RecorderController

/-- The index of the track's selected device is one of its devices. -/
def isSelected (controller : RecorderController) (track : Track) : Bool :=
  0 ≤ controller.selected track && controller.selected track < (controller.devices track).length

def selectedDevice (controller : RecorderController) (track : Track) : AudioDeviceInfo :=
  (controller.devices track).getD (controller.selected track).toNat {}

/-- The default device, else the first one. -/
def defaultIndex (devices : List AudioDeviceInfo) : ℤ :=
  match devices.findIdx? (·.isDefault) with
  | some index => index
  | none => if devices.isEmpty then -1 else 0

def setDevices (controller : RecorderController) (found : List AudioDeviceInfo) : RecorderController :=
  let devices : Track → List AudioDeviceInfo
    | .microphone => found.filter (·.kind == .captureInput)
    | .systemOutput => found.filter (·.kind != .captureInput)
  { controller with devices := devices, selected := fun track => defaultIndex (devices track) }

def select (controller : RecorderController) (track : Track) (index : ℤ) : RecorderController :=
  if -1 ≤ index ∧ index < (controller.devices track).length ∧ index ≠ controller.selected track then
    { controller with selected := Function.update controller.selected track index }
  else controller

/-- What the streams have counted. -/
def framesDropped (controller : RecorderController) : ℕ :=
  let dropped (track : Track) := ((controller.pipelines track).map (·.stats.framesDropped)).getD 0
  dropped .microphone + dropped .systemOutput

def trackConfig (track : Track) : RecordingTrackConfig where
  kind := track.kind
  format := track.format
  title := track.title

/-- The tracks of a recording of the selected tracks. -/
def trackConfigs (selected : Track → Bool) : List RecordingTrackConfig :=
  (if selected .microphone then [trackConfig .microphone] else []) ++
    if selected .systemOutput then [trackConfig .systemOutput] else []

/-- The index that each track gets in a recording of the selected tracks. -/
def trackIndices (selected : Track → Bool) : Track → ℤ
  | .microphone => if selected .microphone then 0 else -1
  | .systemOutput => if selected .systemOutput then (if selected .microphone then 1 else 0) else -1

end RecorderController

namespace Recorder

def setController (recorder : Recorder) (change : RecorderController → RecorderController) : Recorder :=
  { recorder with controller := change recorder.controller }

/-- The path with the first suffix, from the given one on, that is not taken. -/
def firstFree (disk : Disk) (path : ℕ → String) : ℕ → ℕ → String
  | 0, suffix => path suffix
  | fuel + 1, suffix => if disk.holds (path suffix) then firstFree disk path fuel (suffix + 1) else path suffix

/-- The path of the next recording. Paths with different suffixes differ, so the number of files bounds the
attempts. -/
def candidate (disk : Disk) (folder stamp extension : String) : String :=
  let path (suffix : ℕ) := folder ++ "voxmesh-" ++ stamp ++ "-" ++ toString suffix ++ extension
  let first := folder ++ "voxmesh-" ++ stamp ++ extension
  if disk.holds first then firstFree disk path disk.files.length 2 else first

/-- The critical section of `createWriter`. -/
def installWriter (recorder : Recorder) (writer : FfmpegRecordingWriter) : Recorder :=
  { recorder with
    controller.writer := some writer
    controller.writerFailed := false
    controller.writerFailureReported := false
    history := {}
    rejections := {} }

/-- The critical section of `discardWriter`. -/
def abortWriter (recorder : Recorder) : Recorder :=
  match recorder.controller.writer with
  | none => recorder
  | some writer => { recorder with
      controller.writer := none
      disk := (writer.abort ⟨recorder.disk, []⟩).2.disk }

/-- The critical section of `startTrack`. -/
def register (recorder : Recorder) (track : Track) (feedsSttStream : Bool) : Recorder :=
  match recorder.opening track with
  | none => recorder
  | some line =>
      { recorder.setPipeline track {
          toCaptureLine := line
          synchronizer := .create track.sync
          writerTrack := recorder.controller.writerTracks track
          feedsSttStream := feedsSttStream } with
        opening := Function.update recorder.opening track none }

def stopStream (recorder : Recorder) (track : Track) : Recorder :=
  match recorder.controller.pipelines track with
  | none => recorder
  | some pipeline => recorder.setPipeline track { pipeline with running := false }

/-- The critical section of `stopStreams`. -/
def dropPipelines (recorder : Recorder) (drained : List FfmpegAnswer) : Recorder :=
  let (recorder, answers) := recorder.drainPipelineLocked .microphone drained
  let (recorder, _) := recorder.drainPipelineLocked .systemOutput answers
  { recorder with
    controller.pipelines := fun _ => none
    history := recorder.history.close fun track => (recorder.controller.pipelines track).isSome
    rejections.earlier := recorder.rejections.total }

/-- The critical section of `stop`, with the path of the saved file and the error. -/
def finishWriter (recorder : Recorder) (finalized : List FfmpegAnswer) (renamed : Bool) :
    (String × String) × Recorder :=
  match recorder.controller.writer with
  | none => (("", ""), recorder)
  | some writer =>
      if recorder.controller.writerFailed then
        (("", "Recording was interrupted by a write failure; a partial file was kept."),
          { recorder with controller.writer := none })
      else if writer.stats.framesWritten = 0 then
        (("", "No audio was captured; nothing was saved."), recorder.abortWriter)
      else
        match writer.finalize renamed ⟨recorder.disk, finalized⟩ with
        | (true, _, io) =>
            ((recorder.controller.pendingOutputFile, ""),
              { recorder with
                controller.writer := none
                disk := io.disk
                history := { recorder.history with finalized := some true } })
        | (false, writer, io) =>
            (("", "Recording could not be finalized (" ++ writer.lastError.toString ++ "); a partial file was kept."),
              { recorder with
                controller.writer := none
                disk := io.disk
                history := { recorder.history with finalized := some false } })

/-- The critical section of `startSttStreaming`. -/
def installStt (recorder : Recorder) (producer : SttStreamProducer) (client : SttClient) : Recorder :=
  { recorder with
    controller.sttProducer := some producer
    controller.sttClient := some client
    controller.sttActive := true
    sttSessions := recorder.sttSessions + 1 }

/-- The critical section of `stopSttStreaming`. -/
def removeStt (recorder : Recorder) : Recorder :=
  { recorder with controller.sttClient := none, controller.sttProducer := none }

def onStatsTick (recorder : Recorder) : Recorder :=
  if recorder.controller.writerFailed && !recorder.controller.writerFailureReported then
    { recorder with
      controller.writerFailureReported := true
      controller.lastError := writeFailure }
  else recorder

end Recorder

/-- The answers given to `createWriter`. -/
structure FileAnswers where
  directoryCreated : Bool := true
  /-- What `QDir::filePath` puts before the names of the files in a directory. -/
  folder : String → String := (· ++ "/")
  stamp : String := ""
  frameSize : ℕ := 4608
  opened : List FfmpegAnswer := []

/-- The answers given to `startSttStreaming`. -/
structure SttAnswers where
  connected : Bool := true
  sessionId : String := ""

structure StartAnswers where
  devices : List AudioDeviceInfo := []
  file : FileAnswers := {}
  stt : SttAnswers := {}
  captures : Track → Option CaptureError := fun _ => none
  drained : List FfmpegAnswer := []

structure StopAnswers where
  drained : List FfmpegAnswer := []
  finalized : List FfmpegAnswer := []
  renamed : Bool := true

namespace Ui

def set (change : RecorderController → RecorderController) : Ui Unit := Thread.update (·.setController change)

def get {α : Type} (f : RecorderController → α) : Ui α := Thread.read (f ·.controller)

/-- A step on state that the other threads touch without the lock. -/
def atomically (change : Recorder → Recorder) : Ui Unit := do
  Thread.yield Recorder.environment
  Thread.update change

def underLock {α : Type} (section' : Recorder → α × Recorder) : Ui α :=
  Thread.locked Recorder.environment Recorder.unlocked section'

end Ui

namespace RecorderController

open Ui

def fail (message : String) : Ui Unit := set fun controller => { controller with lastError := message }

def handle (event : SessionEvent) : Ui Bool := Thread.act fun recorder =>
  let (applied, session) := RecordingSession.handle recorder.controller.session event
  (applied, recorder.setController fun controller => { controller with session := session })

def refreshDevices (found : List AudioDeviceInfo) : Ui Unit := set (·.setDevices found)

/-- List the devices unless some are known. -/
def ensureDevices (found : List AudioDeviceInfo) : Ui Unit := do
  if ← get fun controller => (controller.devices .microphone).isEmpty && (controller.devices .systemOutput).isEmpty then
    refreshDevices found

def createWriter (answers : FileAnswers) : Ui Bool := do
  set fun controller => { controller with writerTracks := trackIndices controller.isSelected }
  if !answers.directoryCreated then
    fail "Cannot create the recordings folder."
    return false
  let tracks ← get fun controller => trackConfigs controller.isSelected
  let directory ← get (·.outputDirectory)
  let extension := if tracks.length = 1 then ".flac" else ".mka"
  let path ← Thread.read fun recorder => Recorder.candidate recorder.disk (answers.folder directory)
    answers.stamp extension
  let result ← Thread.act fun recorder =>
    let (result, io) := FfmpegRecordingWriter.create ⟨path, tracks⟩ answers.frameSize ⟨recorder.disk, answers.opened⟩
    (result, { recorder with disk := io.disk })
  match result with
  | .error error =>
      fail ("Cannot open the recording file (" ++ error.toString ++ ").")
      return false
  | .ok writer =>
      set fun controller => { controller with pendingOutputFile := path }
      underLock fun recorder => ((), recorder.installWriter writer)
      return true

def discardWriter : Ui Unit := do
  underLock fun recorder => ((), recorder.abortWriter)
  set fun controller => { controller with pendingOutputFile := "" }

def startTrack (track : Track) (feedsSttStream : Bool) (failure : Option CaptureError) : Ui Bool := do
  let device ← get (·.selectedDevice track)
  match failure with
  | some error =>
      fail (captureFailure device error)
      return false
  | none =>
      Thread.update fun recorder =>
        { recorder with opening := Function.update recorder.opening track (some .opened) }
      underLock fun recorder => ((), recorder.register track feedsSttStream)
      return true

/-- A track that is not selected is skipped. -/
def startSelected (track : Track) (feedsSttStream : Bool) (failure : Option CaptureError) : Ui Bool := do
  if ← get (·.isSelected track) then
    startTrack track feedsSttStream failure
  else
    return true

def startStreams (failures : Track → Option CaptureError) : Ui Bool := do
  let microphoneSelected ← get (·.isSelected .microphone)
  if !(← startSelected .microphone true (failures .microphone)) then
    return false
  let systemOutputSelected ← get (·.isSelected .systemOutput)
  if !(← startSelected .systemOutput (!microphoneSelected) (failures .systemOutput)) then
    return false
  return microphoneSelected || systemOutputSelected

def stopStreams (drained : List FfmpegAnswer) : Ui Unit := do
  atomically (·.stopStream .microphone)
  atomically (·.stopStream .systemOutput)
  underLock fun recorder => ((), recorder.dropPipelines drained)

def stopSttStreaming : Ui Unit := do
  underLock fun recorder => ((), recorder.removeStt)
  set fun controller => { controller with sttActive := false }

/-- `drainThread_.join()` -/
def joinDrainThread : Ui Unit := Thread.await Recorder.environment fun recorder => recorder.drain == .ended

/-- The destructor. What the members' destructors do after it touches no file. -/
def destroy (drained : List FfmpegAnswer) : Ui Unit := do
  stopStreams drained
  stopSttStreaming
  set fun controller => { controller with drainStop := true }
  joinDrainThread

/-- What `start` does when the streams do not start. -/
def abandon (drained : List FfmpegAnswer) : Ui Unit := do
  stopStreams drained
  discardWriter
  stopSttStreaming
  let _ ← handle .fault
  let _ ← handle .reset

section Start

variable (designLowPass : ℕ → ℚ → List ℚ)

/-- The input of the transcription stream is the microphone when selected, else the system output. -/
def sttConfig (controller : RecorderController) : SttStreamConfig where
  input := if controller.isSelected .microphone then Track.format .microphone else Track.format .systemOutput
  output := config.sttStream
  frameDuration := config.sttFrameDuration

def startSttStreaming (answers : SttAnswers) : Ui Unit := do
  let endpoint ← get (·.sttEndpoint)
  if endpoint.isEmpty then
    return
  set fun controller => { controller with transcriptLines := [], transcriptSegmentIds := [] }
  match SttStreamProducer.create designLowPass (← get (·.sttConfig)) with
  | none => fail "Transcription is unavailable (unsupported STT stream configuration)."
  | some producer =>
      if !answers.connected then
        fail "Transcription service is unreachable; recording continues without it."
      else
        underLock fun recorder => ((), recorder.installStt producer ⟨endpoint, answers.sessionId, []⟩)

/-- What `start` does once there is a device to capture. -/
def startRecording (answers : StartAnswers) : Ui Bool := do
  if !(← createWriter answers.file) then
    return false
  if !(← handle .start) then
    discardWriter
    return false
  startSttStreaming designLowPass answers.stt
  if !(← startStreams answers.captures) then
    abandon answers.drained
    return false
  set fun controller => { controller with statsTimer := true }
  return true

def start (answers : StartAnswers) : Ui Bool := do
  if (← get (·.session)) ≠ .idle then
    return false
  ensureDevices answers.devices
  if ← get fun controller => controller.selected .microphone < 0 && controller.selected .systemOutput < 0 then
    fail "No capture devices available."
    return false
  fail ""
  startRecording designLowPass answers

end Start

def pause (drained : List FfmpegAnswer) : Ui Bool := do
  if !(← handle .pause) then
    return false
  stopStreams drained
  return true

def resume (failures : Track → Option CaptureError) : Ui Bool := do
  if (← get (·.session)) ≠ .paused then
    return false
  if !(← startStreams failures) then
    let _ ← handle .fault
    return false
  handle .resume

/-- Publish the outcome of `stop`. -/
def report (savedFile finalizeError : String) : Ui Unit := do
  if !savedFile.isEmpty then
    set fun controller => { controller with lastRecordingFile := savedFile }
  else if !finalizeError.isEmpty then
    fail finalizeError

def stop (answers : StopAnswers) : Ui Bool := do
  if !(← handle .stop) then
    return false
  stopStreams answers.drained
  set fun controller => { controller with statsTimer := false }
  let (savedFile, finalizeError) ← underLock fun recorder => recorder.finishWriter answers.finalized answers.renamed
  set fun controller => { controller with pendingOutputFile := "" }
  stopSttStreaming
  report savedFile finalizeError
  let _ ← handle .stopComplete
  let _ ← handle .reset
  return true

def setOutputDirectory (directory : String) : Ui Unit := set fun controller =>
  if controller.session ≠ .idle ∨ directory.isEmpty then controller
  else { controller with outputDirectory := directory }

def setSttEndpoint (endpoint : String) : Ui Unit := set fun controller =>
  if controller.session ≠ .idle then controller else { controller with sttEndpoint := endpoint }

end RecorderController

/-- The public operations, with the answers of the surroundings. -/
inductive Operation where
  | refreshDevices (found : List AudioDeviceInfo)
  | start (answers : StartAnswers)
  | pause (drained : List FfmpegAnswer)
  | resume (failures : Track → Option CaptureError)
  | stop (answers : StopAnswers)
  | setSelectedMicrophone (index : ℤ)
  | setSelectedSystemOutput (index : ℤ)
  | setOutputDirectory (directory : String)
  | setSttEndpoint (endpoint : String)

/-- A label of the recorder: the UI thread performs an operation while the others follow the agenda, the
statistics timer fires, or another thread takes a step between two operations. -/
inductive Label where
  | operation (operation : Operation) (agenda : List (List Environment))
  | statsTick
  | environment (event : Environment)

namespace Recorder

variable (designLowPass : ℕ → ℚ → List ℚ)

def perform : Operation → Ui Bool
  | .refreshDevices found => do RecorderController.refreshDevices found; return true
  | .start answers => RecorderController.start designLowPass answers
  | .pause drained => RecorderController.pause drained
  | .resume failures => RecorderController.resume failures
  | .stop answers => RecorderController.stop answers
  | .setSelectedMicrophone index => do Ui.set (·.select .microphone index); return true
  | .setSelectedSystemOutput index => do Ui.set (·.select .systemOutput index); return true
  | .setOutputDirectory directory => do RecorderController.setOutputDirectory directory; return true
  | .setSttEndpoint endpoint => do RecorderController.setSttEndpoint endpoint; return true

def step (recorder : Recorder) : Label → Option Recorder
  | .operation operation agenda => ((perform designLowPass operation).run agenda recorder).map (·.2)
  | .statsTick => if recorder.controller.statsTimer then some recorder.onStatsTick else none
  | .environment event => recorder.environment event

/-- After the constructor. -/
def init (outputDirectory : String) : Recorder := { controller := { outputDirectory := outputDirectory } }

end Recorder

end VoxMesh.App
