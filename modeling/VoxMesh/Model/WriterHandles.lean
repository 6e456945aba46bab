import VoxMesh.Machine.Handles
import VoxMesh.Model.RecordingWriter

/-! # The recording writer's handles

`HandleWriter` is the writer as it calls FFmpeg: with the raw handles that it allocates, uses and frees. A function may
return early with an error, here an exception, and what it has changed stays changed. `values` are the writer's other
members; those of a track exist from the time when its chunk size is known.
-/

namespace VoxMesh.Media

open VoxMesh.Audio FixedWidth Machine Handling

/-- What FFmpeg hands out. -/
inductive FfmpegHandle where
  | format
  | io
  | packet
  | codec
  | fifo
  | frame
deriving DecidableEq, Repr

structure TrackHandles where
  codec : Option (Handle FfmpegHandle) := none
  /-- The pointer to the stream is set. The format context owns the stream itself. -/
  stream : Bool := false
  fifo : Option (Handle FfmpegHandle) := none
  scratch : Option (Handle FfmpegHandle) := none
deriving DecidableEq

structure HandleWriter where
  values : FfmpegRecordingWriter
  format : Option (Handle FfmpegHandle) := none
  /-- The member `pb` of the format context. -/
  pb : Option (Handle FfmpegHandle) := none
  packet : Option (Handle FfmpegHandle) := none
  tracks : List TrackHandles := []
deriving DecidableEq

/-- What the writer's code works on. -/
structure WriterMemory where
  writer : HandleWriter
  io : Io
deriving DecidableEq

abbrev Ffmpeg (ε : Type) := Handling FfmpegHandle WriterMemory ε

namespace HandleWriter

variable {ε : Type}

def get {α : Type} (f : HandleWriter → α) : Ffmpeg ε α := act fun memory => (f memory.writer, memory)

def modify (change : HandleWriter → HandleWriter) : Ffmpeg ε Unit := act fun memory =>
  ((), { memory with writer := change memory.writer })

def modifyValues (change : FfmpegRecordingWriter → FfmpegRecordingWriter) : Ffmpeg ε Unit :=
  modify fun writer => { writer with values := change writer.values }

def modifyFiles (change : Disk → Disk) : Ffmpeg ε Unit := act fun memory =>
  ((), { memory with io := { memory.io with disk := change memory.io.disk } })

/-- A call whose failure ends the function. -/
def check (error : ε) : Ffmpeg ε Unit := do
  if !(← act fun memory => (memory.io.call.1, { memory with io := memory.io.call.2 })) then
    throw error

/-- A call that hands something out, or ends the function. -/
def acquire (error : ε) (kind : FfmpegHandle) : Ffmpeg ε (Handle FfmpegHandle) := do
  check error
  allocate kind

def use (pointer : HandleWriter → Option (Handle FfmpegHandle)) : Ffmpeg ε Unit := do
  touch (← get pointer)

section Open

/-- `tracks_.back()`. -/
def modifyLast (change : TrackHandles → TrackHandles) : Ffmpeg ε Unit := modify fun writer =>
  { writer with tracks := writer.tracks.modifyLast change }

def last (pointer : TrackHandles → Option (Handle FfmpegHandle)) (writer : HandleWriter) :
    Option (Handle FfmpegHandle) := writer.tracks.getLast?.bind pointer

/-- The stream is there as long as the format context. -/
def streamOf (writer : HandleWriter) (track : Option TrackHandles) : Option (Handle FfmpegHandle) :=
  if track.any (·.stream) then writer.format else none

def openTrack (frameSize : ℕ) : Ffmpeg RecordingWriterError Unit := do
  check .openFailed
  -- Registered first, so that `cleanup` always sees it.
  modify fun writer => { writer with tracks := writer.tracks ++ [{}] }
  let codec ← acquire .openFailed .codec
  modifyLast fun track => { track with codec := some codec }
  use (last (·.codec))
  check .openFailed
  use (·.format)
  check .openFailed
  modifyLast fun track => { track with stream := true }
  use fun writer => writer.streamOf writer.tracks.getLast?
  use (last (·.codec))
  check .openFailed
  modifyValues fun values => { values with tracks := values.tracks ++ [FfmpegRecordingWriter.openTrack frameSize] }
  let fifo ← acquire .openFailed .fifo
  modifyLast fun track => { track with fifo := some fifo }
  let scratch ← acquire .openFailed .frame
  modifyLast fun track => { track with scratch := some scratch }
  use (last (·.scratch))
  use (last (·.codec))
  check .openFailed
  use (last (·.scratch))
  check .openFailed

def openTracks (frameSize : ℕ) : List RecordingTrackConfig → Ffmpeg RecordingWriterError Unit
  | [] => return
  | _ :: rest => do
      openTrack frameSize
      openTracks frameSize rest

/-- The container context, every track, and the packet. -/
def prepare (frameSize : ℕ) (configs : List RecordingTrackConfig) : Ffmpeg RecordingWriterError Unit := do
  let format ← acquire .openFailed .format
  modify fun writer => { writer with format := some format }
  modifyValues fun values => { values with stats := { samplesWrittenPerTrack := configs.map fun _ => 0 } }
  openTracks frameSize configs
  let packet ← acquire .openFailed .packet
  modify fun writer => { writer with packet := some packet }

/-- The partial file is created, and the header written. -/
def openPartial : Ffmpeg RecordingWriterError Unit := do
  use (·.format)
  let pb ← acquire .openFailed .io
  modify fun writer => { writer with pb := some pb }
  let path ← get (·.values.partialPath)
  modifyFiles (·.put path {})
  use (·.format)
  use (·.pb)
  check .openFailed
  modifyFiles (·.update path fun file => { file with header := true })
  modifyValues fun values => { values with state := .opened }

def «open» (frameSize : ℕ) : Ffmpeg RecordingWriterError Unit := do
  let config ← get (·.values.config)
  if config.outputFile.isEmpty || config.tracks.isEmpty ||
      !config.tracks.all (FfmpegRecordingWriter.accepts ·.format) then
    throw .invalidConfig
  else
    modifyValues fun values => { values with partialPath := config.outputFile ++ ".partial" }
    prepare frameSize config.tracks
    openPartial

end Open

section Encode

def useTrack (index : ℕ) (pointer : TrackHandles → Option (Handle FfmpegHandle)) : Ffmpeg ε Unit :=
  use fun writer => writer.tracks[index]?.bind pointer

/-- The values of a track, which has to exist. -/
def track (index : ℕ) : Ffmpeg ε TrackState := do
  match ← get (·.values.tracks[index]?) with
  | some track => return track
  | none => misuse

def modifyTrack (index : ℕ) (change : TrackState → TrackState) : Ffmpeg ε Unit :=
  modifyValues fun values => { values with tracks := values.tracks.modify index change }

/-- The encoder's answer to a request for a packet. -/
def receive : Ffmpeg ε FfmpegAnswer := act fun memory =>
  match memory.io.answers with
  | [] => (.again, memory)
  | answer :: rest => (answer, { memory with io := { memory.io with answers := rest } })

/-- The loop of `drainPackets`; it must end before the passes run out. -/
def drainLoop (index : ℕ) : ℕ → Ffmpeg Unit Unit
  | 0 => misuse
  | passes + 1 => do
      useTrack index (·.codec)
      use (·.packet)
      match ← receive with
      | .again => return
      | .failed => throw ()
      | .ok =>
          use (·.packet)
          use fun writer => writer.streamOf writer.tracks[index]?
          useTrack index (·.codec)
          use (·.format)
          use (·.pb)
          check ()
          let path ← get (·.values.partialPath)
          modifyFiles (·.update path fun file => { file with packets := file.packets ++ [index] })
          drainLoop index passes

/-- Every pass takes an answer of the encoder. -/
def drainPackets (index : ℕ) : Ffmpeg Unit Unit := do
  drainLoop index ((← act fun memory => (memory.io.answers.length, memory)) + 1)

/-- The loop of `encodeBuffered`; it must end before the passes run out. -/
def encodeLoop (index : ℕ) (drainAll : Bool) : ℕ → Ffmpeg Unit Unit
  | 0 => misuse
  | passes + 1 => do
      useTrack index (·.fifo)
      let state ← track index
      let chunk := state.chunk drainAll
      if chunk = 0 then
        return
      useTrack index (·.scratch)
      check ()
      useTrack index (·.fifo)
      useTrack index (·.scratch)
      check ()
      modifyTrack index fun track =>
        { track with fifo := track.fifo.drop chunk, nextPts := track.nextPts + chunk }
      useTrack index (·.codec)
      useTrack index (·.scratch)
      check ()
      modifyTrack index fun track =>
        { track with encoded := track.encoded ++ [⟨state.nextPts, state.fifo.take chunk⟩] }
      drainPackets index
      encodeLoop index drainAll passes

/-- Every pass takes samples from the fifo. -/
def encodeBuffered (index : ℕ) (drainAll : Bool) : Ffmpeg Unit Unit := do
  encodeLoop index drainAll ((← track index).fifo.length + 1)

def refuse (error : RecordingWriterError) : Ffmpeg ε Bool := do
  modifyValues fun values => { values with lastError := error }
  return false

def fail (error : RecordingWriterError) : Ffmpeg ε Bool := do
  modifyValues (·.fail error)
  return false

/-- The samples go to the track's fifo, and full chunks to the encoder. -/
def buffer (index : ℕ) (frame : AudioFrame) : Ffmpeg Unit Unit := do
  let samples := int32 frame.sampleCountPerChannel
  if 0 < samples then
    useTrack index (·.fifo)
    check ()
    modifyTrack index fun track =>
      { track with fifo := track.fifo ++ (samplesOfFrame frame).take samples.toNat }
    encodeBuffered index false

def write (trackIndex : ℕ) (frame : AudioFrame) : Ffmpeg ε Bool := do
  if ← get fun writer => writer.values.state != .opened || writer.tracks.length ≤ trackIndex then
    return ← refuse .invalidState
  match ← get (·.values.config.tracks[trackIndex]?) with
  | none => misuse
  | some expected =>
      if !FfmpegRecordingWriter.matchesTrack expected.format frame then
        return ← refuse .formatMismatch
      match ← attempt (buffer trackIndex frame) with
      | .error () => fail .writeFailed
      | .ok () =>
          modifyValues fun values => { values with stats := {
            framesWritten := values.stats.framesWritten + 1
            samplesWrittenPerTrack := values.stats.samplesWrittenPerTrack.modify trackIndex
              (· + toUint64 (int32 frame.sampleCountPerChannel)) } }
          return true

end Encode

section End

/-- The handles of one track. -/
def freeTrack (track : TrackHandles) : Ffmpeg ε Unit := do
  release track.scratch
  release track.fifo
  release track.codec

def freeTracks : List TrackHandles → Ffmpeg ε Unit
  | [] => return
  | track :: rest => do
      freeTrack track
      freeTracks rest

/-- `avio_closep` frees what `pb` points to and sets it to null, whatever it answers. -/
def closePb : Ffmpeg ε Unit := do
  use (·.format)
  release (← get (·.pb))
  modify fun writer => { writer with pb := none }

def cleanup : Ffmpeg ε Unit := do
  freeTracks (← get (·.tracks))
  modify fun writer => { writer with tracks := [], values := writer.values.cleanup }
  release (← get (·.packet))
  modify fun writer => { writer with packet := none }
  if ← get (·.format.isSome) then
    closePb
    free (← get (·.format))
    modify fun writer => { writer with format := none }

def flush (index : ℕ) : Ffmpeg Unit Unit := do
  encodeBuffered index true
  useTrack index (·.codec)
  check ()
  drainPackets index

/-- The tracks from the given index on. -/
def flushAll : ℕ → List TrackHandles → Ffmpeg Unit Unit
  | _, [] => return
  | index, _ :: rest => do
      flush index
      flushAll (index + 1) rest

/-- What `finalize` does up to the rename. -/
def complete : Ffmpeg Unit Unit := do
  flushAll 0 (← get (·.tracks))
  use (·.format)
  use (·.pb)
  check ()
  let path ← get (·.values.partialPath)
  modifyFiles (·.update path fun file => { file with trailer := true })
  closePb
  check ()

def finalize (renamed : Bool) : Ffmpeg ε Bool := do
  if (← get (·.values.state)) ≠ .opened then
    return ← refuse .invalidState
  match ← attempt complete with
  | .error () => fail .finalizeFailed
  | .ok () =>
      if !renamed then
        return ← fail .finalizeFailed
      let source ← get (·.values.partialPath)
      let target ← get (·.values.config.outputFile)
      modifyFiles (·.rename source target)
      modifyValues fun values => { values with state := .finalized }
      cleanup
      return true

/-- What `abort` does for a writer that may have left a partial file. -/
def discard : Ffmpeg ε Unit := do
  let state ← get (·.values.state)
  if state = .opened ∨ state = .failed then
    cleanup
    let path ← get (·.values.partialPath)
    modifyFiles (·.remove path)
    modifyValues fun values => { values with state := .aborted }

def abort : Ffmpeg ε Unit := do
  discard
  cleanup

end End

end HandleWriter

end VoxMesh.Media
