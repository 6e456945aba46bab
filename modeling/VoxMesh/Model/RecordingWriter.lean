import VoxMesh.Math.FixedWidth
import VoxMesh.Model.Types

/-! # The recording writer

`FfmpegRecordingWriter` buffers samples per track, encodes them in chunks and writes packets to a partial
file, which `finalize` renames onto the output file and `abort` removes. Every call into FFmpeg may fail:
`Io` carries the answers still to be given, and answers `ok` when none are left. The encoder is represented
by the chunks it was sent; when it releases packets is up to the answers, and a file records the stream of
each packet written to it.
-/

namespace VoxMesh.Media

open VoxMesh.Audio FixedWidth

inductive RecordingWriterError where
  | invalidConfig
  | openFailed
  | formatMismatch
  | writeFailed
  | finalizeFailed
  | invalidState
deriving DecidableEq, Repr

namespace RecordingWriterError

def toString : RecordingWriterError → String
  | .invalidConfig => "InvalidConfig"
  | .openFailed => "OpenFailed"
  | .formatMismatch => "FormatMismatch"
  | .writeFailed => "WriteFailed"
  | .finalizeFailed => "FinalizeFailed"
  | .invalidState => "InvalidState"

end RecordingWriterError

structure RecordingTrackConfig where
  kind : TrackKind := .microphone
  format : TrackFormat := {}
  title : String := ""
deriving DecidableEq, Repr

structure RecordingWriterConfig where
  outputFile : String := ""
  tracks : List RecordingTrackConfig := []
deriving DecidableEq, Repr

structure RecordingWriterStats where
  framesWritten : ℕ := 0
  samplesWrittenPerTrack : List ℕ := []
deriving DecidableEq, Repr

/-- A container on disk, as far as the writer shapes it. -/
structure MediaFile where
  header : Bool := false
  packets : List ℕ := []
  trailer : Bool := false
deriving DecidableEq, Repr

/-- The files of the recording directory, by path. -/
structure Disk where
  files : List (String × MediaFile) := []
deriving DecidableEq, Repr

namespace Disk

def find? (disk : Disk) (path : String) : Option MediaFile := disk.files.lookup path

def holds (disk : Disk) (path : String) : Bool := (disk.find? path).isSome

def remove (disk : Disk) (path : String) : Disk := ⟨disk.files.filter (·.1 != path)⟩

/-- Create the file or replace what it holds. -/
def put (disk : Disk) (path : String) (file : MediaFile) : Disk := ⟨(path, file) :: (disk.remove path).files⟩

def update (disk : Disk) (path : String) (change : MediaFile → MediaFile) : Disk :=
  match disk.find? path with
  | some file => disk.put path (change file)
  | none => disk

def rename (disk : Disk) (source target : String) : Disk :=
  match disk.find? source with
  | some file => (disk.remove source).put target file
  | none => disk

end Disk

inductive FfmpegAnswer where
  | ok
  /-- The encoder has no packet to give. -/
  | again
  | failed
deriving DecidableEq, Repr

structure Io where
  disk : Disk
  answers : List FfmpegAnswer := []
deriving DecidableEq

namespace Io

/-- One call that succeeds or fails. -/
def call (io : Io) : Bool × Io :=
  match io.answers with
  | [] => (true, io)
  | answer :: rest => (answer != .failed, { io with answers := rest })

/-- Calls made one after the other until one fails. -/
def calls : ℕ → Io → Bool × Io
  | 0, io => (true, io)
  | count + 1, io =>
      match io.call with
      | (true, io) => calls count io
      | (false, io) => (false, io)

/-- The packets that the encoder releases, written to the container until one call fails. -/
def drainPackets (disk : Disk) (path : String) (index : ℕ) : List FfmpegAnswer → Bool × Io
  | [] => (true, ⟨disk, []⟩)
  | .again :: rest => (true, ⟨disk, rest⟩)
  | .failed :: rest => (false, ⟨disk, rest⟩)
  | [.ok] => (true, ⟨disk.update path fun file => { file with packets := file.packets ++ [index] }, []⟩)
  | .ok :: .failed :: rest => (false, ⟨disk, rest⟩)
  | .ok :: _ :: rest =>
      drainPackets (disk.update path fun file => { file with packets := file.packets ++ [index] }) path index rest

end Io

/-- A chunk of samples as it was sent to the encoder. -/
structure EncodedChunk where
  pts : ℕ
  samples : List (List Byte)
deriving DecidableEq, Repr

@[ext] structure TrackState where
  chunkSamples : ℕ
  /-- One element per sample, with the bytes of all channels. -/
  fifo : List (List Byte) := []
  nextPts : ℕ := 0
  encoded : List EncodedChunk := []
  chunk_pos : 0 < chunkSamples := by decide

instance : DecidableEq TrackState := fun first second =>
  decidable_of_iff (first.chunkSamples = second.chunkSamples ∧ first.fifo = second.fifo ∧
    first.nextPts = second.nextPts ∧ first.encoded = second.encoded) TrackState.ext_iff.symm

inductive WriterState where
  | closed
  | opened
  | failed
  | finalized
  | aborted
deriving DecidableEq, Repr

structure FfmpegRecordingWriter where
  config : RecordingWriterConfig
  partialPath : String := ""
  tracks : List TrackState := []
  state : WriterState := .closed
  lastError : RecordingWriterError := .invalidState
  stats : RecordingWriterStats := {}
deriving DecidableEq

/-- The payload of a frame, sample by sample. -/
def samplesOfFrame (frame : AudioFrame) : List (List Byte) :=
  let stride := bytesPerSample frame.format * frame.channels
  (List.range frame.sampleCountPerChannel).map fun i => (frame.payload.drop (i * stride)).take stride

namespace TrackState

/-- The next chunk to encode; zero when there is none. -/
def chunk (track : TrackState) (drainAll : Bool) : ℕ :=
  let available := track.fifo.length
  if track.chunkSamples ≤ available then track.chunkSamples
  else if drainAll && 0 < available then available
  else 0

/-- The encoding loop; every pass takes samples from the fifo, so their number bounds the passes. -/
def encodeLoop (path : String) (index : ℕ) (drainAll : Bool) : ℕ → TrackState → Io → Bool × TrackState × Io
  | 0, track, io => (true, track, io)
  | fuel + 1, track, io =>
      let chunk := track.chunk drainAll
      if chunk = 0 then (true, track, io)
      else
        match io.calls 2 with
        | (false, io) => (false, track, io)
        | (true, io) =>
            let samples := track.fifo.take chunk
            let pts := track.nextPts
            let track := { track with fifo := track.fifo.drop chunk, nextPts := track.nextPts + chunk }
            match io.call with
            | (false, io) => (false, track, io)
            | (true, io) =>
                let track := { track with encoded := track.encoded ++ [⟨pts, samples⟩] }
                match Io.drainPackets io.disk path index io.answers with
                | (false, io) => (false, track, io)
                | (true, io) => encodeLoop path index drainAll fuel track io

def encodeBuffered (track : TrackState) (path : String) (index : ℕ) (drainAll : Bool) (io : Io) :
    Bool × TrackState × Io := encodeLoop path index drainAll track.fifo.length track io

/-- What `finalize` does to one track: encode the rest, send the end of the stream, drain. -/
def flush (track : TrackState) (path : String) (index : ℕ) (io : Io) : Bool × TrackState × Io :=
  match track.encodeBuffered path index true io with
  | (false, track, io) => (false, track, io)
  | (true, track, io) =>
      match io.call with
      | (false, io) => (false, track, io)
      | (true, io) =>
          let (drained, io) := Io.drainPackets io.disk path index io.answers
          (drained, track, io)

/-- The tracks from the given index on, until one fails. -/
def flushAll (path : String) : ℕ → List TrackState → Io → Bool × List TrackState × Io
  | _, [], io => (true, [], io)
  | index, track :: rest, io =>
      match track.flush path index io with
      | (false, track, io) => (false, track :: rest, io)
      | (true, track, io) =>
          let (flushed, rest, io) := flushAll path (index + 1) rest io
          (flushed, track :: rest, io)

end TrackState

namespace FfmpegRecordingWriter

def fail (writer : FfmpegRecordingWriter) (error : RecordingWriterError) : FfmpegRecordingWriter :=
  { writer with lastError := error, state := .failed }

/-- The track formats that `open` accepts. -/
def accepts (format : TrackFormat) : Bool :=
  format.format == .pcmS16Le && (0 < format.sampleRate && 1 ≤ format.channels && format.channels ≤ 8)

/-- Used when the encoder does not fix a frame size. -/
def kFallbackChunkSamples : ℕ := 4096

/-- A track as `openTrack` leaves it; `frameSize` is the encoder's choice. -/
def openTrack (frameSize : ℕ) : TrackState :=
  if fixed : 0 < frameSize then { chunkSamples := frameSize, chunk_pos := fixed }
  else { chunkSamples := kFallbackChunkSamples }

/-- FFmpeg calls made for each track by `openTrack`. -/
def openTrackCalls : ℕ := 9

def openPartial (writer : FfmpegRecordingWriter) (io : Io) : Except RecordingWriterError FfmpegRecordingWriter × Io :=
  match io.call with
  | (false, io) => (.error .openFailed, io)
  | (true, io) =>
      let io := { io with disk := io.disk.put writer.partialPath {} }
      match io.call with
      | (false, io) => (.error .openFailed, io)
      | (true, io) =>
          (.ok { writer with state := .opened },
            { io with disk := io.disk.update writer.partialPath fun file => { file with header := true } })

/-- `createRecordingWriter`: construct and open. -/
def create (config : RecordingWriterConfig) (frameSize : ℕ) (io : Io) :
    Except RecordingWriterError FfmpegRecordingWriter × Io :=
  if config.outputFile.isEmpty || config.tracks.isEmpty || !config.tracks.all (accepts ·.format) then
    (.error .invalidConfig, io)
  else
    -- The container context, every track, and the packet.
    match io.calls (1 + config.tracks.length * openTrackCalls + 1) with
    | (false, io) => (.error .openFailed, io)
    | (true, io) =>
        openPartial {
          config := config
          partialPath := config.outputFile ++ ".partial"
          tracks := config.tracks.map fun _ => openTrack frameSize
          stats := { samplesWrittenPerTrack := config.tracks.map fun _ => 0 } } io

/-- The frame has the format its track was opened with. -/
def matchesTrack (expected : TrackFormat) (frame : AudioFrame) : Bool :=
  frame.format == expected.format && frame.sampleRate == expected.sampleRate && frame.channels == expected.channels

/-- Put the samples on the track's fifo and encode full chunks. -/
def buffer (track : TrackState) (path : String) (index : ℕ) (frame : AudioFrame) (io : Io) :
    Bool × TrackState × Io :=
  -- The fifo counts samples in an `int`.
  let samples := int32 frame.sampleCountPerChannel
  if samples ≤ 0 then (true, track, io)
  else
    match io.call with
    | (false, io) => (false, track, io)
    | (true, io) =>
        ({ track with fifo := track.fifo ++ (samplesOfFrame frame).take samples.toNat } : TrackState).encodeBuffered
          path index false io

def write (writer : FfmpegRecordingWriter) (trackIndex : ℕ) (frame : AudioFrame) (io : Io) :
    Bool × FfmpegRecordingWriter × Io :=
  match writer.state, writer.config.tracks[trackIndex]?, writer.tracks[trackIndex]? with
  | .opened, some expected, some track =>
      if !matchesTrack expected.format frame then (false, { writer with lastError := .formatMismatch }, io)
      else
        let (buffered, track, io) := buffer track writer.partialPath trackIndex frame io
        let writer := { writer with tracks := writer.tracks.set trackIndex track }
        if !buffered then (false, writer.fail .writeFailed, io)
        else
          (true, { writer with stats := {
            framesWritten := writer.stats.framesWritten + 1
            samplesWrittenPerTrack := writer.stats.samplesWrittenPerTrack.modify trackIndex
              (· + toUint64 (int32 frame.sampleCountPerChannel)) } }, io)
  | _, _, _ => (false, { writer with lastError := .invalidState }, io)

/-- Release every handle. -/
def cleanup (writer : FfmpegRecordingWriter) : FfmpegRecordingWriter := { writer with tracks := [] }

/-- `renamed` is the answer of the file system to the final rename. -/
def finalize (writer : FfmpegRecordingWriter) (renamed : Bool) (io : Io) : Bool × FfmpegRecordingWriter × Io :=
  if writer.state ≠ .opened then (false, { writer with lastError := .invalidState }, io)
  else
    let (flushed, tracks, io) := TrackState.flushAll writer.partialPath 0 writer.tracks io
    let writer := { writer with tracks := tracks }
    if !flushed then (false, writer.fail .finalizeFailed, io)
    else
      match io.call with
      | (false, io) => (false, writer.fail .finalizeFailed, io)
      | (true, io) =>
          let io := { io with disk := io.disk.update writer.partialPath fun file => { file with trailer := true } }
          match io.call with
          | (false, io) => (false, writer.fail .finalizeFailed, io)
          | (true, io) =>
              if !renamed then (false, writer.fail .finalizeFailed, io)
              else
                (true, ({ writer with state := .finalized } : FfmpegRecordingWriter).cleanup,
                  { io with disk := io.disk.rename writer.partialPath writer.config.outputFile })

def abort (writer : FfmpegRecordingWriter) (io : Io) : FfmpegRecordingWriter × Io :=
  match writer.state with
  | .opened | .failed =>
      (({ writer with state := .aborted } : FfmpegRecordingWriter).cleanup,
        { io with disk := io.disk.remove writer.partialPath })
  | _ => (writer.cleanup, io)

end FfmpegRecordingWriter

end VoxMesh.Media
