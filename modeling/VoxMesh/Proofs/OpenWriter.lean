import VoxMesh.Proofs.StreamOperations

/-! # The open writer and its files

While a session lasts, its writer and the files change only where frames are written. What every call of `write` keeps
of the writer and the files is `Sustained`.
-/

namespace VoxMesh.App

open VoxMesh.Audio VoxMesh.Media VoxMesh.Dsp Machine Recorder

/-- The assertion holds of the open writer, the files and the path of the recording. -/
def Writing (K : FfmpegRecordingWriter → Disk → String → Prop) (recorder : Recorder) : Prop :=
  ∀ writer, recorder.controller.writer = some writer → K writer recorder.disk recorder.controller.pendingOutputFile

/-- A call of `write` keeps the assertion, whatever it answers. -/
def KeptByWrite (K : FfmpegRecordingWriter → Disk → String → Prop) : Prop :=
  ∀ (writer : FfmpegRecordingWriter) (io : Io) (path : String) (index : ℕ) (frame : AudioFrame), K writer io.disk path →
    K (writer.write index frame io).2.1 (writer.write index frame io).2.2.disk path

variable {K : FfmpegRecordingWriter → Disk → String → Prop}

/-- So do frames written one after the other. -/
theorem KeptByWrite.writeAll (keeps : KeptByWrite K) {writer : FfmpegRecordingWriter} {io : Io} {path : String}
    (index : ℕ) (outputs : List AlignedFrame) (holds : K writer io.disk path) :
    K (App.writeAll index writer outputs io).2.1 (App.writeAll index writer outputs io).2.2.1.disk path := by
  induction outputs generalizing writer io with
  | nil => exact holds
  | cons output rest ih =>
    have written := keeps writer io path index output.frame holds
    rw [App.writeAll]
    split
    next failed =>
      rw [failed] at written
      exact written
    next passed =>
      rw [passed] at written
      exact ih written

namespace Writing

variable {recorder next : Recorder}

theorem congr (writing : Writing K recorder) (writer : ∀ new, next.controller.writer = some new →
    recorder.controller.writer = some new) (disk : next.disk = recorder.disk)
    (pending : next.controller.pendingOutputFile = recorder.controller.pendingOutputFile) : Writing K next := by
  intro new present
  rw [disk, pending]
  exact writing new (writer new present)

theorem keptByPasses (keeps : KeptByWrite K) : Recorder.KeptByPasses (Writing K) := by
  intro recorder next track answers rest passed writing
  obtain ⟨pipeline, frame, present, -, same⟩ := drainFrame_eq_some passed
  have uploaded : Writing K ((recorder.popFrame track (Recorder.aligned pipeline frame) frame
      (pipeline.synchronizer.process .machine frame).2).uploadAligned pipeline.feedsSttStream
        (pipeline.synchronizer.process .machine frame).2) := by
    unfold Recorder.uploadAligned
    split <;> exact writing.congr (fun _ present => present) rfl rfl
  obtain rfl := congrArg Prod.fst same
  rw [writeAligned]
  split
  next => exact uploaded
  next writer held =>
    split
    next => exact uploaded
    next =>
      rintro new ⟨⟩
      exact keeps.writeAll _ _ (uploaded writer held)

theorem stable (keeps : KeptByWrite K) : Thread.Stable environment (Writing K) := by
  refine (keptByPasses keeps).stable (fun captured writing => ?_) (fun captured writing => ?_)
    fun _ _ writing => writing
  · obtain ⟨pipeline, -, -, rfl⟩ := capture_eq_some captured
    exact writing.congr (fun _ present => present) rfl rfl
  · obtain ⟨line, -, rfl⟩ := captureOpening_eq_some captured
    exact writing.congr (fun _ present => present) rfl rfl

theorem stopStream (writing : Writing K recorder) (track : Track) : Writing K (recorder.stopStream track) := by
  rw [Recorder.stopStream]
  split
  next => exact writing
  next => exact writing.congr (fun _ present => present) rfl rfl

theorem dropPipelines (keeps : KeptByWrite K) (writing : Writing K recorder) (drained : List FfmpegAnswer) :
    Writing K (recorder.dropPipelines drained) := by
  obtain ⟨last, same, writing, -, -⟩ := (keptByPasses keeps).dropPipelines writing drained
  rw [same]
  exact writing.congr (fun _ present => present) rfl rfl

theorem sustained (keeps : KeptByWrite K) : Sustained (Writing K) where
  stable := stable keeps
  outside recorder change core _ pending writing :=
    writing.congr (fun _ present => (congrArg Core.writer core).symm.trans present) (congrArg Core.disk core) pending
  register recorder track feeds writing := by
    rw [Recorder.register]
    split
    next => exact writing
    next => exact writing.congr (fun _ present => present) rfl rfl
  stopStream _ track writing := writing.stopStream track
  dropPipelines drained _ writing := writing.dropPipelines keeps drained

theorem opens (o : Outline) : OpensStreams o (Writing K) :=
  fun _ _ _ _ _ _ writing => writing.congr (fun _ present => present) rfl rfl

end Writing

end VoxMesh.App
