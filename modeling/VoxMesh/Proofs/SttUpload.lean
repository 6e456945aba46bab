import VoxMesh.Proofs.RecorderCore
import VoxMesh.Proofs.SttStreamProducer

/-! # What the recorder uploads

While the transcription stream is on, the frames handed to the client are the outputs of one producer for all
aligned frames it was fed since `startSttStreaming`. `Uploads` says so of the core, and it is enduring: the
producer's history survives the pipelines.
-/

namespace VoxMesh.App

open VoxMesh.Audio VoxMesh.Media VoxMesh.Dsp Machine

/-- Feeding aligned frames is a run of the producer. -/
theorem feedStt_run (producer : SttStreamProducer) (client : SttClient) (outputs : List AlignedFrame) :
    feedStt producer client outputs = ((producer.run (outputs.map (·.frame))).1,
      { client with frames := client.frames ++ (producer.run (outputs.map (·.frame))).2 }) := by
  induction outputs generalizing producer client with
  | nil => simp [feedStt, SttStreamProducer.run]
  | cons output rest ih => simp [feedStt, SttStreamProducer.run, ih, List.append_assoc]

namespace Recorder

variable {recorder next : Recorder} {track : Track}

/-- The aligned frames pass the transcription stream by, or the producer and the client take them. -/
theorem uploadAligned_cases (recorder : Recorder) (feeds : Bool) (outputs : List AlignedFrame) :
    (recorder.uploadAligned feeds outputs = recorder ∧ ∀ producer client, feeds = true →
      recorder.controller.sttProducer = some producer → recorder.controller.sttClient ≠ some client) ∨
    ∃ producer client, feeds = true ∧ recorder.controller.sttProducer = some producer ∧
      recorder.controller.sttClient = some client ∧
      recorder.uploadAligned feeds outputs = { recorder with
        controller.sttProducer := some (producer.run (outputs.map (·.frame))).1
        controller.sttClient :=
          some { client with frames := client.frames ++ (producer.run (outputs.map (·.frame))).2 } } := by
  unfold uploadAligned
  split
  next producer client hasProducer hasClient =>
    exact .inr ⟨producer, client, rfl, hasProducer, hasClient, by rw [feedStt_run]⟩
  next absent =>
    refine .inl ⟨rfl, ?_⟩
    rintro producer client rfl hasProducer hasClient
    exact absent producer client rfl hasProducer hasClient

/-- The writer's part of a pass touches neither streams nor the transcription stream. -/
theorem writeAligned_core (recorder : Recorder) (writerTrack : ℤ) (aligned : List AlignedFrame)
    (answers : List FfmpegAnswer) : ∃ disk writer writerFailed writes,
    (recorder.writeAligned writerTrack aligned answers).1.core = { recorder.core with
      disk := disk, writer := writer, writerFailed := writerFailed
      history := { recorder.history with writes := writes } } := by
  rw [writeAligned]
  split
  next => exact ⟨_, _, _, _, rfl⟩
  next =>
    split
    next => exact ⟨_, _, _, _, rfl⟩
    next => exact ⟨_, _, _, _, rfl⟩

/-- What a pass of the drain loop does to the core. -/
theorem drainFrame_core {answers rest : List FfmpegAnswer}
    (passed : recorder.drainFrame track answers = some (next, rest)) :
    ∃ pipeline frame disk writer writerFailed writes producer client,
      recorder.controller.pipelines track = some pipeline ∧ pipeline.buffer.tryPop.1 = some frame ∧
      next.core = {
        disk := disk
        opening := recorder.opening
        history := { (recorder.history.pop track frame).feed pipeline.feedsSttStream
          (pipeline.synchronizer.process .machine frame).2 with writes := writes }
        pipelines := Function.update recorder.controller.pipelines track (some (aligned pipeline frame))
        writer := writer
        writerFailed := writerFailed
        sttProducer := producer
        sttClient := client } ∧
      ((producer = recorder.controller.sttProducer ∧ client = recorder.controller.sttClient ∧
          ∀ before uploads, pipeline.feedsSttStream = true → recorder.controller.sttProducer = some before →
            recorder.controller.sttClient ≠ some uploads) ∨
        ∃ before uploads, pipeline.feedsSttStream = true ∧ recorder.controller.sttProducer = some before ∧
          recorder.controller.sttClient = some uploads ∧
          let fed := (pipeline.synchronizer.process .machine frame).2.map (·.frame)
          producer = some (before.run fed).1 ∧
            client = some { uploads with frames := uploads.frames ++ (before.run fed).2 }) := by
  obtain ⟨pipeline, frame, present, popped, same⟩ := drainFrame_eq_some passed
  obtain ⟨disk, writer, writerFailed, writes, written⟩ := writeAligned_core ((recorder.popFrame track
    (aligned pipeline frame) frame (pipeline.synchronizer.process .machine frame).2).uploadAligned
      pipeline.feedsSttStream (pipeline.synchronizer.process .machine frame).2) pipeline.writerTrack
        (pipeline.synchronizer.process .machine frame).2 answers
  rw [same] at written
  rcases uploadAligned_cases (recorder.popFrame track (aligned pipeline frame) frame
    (pipeline.synchronizer.process .machine frame).2) pipeline.feedsSttStream
      (pipeline.synchronizer.process .machine frame).2 with
    ⟨unfed, off⟩ | ⟨before, uploads, feeds, hasProducer, hasClient, fed⟩
  · rw [unfed] at written
    exact ⟨pipeline, frame, _, _, _, _, _, _, present, popped, written, .inl ⟨rfl, rfl, off⟩⟩
  · rw [fed] at written
    exact ⟨pipeline, frame, _, _, _, _, _, _, present, popped, written,
      .inr ⟨before, uploads, feeds, hasProducer, hasClient, rfl, rfl⟩⟩

end Recorder

/-- What the client was given is what a producer releases for the frames it was fed. -/
def Uploads (core : Core) : Prop := ∀ producer client, core.sttProducer = some producer →
  core.sttClient = some client → ∃ (start : SttStreamProducer) (fed : List AudioFrame),
    0 < start.samplesPerOutputFrame ∧ start.Produces fed producer client.frames

namespace Uploads

theorem drainFrame {recorder next : Recorder} {track : Track} {answers rest : List FfmpegAnswer}
    (passed : recorder.drainFrame track answers = some (next, rest)) (uploads : Uploads recorder.core) :
    Uploads next.core := by
  obtain ⟨pipeline, frame, _, _, _, _, _, _, -, -, same, outcome⟩ := Recorder.drainFrame_core passed
  rw [same]
  rcases outcome with ⟨rfl, rfl, -⟩ | ⟨before, client, -, hasProducer, hasClient, rfl, rfl⟩
  · exact uploads
  · obtain ⟨start, fed, size, produces⟩ := uploads before client hasProducer hasClient
    rintro _ _ ⟨⟩ ⟨⟩
    exact ⟨start, _, size, SttStreamProducer.run_produces size produces _⟩

/-- The transcription stream goes on across everything but its own start and stop. -/
theorem enduring : Enduring Uploads where
  disk _ _ uploads := uploads
  installWriter _ _ uploads := uploads
  capture captured uploads := by
    obtain ⟨pipeline, -, -, rfl⟩ := Recorder.capture_eq_some captured
    exact uploads
  captureOpening captured uploads := by
    obtain ⟨line, -, rfl⟩ := Recorder.captureOpening_eq_some captured
    exact uploads
  drainFrame passed uploads := uploads.drainFrame passed
  closePipelines _ _ uploads := uploads
  openStream _ _ uploads := uploads
  register recorder track feeds uploads := by
    rw [Recorder.register]
    split <;> exact uploads
  stopStream recorder track uploads := by
    rw [Recorder.stopStream]
    split <;> exact uploads
  abortWriter recorder uploads := by
    unfold Recorder.abortWriter
    split <;> exact uploads
  finishWriter recorder finalized renamed uploads := by
    unfold Recorder.finishWriter Recorder.abortWriter
    repeat' split
    all_goals exact uploads
  installStt recorder _ _ _ endpoint sessionId created _ := by
    have created := SttStreamProducer.created_of_create created
    rintro _ _ ⟨⟩ ⟨⟩
    exact ⟨_, [], created.size, created.produces⟩
  removeStt _ _ := nofun

end Uploads

end VoxMesh.App
