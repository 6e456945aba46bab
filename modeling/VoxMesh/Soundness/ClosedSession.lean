import VoxMesh.Proofs.RecorderProgress
import VoxMesh.Soundness.EncodedSession
import VoxMesh.Soundness.FinishedFiles
import VoxMesh.Soundness.SavedRecording
import VoxMesh.Soundness.TranscribedSession

/-! # A recorder that is closed in a session

A session may be left by closing the recorder, and one that has failed is left in no other way. The destructor stops the
streams, drains what their rings hold into the writer, and joins the drain thread. The writer is not finalized: the
partial file stays, no other file changes, and if no write failed only the samples that make no full chunk are missing
from it (`destroyed_session_kept`).
-/

namespace VoxMesh.App

open VoxMesh.Audio VoxMesh.Media VoxMesh.Dsp Machine

namespace Recorder

variable {designLowPass : ℕ → ℚ → List ℚ} {outputDirectory : String}

/-- A resume of a paused recording finds a selection that suits the session, whether or not the streams open. -/
def ResumesSuited (recorder : Recorder) : Label → Prop
  | .operation (.resume _) _ => recorder.controller.session = .paused → recorder.SelectionSuits
  | _ => True

instance (recorder : Recorder) (label : Label) : Decidable (recorder.ResumesSuited label) :=
  match label with
  | .operation (.resume _) _ => inferInstanceAs (Decidable (_ → _))
  | .operation (.refreshDevices _) _ | .operation (.start _) _ | .operation (.pause _) _ | .operation (.stop _) _
  | .operation (.setSelectedMicrophone _) _ | .operation (.setSelectedSystemOutput _) _
  | .operation (.setOutputDirectory _) _ | .operation (.setSttEndpoint _) _ | .statsTick | .environment _ =>
      isTrue trivial

/-- Every session, also one that has failed, is on air for the devices selected at its start. -/
theorem onAir_of_run {labels : List Label} {last : Recorder}
    (run : Run (step designLowPass) (init outputDirectory) labels last)
    (suited : Along (step designLowPass) ResumesSuited (init outputDirectory) labels)
    (active : last.controller.session ≠ .idle) : ∃ selected stt, last.OnAir designLowPass selected stt := by
  have both := run.invariant_along (I := fun recorder => Reaches (step designLowPass) (init outputDirectory) recorder ∧
    (recorder.controller.session ≠ .idle → ∃ selected stt, recorder.OnAir designLowPass selected stt)) ?_ suited
      ⟨.refl _, fun active => absurd rfl active⟩
  · exact both.2 active
  rintro recorder label next ⟨reached, onAir⟩ suited taken
  refine ⟨reached.next taken, step_onAir reached onAir ?_ taken⟩
  rintro failures agenda rfl
  exact suited

end Recorder

/-- The writer writes to the given file, and no other file has changed. -/
def Confined (path : String) (before : Disk) (writer : FfmpegRecordingWriter) (disk : Disk) (_ : String) : Prop :=
  writer.partialPath = path ∧ ∀ other, other ≠ path → disk.find? other = before.find? other

theorem keptByWrite_confined (path : String) (before : Disk) : KeptByWrite (Confined path before) := by
  rintro writer io _ index frame ⟨rfl, elsewhere⟩
  refine ⟨(writer.write_sameFile index frame io).partialPath, fun other apart => ?_⟩
  exact ((writer.write_writes index frame io).elsewhere other apart).trans (elsewhere other apart)

/-- What a recorder has recorded and holds of it. -/
def Recorder.recording (recorder : Recorder) :
    (Option FfmpegRecordingWriter × Bool × (Track → ℤ) × String) × Disk × History :=
  ((recorder.controller.writer, recorder.controller.writerFailed, recorder.controller.writerTracks,
    recorder.controller.pendingOutputFile), recorder.disk, recorder.history)

namespace RecorderController

open Thread Ui Recorder

/-- Once the streams are stopped, nothing more is recorded. -/
theorem silence (before : Recorder) :
    Ensures (fun recorder => recorder.Quiet ∧ recorder.recording = before.recording)
      (do stopSttStreaming; set fun controller => { controller with drainStop := true }; joinDrainThread)
        fun _ recorder => (recorder.Quiet ∧ recorder.recording = before.recording ∧
          recorder.controller.sttProducer = none ∧ recorder.controller.sttClient = none) ∧ recorder.drain = .ended := by
  have stable := stable_quiet fun controller disk history => ((controller.writer, controller.writerFailed,
    controller.writerTracks, controller.pendingOutputFile), disk, history) = before.recording
  have silent := stable_quiet fun controller disk history => ((controller.writer, controller.writerFailed,
    controller.writerTracks, controller.pendingOutputFile), disk, history) = before.recording ∧
      controller.sttProducer = none ∧ controller.sttClient = none
  refine Ensures.bind (Q := fun _ recorder => recorder.Quiet ∧ recorder.recording = before.recording ∧
    recorder.controller.sttProducer = none ∧ recorder.controller.sttClient = none) ?_ fun _ => ?_
  · refine (Ensures.locked stable fun recorder holds _ => ?_).bind fun _ => set_ensures fun _ holds => holds
    exact ⟨holds.1, holds.2, rfl, rfl⟩
  · refine Ensures.bind (Q := fun _ recorder => recorder.Quiet ∧ recorder.recording = before.recording ∧
      recorder.controller.sttProducer = none ∧ recorder.controller.sttClient = none)
        (set_ensures fun _ holds => holds) fun _ => ?_
    exact Ensures.locked silent fun recorder holds ready => ⟨holds, eq_of_beq ready⟩

/-- A drain thread that is told to stop ends its round and its loop. -/
theorem drain_ends (recorder : Recorder) (told : recorder.controller.drainStop = true) :
    ∃ steps last, Run Recorder.environment recorder steps last ∧ (last.drain == .ended) = true ∧
      ∀ event ∈ steps, event.Granted := by
  obtain ⟨steps, freed, run, unlocked, granted⟩ := Recorder.frees recorder
  have own : freed.own = recorder.own :=
    run.invariant (I := fun seen => seen.own = recorder.own)
      (fun _ _ _ same taken => (environment_own taken).trans same) rfl
  cases outside : freed.drain with
  | draining track => simp [Recorder.unlocked, outside] at unlocked
  | ended => exact ⟨steps, freed, run, by rw [outside]; rfl, granted⟩
  | resting =>
    have still : freed.controller.drainStop = true := (congrArg RecorderController.drainStop own).trans told
    refine ⟨steps ++ [.leave], { freed with drain := .ended }, Run.snoc_iff.mpr ⟨freed, run, ?_⟩, rfl, ?_⟩
    · simp [Recorder.environment, Recorder.leave, outside, still]
    · exact List.forall_mem_append.mpr ⟨granted, by simp [Environment.Granted]⟩

theorem completes_destroy (drained : List FfmpegAnswer) : CanEnd (destroy drained) :=
  (completes_stopStreams drained).bind fun _ => completes_stopSttStreaming.bind fun _ =>
    Completes.update_await fun _ => drain_ends _ rfl

end RecorderController

namespace Recorder

open Thread Ui RecorderController

variable {designLowPass : ℕ → ℚ → List ℚ} {outputDirectory : String}

/-- The partial file of the session is kept and no other file has changed; what the rings had accepted has reached the
writer, unless a write failed. -/
structure KeepsPartial (last closed : Recorder) : Prop where
  elsewhere : ∀ path, path ≠ last.controller.pendingOutputFile ++ ".partial" →
    closed.disk.find? path = last.disk.find? path
  kept : ∃ writer, closed.controller.writer = some writer ∧
    closed.disk.Headed writer.config.tracks.length (last.controller.pendingOutputFile ++ ".partial") ∧
    (closed.controller.writerFailed = false → ∀ track,
      closed.history.handed (closed.controller.writerTracks track) =
        (closed.history.rings track).flatMap track.outputs ∧
      (FitsInt closed.history.entries → 0 ≤ closed.controller.writerTracks track →
        ∃ state, writer.tracks[(closed.controller.writerTracks track).toNat]? = some state ∧
          SentUpTo (closed.samplesMade track) state))

theorem KeepsPartial.congr {last closed middle : Recorder} (keeps : last.KeepsPartial middle)
    (same : closed.recording = middle.recording) : last.KeepsPartial closed := by
  simp only [Recorder.recording, Prod.mk.injEq] at same
  obtain ⟨⟨writer, failed, tracks, -⟩, disk, history⟩ := same
  have samples : closed.samplesMade = middle.samplesMade := by
    funext track
    rw [samplesMade, history, samplesMade]
  refine ⟨disk ▸ keeps.elsewhere, ?_⟩
  rw [writer, failed, tracks, disk, history, samples]
  exact keeps.kept

/-- Without streams and without the drain thread there is nobody left. -/
theorem environment_none {recorder : Recorder} (quiet : recorder.Quiet) (gone : recorder.drain = .ended)
    (event : Environment) : recorder.environment event = none := by
  cases event with
  | capture track frame => simp only [environment, capture, (quiet track).1]
  | captureOpening track frame => simp only [environment, captureOpening, (quiet track).2]
  | drain answers => simp only [environment, drainStep, gone]
  | leave => simp [environment, leave, gone]

/-- Stopping the streams keeps the partial file. -/
theorem stopStreams_keepsPartial {selected : Track → Bool} {stt : Option SttStreamConfig} {last : Recorder}
    (settled : last.outline.Settled) (onAir : last.OnAir designLowPass selected stt) (filed : Filed last)
    (current : Current last.core) (drained : List FfmpegAnswer) :
    Ensures (fun recorder => recorder = last) (RecorderController.stopStreams drained) fun _ recorder =>
      recorder.Quiet ∧ last.KeepsPartial recorder := by
  rintro ⟨last, agenda⟩ result ⟨closed, rest⟩ outcome rfl
  have shows := stopStreams_shows (o := last.outline) drained _ result _ outcome rfl
  have quiet : closed.Quiet := quiet_of_shows shows (fun _ => rfl) settled.opening
  have targeted : closed.Targeted selected stt :=
    Targeted.steady.stopStreams settled.opening drained _ result _ outcome ⟨rfl, onAir.targeted⟩
  have filed := Filed.sustained.toSteady.stopStreams settled.opening drained _ result _ outcome ⟨rfl, filed⟩
  have current := Current.lasting.stopStreams Current.lasting.closePipelines drained _ result _ outcome current
  have confined := (Writing.sustained (keptByWrite_confined (last.controller.pendingOutputFile ++ ".partial")
    last.disk)).toSteady.stopStreams settled.opening drained _ result _ outcome
      ⟨rfl, fun writer isOpen => ⟨(onAir.targeted.balanced.file writer isOpen).partialPath, fun _ _ => rfl⟩⟩
  obtain ⟨config, isConfig, -⟩ := Option.map_eq_some_iff.mp targeted.chosen.tracks
  obtain ⟨writer, isOpen, rfl⟩ := Option.map_eq_some_iff.mp isConfig
  obtain ⟨path, elsewhere⟩ := confined writer isOpen
  refine ⟨quiet, elsewhere, writer, isOpen, path ▸ (filed writer isOpen).1.headed, fun working track => ⟨?_, ?_⟩⟩
  · exact ((targeted.balanced.written writer isOpen working).handed track).trans
      (made_of_quiet targeted.balanced quiet track)
  · exact fun small numbered => targeted.sentUpTo current isOpen working small numbered

/-- However a session stands, also when it has failed, its recorder can be closed: the destructor returns if the drain
thread is let run, with that thread at its end. It leaves no stream and no transcription, nothing that another thread
could still do, and keeps the partial file with everything that the rings had accepted and the encoders got, and every
other file as it was. -/
theorem destroyed_session_kept (designLowPass : ℕ → ℚ → List ℚ) (outputDirectory : String) (labels : List Label)
    (last : Recorder) (run : Run (step designLowPass) (init outputDirectory) labels last)
    (suited : Along (step designLowPass) ResumesSuited (init outputDirectory) labels)
    (active : last.controller.session ≠ .idle) (drained : List FfmpegAnswer) :
    (∃ agenda closed, (RecorderController.destroy drained).run agenda last = some ((), closed)) ∧
      ∀ agenda closed, (RecorderController.destroy drained).run agenda last = some ((), closed) →
        closed.Quiet ∧ closed.drain = .ended ∧ (∀ event, closed.environment event = none) ∧
          closed.controller.sttProducer = none ∧ closed.controller.sttClient = none ∧ last.KeepsPartial closed := by
  have settled := run_settled run (settled_init outputDirectory)
  obtain ⟨selected, stt, onAir⟩ := onAir_of_run run suited active
  have filed : Filed last := (run.invariant (I := fun recorder => recorder.outline.Settled ∧ Filed recorder)
    (fun _ _ _ holds taken => ⟨(step_settled holds.1 taken).1, holds.2.step holds.1 taken⟩)
      ⟨settled_init outputDirectory, nofun⟩).2
  refine ⟨?_, fun agenda closed ended => ?_⟩
  · obtain ⟨agenda, ⟨⟩, closed, -, ended⟩ := (completes_destroy drained).run last
    exact ⟨agenda, closed, ended⟩
  obtain ⟨⟨result, view⟩, ended, same⟩ := Option.map_eq_some_iff.mp ended
  obtain ⟨⟨⟩, middle, stopped, silenced⟩ := bind_eq_some.mp ended
  obtain ⟨quiet, keeps⟩ :=
    stopStreams_keepsPartial settled onAir filed (current_of_run run) drained _ _ _ stopped rfl
  obtain ⟨⟨quiet, recording, producer, client⟩, gone⟩ := silence middle.shared _ _ _ silenced ⟨quiet, rfl⟩
  obtain rfl : view.shared = closed := congrArg Prod.snd same
  exact ⟨quiet, gone, environment_none quiet gone, producer, client, keeps.congr recording⟩

private def halfChunk : AudioFrame where
  sampleRate := 48000
  channels := 1
  payload := List.replicate 12 1

/-- The resume fails for the system output, and the microphone's stream goes on. -/
private def failedSession : List Label :=
  [.operation (.start { devices := bothDevices, file := { frameSize := 4 } }) [],
    .environment (.capture .microphone halfChunk)] ++ List.replicate 4 (.environment (.drain [])) ++
  [.operation (.pause []) [], .operation (.resume fun track =>
    if track = .systemOutput then some .deviceUnavailable else none) [],
    .environment (.capture .microphone halfChunk)]

/-- The drain thread begins another round before it finds that it is to stop. -/
private def joins : List (List Environment) := [[], [], [], [], [.drain [], .drain [], .drain [], .leave]]

/-- Of the twelve samples, the encoder gets three chunks of four, the last when the recorder is closed. -/
theorem destroyed_session_kept_failed : ∃ last closed,
    Run (step fun _ _ => []) (init "recordings") failedSession last ∧ last.controller.session = .failed ∧
      (RecorderController.destroy []).run joins last = some ((), closed) ∧ last.KeepsPartial closed ∧
      (last.history.writes.length, closed.history.writes.length) = (1, 2) ∧
      (closed.controller.writer.bind (·.tracks[0]?)).map (fun state => (state.encoded.length, state.fifo.length)) =
        some (3, 0) := by
  have outcome : (exec (step fun _ _ => []) (init "recordings") failedSession).bind (fun last =>
      ((RecorderController.destroy []).run joins last).map fun (_, closed) =>
        (last.controller.session, (last.history.writes.length, closed.history.writes.length),
          (closed.controller.writer.bind (·.tracks[0]?)).map fun state => (state.encoded.length, state.fifo.length))) =
      some (.failed, (1, 2), some (3, 0)) := by decide +kernel
  have suited : Along (step fun _ _ => []) ResumesSuited (init "recordings") failedSession := by decide +kernel
  obtain ⟨last, run, ended⟩ := Option.bind_eq_some_iff.mp outcome
  obtain ⟨⟨⟨⟩, closed⟩, ended, facts⟩ := Option.map_eq_some_iff.mp ended
  simp only [Prod.mk.injEq] at facts
  obtain ⟨failed, written, encoded⟩ := facts
  have kept := (destroyed_session_kept (fun _ _ => []) "recordings" failedSession last run suited (by simp [failed])
    []).2 joins closed ended
  exact ⟨last, closed, run, failed, ended, kept.2.2.2.2.2, Prod.ext written.1 written.2, encoded⟩

end Recorder

end VoxMesh.App
