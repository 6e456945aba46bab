import VoxMesh.Model.RecorderController
import VoxMesh.Proofs.RecordingWriter
import VoxMesh.Proofs.RingBuffer

/-! # What the other threads leave alone

The outline of a recorder keeps, of everything that the operations decide on, what only the UI thread
changes: whether pipelines, a writer and a transcription client exist and how they are configured, but not
what flows through them. No step of a capture thread or of the drain thread changes it, so an assertion
about the outline stays true at every yield.
-/

namespace VoxMesh.Dsp.SttStreamProducer

open VoxMesh.Audio

theorem emitAll_config (anchor : ℤ) (fuel : ℕ) (producer : SttStreamProducer) :
    (emitAll anchor fuel producer).1.config = producer.config := by
  induction fuel generalizing producer with
  | zero => rfl
  | succ fuel ih =>
    rw [emitAll]
    split
    next => rfl
    next => exact ih _

@[simp] theorem process_config (producer : SttStreamProducer) (frame : AudioFrame) :
    (producer.process frame).1.config = producer.config := by
  rw [process]
  split
  next => rfl
  next =>
    refine (emitAll_config _ _ _).trans ?_
    change (producer.receive frame).config = producer.config
    rw [receive]
    split <;> rfl

end VoxMesh.Dsp.SttStreamProducer

namespace VoxMesh.App

open VoxMesh.Audio VoxMesh.Media VoxMesh.Dsp Machine

@[simp] theorem feedStt_config (producer : SttStreamProducer) (client : SttClient) (outputs : List AlignedFrame) :
    (feedStt producer client outputs).1.config = producer.config := by
  induction outputs generalizing producer client with
  | nil => rfl
  | cons output rest ih => exact (ih _ _).trans (producer.process_config output.frame)

/-- Writing several frames touches the same file throughout. -/
theorem writeAll_sameFile (index : ℕ) (writer : FfmpegRecordingWriter) (outputs : List AlignedFrame) (io : Io) :
    writer.SameFile (writeAll index writer outputs io).2.1 ∧
      io.disk.Writes writer.partialPath (writeAll index writer outputs io).2.2.1.disk := by
  induction outputs generalizing writer io with
  | nil => exact ⟨.refl writer, .refl _ _⟩
  | cons output rest ih =>
    have same := writer.write_sameFile index output.frame io
    have grown := writer.write_writes index output.frame io
    rw [writeAll]
    split
    next failed =>
      rw [failed] at same grown
      exact ⟨same, grown⟩
    next writer' io' passed =>
      rw [passed] at same grown
      obtain ⟨later, more⟩ := ih writer' io'
      rw [show writer'.partialPath = writer.partialPath from same.partialPath] at more
      exact ⟨same.trans later, grown.trans more⟩

/-- On success all frames were handed over, one after the other, to an open writer. -/
theorem writeAll_succeeds {index : ℕ} {writer : FfmpegRecordingWriter} {outputs : List AlignedFrame} {io : Io}
    (opened : writer.state = .opened) (written : (writeAll index writer outputs io).1 = true) :
    (writeAll index writer outputs io).2.1.state = .opened ∧
      (writeAll index writer outputs io).2.1.stats.framesWritten = writer.stats.framesWritten + outputs.length ∧
      (writeAll index writer outputs io).2.2.2 = outputs := by
  induction outputs generalizing writer io with
  | nil => exact ⟨opened, rfl, rfl⟩
  | cons output rest ih =>
    have first := writer.write_succeeds index output.frame io
    rw [writeAll] at written ⊢
    split at written
    next => contradiction
    next writer' io' passed =>
      rw [passed] at first
      obtain ⟨still, counted⟩ := first rfl
      obtain ⟨last, count, handed⟩ := ih still written
      refine ⟨last, ?_, congrArg (output :: ·) handed⟩
      rw [List.length_cons, Nat.add_comm rest.length, ← Nat.add_assoc]
      exact count.trans (congrArg (· + rest.length) counted)

/-- How a pipeline is set up. -/
structure PipelineOutline where
  running : Bool
  writerTrack : ℤ
  feedsSttStream : Bool
deriving DecidableEq

def TrackPipeline.outline (pipeline : TrackPipeline) : PipelineOutline :=
  ⟨pipeline.running, pipeline.writerTrack, pipeline.feedsSttStream⟩

/-- The part of a recorder that only the UI thread changes. -/
@[ext] structure Outline where
  session : SessionState
  devices : Track → List AudioDeviceInfo
  selected : Track → ℤ
  pipelines : Track → Option PipelineOutline
  /-- Whether the stream that is being opened runs. -/
  opening : Track → Option Bool
  writer : Option RecordingWriterConfig
  sttProducer : Option SttStreamConfig
  sttClient : Bool
  pendingOutputFile : String
  writerTracks : Track → ℤ

namespace Recorder

def outline (recorder : Recorder) : Outline where
  session := recorder.controller.session
  devices := recorder.controller.devices
  selected := recorder.controller.selected
  pipelines track := (recorder.controller.pipelines track).map (·.outline)
  opening track := (recorder.opening track).map (·.running)
  writer := recorder.controller.writer.map (·.config)
  sttProducer := recorder.controller.sttProducer.map (·.config)
  sttClient := recorder.controller.sttClient.isSome
  pendingOutputFile := recorder.controller.pendingOutputFile
  writerTracks := recorder.controller.writerTracks

/-- Whatever is read off each track's value is updated where the value is. -/
private theorem map_update {α β : Type} (read : α → β) (values : Track → α) (track : Track) (value : α) :
    (fun other => read (Function.update values track value other)) =
      Function.update (fun other => read (values other)) track (read value) := by
  funext other
  rcases eq_or_ne other track with rfl | apart
  · rw [Function.update_self, Function.update_self]
  · rw [Function.update_of_ne apart, Function.update_of_ne apart]

theorem setPipeline_shows (recorder : Recorder) (track : Track) (pipeline : TrackPipeline) :
    (recorder.setPipeline track pipeline).outline = { recorder.outline with
      pipelines := Function.update recorder.outline.pipelines track (some pipeline.outline) } :=
  Outline.ext rfl rfl rfl (map_update (Option.map TrackPipeline.outline) _ _ _) rfl rfl rfl rfl rfl rfl

theorem setOpening_shows (recorder : Recorder) (track : Track) (line : Option CaptureLine) :
    outline { recorder with opening := Function.update recorder.opening track line } = { recorder.outline with
      opening := Function.update recorder.outline.opening track (line.map (·.running)) } :=
  Outline.ext rfl rfl rfl rfl (map_update (Option.map CaptureLine.running) _ _ _) rfl rfl rfl rfl rfl

/-- Replacing a pipeline by one that is set up the same. -/
theorem setPipeline_outline {recorder : Recorder} {track : Track} {old new : TrackPipeline}
    (present : recorder.controller.pipelines track = some old) (same : new.outline = old.outline) :
    (recorder.setPipeline track new).outline = recorder.outline := by
  have unchanged : Function.update recorder.outline.pipelines track (some new.outline) =
      recorder.outline.pipelines := by
    rw [Function.update_eq_self_iff, same]
    exact (congrArg (Option.map TrackPipeline.outline) present).symm
  rw [setPipeline_shows, unchanged]

theorem uploadAligned_outline (recorder : Recorder) (feeds : Bool) (aligned : List AlignedFrame) :
    (recorder.uploadAligned feeds aligned).outline = recorder.outline := by
  unfold uploadAligned
  split
  next producer client hasProducer hasClient => simp [outline, hasProducer, hasClient]
  next => rfl

theorem writeAligned_outline (recorder : Recorder) (writerTrack : ℤ) (aligned : List AlignedFrame)
    (answers : List FfmpegAnswer) :
    (recorder.writeAligned writerTrack aligned answers).1.outline = recorder.outline := by
  rw [writeAligned]
  split
  next => rfl
  next writer present =>
    split
    next => rfl
    next =>
      have same := (writeAll_sameFile writerTrack.toNat writer aligned ⟨recorder.disk, answers⟩).1.config
      simp [outline, present, same]

theorem capture_eq_some {recorder next : Recorder} {track : Track} {frame : AudioFrame}
    (captured : recorder.capture track frame = some next) :
    ∃ pipeline, recorder.controller.pipelines track = some pipeline ∧ pipeline.running = true ∧
      next = { recorder.setPipeline track { pipeline with toCaptureLine := (pipeline.onFrame frame).2 } with
        history := recorder.history.offer track frame (pipeline.onFrame frame).1
        rejections := recorder.rejections.offer (pipeline.onFrame frame).1 } := by
  rw [capture] at captured
  split at captured
  next => contradiction
  next pipeline present =>
    split at captured
    next => contradiction
    next running => exact ⟨pipeline, present, by simpa using running, (Option.some.inj captured).symm⟩

theorem captureOpening_eq_some {recorder next : Recorder} {track : Track} {frame : AudioFrame}
    (captured : recorder.captureOpening track frame = some next) :
    ∃ line, recorder.opening track = some line ∧
      next = { recorder with
        opening := Function.update recorder.opening track (some (line.onFrame frame).2)
        history := recorder.history.offer track frame (line.onFrame frame).1
        rejections := recorder.rejections.offer (line.onFrame frame).1 } := by
  rw [captureOpening] at captured
  split at captured
  next => contradiction
  next line present => exact ⟨line, present, (Option.some.inj captured).symm⟩

/-- The pipeline once the frame at the front of its ring is aligned. -/
def aligned (pipeline : TrackPipeline) (frame : AudioFrame) : TrackPipeline :=
  { pipeline with
    buffer := pipeline.buffer.tryPop.2
    synchronizer := (pipeline.synchronizer.process .machine frame).1 }

/-- The drain pass, taken apart. -/
theorem drainFrame_eq_some {recorder next : Recorder} {track : Track} {answers rest : List FfmpegAnswer}
    (passed : recorder.drainFrame track answers = some (next, rest)) :
    ∃ pipeline frame, recorder.controller.pipelines track = some pipeline ∧
      pipeline.buffer.tryPop.1 = some frame ∧
      ((recorder.popFrame track (aligned pipeline frame) frame
          (pipeline.synchronizer.process .machine frame).2).uploadAligned pipeline.feedsSttStream
            (pipeline.synchronizer.process .machine frame).2).writeAligned pipeline.writerTrack
              (pipeline.synchronizer.process .machine frame).2 answers = (next, rest) := by
  rw [drainFrame] at passed
  split at passed
  next => contradiction
  next pipeline present =>
    refine ⟨pipeline, ?_⟩
    unfold aligned
    rcases popped : pipeline.buffer.tryPop with ⟨_ | frame, buffer⟩
    · rw [popped] at passed
      contradiction
    · rw [popped] at passed
      exact ⟨frame, present, rfl, Option.some.inj passed⟩

theorem drainFrame_outline {recorder next : Recorder} {track : Track} {answers rest : List FfmpegAnswer}
    (passed : recorder.drainFrame track answers = some (next, rest)) : next.outline = recorder.outline := by
  obtain ⟨pipeline, frame, present, _, same⟩ := drainFrame_eq_some passed
  calc next.outline
    _ = _ := congrArg (·.1.outline) same.symm
    _ = _ := writeAligned_outline ..
    _ = _ := uploadAligned_outline ..
    _ = recorder.outline := setPipeline_outline present rfl

/-- The controller without what the other threads touch. -/
def own (recorder : Recorder) : RecorderController :=
  { recorder.controller with
    pipelines := fun _ => none
    writer := none
    writerFailed := false
    sttProducer := none
    sttClient := none
    framesCaptured := 0 }

theorem drainFrame_own {recorder next : Recorder} {track : Track} {answers rest : List FfmpegAnswer}
    (passed : recorder.drainFrame track answers = some (next, rest)) : next.own = recorder.own := by
  obtain ⟨pipeline, frame, -, -, same⟩ := drainFrame_eq_some passed
  have uploaded (recorder : Recorder) (feeds : Bool) (aligned : List AlignedFrame) :
      (recorder.uploadAligned feeds aligned).own = recorder.own := by
    unfold uploadAligned
    split <;> rfl
  have written (recorder : Recorder) (target : ℤ) (aligned : List AlignedFrame) (answers : List FfmpegAnswer) :
      (recorder.writeAligned target aligned answers).1.own = recorder.own := by
    rw [writeAligned]
    split
    next => rfl
    next => split <;> rfl
  calc next.own
    _ = _ := congrArg (·.1.own) same.symm
    _ = _ := written ..
    _ = _ := uploaded ..

theorem uploadAligned_pipelines (recorder : Recorder) (feeds : Bool) (aligned : List AlignedFrame) :
    (recorder.uploadAligned feeds aligned).controller.pipelines = recorder.controller.pipelines ∧
      (recorder.uploadAligned feeds aligned).drain = recorder.drain := by
  unfold uploadAligned
  split <;> exact ⟨rfl, rfl⟩

theorem writeAligned_pipelines (recorder : Recorder) (writerTrack : ℤ) (aligned : List AlignedFrame)
    (answers : List FfmpegAnswer) :
    (recorder.writeAligned writerTrack aligned answers).1.controller.pipelines = recorder.controller.pipelines ∧
      (recorder.writeAligned writerTrack aligned answers).1.drain = recorder.drain := by
  rw [writeAligned]
  split
  next => exact ⟨rfl, rfl⟩
  next => split <;> exact ⟨rfl, rfl⟩

/-- A pass of the drain loop touches one pipeline and not the lock. -/
theorem drainFrame_pipelines {recorder next : Recorder} {track : Track} {answers rest : List FfmpegAnswer}
    (passed : recorder.drainFrame track answers = some (next, rest)) :
    ∃ pipeline frame, recorder.controller.pipelines track = some pipeline ∧ pipeline.buffer.tryPop.1 = some frame ∧
      next.controller.pipelines =
        Function.update recorder.controller.pipelines track (some (aligned pipeline frame)) ∧
      next.drain = recorder.drain := by
  obtain ⟨pipeline, frame, present, popped, same⟩ := drainFrame_eq_some passed
  have written := writeAligned_pipelines ((recorder.popFrame track (aligned pipeline frame) frame
    (pipeline.synchronizer.process .machine frame).2).uploadAligned pipeline.feedsSttStream
      (pipeline.synchronizer.process .machine frame).2) pipeline.writerTrack
        (pipeline.synchronizer.process .machine frame).2 answers
  rw [same] at written
  have uploaded := uploadAligned_pipelines (recorder.popFrame track (aligned pipeline frame) frame
    (pipeline.synchronizer.process .machine frame).2) pipeline.feedsSttStream
      (pipeline.synchronizer.process .machine frame).2
  exact ⟨pipeline, frame, present, popped, written.1.trans uploaded.1, written.2.trans uploaded.2⟩

/-- A pass of the drain loop leaves one frame less in the ring. -/
theorem waiting_drainFrame {recorder next : Recorder} {track : Track} {answers rest : List FfmpegAnswer}
    (passed : recorder.drainFrame track answers = some (next, rest)) :
    next.waiting track + 1 = recorder.waiting track := by
  obtain ⟨pipeline, frame, present, popped, pipelines, -⟩ := drainFrame_pipelines passed
  rw [waiting, waiting, pipelines, Function.update_self, present]
  exact SpscRingBuffer.size_tryPop (popped ▸ rfl)

theorem waiting_of_drainFrame_none {recorder : Recorder} {track : Track} {answers : List FfmpegAnswer}
    (ended : recorder.drainFrame track answers = none) : recorder.waiting track = 0 := by
  rw [drainFrame] at ended
  rw [waiting]
  split at ended
  next none => rw [none]; rfl
  next pipeline present =>
    rw [present]
    split at ended
    next buffer popped => exact SpscRingBuffer.size_of_tryPop_none (congrArg Prod.fst popped)
    next => contradiction

/-- Draining a pipeline empties its ring. -/
theorem drainPipelineLoop_waiting {track : Track} {fuel : ℕ} {recorder : Recorder}
    (enough : recorder.waiting track ≤ fuel) (answers : List FfmpegAnswer) :
    (drainPipelineLoop track fuel recorder answers).1.waiting track = 0 := by
  induction fuel generalizing recorder answers with
  | zero => exact Nat.le_zero.mp enough
  | succ fuel ih =>
    rw [drainPipelineLoop]
    split
    next ended => exact waiting_of_drainFrame_none ended
    next next rest passed =>
      have fewer := waiting_drainFrame passed
      exact ih (by omega) rest

/-- The drain thread begins a round, makes a pass, or moves on. -/
theorem drainStep_eq_some {recorder next : Recorder} {answers : List FfmpegAnswer}
    (taken : recorder.drainStep answers = some next) :
    (∃ track rest, recorder.drain = .draining track ∧ recorder.drainFrame track answers = some (next, rest)) ∨
      ∃ drain, next = { recorder with drain := drain } := by
  rw [drainStep] at taken
  split at taken
  next => exact .inr ⟨_, (Option.some.inj taken).symm⟩
  next track inside =>
    split at taken
    next passed rest outcome =>
      obtain rfl := Option.some.inj taken
      exact .inl ⟨track, rest, inside, outcome⟩
    next => exact .inr ⟨_, (Option.some.inj taken).symm⟩
  next => contradiction

theorem leave_eq_some {recorder next : Recorder} (taken : recorder.leave = some next) :
    recorder.drain = .resting ∧ recorder.controller.drainStop = true ∧ next = { recorder with drain := .ended } := by
  obtain ⟨⟨resting, told⟩, same⟩ := Option.ite_none_right_eq_some.mp taken
  exact ⟨resting, told, (Option.some.inj same).symm⟩

section Keeps

variable {K : Recorder → Prop}

/-- Every pass of the drain loop keeps the assertion. -/
def KeptByPasses (K : Recorder → Prop) : Prop :=
  ∀ ⦃recorder next : Recorder⦄ ⦃track : Track⦄ ⦃answers rest : List FfmpegAnswer⦄,
    recorder.drainFrame track answers = some (next, rest) → K recorder → K next

theorem KeptByPasses.drainPipelineLoop (keeps : KeptByPasses K) (track : Track) (fuel : ℕ) {recorder : Recorder}
    (holds : K recorder) (answers : List FfmpegAnswer) : K (drainPipelineLoop track fuel recorder answers).1 := by
  induction fuel generalizing recorder answers with
  | zero => exact holds
  | succ fuel ih =>
    rw [Recorder.drainPipelineLoop]
    split
    next => exact holds
    next next rest passed => exact ih (keeps passed holds) rest

/-- Draining one pipeline leaves the other ring as it is. -/
theorem drainPipelineLoop_other {track other : Track} (apart : other ≠ track) (fuel : ℕ) (recorder : Recorder)
    (answers : List FfmpegAnswer) :
    (drainPipelineLoop track fuel recorder answers).1.waiting other = recorder.waiting other := by
  induction fuel generalizing recorder answers with
  | zero => rfl
  | succ fuel ih =>
    rw [drainPipelineLoop]
    split
    next => rfl
    next next rest passed =>
      obtain ⟨_, _, _, _, pipelines, _⟩ := drainFrame_pipelines passed
      rw [ih next rest, waiting, pipelines, Function.update_of_ne apart, waiting]

/-- A pass of the drain loop opens no stream. -/
theorem drainFrame_closed {recorder next : Recorder} {track other : Track} {answers rest : List FfmpegAnswer}
    (passed : recorder.drainFrame track answers = some (next, rest)) (closed : recorder.opening other = none) :
    next.opening other = none := by
  have same := congrArg (·.opening other) (drainFrame_outline passed)
  exact Option.map_eq_none_iff.mp (same.trans (Option.map_eq_none_iff.mpr closed))

/-- The pipelines are dropped in a state that passes of the drain loop lead to, with the rings empty. -/
theorem KeptByPasses.dropPipelines (keeps : KeptByPasses K) {recorder : Recorder} (holds : K recorder)
    (drained : List FfmpegAnswer) : ∃ last : Recorder, recorder.dropPipelines drained = { last with
        controller.pipelines := fun _ => none
        history := last.history.close fun track => (last.controller.pipelines track).isSome
        rejections.earlier := last.rejections.total } ∧
      K last ∧ (∀ track, recorder.opening track = none → last.opening track = none) ∧
      ∀ track, last.waiting track = 0 := by
  have both : KeptByPasses fun seen => K seen ∧ ∀ track, recorder.opening track = none → seen.opening track = none :=
    fun _ _ _ _ _ passed kept =>
      ⟨keeps passed kept.1, fun track closed => drainFrame_closed passed (kept.2 track closed)⟩
  have first := both.drainPipelineLoop .microphone (recorder.waiting .microphone) ⟨holds, fun _ => id⟩ drained
  have empty := drainPipelineLoop_waiting (Nat.le_refl (recorder.waiting .microphone)) drained
  rw [Recorder.dropPipelines, drainPipelineLocked]
  generalize Recorder.drainPipelineLoop .microphone (recorder.waiting .microphone) recorder drained = result
    at first empty ⊢
  obtain ⟨middle, answers⟩ := result
  have second := both.drainPipelineLoop .systemOutput (middle.waiting .systemOutput) first answers
  have still := drainPipelineLoop_other (show Track.microphone ≠ .systemOutput by decide)
    (middle.waiting .systemOutput) middle answers
  have emptied := drainPipelineLoop_waiting (Nat.le_refl (middle.waiting .systemOutput)) answers
  refine ⟨_, rfl, second.1, second.2, fun track => ?_⟩
  cases track with
  | microphone => exact still.trans empty
  | systemOutput => exact emptied

/-- The other threads keep an assertion that delivered frames, passes of the drain loop and the lock leave alone. -/
theorem KeptByPasses.stable (keeps : KeptByPasses K)
    (capture : ∀ {recorder next : Recorder} {track : Track} {frame : AudioFrame},
      recorder.capture track frame = some next → K recorder → K next)
    (captureOpening : ∀ {recorder next : Recorder} {track : Track} {frame : AudioFrame},
      recorder.captureOpening track frame = some next → K recorder → K next)
    (lock : ∀ (recorder : Recorder) (drain : DrainThread), K recorder → K { recorder with drain := drain }) :
    Thread.Stable environment K := by
  intro recorder event next taken holds
  cases event with
  | capture track frame => exact capture taken holds
  | captureOpening track frame => exact captureOpening taken holds
  | drain answers =>
    rcases drainStep_eq_some taken with ⟨track, rest, -, passed⟩ | ⟨drain, rfl⟩
    · exact keeps passed holds
    · exact lock recorder drain holds
  | leave =>
    obtain ⟨-, -, rfl⟩ := leave_eq_some taken
    exact lock recorder _ holds

end Keeps

/-- No step of another thread changes the outline. -/
theorem environment_outline {recorder next : Recorder} {event : Environment}
    (taken : recorder.environment event = some next) : next.outline = recorder.outline := by
  cases event with
  | capture track frame =>
    obtain ⟨pipeline, present, -, rfl⟩ := capture_eq_some taken
    exact setPipeline_outline present rfl
  | captureOpening track frame =>
    obtain ⟨line, present, rfl⟩ := captureOpening_eq_some taken
    have unchanged : Function.update recorder.outline.opening track (some line.running) =
        recorder.outline.opening := by
      rw [Function.update_eq_self_iff]
      exact (congrArg (Option.map CaptureLine.running) present).symm
    calc outline _
      _ = _ := setOpening_shows recorder track (some (line.onFrame frame).2)
      _ = { recorder.outline with
          opening := Function.update recorder.outline.opening track (some line.running) } := rfl
      _ = recorder.outline := by rw [unchanged]
  | drain answers =>
    rcases drainStep_eq_some taken with ⟨track, rest, -, passed⟩ | ⟨drain, rfl⟩
    · exact drainFrame_outline passed
    · rfl
  | leave =>
    obtain ⟨-, -, rfl⟩ := leave_eq_some taken
    rfl

/-- What only the UI thread touches stays while the others take their steps. -/
theorem environment_own {recorder next : Recorder} {event : Environment}
    (taken : recorder.environment event = some next) : next.own = recorder.own := by
  have passes : KeptByPasses fun seen => seen.own = recorder.own :=
    fun _ _ _ _ _ passed same => (drainFrame_own passed).trans same
  refine passes.stable (fun captured same => ?_) (fun captured same => ?_) (fun _ _ same => same) recorder event next
    taken rfl
  · obtain ⟨pipeline, -, -, rfl⟩ := capture_eq_some captured
    exact same
  · obtain ⟨line, -, rfl⟩ := captureOpening_eq_some captured
    exact same

/-- Assertions about the outline are stable. -/
theorem stable_outline (Q : Outline → Prop) : Thread.Stable environment fun recorder => Q recorder.outline :=
  fun _ _ _ taken holds => (congrArg Q (environment_outline taken)).mpr holds

end Recorder

end VoxMesh.App
