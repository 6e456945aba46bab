import VoxMesh.Proofs.WriterCreation
import VoxMesh.Soundness.EncodedRecording
import VoxMesh.Soundness.MatchedPipelines

/-! # From the rings to the encoders

While a recording goes on and no write has failed, the open writer is up to date with everything it was handed, whoever
wrote it: the drain thread, or the UI thread when it pauses or stops (`Current`). In a session whose selection suits, it
was handed everything that the synchronizers made of the drained frames. So each track's encoder has been sent the
samples of these in order, but for less than a chunk, and of a recording that is finalized it has been sent all of them
(`session_encoded`).
-/

namespace VoxMesh.Media

open VoxMesh.Audio Blocks

/-- A track between two calls has sent the samples given to it in full chunks, and buffers the rest. -/
structure SentUpTo (given : List (List Byte)) (track : TrackState) : Prop where
  samples : track.encoded.flatMap (·.samples) ++ track.fifo = given
  short : track.fifo.length < track.chunkSamples
  full : ∀ chunk ∈ track.encoded, chunk.samples.length = track.chunkSamples
  pts : ∀ k (bound : k < track.encoded.length), track.encoded[k].pts = k * track.chunkSamples

theorem TrackState.Buffered.sentUpTo {track : TrackState} {given : List (List Byte)} (buffered : track.Buffered given) :
    SentUpTo given track := by
  obtain ⟨short, count, encodes, within⟩ := buffered
  refine ⟨?_, short, fun chunk member => ?_, fun k bound => ?_⟩
  · have sent : track.encoded.flatMap (·.samples) = given.take (count * track.chunkSamples) := by
      rw [encodes.encoded, ← flatten_blocks, List.flatMap_map, List.flatten_eq_flatMap, List.flatMap_map]
      rfl
    rw [sent, encodes.fifo, rest, List.take_append_drop]
  · rw [encodes.encoded] at member
    obtain ⟨k, inside, rfl⟩ := List.mem_map.mp member
    exact length_block ((Nat.mul_le_mul_right _ (List.mem_range.mp inside)).trans within)
  · simp [encodes.encoded, TrackState.chunkOf]

end VoxMesh.Media

namespace VoxMesh.App

open VoxMesh.Audio VoxMesh.Media VoxMesh.Dsp Machine

/-- The frames handed to the writer. -/
def History.entries (history : History) : List (ℕ × AudioFrame) :=
  history.writes.map fun entry => (entry.1, entry.2.frame)

theorem History.framesOf_entries (history : History) (index : ℕ) :
    framesOf history.entries index = (history.handed index).map (·.frame) := by
  rw [framesOf, entries, handed, List.filter_map, List.map_map, List.map_filterMap]
  induction history.writes with
  | nil => rfl
  | cons entry rest ih =>
    by_cases same : entry.1 = index <;> simp_all [Function.comp_def]

/-- The samples of every frame can be counted in an `int`. -/
def FitsInt (frames : List (ℕ × AudioFrame)) : Prop := ∀ entry ∈ frames, entry.2.sampleCountPerChannel < 2 ^ 31

instance (frames : List (ℕ × AudioFrame)) : Decidable (FitsInt frames) :=
  inferInstanceAs (Decidable (∀ entry ∈ frames, _))

/-- The open writer has buffered or encoded all it was handed. -/
def Current (core : Core) : Prop :=
  ∀ writer, core.writer = some writer → core.writerFailed = false → FitsInt core.history.entries →
    UpToDate writer core.history.entries

/-- A writer that refuses none of the frames was handed all of them. -/
theorem writeAll_handed {index : ℕ} {outputs : List AlignedFrame} {writer : FfmpegRecordingWriter} {io : Io}
    (written : (writeAll index writer outputs io).1 = true) : (writeAll index writer outputs io).2.2.2 = outputs := by
  induction outputs generalizing writer io with
  | nil => rfl
  | cons output rest ih =>
    rw [writeAll] at written ⊢
    split at written
    next => contradiction
    next writer' io' _ => exact congrArg (output :: ·) (ih written)

/-- Frames written one after the other bring the writer up to date with them. -/
theorem writeAll_upToDate {index : ℕ} {outputs : List AlignedFrame} {writer : FfmpegRecordingWriter} {io : Io}
    {frames : List (ℕ × AudioFrame)} (upToDate : UpToDate writer frames)
    (small : ∀ output ∈ outputs, output.frame.sampleCountPerChannel < 2 ^ 31)
    (written : (writeAll index writer outputs io).1 = true) :
    UpToDate (writeAll index writer outputs io).2.1
      (frames ++ outputs.map fun output => (index, output.frame)) := by
  induction outputs generalizing writer io frames with
  | nil => simpa [writeAll] using upToDate
  | cons output rest ih =>
    rw [writeAll] at written ⊢
    split at written
    next => contradiction
    next writer' io' wrote =>
      have first := upToDate_of_write upToDate (small output (List.mem_cons_self ..)) wrote
      have later := ih first (fun other member => small other (List.mem_cons_of_mem _ member)) written
      rw [List.append_assoc] at later
      exact later

namespace Current

variable {recorder next : Recorder}

theorem congr {core after : Core} (current : Current core) (writer : ∀ new, after.writer = some new →
    core.writer = some new) (failed : after.writerFailed = core.writerFailed)
    (writes : after.history.writes = core.history.writes) : Current after := by
  intro new present working
  have entries : after.history.entries = core.history.entries := congrArg (List.map _) writes
  rw [entries]
  exact current new (writer new present) (failed ▸ working)

theorem of_closed {core : Core} (closed : core.writer = none) : Current core :=
  fun _ present => absurd (closed.symm.trans present) (by simp)

theorem writeAligned (current : Current recorder.core) (writerTrack : ℤ) (outputs : List AlignedFrame)
    (answers : List FfmpegAnswer) : Current (recorder.writeAligned writerTrack outputs answers).1.core := by
  rw [Recorder.writeAligned]
  split
  next => exact current
  next writer present =>
    split
    next => exact current
    next accepted =>
      rw [Bool.or_eq_true, not_or, Bool.not_eq_true _, Bool.not_eq_true _] at accepted
      rcases result : writeAll writerTrack.toNat writer outputs ⟨recorder.disk, answers⟩ with
        ⟨written, after, io, handed⟩
      rintro new ⟨⟩ working small
      have done : (writeAll writerTrack.toNat writer outputs ⟨recorder.disk, answers⟩).1 = true := by
        change (!written) = false at working
        simpa [result] using working
      obtain rfl : handed = outputs := (congrArg (·.2.2.2) result).symm.trans (writeAll_handed done)
      have entries : (recorder.history.write writerTrack.toNat handed).entries =
          recorder.history.entries ++ handed.map fun output => (writerTrack.toNat, output.frame) := by
        simp [History.entries, History.write, Function.comp_def]
      change FitsInt (recorder.history.write writerTrack.toNat handed).entries at small
      change UpToDate after (recorder.history.write writerTrack.toNat handed).entries
      rw [entries] at small ⊢
      have written := writeAll_upToDate (current writer present accepted.2 fun entry member =>
        small entry (List.mem_append_left _ member)) (fun output member => ?_) done
      · rwa [result] at written
      · exact small (writerTrack.toNat, output.frame)
          (List.mem_append_right _ (List.mem_map_of_mem (f := fun output => (writerTrack.toNat, output.frame)) member))

theorem drainFrame {track : Track} {answers rest : List FfmpegAnswer}
    (passed : recorder.drainFrame track answers = some (next, rest)) (current : Current recorder.core) :
    Current next.core := by
  obtain ⟨pipeline, frame, present, -, same⟩ := Recorder.drainFrame_eq_some passed
  have uploaded : Current ((recorder.popFrame track (Recorder.aligned pipeline frame) frame
      (pipeline.synchronizer.process .machine frame).2).uploadAligned pipeline.feedsSttStream
        (pipeline.synchronizer.process .machine frame).2).core := by
    unfold Recorder.uploadAligned
    split <;> exact current.congr (fun _ present => present) rfl rfl
  have written := uploaded.writeAligned pipeline.writerTrack (pipeline.synchronizer.process .machine frame).2 answers
  rwa [same] at written

theorem lasting : Lasting Current where
  capture captured current := by
    obtain ⟨pipeline, -, -, rfl⟩ := Recorder.capture_eq_some captured
    exact current.congr (fun _ present => present) rfl (by rw [Recorder.core, History.offer]; split <;> rfl)
  captureOpening captured current := by
    obtain ⟨line, -, rfl⟩ := Recorder.captureOpening_eq_some captured
    exact current.congr (fun _ present => present) rfl (by rw [Recorder.core, History.offer]; split <;> rfl)
  drainFrame passed current := current.drainFrame passed
  closePipelines _ _ current := current.congr (fun _ present => present) rfl rfl
  openStream _ _ current := current.congr (fun _ present => present) rfl rfl
  register recorder track feeds current := by
    rw [Recorder.register]
    split
    next => exact current
    next => exact current.congr (fun _ present => present) rfl rfl
  stopStream recorder track current := by
    rw [Recorder.stopStream]
    split
    next => exact current
    next => exact current.congr (fun _ present => present) rfl rfl
  abortWriter recorder current := by
    rw [Recorder.abortWriter]
    split
    next => exact current
    next => exact .of_closed rfl
  finishWriter recorder finalized renamed current := by
    rw [Recorder.finishWriter]
    split
    next => exact current
    next =>
      split
      next => exact .of_closed rfl
      next =>
        split
        next =>
          rw [Recorder.abortWriter]
          split
          next => exact current
          next => exact .of_closed rfl
        next => split <;> exact .of_closed rfl
  installStt _ _ _ _ _ _ _ current := current.congr (fun _ present => present) rfl rfl
  removeStt _ current := current.congr (fun _ present => present) rfl rfl

/-- A new writer has nothing to catch up on. -/
theorem createWriter (answers : FileAnswers) :
    Thread.Ensures (Flowing.On Current) (RecorderController.createWriter answers) fun _ => Flowing.On Current := by
  refine lasting.createWriter (F := fun writer => UpToDate writer []) ?_ ?_ answers
  · intro core path tracks frameSize opened _ current
    exact ⟨current.congr (fun _ present => present) rfl rfl,
      fun writer created => (upToDate_of_create (Prod.ext created rfl)).1⟩
  · rintro recorder writer fresh - new ⟨⟩ - -
    exact fresh

end Current

namespace Recorder

variable {designLowPass : ℕ → ℚ → List ℚ} {outputDirectory : String}

theorem current_of_run {labels : List Label} {last : Recorder}
    (run : Run (step designLowPass) (init outputDirectory) labels last) : Current last.core :=
  Current.lasting.run Current.createWriter run nofun

/-- The samples that the synchronizers of a track have made since the recording began. -/
def samplesMade (recorder : Recorder) (track : Track) : List (List Byte) :=
  (recorder.history.made track).flatMap fun output => samplesOfFrame output.frame

section Targeted

variable {last : Recorder} {selected : Track → Bool} {stt : Option SttStreamConfig} {writer : FfmpegRecordingWriter}
variable {track : Track}

/-- A working writer of a session was handed, for each of its tracks, what the synchronizers made. -/
theorem Targeted.written_track (targeted : last.Targeted selected stt) (isOpen : last.controller.writer = some writer)
    (working : last.controller.writerFailed = false) (numbered : 0 ≤ last.controller.writerTracks track) :
    (last.controller.writerTracks track).toNat < writer.config.tracks.length ∧
      framesOf last.history.entries (last.controller.writerTracks track).toNat =
        (last.history.made track).map (·.frame) ∧
      Media.samplesOf last.history.entries (last.controller.writerTracks track).toNat = last.samplesMade track := by
  have tracks : writer.config.tracks = RecorderController.trackConfigs selected := by
    have chosen : (last.controller.writer.map (·.config)).map (·.tracks) = _ := targeted.chosen.tracks
    rw [isOpen] at chosen
    exact Option.some.inj chosen
  have indices : last.controller.writerTracks = _ := targeted.chosen.numbered
  have present : (RecorderController.trackConfigs selected)[
      (RecorderController.trackIndices selected track).toNat]? = some (RecorderController.trackConfig track) :=
    RecorderController.getElem?_trackConfigs (indices ▸ numbered)
  rw [← indices, ← tracks] at present
  have frames : framesOf last.history.entries (last.controller.writerTracks track).toNat =
      (last.history.made track).map (·.frame) := by
    rw [History.framesOf_entries, Int.toNat_of_nonneg numbered]
    exact congrArg (List.map _) ((targeted.balanced.written writer isOpen working).handed track)
  refine ⟨(List.getElem?_eq_some_iff.mp present).1, frames, ?_⟩
  rw [Media.samplesOf, frames, List.flatMap_map, samplesMade]

/-- It has sent the samples of these to the track's encoder, but for less than a chunk. -/
theorem Targeted.sentUpTo (targeted : last.Targeted selected stt) (current : Current last.core)
    (isOpen : last.controller.writer = some writer) (working : last.controller.writerFailed = false)
    (small : FitsInt last.history.entries) (numbered : 0 ≤ last.controller.writerTracks track) :
    ∃ state, writer.tracks[(last.controller.writerTracks track).toNat]? = some state ∧
      SentUpTo (last.samplesMade track) state := by
  obtain ⟨inside, -, samples⟩ := targeted.written_track isOpen working numbered
  have upToDate := current writer isOpen working small
  have bound : (last.controller.writerTracks track).toNat < writer.tracks.length := upToDate.length ▸ inside
  refine ⟨_, List.getElem?_eq_getElem bound, ?_⟩
  exact (samples ▸ upToDate.buffered _ _ (List.getElem?_eq_getElem bound)).sentUpTo

end Targeted

/-- In a session whose resumes find a suitable selection, as long as no write has failed, every track of the recording
has sent its encoder the samples that the synchronizers made of the drained frames, in full chunks, and buffers the
rest; and a `finalize` that succeeds has sent each encoder all of them. -/
theorem session_encoded (designLowPass : ℕ → ℚ → List ℚ) (outputDirectory : String) (labels : List Label)
    (last : Recorder) (run : Run (step designLowPass) (init outputDirectory) labels last)
    (suits : Along (step designLowPass) ResumesSuitably (init outputDirectory) labels)
    (session : last.controller.session = .recording ∨ last.controller.session = .paused)
    (working : last.controller.writerFailed = false) (small : FitsInt last.history.entries) :
    ∃ writer, last.controller.writer = some writer ∧ writer.stats.framesWritten = last.history.writes.length ∧
      ∀ track, 0 ≤ last.controller.writerTracks track →
        let index := (last.controller.writerTracks track).toNat
        (∃ state, writer.tracks[index]? = some state ∧ SentUpTo (last.samplesMade track) state) ∧
        writer.stats.samplesWrittenPerTrack[index]? = some (last.samplesMade track).length ∧
        ∀ answers renamed final io, writer.finalize renamed ⟨last.disk, answers⟩ = (true, final, io) →
          ∃ state,
            (TrackState.flushAll writer.partialPath 0 writer.tracks ⟨last.disk, answers⟩).2.1[index]? = some state ∧
            EncodesExactly ((last.history.made track).map (·.frame)) state.chunkSamples state.encoded
              (last.samplesMade track).length := by
  have onTarget := run.invariant_along (I := OnTarget designLowPass outputDirectory)
    (fun _ _ _ onTarget suits taken => step_onTarget onTarget suits taken) suits
    ⟨.refl _, by rintro (recording | paused) <;> contradiction⟩
  obtain ⟨selected, stt, targeted⟩ := onTarget.targeted session
  obtain ⟨config, isConfig, -⟩ := Option.map_eq_some_iff.mp targeted.chosen.tracks
  obtain ⟨writer, isOpen, rfl⟩ := Option.map_eq_some_iff.mp isConfig
  have current := current_of_run run
  have upToDate := current writer isOpen working small
  refine ⟨writer, isOpen, (targeted.balanced.written writer isOpen working).counted, fun track numbered => ?_⟩
  obtain ⟨inside, frames, samples⟩ := targeted.written_track isOpen working numbered
  intro index
  refine ⟨targeted.sentUpTo current isOpen working small numbered, samples ▸ upToDate.counted index inside,
    fun answers renamed final io finalized => ?_⟩
  have bound : index < writer.tracks.length := upToDate.length ▸ inside
  rcases writer.finalize_cases ⟨last.disk, answers⟩ renamed with
    ⟨_, refused⟩ | ⟨_, _, _, _, failed⟩ | ⟨io', disk, _, _, _, flushed, _⟩
  · exact absurd (congrArg Prod.fst (finalized.symm.trans refused)) (by simp)
  · exact absurd (congrArg Prod.fst (finalized.symm.trans failed)) (by simp)
  · obtain ⟨length, drained⟩ :=
      TrackState.flushAll_drained (Media.samplesOf last.history.entries) upToDate.buffered (Prod.ext flushed rfl)
    have found := List.getElem?_eq_getElem (length.symm ▸ bound)
    obtain ⟨-, -, drained, -⟩ := drained index _ found
    refine ⟨_, found, ?_⟩
    have encodes := encodesExactly_of_drained drained (samplesOf_flatten last.history.entries index)
    rwa [frames, samples] at encodes

private def sixSamples : AudioFrame where
  sampleRate := 48000
  channels := 1
  payload := List.replicate 12 1

/-- Six samples of the microphone before a pause, six more after it, and an encoder that takes four at a time. -/
private def chunkedSession : List Label :=
  [.operation (.start { devices := [{ id := "m" }], file := { frameSize := 4 } }) [],
    .environment (.capture .microphone sixSamples), .environment (.drain []), .environment (.drain []),
    .operation (.pause []) [[], [], [.drain [], .drain []]], .operation (.resume fun _ => none) [],
    .environment (.capture .microphone sixSamples), .environment (.drain []), .environment (.drain [])]

theorem session_encoded_paused : ∃ last writer state,
    Run (step fun _ _ => []) (init "recordings") chunkedSession last ∧ last.controller.writer = some writer ∧
      writer.stats.framesWritten = 2 ∧ writer.tracks[0]? = some state ∧ SentUpTo (last.samplesMade .microphone) state ∧
      state.encoded.length = 3 ∧ state.fifo = [] := by
  have outcome : (exec (step fun _ _ => []) (init "recordings") chunkedSession).bind (fun last =>
      last.controller.writer.bind fun writer => writer.tracks[0]?.map fun state =>
        ((last.controller.session, last.controller.writerFailed, last.controller.writerTracks .microphone),
          (writer.stats.framesWritten, state.encoded.length, state.fifo.length),
          decide (FitsInt last.history.entries))) =
      some ((.recording, false, 0), (2, 3, 0), true) := by decide +kernel
  have suits : Along (step fun _ _ => []) ResumesSuitably (init "recordings") chunkedSession := by decide +kernel
  simp only [Option.bind_eq_some_iff, Option.map_eq_some_iff, Prod.mk.injEq, decide_eq_true_eq] at outcome
  obtain ⟨last, run, writer, held, state, found, ⟨recording, working, number⟩, ⟨written, chunks, empty⟩, small⟩ :=
    outcome
  obtain ⟨writer', held', -, tracks⟩ := session_encoded (fun _ _ => []) "recordings" chunkedSession last run suits
    (.inl recording) working small
  obtain rfl := Option.some.inj (held.symm.trans held')
  obtain ⟨⟨state', found', sent⟩, -⟩ := tracks .microphone (by rw [number])
  rw [number] at found'
  obtain rfl := Option.some.inj (found.symm.trans found')
  exact ⟨last, writer, state, run, held, written, found, sent, chunks, List.length_eq_zero_iff.mp empty⟩

end Recorder

end VoxMesh.App
