import VoxMesh.Proofs.StreamTargets
import VoxMesh.Soundness.RecorderLifecycle

/-! # Pipelines and what they feed

The writer's tracks and the producer of the transcription stream are made for the devices selected when a session
starts. The selection may change at any time, and `resume` makes pipelines for the devices selected then. The
pipelines of a recording match the writer and the producer, so that nothing drained is skipped or rejected, exactly
if every `resume` finds a selection that suits what was chosen at the start (`pipelines_matched_iff`).
-/

namespace VoxMesh.App

open VoxMesh.Audio VoxMesh.Media VoxMesh.Dsp Machine

namespace RecorderController

/-- The track at the number of a selected track. -/
theorem getElem?_trackConfigs {selected : Track → Bool} {track : Track} (numbered : 0 ≤ trackIndices selected track) :
    (trackConfigs selected)[(trackIndices selected track).toNat]? = some (trackConfig track) := by
  cases microphone : selected .microphone <;> cases systemOutput : selected .systemOutput <;> cases track <;>
    simp_all [trackIndices, trackConfigs]

/-- The microphone is numbered exactly if it was selected. -/
theorem trackIndices_microphone (selected : Track → Bool) :
    0 ≤ trackIndices selected .microphone ↔ selected .microphone = true := by
  cases microphone : selected .microphone <;> simp [trackIndices, microphone]

end RecorderController

namespace Recorder

/-- The pipelines of a recording fit the open writer and the transcription stream. -/
structure Matched (recorder : Recorder) : Prop where
  /-- Each pipeline's `writerTrack` is the index of a track of the open writer with the same channel count. -/
  written : ∀ track pipeline, recorder.controller.pipelines track = some pipeline →
    ∃ writer target, recorder.controller.writer = some writer ∧ 0 ≤ pipeline.writerTrack ∧
      writer.config.tracks[pipeline.writerTrack.toNat]? = some target ∧
      target.format.channels = pipeline.synchronizer.config.channels
  /-- A pipeline that feeds the transcription stream has the channel count that the producer was created for. -/
  transcribed : ∀ track pipeline producer, recorder.controller.pipelines track = some pipeline →
    pipeline.feedsSttStream = true → recorder.controller.sttProducer = some producer →
      producer.config.input.channels = pipeline.synchronizer.config.channels
  /-- Until a write fails, whatever was drained and aligned in the session was handed to the writer. -/
  complete : recorder.controller.writerFailed = false → ∀ track,
    recorder.history.handed (recorder.controller.writerTracks track) = recorder.history.made track
  /-- The producer has rejected nothing, if the streams delivered the format that was asked for. -/
  accepted : recorder.history.Conforming → ∀ producer, recorder.controller.sttProducer = some producer →
    producer.stats.rejectedFrames = 0

/-- Every selected track is one of the writer's, and transcription would be started with the producer's input. -/
structure SelectionSuits (recorder : Recorder) : Prop where
  numbered : ∀ track, recorder.controller.isSelected track = true → 0 ≤ recorder.controller.writerTracks track
  input : ∀ producer ∈ recorder.controller.sttProducer,
    producer.config.input = recorder.controller.sttConfig.input

/-- A resume of a paused recording whose streams open finds a selection that suits the session. -/
def ResumesSuitably (recorder : Recorder) : Label → Prop
  | .operation (.resume failures) _ => recorder.controller.session = .paused → recorder.outline.Opens failures →
      recorder.SelectionSuits
  | _ => True

instance forallTrack (P : Track → Prop) [DecidablePred P] : Decidable (∀ track, P track) :=
  decidable_of_iff (P .microphone ∧ P .systemOutput)
    ⟨fun both track => by cases track; exacts [both.1, both.2], fun each => ⟨each _, each _⟩⟩

instance existsTrack (P : Track → Prop) [DecidablePred P] : Decidable (∃ track, P track) :=
  decidable_of_iff (P .microphone ∨ P .systemOutput)
    ⟨fun either => either.elim (⟨_, ·⟩) (⟨_, ·⟩),
      by rintro ⟨track, holds⟩; cases track; exacts [.inl holds, .inr holds]⟩

instance (recorder : Recorder) : Decidable recorder.SelectionSuits :=
  decidable_of_iff (_ ∧ _) ⟨fun both => ⟨both.1, both.2⟩, fun suits => ⟨suits.numbered, suits.input⟩⟩

instance (recorder : Recorder) (label : Label) : Decidable (recorder.ResumesSuitably label) :=
  match label with
  | .operation (.resume failures) _ =>
      have : Decidable (recorder.outline.Opens failures) := inferInstanceAs (Decidable (_ ∧ _))
      inferInstanceAs (Decidable (_ → _ → _))
  | .operation (.refreshDevices _) _ | .operation (.start _) _ | .operation (.pause _) _ | .operation (.stop _) _
  | .operation (.setSelectedMicrophone _) _ | .operation (.setSelectedSystemOutput _) _
  | .operation (.setOutputDirectory _) _ | .operation (.setSttEndpoint _) _ | .statsTick | .environment _ =>
      isTrue trivial

variable {designLowPass : ℕ → ℚ → List ℚ} {recorder next : Recorder} {label : Label}

/-- With the targets of the session, the pipelines match. -/
theorem Targeted.matched {selected : Track → Bool} {stt : Option SttStreamConfig}
    (targeted : recorder.Targeted selected stt) (settled : recorder.outline.Settled) (wired : Wired recorder.core) :
    recorder.Matched := by
  obtain ⟨config, isConfig, tracks⟩ := Option.map_eq_some_iff.mp targeted.chosen.tracks
  obtain ⟨writer, isOpen, rfl⟩ := Option.map_eq_some_iff.mp isConfig
  refine ⟨fun track pipeline present => ?_, fun track pipeline producer present feeds isProducer => ?_,
    fun working => (targeted.balanced.written writer isOpen working).handed, targeted.accepted⟩
  · have target : pipeline.writerTrack = recorder.controller.writerTracks track :=
      settled.targets track pipeline.outline (congrArg (Option.map TrackPipeline.outline) present)
    have numbered : 0 ≤ recorder.controller.writerTracks track :=
      targeted.balanced.numbered_of_flow (.inl fun none => absurd (present.symm.trans none) nofun)
    refine ⟨writer, RecorderController.trackConfig track, isOpen, target ▸ numbered, ?_, ?_⟩
    · have indices : recorder.controller.writerTracks = _ := targeted.chosen.numbered
      rw [tracks, target, indices]
      exact RecorderController.getElem?_trackConfigs (indices ▸ numbered)
    · rw [wired.synced track pipeline present]
      rfl
  · have input := targeted.chosen.feeds track pipeline.outline producer.config
      (congrArg (Option.map TrackPipeline.outline) present) feeds
      (targeted.chosen.producer.symm.trans (congrArg (Option.map SttStreamProducer.config) isProducer))
    rw [input, wired.synced track pipeline present]
    rfl

/-- In a session, the targets are those chosen at its start. -/
structure OnTarget (designLowPass : ℕ → ℚ → List ℚ) (outputDirectory : String) (recorder : Recorder) : Prop where
  reached : Reaches (step designLowPass) (init outputDirectory) recorder
  targeted : recorder.controller.session = .recording ∨ recorder.controller.session = .paused →
    ∃ selected stt, recorder.Targeted selected stt

variable {outputDirectory : String}

theorem OnTarget.settled (onTarget : OnTarget designLowPass outputDirectory recorder) : recorder.outline.Settled := by
  obtain ⟨labels, run⟩ := onTarget.reached
  exact run_settled run (settled_init outputDirectory)

theorem wired_of_reaches (reached : Reaches (step designLowPass) (init outputDirectory) recorder) :
    Wired recorder.core := by
  obtain ⟨labels, run⟩ := reached
  exact Wired.enduring.run run ⟨fun _ => rfl, by rintro track pipeline ⟨⟩⟩

/-- With a suitable selection, `resume` keeps the targets. -/
private theorem resume_targeted {selected : Track → Bool} {stt : Option SttStreamConfig}
    (onTarget : OnTarget designLowPass outputDirectory recorder) (targeted : recorder.Targeted selected stt)
    (suits : recorder.controller.session = .paused → recorder.SelectionSuits) (failures : Track → Option CaptureError) :
    Thread.Ensures (Under recorder.outline (Targeted selected stt)) (RecorderController.resume failures)
      fun _ => Targeted selected stt := by
  refine Targeted.steady.resume (fun paused => Targeted.opensStreams (o := recorder.outline) (suits paused).numbered)
    (fun paused => Targeted.registersStreams fun settings isChosen => ?_) failures onTarget.settled
  have held : recorder.controller.sttProducer.map (·.config) = some settings :=
    targeted.chosen.producer.trans isChosen
  obtain ⟨producer, isProducer, rfl⟩ := Option.map_eq_some_iff.mp held
  exact (suits paused).input producer isProducer

/-- From idle only a `start` leads into a session, and it chooses the targets. -/
private theorem targeted_of_idle (onTarget : OnTarget designLowPass outputDirectory recorder)
    (idle : recorder.controller.session = .idle) (taken : step designLowPass recorder label = some next)
    (active : next.controller.session ≠ .idle) : ∃ selected stt, next.Targeted selected stt := by
  have same (kept : next.outline = recorder.outline) : ∃ selected stt, next.Targeted selected stt :=
    absurd ((congrArg Outline.session kept).trans idle) active
  cases label with
  | operation operation agenda =>
    obtain ⟨⟨result, last⟩, outcome, ended⟩ := Option.map_eq_some_iff.mp taken
    obtain rfl : last = next := ended
    obtain ⟨answers, rfl, rfl⟩ :=
      (perform_idle_cases designLowPass operation onTarget.settled idle).run outcome rfl active
    refine (RecorderController.start_targeted designLowPass answers onTarget.settled fun _ => ?_).run outcome rfl rfl
    have silent : recorder.controller.sttClient = none :=
      Option.isNone_iff_eq_none.mp (Option.isSome_eq_false_iff.mp (onTarget.settled.released idle).sttClient)
    exact Option.map_eq_none_iff.mpr ((wired_of_reaches onTarget.reached).silent silent)
  | statsTick =>
    rw [step] at taken
    split at taken
    next =>
      obtain rfl := Option.some.inj taken
      apply same
      rw [onStatsTick]
      split <;> rfl
    next => contradiction
  | environment event => exact same (environment_outline taken)

theorem step_onTarget (onTarget : OnTarget designLowPass outputDirectory recorder)
    (suits : recorder.ResumesSuitably label) (taken : step designLowPass recorder label = some next) :
    OnTarget designLowPass outputDirectory next := by
  refine ⟨onTarget.reached.next taken, fun session => ?_⟩
  have active : next.controller.session ≠ .idle := by rintro idle; simp [idle] at session
  have working : next.controller.session ≠ .failed := by rintro failed; simp [failed] at session
  have settled := onTarget.settled
  rw [Ne, (step_settled settled taken).2, not_or] at working
  by_cases idle : recorder.controller.session = .idle
  · exact targeted_of_idle onTarget idle taken active
  have before : recorder.controller.session = .recording ∨ recorder.controller.session = .paused := by
    cases here : recorder.controller.session with
    | recording | paused => simp
    | idle => exact absurd here idle
    | failed => exact absurd here working.1
    | stopping => exact absurd here settled.steady.1
    | stopped => exact absurd here settled.steady.2
  obtain ⟨selected, stt, targeted⟩ := onTarget.targeted before
  refine ⟨selected, stt, Targeted.steady.step ?_ settled idle taken targeted active⟩
  rintro failures agenda rfl
  refine resume_targeted onTarget targeted (fun paused => suits paused ?_) failures
  by_contra closed
  exact working.2 ⟨paused, closed⟩

/-- If the pipelines made for the devices selected now lead somewhere, the selection suits what was chosen. -/
private theorem selected_suits {o : Outline} {selected : Track → Bool} {stt : Option SttStreamConfig}
    (chosen : o.Chosen selected stt) (present : ∃ track, o.isSelected track = true)
    (numbered : ∀ track pipeline, o.selectedPipelines track = some pipeline → 0 ≤ pipeline.writerTrack)
    (fed : ∀ track pipeline settings, o.selectedPipelines track = some pipeline → pipeline.feedsSttStream = true →
      o.sttProducer = some settings → settings.input.channels = track.channels) :
    (∀ track, o.isSelected track = true → 0 ≤ o.writerTracks track) ∧ ∀ settings, o.sttProducer = some settings →
      settings.input = RecorderController.sttInput o.isSelected := by
  have writing (track : Track) (isSelected : o.isSelected track = true) : 0 ≤ o.writerTracks track :=
    numbered track _ (if_pos isSelected)
  refine ⟨writing, fun settings isChosen => ?_⟩
  have input := chosen.input settings (chosen.producer.symm.trans isChosen)
  have earlier := RecorderController.trackIndices_microphone selected
  rw [← chosen.numbered] at earlier
  rw [input, RecorderController.sttInput, RecorderController.sttInput]
  cases now : o.isSelected .microphone with
  | true => rw [earlier.mp (writing .microphone now)]
  | false =>
    have other : o.isSelected .systemOutput = true := by
      obtain ⟨track, isSelected⟩ := present
      cases track with
      | microphone => exact absurd (now.symm.trans isSelected) Bool.false_ne_true
      | systemOutput => exact isSelected
    have channels := fed .systemOutput _ settings (if_pos other) (by simp [now]) isChosen
    cases before : selected .microphone with
    | false => rfl
    | true =>
      rw [input, RecorderController.sttInput, before] at channels
      exact absurd channels (by decide)

/-- Pipelines that match show that the selection suited. -/
private theorem suits_of_matched (onTarget : OnTarget designLowPass outputDirectory recorder)
    (taken : step designLowPass recorder label = some next)
    (matched : next.controller.session = .recording → next.Matched) : recorder.ResumesSuitably label := by
  cases label with
  | statsTick | environment event => trivial
  | operation operation agenda =>
    cases operation with
    | resume failures =>
      intro paused opens
      obtain ⟨⟨result, last⟩, outcome, ended⟩ := Option.map_eq_some_iff.mp taken
      obtain rfl : last = next := ended
      have shows : last.outline = _ :=
        (RecorderController.resume_of_opens onTarget.settled paused opens).run outcome rfl
      have matched := matched (congrArg Outline.session shows)
      have pipelines : last.outline.pipelines = recorder.outline.selectedPipelines := congrArg Outline.pipelines shows
      have producers : last.outline.sttProducer = recorder.outline.sttProducer := by rw [shows]
      obtain ⟨selected, stt, targeted⟩ := onTarget.targeted (.inr paused)
      have suits := selected_suits targeted.chosen opens.1 ?_ ?_
      · exact ⟨suits.1, fun producer isProducer => suits.2 producer.config
          (congrArg (Option.map SttStreamProducer.config) isProducer)⟩
      · rw [← pipelines]
        intro track pipeline present
        obtain ⟨registered, isRegistered, rfl⟩ := Option.map_eq_some_iff.mp present
        obtain ⟨-, -, -, least, -⟩ := matched.written track registered isRegistered
        exact least
      · rw [← pipelines, ← producers]
        intro track pipeline settings present feeds isChosen
        obtain ⟨registered, isRegistered, rfl⟩ := Option.map_eq_some_iff.mp present
        obtain ⟨producer, isProducer, rfl⟩ := Option.map_eq_some_iff.mp isChosen
        rw [matched.transcribed track registered producer isRegistered feeds isProducer,
          (wired_of_reaches (onTarget.reached.next taken)).synced track registered isRegistered]
        rfl
    | _ => trivial

/-- After every label of a run of public operations, in any interleaving, the pipelines of a recording match the
writer and the transcription stream, exactly if every resume finds a selection that suits the session. -/
theorem pipelines_matched_iff (designLowPass : ℕ → ℚ → List ℚ) (outputDirectory : String) (labels : List Label)
    (last : Recorder) (run : Run (step designLowPass) (init outputDirectory) labels last) :
    (∀ first rest recorder, labels = first ++ rest → Run (step designLowPass) (init outputDirectory) first recorder →
      recorder.controller.session = .recording → recorder.Matched) ↔
    Along (step designLowPass) ResumesSuitably (init outputDirectory) labels := by
  refine (run.along_iff_prefixes (I := OnTarget designLowPass outputDirectory)
    (fun _ _ _ onTarget suits taken => step_onTarget onTarget suits taken) (fun recorder onTarget recording => ?_)
    (fun _ _ _ onTarget taken matched => suits_of_matched onTarget taken matched) ⟨.refl _, ?_⟩).symm
  · obtain ⟨selected, stt, targeted⟩ := onTarget.targeted (.inl recording)
    exact targeted.matched onTarget.settled (wired_of_reaches onTarget.reached)
  · rintro (recording | paused)
    · exact absurd recording nofun
    · exact absurd paused nofun

/-- Both devices are recorded and transcribed; the recording goes on with the microphone alone. -/
def narrowedSelection : List Label :=
  [.operation (.setSttEndpoint "localhost:50051") [], .operation (.refreshDevices bothDevices) [],
    .operation (.start {}) [], .operation (.pause []) [], .operation (.setSelectedSystemOutput (-1)) [],
    .operation (.resume fun _ => none) []]

theorem pipelines_matched_iff_narrowed : ∃ recorder,
    Run (step fun _ _ => []) (init "recordings") narrowedSelection recorder ∧
    recorder.controller.session = .recording ∧ recorder.Matched := by
  have outcome : (exec (step fun _ _ => []) (init "recordings") narrowedSelection).map (·.controller.session) =
      some .recording := by decide +kernel
  have suits : Along (step fun _ _ => []) ResumesSuitably (init "recordings") narrowedSelection := by decide +kernel
  obtain ⟨recorder, run, recording⟩ := Option.map_eq_some_iff.mp outcome
  exact ⟨recorder, run, recording, (pipelines_matched_iff (fun _ _ => []) "recordings" narrowedSelection recorder
    run).mpr suits narrowedSelection [] recorder (List.append_nil _).symm run recording⟩

private def stereoFrame : AudioFrame where
  track := .systemOutput
  sampleRate := 48000
  channels := 2
  payload := List.replicate 8 1

/-- The microphone is recorded and transcribed; the recording goes on with the system output instead. -/
def switchedDevice : List Label :=
  [.operation (.setSttEndpoint "localhost:50051") [], .operation (.refreshDevices bothDevices) [],
    .operation (.setSelectedSystemOutput (-1)) [], .operation (.start {}) [], .operation (.pause []) [],
    .operation (.setSelectedMicrophone (-1)) [], .operation (.setSelectedSystemOutput 0) [],
    .operation (.resume fun _ => none) [], .environment (.capture .systemOutput stereoFrame),
    .environment (.drain []), .environment (.drain []), .environment (.drain [])]

/-- The frame that was drained is skipped by the writer and rejected by the producer. -/
theorem pipelines_unmatched : ∃ recorder pipeline producer,
    Run (step fun _ _ => []) (init "recordings") switchedDevice recorder ∧
    recorder.controller.session = .recording ∧ recorder.controller.writer.isSome = true ∧
    recorder.controller.pipelines .systemOutput = some pipeline ∧ pipeline.writerTrack = -1 ∧
    pipeline.feedsSttStream = true ∧ recorder.controller.sttProducer = some producer ∧
    producer.config.input.channels = 1 ∧ recorder.history.drained .systemOutput = [stereoFrame] ∧
    recorder.controller.writerFailed = false ∧ recorder.history.writes = [] ∧ producer.stats.rejectedFrames = 1 ∧
    ¬ recorder.Matched := by
  have outcome : (exec (step fun _ _ => []) (init "recordings") switchedDevice).bind (fun recorder =>
      (recorder.controller.pipelines .systemOutput).bind fun pipeline =>
        recorder.controller.sttProducer.map fun producer =>
          ((recorder.controller.session, recorder.controller.writer.isSome, recorder.controller.writerFailed),
          (pipeline.writerTrack, pipeline.feedsSttStream),
          (decide (recorder.history.drained .systemOutput = [stereoFrame]), recorder.history.writes.length),
          producer.config.input.channels, producer.stats.rejectedFrames)) =
      some ((.recording, true, false), (-1, true), (true, 0), 1, 1) := by decide +kernel
  simp only [Option.bind_eq_some_iff, Option.map_eq_some_iff, Prod.mk.injEq, decide_eq_true_eq] at outcome
  obtain ⟨recorder, run, pipeline, present, producer, isProducer, ⟨recording, held, working⟩, ⟨target, feeds⟩,
    ⟨drained, writes⟩, channels, rejected⟩ := outcome
  refine ⟨recorder, pipeline, producer, run, recording, held, present, target, feeds, isProducer, channels, drained,
    working, List.length_eq_zero_iff.mp writes, rejected, fun matched => ?_⟩
  obtain ⟨-, -, -, least, -⟩ := matched.written .systemOutput pipeline present
  rw [target] at least
  exact absurd least (by decide)

end Recorder

end VoxMesh.App
