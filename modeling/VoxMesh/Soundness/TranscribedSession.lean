import VoxMesh.Model.MockSttServer
import VoxMesh.Proofs.TranscribedSession
import VoxMesh.Soundness.MatchedPipelines

/-! # From the rings to the transcription stream

In a session whose selection suits, one track feeds the transcription stream, and it does so from the start on: the
producer has taken everything that the synchronizers of the track made of the drained frames, across the pauses, and
the client was handed all it put out (`session_transcribed`). The frames are numbered without gaps, and the service
finds each of them valid.
-/

namespace VoxMesh.Dsp.SttStreamProducer

open VoxMesh.Audio

variable {start producer : SttStreamProducer} {frames outputs : List AudioFrame}

/-- The outputs of a producer are numbered from zero and have its output format. -/
theorem Produces.output_frame (produces : start.Produces frames producer outputs) {k : ℕ} (bound : k < outputs.length) :
    outputs[k].sequence = k ∧ outputs[k].sampleRate = start.config.output.sampleRate ∧
      outputs[k].channels = start.config.output.channels := by
  simp [produces.outputs, released, outputFrame]

end VoxMesh.Dsp.SttStreamProducer

namespace VoxMesh.App.Recorder

open VoxMesh.Audio VoxMesh.Media VoxMesh.Dsp VoxMesh.Stt Machine

variable {designLowPass : ℕ → ℚ → List ℚ} {outputDirectory : String} {recorder next : Recorder} {label : Label}

/-- With a suitable selection, `resume` feeds the transcription stream from the same track. -/
theorem resume_onAir {selected : Track → Bool} {stt : Option SttStreamConfig} (settled : recorder.outline.Settled)
    (onAir : recorder.OnAir designLowPass selected stt)
    (suits : recorder.controller.session = .paused → recorder.SelectionSuits) (failures : Track → Option CaptureError) :
    Thread.Ensures (Under recorder.outline (OnAir designLowPass selected stt)) (RecorderController.resume failures)
      fun _ => OnAir designLowPass selected stt := by
  refine OnAir.steady.resume_feeding
    (fun paused => OnAir.opensStreams (o := recorder.outline) (suits paused).numbered)
    (fun paused => OnAir.registersFeeding fun settings isChosen => ?_) failures settled
  have held : recorder.controller.sttProducer.map (·.config) = some settings :=
    onAir.targeted.chosen.producer.trans isChosen
  obtain ⟨producer, isProducer, rfl⟩ := Option.map_eq_some_iff.mp held
  exact (suits paused).input producer isProducer

theorem settled_of_reaches (reached : Reaches (step designLowPass) (init outputDirectory) recorder) :
    recorder.outline.Settled := by
  obtain ⟨labels, run⟩ := reached
  exact run_settled run (settled_init outputDirectory)

/-- From idle only a `start` leads into a session. -/
theorem onAir_of_idle (reached : Reaches (step designLowPass) (init outputDirectory) recorder)
    (idle : recorder.controller.session = .idle) (taken : step designLowPass recorder label = some next)
    (active : next.controller.session ≠ .idle) : ∃ selected stt, next.OnAir designLowPass selected stt := by
  have settled := settled_of_reaches reached
  have same (kept : next.outline = recorder.outline) : ∃ selected stt, next.OnAir designLowPass selected stt :=
    absurd ((congrArg Outline.session kept).trans idle) active
  cases label with
  | operation operation agenda =>
    obtain ⟨⟨result, last⟩, outcome, ended⟩ := Option.map_eq_some_iff.mp taken
    obtain rfl : last = next := ended
    obtain ⟨answers, rfl, rfl⟩ := (perform_idle_cases designLowPass operation settled idle).run outcome rfl active
    refine (RecorderController.start_onAir designLowPass answers settled fun _ => ?_).run outcome rfl rfl
    have silent : recorder.controller.sttClient = none :=
      Option.isNone_iff_eq_none.mp (Option.isSome_eq_false_iff.mp (settled.released idle).sttClient)
    exact Option.map_eq_none_iff.mpr ((wired_of_reaches reached).silent silent)
  | statsTick =>
    rw [step] at taken
    split at taken
    next =>
      obtain rfl := Option.some.inj taken
      apply same
      rw [onStatsTick]
      split <;> rfl
    next => contradiction
  | environment event => exact same (environment_outline taken)

/-- What goes on after a step went on before it or was started by it, if a resume finds a selection that suits. -/
theorem step_onAir (reached : Reaches (step designLowPass) (init outputDirectory) recorder)
    (onAir : recorder.controller.session ≠ .idle → ∃ selected stt, recorder.OnAir designLowPass selected stt)
    (suits : ∀ failures agenda, label = .operation (.resume failures) agenda →
      recorder.controller.session = .paused → recorder.SelectionSuits)
    (taken : step designLowPass recorder label = some next) (active : next.controller.session ≠ .idle) :
    ∃ selected stt, next.OnAir designLowPass selected stt := by
  by_cases idle : recorder.controller.session = .idle
  · exact onAir_of_idle reached idle taken active
  · have settled := settled_of_reaches reached
    obtain ⟨selected, stt, onAir⟩ := onAir idle
    refine ⟨selected, stt, OnAir.steady.step ?_ settled idle taken onAir active⟩
    intro failures agenda isResume
    exact resume_onAir settled onAir (suits failures agenda isResume) failures

/-- In a session, what is written and what is transcribed was chosen at its start. -/
structure Airing (designLowPass : ℕ → ℚ → List ℚ) (outputDirectory : String) (recorder : Recorder) : Prop where
  reached : Reaches (step designLowPass) (init outputDirectory) recorder
  onAir : recorder.controller.session = .recording ∨ recorder.controller.session = .paused →
    ∃ selected stt, recorder.OnAir designLowPass selected stt

theorem step_airing (airing : Airing designLowPass outputDirectory recorder) (suits : recorder.ResumesSuitably label)
    (taken : step designLowPass recorder label = some next) : Airing designLowPass outputDirectory next := by
  refine ⟨airing.reached.next taken, fun session => ?_⟩
  have active : next.controller.session ≠ .idle := by rintro idle; simp [idle] at session
  have working : next.controller.session ≠ .failed := by rintro failed; simp [failed] at session
  have settled := settled_of_reaches airing.reached
  rw [Ne, (step_settled settled taken).2, not_or] at working
  refine step_onAir airing.reached (fun busy => airing.onAir ?_) ?_ taken active
  · cases here : recorder.controller.session with
    | recording | paused => simp
    | idle => exact absurd here busy
    | failed => exact absurd here working.1
    | stopping => exact absurd here settled.steady.1
    | stopped => exact absurd here settled.steady.2
  · rintro failures agenda rfl paused
    refine suits paused ?_
    by_contra closed
    exact working.2 ⟨paused, closed⟩

/-- In a session whose resumes find a suitable selection, one track feeds the transcription stream, if it is on: the
producer was created for it and has taken all that the track's synchronizers have made since the start, and the client
was handed all it put out, numbered from zero and in the format that the service takes. While the session records, the
track has a pipeline. -/
theorem session_transcribed (designLowPass : ℕ → ℚ → List ℚ) (outputDirectory : String) (labels : List Label)
    (last : Recorder) (run : Run (step designLowPass) (init outputDirectory) labels last)
    (suits : Along (step designLowPass) ResumesSuitably (init outputDirectory) labels)
    (session : last.controller.session = .recording ∨ last.controller.session = .paused)
    (producer : SttStreamProducer) (client : SttClient) (hasProducer : last.controller.sttProducer = some producer)
    (hasClient : last.controller.sttClient = some client) :
    ∃ track start, SttStreamProducer.create designLowPass (RecorderController.sttSettings track) = some start ∧
      (∀ other pipeline, last.controller.pipelines other = some pipeline →
        (pipeline.feedsSttStream = true ↔ other = track)) ∧
      (last.controller.session = .recording → (last.controller.pipelines track).isSome = true) ∧
      start.run ((last.history.made track).map (·.frame)) = (producer, client.frames) ∧
      ∀ k (bound : k < client.frames.length), client.frames[k].sequence = k ∧
        ∀ info unixMs, Testing.validSttFrame (toRequest info unixMs client.frames[k]).frame = true := by
  have airing := run.invariant_along (I := Airing designLowPass outputDirectory)
    (fun _ _ _ airing suits taken => step_airing airing suits taken) suits
    ⟨.refl _, by rintro (recording | paused) <;> contradiction⟩
  obtain ⟨selected, stt, onAir⟩ := airing.onAir session
  obtain ⟨start, created, ran⟩ := onAir.transcribes.uploaded producer client hasProducer hasClient
  have feeds (other : Track) (pipeline : TrackPipeline) (present : last.controller.pipelines other = some pipeline) :=
    onAir.transcribes.feeds other pipeline present (by simp [hasProducer])
  refine ⟨_, start, created, feeds, fun recording => ?_, ran, fun k bound => ?_⟩
  · obtain ⟨other, _, present, feeding⟩ := ((settled_of_reaches airing.reached).capturing recording).feeding
    obtain ⟨pipeline, registered, rfl⟩ := Option.map_eq_some_iff.mp present
    rw [← (feeds other pipeline registered).mp feeding]
    exact Option.isSome_of_eq_some registered
  have created := SttStreamProducer.created_of_create created
  have produces := created.run ((last.history.made (RecorderController.sttTrack selected)).map (·.frame))
  rw [ran] at produces
  have settings : start.config.output = App.config.sttStream := by
    rw [created.producer]
    rfl
  obtain ⟨number, rate, channels⟩ := produces.output_frame bound
  refine ⟨number, fun info unixMs => ?_⟩
  rw [settings] at rate channels
  simp only [Testing.validSttFrame, toRequest, rate, channels]
  rfl

private def tone (samples : ℕ) : AudioFrame where
  sampleRate := 48000
  channels := 1
  payload := List.replicate (2 * samples) 1

/-- The microphone delivers frames of so many samples, and the drain thread makes a round. -/
private def spoken (frames : List ℕ) : List Label :=
  frames.map (.environment <| .capture .microphone <| tone ·) ++
    List.replicate (frames.length + 3) (.environment (.drain []))

/-- The steps of the other threads resume nothing. -/
private theorem spoken_suits (frames : List ℕ) (recorder : Recorder) :
    Along (step designLowPass) ResumesSuitably recorder (spoken frames) := by
  refine Along.of_forall (fun label member _ => ?_) recorder
  rcases List.mem_append.mp member with captured | drained
  · obtain ⟨samples, -, rfl⟩ := List.mem_map.mp captured
    trivial
  · rw [List.eq_of_mem_replicate drained]
    trivial

/-- Both devices are recorded; while the recording is paused the system output is deselected. -/
private def narrowedSession : List Label :=
  [.operation (.setSttEndpoint "localhost:50051") [], .operation (.refreshDevices bothDevices) [],
    .operation (.start {}) []] ++ spoken [30] ++
  [.operation (.pause []) [], .operation (.setSelectedSystemOutput (-1)) [], .operation (.resume fun _ => none) []]

/-- One frame is uploaded, with the samples that waited for it since before the pause. -/
theorem session_transcribed_narrowed : ∃ last producer client,
    Run (step fun _ _ => [1]) (init "recordings") (narrowedSession ++ spoken [1200, 1200, 1200, 1200]) last ∧
    last.controller.sttProducer = some producer ∧ last.controller.sttClient = some client ∧
    (last.history.rings .microphone).length = 1 ∧ (last.history.made .microphone).length = 5 ∧
    client.frames.length = 1 ∧ producer.pending.length = 10 ∧
    ∃ start, SttStreamProducer.create (fun _ _ => [1]) (RecorderController.sttSettings .microphone) = some start ∧
      start.run ((last.history.made .microphone).map (·.frame)) = (producer, client.frames) := by
  have outcome : (exec (step fun _ _ => [1]) (init "recordings")
      (narrowedSession ++ spoken [1200, 1200, 1200, 1200])).bind (fun last =>
        last.controller.sttProducer.bind fun producer => last.controller.sttClient.map fun client =>
          ((last.controller.session, (last.controller.pipelines .microphone).map (·.feedsSttStream)),
            ((last.history.rings .microphone).length, (last.history.made .microphone).length),
            (client.frames.length, producer.pending.length))) =
      some ((.recording, some true), (1, 5), 1, 10) := by decide +kernel
  have suits : Along (step fun _ _ => [1]) ResumesSuitably (init "recordings") narrowedSession := by decide +kernel
  simp only [Option.bind_eq_some_iff, Option.map_eq_some_iff, Prod.mk.injEq] at outcome
  obtain ⟨last, run, producer, hasProducer, client, hasClient, ⟨recording, pipeline, present, feeds⟩,
    ⟨rings, made⟩, uploaded, pending⟩ := outcome
  obtain ⟨track, start, created, feeding, -, ran, -⟩ := session_transcribed (fun _ _ => [1]) "recordings" _
    last run (Along.append_iff.mpr ⟨suits, fun _ _ => spoken_suits _ _⟩) (.inl recording) producer client hasProducer
    hasClient
  obtain rfl := (feeding .microphone pipeline present).mp feeds
  exact ⟨last, producer, client, run, hasProducer, hasClient, rings, made, uploaded, pending, start, created, ran⟩

end VoxMesh.App.Recorder
