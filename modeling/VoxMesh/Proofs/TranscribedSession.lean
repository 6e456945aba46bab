import VoxMesh.Proofs.StreamTargets

/-! # What a session transcribes

In a session one track feeds the transcription stream, the microphone when it was selected at the start and else the
system output. `OnAir` says that the producer has taken exactly what the synchronizers of that track's rings put out,
since the start and across the pauses, and that the client was handed all its outputs. Every step keeps it, as long as
the streams that are registered feed what they were chosen to feed.
-/

namespace VoxMesh.App

open VoxMesh.Audio VoxMesh.Media VoxMesh.Dsp Machine

namespace RecorderController

/-- The track that feeds the transcription stream. -/
def sttTrack (selected : Track → Bool) : Track := if selected .microphone then .microphone else .systemOutput

theorem sttInput_eq (selected : Track → Bool) : sttInput selected = (sttTrack selected).format := by
  unfold sttInput sttTrack
  split <;> rfl

/-- The configuration of the transcription stream that is fed by the track. -/
def sttSettings (track : Track) : SttStreamConfig := ⟨track.format, config.sttStream, config.sttFrameDuration⟩

end RecorderController

theorem Track.format_injective {first second : Track} (same : first.format = second.format) : first = second := by
  cases first <;> cases second <;> first | rfl | exact absurd same (by decide)

theorem History.made_offer (history : History) (track : Track) (frame : AudioFrame) (accepted : Bool) (other : Track) :
    (history.offer track frame accepted).made other = history.made other := by
  cases accepted <;> rfl

namespace Recorder

variable {designLowPass : ℕ → ℚ → List ℚ} {selected : Track → Bool} {stt : Option SttStreamConfig}
variable {recorder next : Recorder} {track feeding : Track}

/-- The producer and the client are where the frames put out for the track have brought them. -/
structure Transcribes (designLowPass : ℕ → ℚ → List ℚ) (feeding : Track) (recorder : Recorder) : Prop where
  feeds : ∀ track pipeline, recorder.controller.pipelines track = some pipeline →
    recorder.controller.sttProducer ≠ none → (pipeline.feedsSttStream = true ↔ track = feeding)
  uploaded : ∀ producer client, recorder.controller.sttProducer = some producer →
    recorder.controller.sttClient = some client →
      ∃ start, SttStreamProducer.create designLowPass (RecorderController.sttSettings feeding) = some start ∧
        start.run ((recorder.history.made feeding).map (·.frame)) = (producer, client.frames)

namespace Transcribes

/-- A step that feeds nothing and registers nothing. -/
theorem moved (transcribes : recorder.Transcribes designLowPass feeding)
    (pipelines : ∀ track pipeline, next.controller.pipelines track = some pipeline →
      ∃ old, recorder.controller.pipelines track = some old ∧ pipeline.feedsSttStream = old.feedsSttStream)
    (made : next.history.made feeding = recorder.history.made feeding)
    (producer : next.controller.sttProducer = recorder.controller.sttProducer)
    (client : next.controller.sttClient = recorder.controller.sttClient) : next.Transcribes designLowPass feeding where
  feeds track pipeline present on := by
    obtain ⟨old, registered, same⟩ := pipelines track pipeline present
    rw [same]
    exact transcribes.feeds track old registered (producer ▸ on)
  uploaded last uploads hasProducer hasClient := by
    rw [made]
    exact transcribes.uploaded last uploads (producer ▸ hasProducer) (client ▸ hasClient)

/-- One track's pipeline is replaced by one that feeds as much. -/
private theorem retracked {pipelines : Track → Option TrackPipeline} {old : TrackPipeline}
    (present : pipelines track = some old) {changed : TrackPipeline}
    (same : changed.feedsSttStream = old.feedsSttStream) (other : Track) (pipeline : TrackPipeline)
    (registered : Function.update pipelines track (some changed) other = some pipeline) :
    ∃ before, pipelines other = some before ∧ pipeline.feedsSttStream = before.feedsSttStream := by
  rcases eq_or_ne other track with rfl | apart
  · rw [Function.update_self, Option.some.injEq] at registered
    exact ⟨old, present, registered ▸ same⟩
  · rw [Function.update_of_ne apart] at registered
    exact ⟨pipeline, registered, rfl⟩

theorem capture {frame : AudioFrame} (captured : recorder.capture track frame = some next)
    (transcribes : recorder.Transcribes designLowPass feeding) : next.Transcribes designLowPass feeding := by
  obtain ⟨pipeline, present, -, rfl⟩ := capture_eq_some captured
  exact transcribes.moved (retracked present rfl) (History.made_offer ..) rfl rfl

theorem captureOpening {frame : AudioFrame} (captured : recorder.captureOpening track frame = some next)
    (transcribes : recorder.Transcribes designLowPass feeding) : next.Transcribes designLowPass feeding := by
  obtain ⟨line, -, rfl⟩ := captureOpening_eq_some captured
  exact transcribes.moved (fun _ pipeline present => ⟨pipeline, present, rfl⟩) (History.made_offer ..) rfl rfl

/-- A pass of the drain loop feeds what the synchronizer puts out, if the track feeds the stream. -/
theorem drainFrame {answers rest : List FfmpegAnswer} (passed : recorder.drainFrame track answers = some (next, rest))
    (balanced : recorder.Balanced) (transcribes : recorder.Transcribes designLowPass feeding) :
    next.Transcribes designLowPass feeding := by
  obtain ⟨pipeline, frame, _, _, _, writes, producer, client, present, popped, same, outcome⟩ :=
    drainFrame_core passed
  have history : next.history = { (recorder.history.pop track frame).feed pipeline.feedsSttStream
      (pipeline.synchronizer.process .machine frame).2 with writes := writes } :=
    congrArg Core.history same
  have pipelines : next.controller.pipelines =
      Function.update recorder.controller.pipelines track (some (aligned pipeline frame)) :=
    congrArg Core.pipelines same
  have hasProducer : next.controller.sttProducer = producer := congrArg Core.sttProducer same
  have hasClient : next.controller.sttClient = client := congrArg Core.sttClient same
  have synced : pipeline.synchronizer = track.synchronizer (recorder.history.drained track) :=
    (balanced.popped present popped).1
  have made : next.history.made feeding = recorder.history.made feeding ++
      if track = feeding then (pipeline.synchronizer.process .machine frame).2 else [] := by
    rw [synced, history]
    exact recorder.history.made_pop track frame feeding
  have registered (other : Track) (changed : TrackPipeline)
      (isChanged : next.controller.pipelines other = some changed) :
      ∃ old, recorder.controller.pipelines other = some old ∧ changed.feedsSttStream = old.feedsSttStream := by
    rw [pipelines] at isChanged
    have feeds : (aligned pipeline frame).feedsSttStream = pipeline.feedsSttStream := rfl
    exact retracked present feeds other changed isChanged
  rcases outcome with ⟨rfl, rfl, off⟩ | ⟨before, uploads, feeds, hadProducer, hadClient, fed, handed⟩
  · refine ⟨fun other changed isChanged on => ?_, fun last uploads isLast isClient => ?_⟩
    · obtain ⟨old, was, same⟩ := registered other changed isChanged
      rw [same]
      exact transcribes.feeds other old was (hasProducer ▸ on)
    · have apart : track ≠ feeding := fun here => by
        have feeds := (transcribes.feeds track pipeline present (by simp [← hasProducer, isLast])).mpr here
        exact off last uploads feeds (hasProducer.symm.trans isLast) (hasClient.symm.trans isClient)
      rw [made, if_neg apart, List.append_nil]
      exact transcribes.uploaded last uploads (hasProducer.symm.trans isLast) (hasClient.symm.trans isClient)
  · have here := (transcribes.feeds track pipeline present (by simp [hadProducer])).mp feeds
    refine ⟨fun other changed isChanged _ => ?_, fun last uploads' isLast isClient => ?_⟩
    · obtain ⟨old, was, same⟩ := registered other changed isChanged
      rw [same]
      exact transcribes.feeds other old was (by simp [hadProducer])
    · obtain ⟨start, created, ran⟩ := transcribes.uploaded before uploads hadProducer hadClient
      obtain rfl := Option.some.inj ((hasProducer.symm.trans isLast).symm.trans fed)
      obtain rfl := Option.some.inj ((hasClient.symm.trans isClient).symm.trans handed)
      refine ⟨start, created, ?_⟩
      rw [made, if_pos here, List.map_append, SttStreamProducer.run_append, ran]

/-- The pipelines are dropped once their rings are empty. -/
theorem closePipelines (transcribes : recorder.Transcribes designLowPass feeding) (balanced : recorder.Balanced)
    (closed : recorder.opening feeding = none) (empty : recorder.waiting feeding = 0) :
    Transcribes designLowPass feeding { recorder with
      controller.pipelines := fun _ => none
      history := recorder.history.close fun track => (recorder.controller.pipelines track).isSome } := by
  refine transcribes.moved (fun _ _ present => absurd present nofun) ?_ rfl rfl
  refine recorder.history.made_close (balanced.drained closed empty) fun absent => ?_
  cases balanced.flow feeding with
  | vacant _ _ _ undrained | opening _ _ _ _ undrained => exact undrained
  | flowing registered _ present =>
    rw [show recorder.controller.pipelines feeding = some registered from present] at absent
    contradiction

theorem stopStream (transcribes : recorder.Transcribes designLowPass feeding) (track : Track) :
    (recorder.stopStream track).Transcribes designLowPass feeding := by
  rw [Recorder.stopStream]
  split
  next => exact transcribes
  next pipeline present => exact transcribes.moved (retracked present rfl) rfl rfl rfl

/-- A stream is registered that feeds the transcription stream exactly if it was chosen to. -/
theorem register (transcribes : recorder.Transcribes designLowPass feeding) (track : Track) (feeds : Bool)
    (suits : recorder.controller.sttProducer ≠ none → (feeds = true ↔ track = feeding)) :
    (recorder.register track feeds).Transcribes designLowPass feeding := by
  rw [Recorder.register]
  split
  next => exact transcribes
  next line _ =>
    refine ⟨fun other pipeline present on => ?_, transcribes.uploaded⟩
    replace present : Function.update recorder.controller.pipelines track (some _) other = some pipeline := present
    rcases eq_or_ne other track with rfl | apart
    · rw [Function.update_self, Option.some.injEq] at present
      rw [← present]
      exact suits on
    · rw [Function.update_of_ne apart] at present
      exact transcribes.feeds other pipeline present on

end Transcribes

/-- What is written and what is transcribed in a session, for the devices selected at its start. -/
structure OnAir (designLowPass : ℕ → ℚ → List ℚ) (selected : Track → Bool) (stt : Option SttStreamConfig)
    (recorder : Recorder) : Prop where
  targeted : recorder.Targeted selected stt
  transcribes : recorder.Transcribes designLowPass (RecorderController.sttTrack selected)

namespace OnAir

theorem drainFrame {answers rest : List FfmpegAnswer} (passed : recorder.drainFrame track answers = some (next, rest))
    (onAir : recorder.OnAir designLowPass selected stt) : next.OnAir designLowPass selected stt :=
  ⟨onAir.targeted.drainFrame passed, onAir.transcribes.drainFrame passed onAir.targeted.balanced⟩

theorem keptByPasses : KeptByPasses (OnAir designLowPass selected stt) :=
  fun _ _ _ _ _ passed onAir => onAir.drainFrame passed

theorem dropPipelines (onAir : recorder.OnAir designLowPass selected stt)
    (closed : ∀ track, recorder.opening track = none) (drained : List FfmpegAnswer) :
    (recorder.dropPipelines drained).OnAir designLowPass selected stt := by
  refine ⟨onAir.targeted.dropPipelines closed drained, ?_⟩
  obtain ⟨last, same, onAir, still, empty⟩ := keptByPasses.dropPipelines onAir drained
  have closing := onAir.transcribes.closePipelines onAir.targeted.balanced (still _ (closed _)) (empty _)
  rw [same]
  exact ⟨closing.feeds, closing.uploaded⟩

theorem steady : Steady (OnAir designLowPass selected stt) where
  stable := keptByPasses.stable
    (fun captured onAir => ⟨onAir.targeted.capture captured, onAir.transcribes.capture captured⟩)
    (fun captured onAir => ⟨onAir.targeted.captureOpening captured, onAir.transcribes.captureOpening captured⟩)
    fun _ _ onAir => ⟨⟨onAir.targeted.balanced, onAir.targeted.chosen, onAir.targeted.accepted⟩,
      onAir.transcribes.feeds, onAir.transcribes.uploaded⟩
  outside recorder change core tracks pending onAir := by
    refine ⟨Targeted.steady.outside recorder change core tracks pending onAir.targeted, ?_⟩
    have pipelines : (change recorder.controller).pipelines = recorder.controller.pipelines :=
      congrArg Core.pipelines core
    refine onAir.transcribes.moved (fun track pipeline present => ?_) rfl (congrArg Core.sttProducer core)
      (congrArg Core.sttClient core)
    exact ⟨pipeline, pipelines ▸ present, rfl⟩
  stopStream _ track onAir := ⟨onAir.targeted.stopStream track, onAir.transcribes.stopStream track⟩
  dropPipelines drained closed onAir := onAir.dropPipelines closed drained

end OnAir

end Recorder

/-- Whether the pipeline of a selected track feeds the transcription stream. -/
def Outline.feedsStt (o : Outline) : Track → Bool
  | .microphone => true
  | .systemOutput => !o.isSelected .microphone

/-- Registering a stream of a selected track, as `startStreams` does it, keeps the assertion. -/
def RegistersFeeding (o : Outline) (K : Recorder → Prop) : Prop :=
  ∀ track, o.isSelected track = true →
    ∀ recorder : Recorder, K recorder → K (recorder.register track (o.feedsStt track))

namespace Steady

open Thread Ui RecorderController

variable {K : Recorder → Prop} {o : Outline}

/-- A track that has no pipeline is started if it is selected, knowing what it feeds. -/
theorem startSelected_feeding (steady : Steady K) (opens : OpensStreams o K) {track : Track} {feeds : Bool}
    (registers : o.isSelected track = true → ∀ recorder, K recorder → K (recorder.register track feeds))
    (closed : o.opening track = none) (unregistered : o.pipelines track = none) (failure : Option CaptureError) :
    Ensures (Under o K) (RecorderController.startSelected track feeds failure) fun _ => K := by
  refine Ensures.bind_eq (o.isSelected track) (get_under ?_) (Ensures.ite (fun isSelected => ?_) fun _ => ?_)
  · rintro recorder rfl
    rfl
  · refine get_any.bind fun device => ?_
    cases failure with
    | some error =>
      exact ((steady.fail_keeps _).conseq (fun _ => And.right) fun _ _ holds => holds).bind fun _ =>
        Ensures.pure _ fun _ holds => holds
    | none =>
      refine Ensures.bind (Q := fun _ => K) (Ensures.update ?_) fun _ => ?_
      · rintro recorder ⟨rfl, holds⟩
        exact opens track isSelected recorder (Option.map_eq_none_iff.mp unregistered)
          (Option.map_eq_none_iff.mp closed) rfl holds
      · refine Ensures.bind (Q := fun _ => K) ?_ fun _ => Ensures.pure _ fun _ holds => holds
        exact Ensures.locked steady.stable fun recorder holds _ => registers isSelected recorder holds
  · exact Ensures.pure _ fun _ under => under.2

/-- No track has a pipeline. -/
theorem startStreams_feeding (steady : Steady K) (opens : OpensStreams o K) (registers : RegistersFeeding o K)
    (closed : ∀ track, o.opening track = none) (unregistered : ∀ track, o.pipelines track = none)
    (failures : Track → Option CaptureError) :
    Ensures (Under o K) (RecorderController.startStreams failures) fun _ => K := by
  obtain ⟨pipeline, middle⟩ := o.startSelected_eq .microphone true (failures .microphone)
  refine Ensures.bind_eq (o.isSelected .microphone) (get_under ?_) ?_
  · rintro recorder rfl
    rfl
  have first := startSelected_shows (closed .microphone) true (failures .microphone)
  have kept := steady.startSelected_feeding opens (registers .microphone) (closed .microphone)
    (unregistered .microphone) (failures .microphone)
  rw [middle] at first
  refine Ensures.bind_eq _ (under_of_shows first kept) (Ensures.ite (fun _ => ?_) fun _ => ?_)
  · exact Ensures.pure _ fun _ under => under.2
  have still : Function.update o.pipelines .microphone pipeline .systemOutput = none := by
    rw [Function.update_of_ne (by decide)]
    exact unregistered .systemOutput
  have second := steady.startSelected_feeding
    (o := { o with pipelines := Function.update o.pipelines .microphone pipeline }) opens (registers .systemOutput)
    (closed .systemOutput) still (failures .systemOutput)
  refine Ensures.bind_eq (o.isSelected .systemOutput) (get_under ?_) (second.bind fun _ => ?_)
  · rintro recorder shows
    exact congrArg (fun seen : Outline => seen.isSelected .systemOutput) shows
  · exact Ensures.ite (fun _ => Ensures.pure _ fun _ holds => holds) fun _ => Ensures.pure _ fun _ holds => holds

theorem resume_feeding (steady : Steady K) (opens : o.session = .paused → OpensStreams o K)
    (registers : o.session = .paused → RegistersFeeding o K) (failures : Track → Option CaptureError)
    (settled : o.Settled) : Ensures (Under o K) (RecorderController.resume failures) fun _ => K := by
  refine Ensures.bind_eq o.session (get_under ?_) (Ensures.ite (fun _ => ?_) fun paused => ?_)
  · rintro recorder rfl
    rfl
  · exact Ensures.pure _ fun _ under => under.2
  rw [not_not] at paused
  have started := steady.startStreams_feeding (opens paused) (registers paused) settled.opening
    (settled.paused paused) failures
  refine started.bind fun _ => Ensures.ite (fun _ => ?_) fun _ => steady.handle_keeps .resume
  exact (steady.handle_keeps .fault).bind fun _ => Ensures.pure _ fun _ holds => holds

end Steady

namespace Recorder.OnAir

variable {designLowPass : ℕ → ℚ → List ℚ} {selected : Track → Bool} {stt : Option SttStreamConfig} {o : Outline}

theorem opensStreams (numbered : ∀ track, o.isSelected track = true → 0 ≤ o.writerTracks track) :
    OpensStreams o (OnAir designLowPass selected stt) := by
  intro track isSelected recorder unregistered closed same onAir
  refine ⟨Targeted.opensStreams numbered track isSelected recorder unregistered closed same onAir.targeted, ?_⟩
  exact ⟨onAir.transcribes.feeds, onAir.transcribes.uploaded⟩

/-- The transcription stream was chosen for the devices selected now. -/
theorem registersFeeding
    (input : ∀ settings, stt = some settings → settings.input = RecorderController.sttInput o.isSelected) :
    RegistersFeeding o (OnAir designLowPass selected stt) := by
  intro track isSelected recorder onAir
  have alone (feeds : o.feedsStt track = true) (here : track = .systemOutput) : o.isSelected .microphone = false := by
    subst here
    simpa [Outline.feedsStt] using feeds
  refine ⟨Targeted.registersStreams input track _ isSelected alone recorder onAir.targeted, ?_⟩
  refine onAir.transcribes.register track _ fun on => ?_
  obtain ⟨producer, isProducer⟩ := Option.ne_none_iff_exists'.mp on
  have isChosen : stt = some producer.config :=
    onAir.targeted.chosen.producer.symm.trans (congrArg (Option.map SttStreamProducer.config) isProducer)
  have same : RecorderController.sttTrack selected = RecorderController.sttTrack o.isSelected := by
    refine Track.format_injective ?_
    rw [← RecorderController.sttInput_eq, ← RecorderController.sttInput_eq, ← input _ isChosen]
    exact (onAir.targeted.chosen.input _ isChosen).symm
  rw [same, RecorderController.sttTrack]
  cases microphone : o.isSelected .microphone <;> cases track <;> simp_all [Outline.feedsStt]

end Recorder.OnAir

namespace RecorderController

open Thread Ui Recorder

variable {o : Outline}

/-- A writer for the selected devices is open, and nothing has been put out yet. -/
structure Unfed (selected : Track → Bool) (recorder : Recorder) : Prop where
  targeted : recorder.Targeted selected none
  unmade : ∀ track, recorder.history.made track = []

/-- Without a producer the transcription stream has been fed all there is. -/
theorem Unfed.transcribes {selected : Track → Bool} {recorder : Recorder} (unfed : Unfed selected recorder)
    (designLowPass : ℕ → ℚ → List ℚ) (feeding : Track) : recorder.Transcribes designLowPass feeding := by
  have silent : recorder.controller.sttProducer = none := Option.map_eq_none_iff.mp unfed.targeted.chosen.producer
  exact ⟨fun _ _ _ on => absurd silent on, fun _ _ present => absurd (silent.symm.trans present) nofun⟩

theorem Unfed.setController {selected : Track → Bool} {recorder : Recorder} (unfed : Unfed selected recorder)
    {change : RecorderController → RecorderController} (core : (recorder.setController change).core = recorder.core)
    (shows : (recorder.setController change).outline = recorder.outline) :
    Unfed selected (recorder.setController change) :=
  ⟨Targeted.steady.outside recorder change core (congrArg Outline.writerTracks shows)
    (congrArg Outline.pendingOutputFile shows) unfed.targeted, unfed.unmade⟩

/-- With no pipeline and no stream being opened, nothing is put out. -/
theorem stable_unfed (unregistered : ∀ track, o.pipelines track = none) (closed : ∀ track, o.opening track = none) :
    Stable Recorder.environment (Under o (Unfed o.isSelected)) := by
  intro recorder event next taken ⟨shows, targeted, unmade⟩
  refine ⟨Shows.stable o recorder event next taken shows, Targeted.steady.stable recorder event next taken targeted, ?_⟩
  exact (stable_quiet (fun _ _ history => ∀ track, history.made track = []) recorder event next taken
    ⟨quiet_of_shows shows unregistered closed, unmade⟩).2

/-- The writer's tracks are chosen; nothing has been put out yet. -/
theorem createWriter_onAir (unregistered : ∀ track, o.pipelines track = none)
    (closed : ∀ track, o.opening track = none) (silent : o.sttProducer = none) (answers : FileAnswers) :
    Ensures (Shows o) (createWriter answers) fun created recorder => created = true →
      ∃ path, Under (o.recordingTo path) (Unfed o.isSelected) recorder := by
  have unmade := createWriter_installs (K := fun recorder => ∀ track, recorder.history.made track = []) unregistered
    closed (fun _ _ _ _ _ _ _ => rfl) answers
  intro view created view' outcome shows done
  obtain ⟨path, shows', targeted⟩ :=
    createWriter_targeted unregistered closed silent answers view created view' outcome shows done
  exact ⟨path, shows', targeted, unmade view created view' outcome shows done⟩

/-- The transcription stream is fed from its first frame on, or stays off. -/
theorem startSttStreaming_transcribes (designLowPass : ℕ → ℚ → List ℚ) (answers : SttAnswers)
    (unregistered : ∀ track, o.pipelines track = none) (closed : ∀ track, o.opening track = none) :
    Ensures (Under o (Unfed o.isSelected)) (startSttStreaming designLowPass answers) fun _ recorder =>
      recorder.Transcribes designLowPass (sttTrack o.isSelected) := by
  have off (recorder : Recorder) (under : Under o (Unfed o.isSelected) recorder) :
      recorder.Transcribes designLowPass (sttTrack o.isSelected) := under.2.transcribes designLowPass _
  have failed (message : String) : Ensures (Under o (Unfed o.isSelected)) (fail message) fun _ recorder =>
      recorder.Transcribes designLowPass (sttTrack o.isSelected) :=
    set_ensures fun recorder under => (under.2.setController rfl rfl).transcribes designLowPass _
  refine get_any.bind fun endpoint => Ensures.ite (fun _ => Ensures.pure _ off) fun _ => ?_
  refine Ensures.bind (Q := fun _ => Under o (Unfed o.isSelected)) (set_ensures fun recorder under => ?_) fun _ => ?_
  · exact ⟨under.1, under.2.setController rfl rfl⟩
  refine Ensures.bind_eq (sttSettings (sttTrack o.isSelected)) (Steady.get_under ?_) ?_
  · rintro recorder rfl
    rw [sttSettings, ← sttInput_eq]
    rfl
  split
  next => exact failed _
  next producer created =>
    refine Ensures.ite (fun _ => failed _) fun _ => Ensures.locked (stable_unfed unregistered closed) ?_
    rintro recorder ⟨rfl, -, unmade⟩ -
    refine ⟨fun track pipeline present => ?_, ?_⟩
    · exact absurd ((Option.map_eq_none_iff.mp (unregistered track)).symm.trans present) nofun
    · rintro _ _ ⟨⟩ ⟨⟩
      refine ⟨producer, created, ?_⟩
      change producer.run ((recorder.history.made _).map _) = _
      rw [unmade]
      rfl

/-- A start that succeeds goes on air. -/
theorem start_onAir (designLowPass : ℕ → ℚ → List ℚ) (answers : StartAnswers) (settled : o.Settled)
    (silent : o.session = .idle → o.sttProducer = none) :
    Ensures (Shows o) (start designLowPass answers) fun started recorder =>
      started = true → ∃ selected stt, recorder.OnAir designLowPass selected stt := by
  refine start_stages settled fun devices selected idle settled => ?_
  generalize chosen : ({ o with devices := devices, selected := selected } : Outline) = o' at settled
  have silent : o'.sttProducer = none := chosen ▸ silent idle
  have released := settled.released (chosen ▸ idle)
  refine (startRecording_stages (I := Unfed o'.isSelected) (J := OnAir designLowPass o'.isSelected)
    (createWriter_onAir released.pipelines settled.opening silent answers.file) (Ensures.act ?_) (fun path => ?_)
    (fun path producer client => ?_) fun producer recorder onAir => ?_).conseq (fun _ shows => shows)
      fun _ _ begun done => (begun done).elim fun stt onAir => ⟨_, stt, onAir⟩
  · rintro recorder ⟨targeted, unmade⟩
    exact ⟨Targeted.steady.outside recorder (fun controller => { controller with
      session := (RecordingSession.handle recorder.controller.session .start).2 }) rfl rfl rfl targeted, unmade⟩
  · intro view result view' outcome under
    obtain ⟨producer, client, shows, targeted⟩ := startSttStreaming_targeted
      (o := (o'.recordingTo path).handle .start) designLowPass answers.stt released.pipelines view result view' outcome
      ⟨under.1, under.2.targeted⟩
    exact ⟨producer, client, shows, targeted, startSttStreaming_transcribes
      (o := (o'.recordingTo path).handle .start) designLowPass answers.stt released.pipelines settled.opening view
      result view' outcome under⟩
  · refine Ensures.conseq (P := fun recorder => (∀ settings, producer = some settings →
      settings.input = sttInput o'.isSelected) ∧ Under { (o'.recordingTo path).handle .start with
        sttProducer := producer, sttClient := client } (OnAir designLowPass o'.isSelected producer) recorder) ?_
      (fun recorder under => ⟨under.2.targeted.chosen.input, under⟩) fun _ _ holds => holds
    refine Ensures.of_fact fun input => ?_
    exact OnAir.steady.startStreams_feeding (o := { (o'.recordingTo path).handle .start with
      sttProducer := producer, sttClient := client }) (OnAir.opensStreams fun track => numbered_of_isSelected)
        (OnAir.registersFeeding input) settled.opening released.pipelines answers.captures
  · exact OnAir.steady.outside recorder _ rfl rfl rfl onAir

end RecorderController

end VoxMesh.App
