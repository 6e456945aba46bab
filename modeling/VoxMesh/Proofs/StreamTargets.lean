import VoxMesh.Proofs.LedgerOperations
import VoxMesh.Proofs.PausedStream

/-! # Where the streams of a session lead

The writer's tracks and the input of the transcription stream are chosen when a session starts, for the devices
selected then. `Targeted` says that the ledger is balanced, that every pipeline that feeds the transcription stream
has the format chosen for it, and that nothing was rejected unless a sink took a frame of another format. Every step
keeps it, as long as streams are registered for the writer's tracks and feed what they were chosen to feed.
-/

namespace VoxMesh.Dsp.SttStreamProducer

open VoxMesh.Audio

private theorem emitAll_rejectedFrames (anchor : ℤ) (fuel : ℕ) (producer : SttStreamProducer) :
    (emitAll anchor fuel producer).1.stats.rejectedFrames = producer.stats.rejectedFrames := by
  induction fuel generalizing producer with
  | zero => rfl
  | succ fuel ih =>
    rw [emitAll]
    split
    next => rfl
    next => exact ih _

theorem process_rejectedFrames {producer : SttStreamProducer} {frame : AudioFrame}
    (accepted : producer.accepts frame = true) :
    (producer.process frame).1.stats.rejectedFrames = producer.stats.rejectedFrames := by
  simp only [process, accepted, Bool.not_true, Bool.false_eq_true, if_false]
  refine (emitAll_rejectedFrames ..).trans ?_
  change (producer.receive frame).stats.rejectedFrames = _
  rw [receive]
  split <;> rfl

/-- Frames of the input format are all accepted. -/
theorem run_rejectedFrames {producer : SttStreamProducer} {frames : List AudioFrame}
    (matching : ∀ frame ∈ frames, frame.trackFormat = producer.config.input) :
    (producer.run frames).1.stats.rejectedFrames = producer.stats.rejectedFrames := by
  induction frames generalizing producer with
  | nil => rfl
  | cons frame rest ih =>
    obtain ⟨here, later⟩ := List.forall_mem_cons.mp matching
    have same := process_rejectedFrames (accepts_iff.mpr here)
    rw [run, ← same]
    exact ih fun other member => (later other member).trans (congrArg _ (producer.process_config frame)).symm

end VoxMesh.Dsp.SttStreamProducer

namespace VoxMesh.App

open VoxMesh.Audio VoxMesh.Media VoxMesh.Dsp Machine

/-- Every frame that a sink has taken since the writer was opened has the format asked for. -/
def History.Conforming (history : History) : Prop := ∀ track, ∀ frame : AudioFrame,
  (frame ∈ history.accepted track ∨ ∃ ring ∈ history.rings track, frame ∈ ring) → frame.trackFormat = track.format

namespace History.Conforming

variable {history : History}

theorem of_offer {track : Track} {frame : AudioFrame} {accepted : Bool}
    (conforming : (history.offer track frame accepted).Conforming) : history.Conforming := by
  cases accepted with
  | false => exact conforming
  | true =>
    intro other taken member
    refine conforming other taken (member.imp_left fun inside => ?_)
    by_cases here : other = track
    · subst here
      simp only [offer, if_true, Function.update_self]
      exact List.mem_append_left _ inside
    · simpa only [offer, if_true, Function.update_of_ne here] using inside

/-- The rings that are dropped stay in the history. -/
theorem of_close {present : Track → Bool} (untouched : ∀ track, present track = false → history.accepted track = [])
    (conforming : (history.close present).Conforming) : history.Conforming := by
  intro track frame member
  refine conforming track frame (.inr ?_)
  cases isPresent : present track with
  | false =>
    rw [untouched track isPresent] at member
    simpa only [close, isPresent, Bool.false_eq_true, if_false, List.not_mem_nil, false_or] using member
  | true =>
    simp only [close, isPresent, if_true, List.mem_append, List.mem_singleton]
    rcases member with inside | ⟨ring, older, inside⟩
    · exact ⟨_, .inr rfl, inside⟩
    · exact ⟨ring, .inl older, inside⟩

end History.Conforming

/-- The input of the transcription stream for the selected tracks. -/
def RecorderController.sttInput (selected : Track → Bool) : TrackFormat :=
  if selected .microphone then Track.format .microphone else Track.format .systemOutput

/-- What was chosen for a session: the writer's tracks and the transcription stream. -/
structure Outline.Chosen (o : Outline) (selected : Track → Bool) (stt : Option SttStreamConfig) : Prop where
  numbered : o.writerTracks = RecorderController.trackIndices selected
  tracks : o.writer.map (·.tracks) = some (RecorderController.trackConfigs selected)
  producer : o.sttProducer = stt
  input : ∀ settings, stt = some settings → settings.input = RecorderController.sttInput selected
  feeds : ∀ track pipeline settings, o.pipelines track = some pipeline → pipeline.feedsSttStream = true →
    stt = some settings → settings.input = track.format

/-- No pipeline begins to feed the transcription stream. -/
theorem Outline.Chosen.moved {o after : Outline} {selected : Track → Bool} {stt : Option SttStreamConfig}
    (chosen : o.Chosen selected stt) (tracks : after.writerTracks = o.writerTracks) (writer : after.writer = o.writer)
    (producer : after.sttProducer = o.sttProducer)
    (feeds : ∀ track pipeline, after.pipelines track = some pipeline → pipeline.feedsSttStream = true →
      ∃ old, o.pipelines track = some old ∧ old.feedsSttStream = true) : after.Chosen selected stt where
  numbered := tracks.trans chosen.numbered
  tracks := writer ▸ chosen.tracks
  producer := producer.trans chosen.producer
  input := chosen.input
  feeds track pipeline settings present feeding isChosen := by
    obtain ⟨old, present, feeding⟩ := feeds track pipeline present feeding
    exact chosen.feeds track old settings present feeding isChosen

namespace Recorder

structure Targeted (selected : Track → Bool) (stt : Option SttStreamConfig) (recorder : Recorder) : Prop where
  balanced : recorder.Balanced
  chosen : recorder.outline.Chosen selected stt
  accepted : recorder.history.Conforming → ∀ producer, recorder.controller.sttProducer = some producer →
    producer.stats.rejectedFrames = 0

namespace Targeted

variable {selected : Track → Bool} {stt : Option SttStreamConfig} {recorder next : Recorder} {track : Track}
  {frame : AudioFrame}

theorem capture (captured : recorder.capture track frame = some next) (targeted : recorder.Targeted selected stt) :
    next.Targeted selected stt := by
  have same : next.outline = recorder.outline :=
    environment_outline (show recorder.environment (.capture track frame) = some next from captured)
  refine ⟨capture_balanced captured targeted.balanced, same ▸ targeted.chosen, ?_⟩
  obtain ⟨pipeline, -, -, rfl⟩ := capture_eq_some captured
  exact fun conforming => targeted.accepted conforming.of_offer

theorem captureOpening (captured : recorder.captureOpening track frame = some next)
    (targeted : recorder.Targeted selected stt) : next.Targeted selected stt := by
  have same : next.outline = recorder.outline :=
    environment_outline (show recorder.environment (.captureOpening track frame) = some next from captured)
  refine ⟨captureOpening_balanced captured targeted.balanced, same ▸ targeted.chosen, ?_⟩
  obtain ⟨line, -, rfl⟩ := captureOpening_eq_some captured
  exact fun conforming => targeted.accepted conforming.of_offer

/-- What the synchronizer makes of a popped frame has the track's format. -/
private theorem trackFormat_popped (balanced : recorder.Balanced) (conforming : recorder.history.Conforming)
    {pipeline : TrackPipeline} (present : recorder.controller.pipelines track = some pipeline)
    (popped : pipeline.buffer.tryPop.1 = some frame) :
    ∀ output ∈ (pipeline.synchronizer.process .machine frame).2, output.frame.trackFormat = track.format := by
  have flow := balanced.flow track
  rw [show recorder.books.pipelines track = some pipeline from present] at flow
  obtain ⟨synced, -, within, -⟩ := flow.pop popped
  have taken : frame ∈ recorder.history.accepted track := within.subset (by simp)
  have own := conforming track frame (.inl taken)
  intro output member
  refine (TrackSynchronizer.process_trackFormat .machine pipeline.synchronizer frame ?_ output member).trans own
  rw [own, synced, track.synchronizer_config]
  rfl

/-- A pass of the drain loop feeds frames of the chosen format, or none. -/
theorem drainFrame {answers rest : List FfmpegAnswer}
    (passed : recorder.drainFrame track answers = some (next, rest)) (targeted : recorder.Targeted selected stt) :
    next.Targeted selected stt := by
  refine ⟨drainFrame_balanced passed targeted.balanced, drainFrame_outline passed ▸ targeted.chosen, ?_⟩
  obtain ⟨pipeline, frame, disk, writer, writerFailed, writes, producer, client, present, popped, same, outcome⟩ :=
    drainFrame_core passed
  have history : next.history = { (recorder.history.pop track frame).feed pipeline.feedsSttStream
      (pipeline.synchronizer.process .machine frame).2 with writes := writes } :=
    congrArg Core.history same
  have hasProducer : next.controller.sttProducer = producer := congrArg Core.sttProducer same
  rw [history, hasProducer]
  intro conforming last isLast
  have conforming : recorder.history.Conforming := conforming
  rcases outcome with ⟨unfed, -, -⟩ | ⟨before, uploads, feeds, hadProducer, -, fed⟩
  · exact targeted.accepted conforming last (unfed ▸ isLast)
  · obtain rfl := Option.some.inj (fed.1.symm.trans isLast)
    rw [SttStreamProducer.run_rejectedFrames, targeted.accepted conforming before hadProducer]
    have isChosen : stt = some before.config :=
      targeted.chosen.producer.symm.trans (congrArg (Option.map SttStreamProducer.config) hadProducer)
    have input := targeted.chosen.feeds track pipeline.outline before.config
      (congrArg (Option.map TrackPipeline.outline) present) feeds isChosen
    intro output member
    obtain ⟨made, here, rfl⟩ := List.mem_map.mp member
    exact (trackFormat_popped targeted.balanced conforming present popped made here).trans input.symm

theorem keptByPasses : KeptByPasses (Targeted selected stt) :=
  fun _ _ _ _ _ passed targeted => targeted.drainFrame passed

/-- The pipelines are dropped once their rings are empty. -/
theorem closePipelines (targeted : recorder.Targeted selected stt) (closed : ∀ track, recorder.opening track = none)
    (empty : ∀ track, recorder.waiting track = 0) : Targeted selected stt { recorder with
      controller.pipelines := fun _ => none
      history := recorder.history.close fun track => (recorder.controller.pipelines track).isSome } := by
  refine ⟨targeted.balanced.close closed empty,
    targeted.chosen.moved rfl rfl rfl fun _ _ present => absurd present nofun, fun conforming => ?_⟩
  refine targeted.accepted (conforming.of_close fun track absent => ?_)
  cases targeted.balanced.flow track with
  | vacant _ _ untouched => exact untouched
  | opening line _ opened => exact absurd ((closed track).symm.trans opened) nofun
  | flowing registered _ present =>
    rw [show recorder.controller.pipelines track = some registered from present] at absent
    contradiction

theorem dropPipelines (targeted : recorder.Targeted selected stt) (closed : ∀ track, recorder.opening track = none)
    (drained : List FfmpegAnswer) : (recorder.dropPipelines drained).Targeted selected stt := by
  obtain ⟨last, same, targeted, still, empty⟩ := keptByPasses.dropPipelines targeted drained
  have closing := targeted.closePipelines (fun track => still track (closed track)) empty
  rw [same]
  exact ⟨closing.balanced, closing.chosen, closing.accepted⟩

theorem stopStream (targeted : recorder.Targeted selected stt) (track : Track) :
    (recorder.stopStream track).Targeted selected stt := by
  have balanced := stopStream_balanced targeted.balanced track
  revert balanced
  rw [Recorder.stopStream]
  split
  next => exact fun _ => targeted
  next pipeline present =>
    refine fun balanced => ⟨balanced, targeted.chosen.moved rfl rfl rfl ?_, targeted.accepted⟩
    intro other stopped isStopped feeds
    change Option.map _ (Function.update recorder.controller.pipelines track (some _) other) = _ at isStopped
    rcases eq_or_ne other track with rfl | apart
    · rw [Function.update_self, Option.map_some, Option.some.injEq] at isStopped
      subst isStopped
      exact ⟨pipeline.outline, congrArg (Option.map TrackPipeline.outline) present, feeds⟩
    · rw [Function.update_of_ne apart] at isStopped
      exact ⟨stopped, isStopped, feeds⟩

/-- A stream is registered that feeds the transcription stream only in the chosen format. -/
theorem register (targeted : recorder.Targeted selected stt) (track : Track) (feeds : Bool)
    (suits : feeds = true → ∀ settings, stt = some settings → settings.input = track.format) :
    (recorder.register track feeds).Targeted selected stt := by
  have balanced := register_balanced targeted.balanced track feeds
  revert balanced
  rw [Recorder.register]
  split
  next => exact fun _ => targeted
  next line opened =>
    refine fun balanced => ⟨balanced, ?_, targeted.accepted⟩
    obtain ⟨numbered, tracks, producer, input, feeding⟩ := targeted.chosen
    refine ⟨numbered, tracks, producer, input, fun other pipeline settings present isFeeding isChosen => ?_⟩
    change Option.map _ (Function.update recorder.controller.pipelines track (some _) other) = _ at present
    rcases eq_or_ne other track with rfl | apart
    · rw [Function.update_self, Option.map_some, Option.some.injEq] at present
      subst present
      exact suits isFeeding settings isChosen
    · rw [Function.update_of_ne apart] at present
      exact feeding other pipeline settings present isFeeding isChosen

theorem steady : Steady (Targeted selected stt) where
  stable := keptByPasses.stable (fun captured => capture captured) (fun captured => captureOpening captured)
    fun _ _ targeted => ⟨targeted.balanced, targeted.chosen, targeted.accepted⟩
  outside recorder change core tracks pending targeted := by
    have writer : (change recorder.controller).writer = recorder.controller.writer := congrArg Core.writer core
    have producer : (change recorder.controller).sttProducer = recorder.controller.sttProducer :=
      congrArg Core.sttProducer core
    have pipelines : (change recorder.controller).pipelines = recorder.controller.pipelines :=
      congrArg Core.pipelines core
    refine ⟨RecorderController.sustained_balanced.outside recorder change core tracks pending targeted.balanced,
      targeted.chosen.moved tracks (congrArg (Option.map FfmpegRecordingWriter.config) writer)
        (congrArg (Option.map SttStreamProducer.config) producer)
        fun track pipeline present feeds => ?_, ?_⟩
    · have same := congrArg (Option.map TrackPipeline.outline) (congrFun pipelines track)
      exact ⟨pipeline, same.symm.trans present, feeds⟩
    · exact fun conforming last isLast => targeted.accepted conforming last (producer.symm.trans isLast)
  stopStream _ track targeted := targeted.stopStream track
  dropPipelines drained closed targeted := targeted.dropPipelines closed drained

/-- Streams are opened for the writer's tracks. -/
theorem opensStreams {o : Outline} (numbered : ∀ track, o.isSelected track = true → 0 ≤ o.writerTracks track) :
    OpensStreams o (Targeted selected stt) := by
  intro track isSelected recorder unregistered closed same targeted
  refine ⟨RecorderController.opens_balanced numbered track isSelected recorder unregistered closed same
    targeted.balanced, ?_, targeted.accepted⟩
  exact targeted.chosen.moved rfl rfl rfl fun other pipeline present feeds => ⟨pipeline, present, feeds⟩

/-- The transcription stream was chosen for the devices selected now. -/
theorem registersStreams {o : Outline}
    (input : ∀ settings, stt = some settings → settings.input = RecorderController.sttInput o.isSelected) :
    RegistersStreams o (Targeted selected stt) := by
  intro track feeds isSelected alone recorder targeted
  refine targeted.register track feeds fun feeding settings isChosen => (input settings isChosen).trans ?_
  cases track with
  | microphone => rw [RecorderController.sttInput, if_pos isSelected]
  | systemOutput => rw [RecorderController.sttInput, alone feeding rfl]; rfl

end Targeted

end Recorder

/-- The transcription stream has both ends or none, and every pipeline aligns to its track's format. -/
structure Wired (core : Core) : Prop where
  silent : core.sttClient = none → core.sttProducer = none
  synced : ∀ track pipeline, core.pipelines track = some pipeline → pipeline.synchronizer.config = track.sync

namespace Wired

/-- One track gets another pipeline. -/
theorem retrack {core after : Core} (wired : Wired core) {track : Track} {pipeline : TrackPipeline}
    (pipelines : after.pipelines = Function.update core.pipelines track (some pipeline))
    (synced : pipeline.synchronizer.config = track.sync)
    (silent : after.sttClient = none → after.sttProducer = none) : Wired after := by
  refine ⟨silent, fun other registered present => ?_⟩
  rw [pipelines] at present
  rcases eq_or_ne other track with rfl | apart
  · rw [Function.update_self, Option.some.injEq] at present
    exact present ▸ synced
  · rw [Function.update_of_ne apart] at present
    exact wired.synced other registered present

theorem enduring : Enduring Wired where
  disk _ _ wired := ⟨wired.silent, wired.synced⟩
  installWriter _ _ wired := ⟨wired.silent, wired.synced⟩
  capture captured wired := by
    obtain ⟨pipeline, present, -, rfl⟩ := Recorder.capture_eq_some captured
    exact wired.retrack rfl (wired.synced _ pipeline present) wired.silent
  captureOpening captured wired := by
    obtain ⟨line, -, rfl⟩ := Recorder.captureOpening_eq_some captured
    exact ⟨wired.silent, wired.synced⟩
  drainFrame passed wired := by
    obtain ⟨pipeline, frame, _, _, _, _, producer, client, present, -, same, outcome⟩ := Recorder.drainFrame_core passed
    refine wired.retrack (congrArg Core.pipelines same) ?_ ?_
    · exact (TrackSynchronizer.process_config ..).trans (wired.synced _ pipeline present)
    rw [congrArg Core.sttClient same, congrArg Core.sttProducer same]
    rcases outcome with ⟨rfl, rfl, -⟩ | ⟨_, _, -, -, -, -, fed⟩
    · exact wired.silent
    · exact fun none => absurd (fed.symm.trans none) nofun
  closePipelines _ _ wired := ⟨wired.silent, by rintro track pipeline ⟨⟩⟩
  openStream _ _ wired := ⟨wired.silent, wired.synced⟩
  register recorder track feeds wired := by
    rw [Recorder.register]
    split
    next => exact wired
    next => exact wired.retrack rfl rfl wired.silent
  stopStream recorder track wired := by
    rw [Recorder.stopStream]
    split
    next => exact wired
    next pipeline present => exact wired.retrack rfl (wired.synced track pipeline present) wired.silent
  abortWriter recorder wired := by
    unfold Recorder.abortWriter
    split <;> exact ⟨wired.silent, wired.synced⟩
  finishWriter recorder finalized renamed wired := by
    unfold Recorder.finishWriter Recorder.abortWriter
    repeat' split
    all_goals exact ⟨wired.silent, wired.synced⟩
  installStt _ _ _ _ _ _ _ wired := ⟨by rintro ⟨⟩, wired.synced⟩
  removeStt _ wired := ⟨fun _ => rfl, wired.synced⟩

end Wired

namespace RecorderController

open Thread Ui Recorder

variable {o : Outline}

/-- The writer's tracks are chosen; nothing is transcribed yet. -/
theorem createWriter_targeted (unregistered : ∀ track, o.pipelines track = none)
    (closed : ∀ track, o.opening track = none) (silent : o.sttProducer = none) (answers : FileAnswers) :
    Ensures (Shows o) (createWriter answers) fun created recorder => created = true →
      ∃ path, Under (o.recordingTo path) (Targeted o.isSelected none) recorder := by
  refine (createWriter_accounts unregistered closed answers).conseq (fun _ shows => shows) ?_
  intro created recorder opened done
  obtain ⟨path, shows, balanced⟩ := opened done
  refine ⟨path, shows, balanced, ?_, fun _ producer present => ?_⟩
  · rw [show recorder.outline = _ from shows]
    refine ⟨rfl, rfl, silent, by rintro settings ⟨⟩, ?_⟩
    rintro track pipeline settings - - ⟨⟩
  · have absent : recorder.outline.sttProducer = none := (congrArg Outline.sttProducer shows).trans silent
    exact absurd (present.symm.trans (Option.map_eq_none_iff.mp absent)) nofun

/-- The transcription stream is chosen, or stays off. -/
theorem startSttStreaming_targeted (designLowPass : ℕ → ℚ → List ℚ) (answers : SttAnswers)
    (unregistered : ∀ track, o.pipelines track = none) :
    Ensures (Under o (Targeted o.isSelected none)) (startSttStreaming designLowPass answers) fun _ recorder =>
      ∃ producer client, Under { o with sttProducer := producer, sttClient := client }
        (Targeted o.isSelected producer) recorder := by
  have unchanged : ∀ recorder, Under o (Targeted o.isSelected none) recorder → ∃ producer client,
      Under { o with sttProducer := producer, sttClient := client } (Targeted o.isSelected producer) recorder := by
    rintro recorder ⟨rfl, targeted⟩
    refine ⟨none, recorder.outline.sttClient, ?_, targeted⟩
    rw [← targeted.chosen.producer]
    rfl
  have kept {change : RecorderController → RecorderController} (shows : ∀ recorder : Recorder,
        (recorder.setController change).outline = recorder.outline)
      (core : ∀ recorder : Recorder, (recorder.setController change).core = recorder.core) :
      Ensures (Under o (Targeted o.isSelected none)) (Ui.set change) fun _ => Under o (Targeted o.isSelected none) := by
    refine set_ensures fun recorder under => ⟨(shows recorder).trans under.1, ?_⟩
    exact Targeted.steady.outside recorder change (core recorder) (congrArg Outline.writerTracks (shows recorder))
      (congrArg Outline.pendingOutputFile (shows recorder)) under.2
  have failed (message : String) : Ensures (Under o (Targeted o.isSelected none)) (fail message) fun _ recorder =>
      ∃ producer client, Under { o with sttProducer := producer, sttClient := client }
        (Targeted o.isSelected producer) recorder :=
    (kept (fun _ => rfl) fun _ => rfl).conseq (fun _ under => under) fun _ => unchanged
  refine get_any.bind fun endpoint => Ensures.ite (fun _ => Ensures.pure _ unchanged) fun _ => ?_
  refine (kept (fun _ => rfl) fun _ => rfl).bind fun _ => ?_
  refine Ensures.bind_eq (⟨sttInput o.isSelected, config.sttStream, config.sttFrameDuration⟩ : SttStreamConfig)
    (Steady.get_under ?_) ?_
  · rintro recorder rfl
    rfl
  split
  next => exact failed _
  next producer created =>
    refine Ensures.ite (fun _ => failed _) fun _ => ?_
    have stable : Stable Recorder.environment (Under o (Targeted o.isSelected none)) :=
      fun seen event next taken under => ⟨Shows.stable o seen event next taken under.1,
        Targeted.steady.stable seen event next taken under.2⟩
    refine Ensures.locked stable ?_
    rintro recorder ⟨rfl, targeted⟩ -
    have producerEq := (SttStreamProducer.created_of_create created).producer
    refine ⟨some producer.config, true, rfl, targeted.balanced, ?_, ?_⟩
    · obtain ⟨numbered, tracks, -, -, -⟩ := targeted.chosen
      refine ⟨numbered, tracks, rfl, ?_, fun track pipeline _ present => ?_⟩
      · rintro _ ⟨⟩
        rw [producerEq]
      · exact absurd ((unregistered track).symm.trans present) nofun
    · rintro - _ ⟨⟩
      rw [producerEq]

/-- A start that succeeds chooses the targets for the selected devices. -/
theorem start_targeted (designLowPass : ℕ → ℚ → List ℚ) (answers : StartAnswers) (settled : o.Settled)
    (silent : o.session = .idle → o.sttProducer = none) :
    Ensures (Shows o) (start designLowPass answers) fun started recorder =>
      started = true → ∃ selected stt, recorder.Targeted selected stt := by
  refine start_stages settled fun devices selected idle settled => ?_
  generalize chosen : ({ o with devices := devices, selected := selected } : Outline) = o' at settled
  have silent : o'.sttProducer = none := chosen ▸ silent idle
  have released := settled.released (chosen ▸ idle)
  refine (startRecording_stages (I := Targeted o'.isSelected none) (J := Targeted o'.isSelected)
    (createWriter_targeted released.pipelines settled.opening silent answers.file) (Targeted.steady.handle_keeps .start)
    (fun path => startSttStreaming_targeted designLowPass answers.stt released.pipelines)
    (fun path producer client => ?_) fun producer recorder targeted => ?_).conseq (fun _ shows => shows)
      fun _ _ begun done => (begun done).elim fun stt targeted => ⟨_, stt, targeted⟩
  · refine Ensures.conseq (P := fun recorder => (∀ settings, producer = some settings →
      settings.input = sttInput o'.isSelected) ∧ Under { (o'.recordingTo path).handle .start with
        sttProducer := producer, sttClient := client } (Targeted o'.isSelected producer) recorder) ?_
      (fun recorder under => ⟨under.2.chosen.input, under⟩) fun _ _ holds => holds
    refine Ensures.of_fact fun input => ?_
    exact Targeted.steady.startStreams (o := { (o'.recordingTo path).handle .start with
      sttProducer := producer, sttClient := client }) (Targeted.opensStreams fun track => numbered_of_isSelected)
        (Targeted.registersStreams input) settled.opening released.pipelines answers.captures
  · exact Targeted.steady.outside recorder _ rfl rfl rfl targeted

end RecorderController

end VoxMesh.App
