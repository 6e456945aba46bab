import VoxMesh.Proofs.RecorderOperations

/-! # The recorder between two operations

`Settled` says which resources the recorder holds in which session state when no operation is running. Every
operation leads from a settled outline to a settled one. The session gets into its failed state in one way:
a paused recording is resumed and its streams do not start. Nothing leads out of it.
-/

namespace VoxMesh.App

open VoxMesh.Audio VoxMesh.Media Machine

/-- Nothing is held: no pipeline, no writer, no transcription client, no file being written. -/
structure Outline.Released (o : Outline) : Prop where
  pipelines : ∀ track, o.pipelines track = none
  writer : o.writer = none
  sttClient : o.sttClient = false
  pendingOutputFile : o.pendingOutputFile = ""

/-- All pipelines are running, and one of them feeds the transcription stream if there is one. -/
structure Outline.Capturing (o : Outline) : Prop where
  feeding : ∃ track pipeline, o.pipelines track = some pipeline ∧ pipeline.feedsSttStream = true
  running : ∀ track pipeline, o.pipelines track = some pipeline → pipeline.running = true

structure Outline.Settled (o : Outline) : Prop where
  opening : ∀ track, o.opening track = none
  targets : ∀ track pipeline, o.pipelines track = some pipeline → pipeline.writerTrack = o.writerTracks track
  steady : o.session ≠ .stopping ∧ o.session ≠ .stopped
  released : o.session = .idle → o.Released
  writing : o.session ≠ .idle → o.writer.isSome
  capturing : o.session = .recording → o.Capturing
  paused : o.session = .paused → ∀ track, o.pipelines track = none

namespace Outline

variable {o : Outline}

/-- The choice of devices is none of the resources. -/
theorem Settled.reselect (settled : o.Settled) (devices : Track → List AudioDeviceInfo) (selected : Track → ℤ) :
    Settled { o with devices := devices, selected := selected } where
  opening := settled.opening
  targets := settled.targets
  steady := settled.steady
  released idle := ⟨(settled.released idle).pipelines, (settled.released idle).writer,
    (settled.released idle).sttClient, (settled.released idle).pendingOutputFile⟩
  writing := settled.writing
  capturing recording := ⟨(settled.capturing recording).feeding, (settled.capturing recording).running⟩
  paused := settled.paused

/-- An idle recorder that holds nothing is settled. -/
theorem settled_of_released (opening : ∀ track, o.opening track = none) (idle : o.session = .idle)
    (released : o.Released) : o.Settled where
  opening := opening
  targets track _ present := absurd ((released.pipelines track).symm.trans present) nofun
  steady := by simp [idle]
  released _ := released
  writing active := absurd idle active
  capturing recording := absurd (idle.symm.trans recording) nofun
  paused isPaused := absurd (idle.symm.trans isPaused) nofun

/-- The writer's tracks are the selected ones, and exactly these have pipelines. -/
structure Begun (o : Outline) : Prop where
  numbered : o.writerTracks = RecorderController.trackIndices o.isSelected
  pipelines : ∀ track, (o.pipelines track).isSome = o.isSelected track

/-- A track is selected, and every selected device opens. -/
def Opens (o : Outline) (failures : Track → Option CaptureError) : Prop :=
  (∃ track, o.isSelected track = true) ∧ ∀ track, o.isSelected track = true → failures track = none

/-- Pipelines of selected tracks, as `startStreams` sets them up. -/
structure Started (o : Outline) (pipelines : Track → Option PipelineOutline) : Prop where
  running : ∀ track pipeline, pipelines track = some pipeline → pipeline.running = true
  targets : ∀ track pipeline, pipelines track = some pipeline → pipeline.writerTrack = o.writerTracks track
  selected : ∀ track, (pipelines track).isSome → o.isSelected track = true

theorem started_none (none : ∀ track, o.pipelines track = none) : o.Started o.pipelines where
  running track _ present := absurd ((none track).symm.trans present) nofun
  targets track _ present := absurd ((none track).symm.trans present) nofun
  selected track present := by simp [none track] at present

theorem Started.add {pipelines : Track → Option PipelineOutline} (started : o.Started pipelines) {track : Track}
    (isSelected : o.isSelected track = true) (feeds : Bool) :
    o.Started (Function.update pipelines track (some ⟨true, o.writerTracks track, feeds⟩)) := by
  refine ⟨fun other pipeline present => ?_, fun other pipeline present => ?_, fun other present => ?_⟩ <;>
    rcases eq_or_ne other track with rfl | apart
  · rw [Function.update_self, Option.some.injEq] at present
    exact present ▸ rfl
  · rw [Function.update_of_ne apart] at present
    exact started.running other pipeline present
  · rw [Function.update_self, Option.some.injEq] at present
    exact present ▸ rfl
  · rw [Function.update_of_ne apart] at present
    exact started.targets other pipeline present
  · exact isSelected
  · rw [Function.update_of_ne apart] at present
    exact started.selected other present

private theorem startSelected_cases {pipelines : Track → Option PipelineOutline} (started : o.Started pipelines)
    {track : Track} (none : pipelines track = none) (feeds : Bool) (failure : Option CaptureError) :
    ∃ pipelines', (startSelected { o with pipelines := pipelines } track feeds failure).2 =
        { o with pipelines := pipelines' } ∧ o.Started pipelines' ∧
      ((startSelected { o with pipelines := pipelines } track feeds failure).1 = true ↔
        (o.isSelected track = true → failure = .none)) ∧
      ((startSelected { o with pipelines := pipelines } track feeds failure).1 = true →
        (pipelines' track).isSome = o.isSelected track ∧
          ∀ other, other ≠ track → pipelines' other = pipelines other) := by
  have same : isSelected { o with pipelines := pipelines } track = o.isSelected track := rfl
  rw [startSelected, same]
  cases isSelected : o.isSelected track with
  | false => exact ⟨pipelines, rfl, started, by simp, fun _ => ⟨by simp [none], fun _ _ => rfl⟩⟩
  | true =>
    cases failure with
    | some error => exact ⟨pipelines, rfl, started, by simp, by simp⟩
    | none =>
      refine ⟨_, rfl, started.add isSelected feeds, by simp, fun _ => ⟨?_, fun other apart => ?_⟩⟩
      · rw [Function.update_self, Option.isSome_some]
      · rw [Function.update_of_ne apart]

/-- From no pipelines, `startStreams` succeeds exactly when the streams open, and then every selected track
has a pipeline. -/
theorem startStreams_cases (none : ∀ track, o.pipelines track = none) (failures : Track → Option CaptureError) :
    ∃ pipelines, (o.startStreams failures).2 = { o with pipelines := pipelines } ∧ o.Started pipelines ∧
      ((o.startStreams failures).1 = true ↔ o.Opens failures) ∧
      ((o.startStreams failures).1 = true → ∀ track, (pipelines track).isSome = o.isSelected track) := by
  obtain ⟨first, firstEq, firstStarted, firstOk, firstSelected⟩ :=
    startSelected_cases (started_none none) (none .microphone) true (failures .microphone)
  have opens : o.Opens failures ↔ (o.isSelected .microphone = true → failures .microphone = .none) ∧
      (o.isSelected .systemOutput = true → failures .systemOutput = .none) ∧
      (o.isSelected .microphone || o.isSelected .systemOutput) = true := by
    rw [Bool.or_eq_true]
    constructor
    · rintro ⟨⟨track, isSelected⟩, each⟩
      refine ⟨each .microphone, each .systemOutput, ?_⟩
      cases track with
      | microphone => exact .inl isSelected
      | systemOutput => exact .inr isSelected
    · rintro ⟨microphone, systemOutput, some⟩
      refine ⟨some.elim (⟨_, ·⟩) (⟨_, ·⟩), fun track => ?_⟩
      cases track with
      | microphone => exact microphone
      | systemOutput => exact systemOutput
  rw [startStreams, opens, ← firstOk]
  rw [show { o with pipelines := o.pipelines } = o from rfl] at firstEq firstOk firstSelected ⊢
  cases ok : (o.startSelected .microphone true (failures .microphone)).1 with
  | false => exact ⟨first, firstEq, firstStarted, by simp, by simp⟩
  | true =>
    obtain ⟨here, _⟩ := firstSelected ok
    have empty : first .systemOutput = .none :=
      ((firstSelected ok).2 .systemOutput (by decide)).trans (none .systemOutput)
    obtain ⟨second, secondEq, secondStarted, secondOk, secondSelected⟩ :=
      startSelected_cases firstStarted empty (!o.isSelected .microphone) (failures .systemOutput)
    rw [firstEq, ← secondOk]
    generalize startSelected { o with pipelines := first } .systemOutput (!o.isSelected .microphone)
      (failures .systemOutput) = result at secondEq secondOk secondSelected ⊢
    obtain ⟨done, o'⟩ := result
    cases done with
    | false => exact ⟨second, secondEq, secondStarted, by simp, by simp⟩
    | true =>
      refine ⟨second, secondEq, secondStarted, by simp, fun _ track => ?_⟩
      cases track with
      | microphone => rw [(secondSelected rfl).2 .microphone (by decide), here]
      | systemOutput => exact (secondSelected rfl).1

/-- The pipelines of the selected tracks. The system output feeds the transcription stream when the microphone is not
selected. -/
def selectedPipelines (o : Outline) (track : Track) : Option PipelineOutline :=
  if o.isSelected track then
    some ⟨true, o.writerTracks track, track == .microphone || !o.isSelected .microphone⟩
  else none

/-- When every selected device opens, exactly the selected tracks get pipelines. -/
theorem startStreams_of_opens (none : ∀ track, o.pipelines track = none) {failures : Track → Option CaptureError}
    (opens : o.Opens failures) :
    o.startStreams failures = (true, { o with pipelines := o.selectedPipelines }) := by
  have started (track : Track) (feeds : Bool) : isSelected (o.started track feeds) = o.isSelected := rfl
  have fresh : o.pipelines = fun _ => .none := funext none
  obtain ⟨⟨some, isSelected⟩, each⟩ := opens
  cases microphone : o.isSelected .microphone <;> cases systemOutput : o.isSelected .systemOutput
  · cases some <;> simp_all
  all_goals
    simp only [startStreams, startSelected, started, microphone, systemOutput, each, Option.isSome_none, if_true,
      if_false, Bool.false_eq_true, Bool.not_true, Bool.not_false, Bool.or_true, Bool.true_or, Prod.mk.injEq, true_and]
    refine Outline.ext rfl rfl rfl (funext fun track => ?_) rfl rfl rfl rfl rfl rfl
    cases track <;> simp [Outline.started, selectedPipelines, microphone, systemOutput, fresh, Function.update]

/-- So one of them feeds the transcription stream. -/
theorem startStreams_feeding (none : ∀ track, o.pipelines track = none) {failures : Track → Option CaptureError}
    (opens : o.Opens failures) {pipelines : Track → Option PipelineOutline}
    (shape : (o.startStreams failures).2 = { o with pipelines := pipelines }) :
    ∃ track pipeline, pipelines track = some pipeline ∧ pipeline.feedsSttStream = true := by
  have same : o.selectedPipelines = pipelines :=
    congrArg Outline.pipelines ((congrArg Prod.snd (startStreams_of_opens none opens)).symm.trans shape)
  obtain ⟨track, isSelected⟩ := opens.1
  rw [← same]
  cases microphone : o.isSelected .microphone with
  | true => exact ⟨.microphone, _, if_pos microphone, rfl⟩
  | false =>
    cases track with
    | microphone => exact absurd (microphone.symm.trans isSelected) nofun
    | systemOutput => exact ⟨.systemOutput, _, if_pos isSelected, by simp [microphone]⟩

end Outline

namespace RecorderController

open Thread Ui Outline

variable {o : Outline}

theorem ensureDevices_shows (found : List AudioDeviceInfo) : Ensures (Shows o) (ensureDevices found) fun _ recorder =>
    ∃ devices selected, Shows { o with devices := devices, selected := selected } recorder ∧
      ((∃ track, o.isSelected track = true) → devices = o.devices ∧ selected = o.selected) := by
  refine Ensures.bind_eq
    ((o.devices .microphone).isEmpty && (o.devices .systemOutput).isEmpty) (get_shows ?_) ?_
  · rintro recorder rfl
    rfl
  refine Ensures.ite (fun empty => ?_) fun _ => ?_
  · refine set_ensures fun recorder shows =>
      ⟨(recorder.controller.setDevices found).devices, (recorder.controller.setDevices found).selected, ?_, ?_⟩
    · exact congrArg (fun seen : Outline => { seen with
        devices := (recorder.controller.setDevices found).devices
        selected := (recorder.controller.setDevices found).selected }) shows
    · rintro ⟨track, isSelected⟩
      rw [Bool.and_eq_true, List.isEmpty_iff, List.isEmpty_iff] at empty
      have none : o.devices track = [] := by
        cases track with
        | microphone => exact empty.1
        | systemOutput => exact empty.2
      simp [Outline.isSelected, none] at isSelected
      omega
  · exact Ensures.pure _ fun _ shows => ⟨_, _, shows, fun _ => ⟨rfl, rfl⟩⟩

theorem abandon_shows (opening : ∀ track, o.opening track = none) (recording : o.session = .recording)
    (drained : List FfmpegAnswer) : Ensures (Shows o) (abandon drained) fun _ recorder =>
      recorder.outline.Settled ∧ recorder.outline.session = .idle := by
  refine (stopStreams_shows drained).bind fun _ => discardWriter_shows.bind fun _ =>
    stopSttStreaming_shows.bind fun _ => Ensures.bind_eq _ (handle_shows .fault)
      (Ensures.bind_eq _ (handle_shows .reset) (Ensures.pure _ fun recorder shows => ?_))
  have idle : recorder.outline.session = .idle := by
    rw [show recorder.outline = _ from shows]
    simp only [Outline.handle, Outline.stopStreams, recording]
    rfl
  refine ⟨settled_of_released ?_ idle ?_, idle⟩
  · rw [show recorder.outline = _ from shows]
    exact opening
  · rw [show recorder.outline = _ from shows]
    exact ⟨fun _ => rfl, rfl, rfl, rfl⟩

theorem startRecording_shows (designLowPass : ℕ → ℚ → List ℚ) (answers : StartAnswers) (settled : o.Settled)
    (idle : o.session = .idle) : Ensures (Shows o) (startRecording designLowPass answers) fun started recorder =>
      recorder.outline.Settled ∧ recorder.outline.session = (if started then .recording else .idle) ∧
      (started = true → recorder.outline.Begun) ∧
      (answers.file.Granted ∧ o.Opens answers.captures → started = true) := by
  have released := settled.released idle
  refine (createWriter_shows answers.file).bind fun created => ?_
  cases created with
  | false =>
    refine Ensures.pure _ fun recorder ⟨shows, possible⟩ => ?_
    rw [show recorder.outline = o.numbered from shows]
    refine ⟨settled_of_released settled.opening idle ⟨released.pipelines, released.writer, released.sttClient,
      released.pendingOutputFile⟩, idle, nofun, fun ⟨granted, opens⟩ => possible granted opens.1⟩
  | true =>
    refine Ensures.conseq (P := fun recorder => ∃ path, Shows (o.recordingTo path) recorder) ?_ (fun _ => And.left)
      fun _ _ holds => holds
    refine Ensures.of_exists fun path => Ensures.bind_eq _ (handle_shows .start) ?_
    have applied : (RecordingSession.handle (o.recordingTo path).session .start) = (true, .recording) := by
      simp only [Outline.recordingTo, Outline.numbered, idle]
      rfl
    rw [Outline.handle, applied]
    refine (startSttStreaming_shows designLowPass answers.stt).bind fun _ =>
      Ensures.of_exists fun producer => Ensures.of_exists fun client => ?_
    generalize opened : ({ o.recordingTo path with
      session := .recording, sttProducer := producer, sttClient := client } : Outline) = o₁
    have none : ∀ track, o₁.pipelines track = .none := opened ▸ released.pipelines
    have opening : ∀ track, o₁.opening track = .none := opened ▸ settled.opening
    obtain ⟨pipelines, shape, fresh, opens, selected⟩ := startStreams_cases none answers.captures
    refine Ensures.bind_eq _ (startStreams_shows opening answers.captures) ?_
    rw [shape]
    refine Ensures.ite (fun failed => ?_) fun passed => ?_
    · rw [Bool.not_eq_true'] at failed
      refine (abandon_shows (by exact opening) (opened ▸ rfl) answers.drained).bind fun _ =>
        Ensures.pure _ fun recorder ⟨still, back⟩ => ⟨still, back, nofun, fun ⟨_, possible⟩ => ?_⟩
      have opens' : o₁.Opens answers.captures := opened ▸ possible
      exact absurd (opens.mpr opens') (by simp [failed])
    · rw [Bool.not_eq_true', Bool.not_eq_false] at passed
      refine Ensures.bind (set_shows fun _ shows => shows) fun _ => Ensures.pure _ fun recorder shows => ?_
      rw [show recorder.outline = _ from shows]
      have recording : o₁.session = .recording := opened ▸ rfl
      refine ⟨⟨opening, fresh.targets, by simp [recording], fun idle => ?_, fun _ => opened ▸ rfl, fun _ =>
        ⟨?_, fresh.running⟩, fun paused => ?_⟩, recording, fun _ => ⟨opened ▸ rfl, selected passed⟩, fun _ => rfl⟩
      · exact absurd (recording.symm.trans idle) nofun
      · exact startStreams_feeding none (opens.mp passed) shape
      · exact absurd (recording.symm.trans paused) nofun

/-- `start` turns an idle recorder into a recording one, or leaves it idle and releases what it took. -/
theorem start_shows (designLowPass : ℕ → ℚ → List ℚ) (answers : StartAnswers) (settled : o.Settled) :
    Ensures (Shows o) (start designLowPass answers) fun started recorder =>
      recorder.outline.Settled ∧ recorder.outline.session = (if started then .recording else o.session) ∧
      (started = true → o.session = .idle ∧ recorder.outline.Begun) ∧
      (o.session = .idle ∧ answers.file.Granted ∧ o.Opens answers.captures → started = true) := by
  refine Ensures.bind_eq o.session (get_shows ?_) ?_
  · rintro recorder rfl
    rfl
  refine Ensures.ite (fun busy => ?_) fun idle => ?_
  · refine Ensures.pure _ fun recorder shows => ?_
    rw [show recorder.outline = o from shows]
    exact ⟨settled, rfl, nofun, fun possible => absurd possible.1 busy⟩
  rw [not_not] at idle
  refine (ensureDevices_shows _).bind fun _ => Ensures.of_exists fun devices => Ensures.of_exists fun selected => ?_
  refine Ensures.conseq (P := fun recorder => ((∃ track, o.isSelected track = true) →
      devices = o.devices ∧ selected = o.selected) ∧
    Shows { o with devices := devices, selected := selected } recorder) ?_ (fun _ => And.symm) fun _ _ holds => holds
  refine Ensures.of_fact fun kept => ?_
  refine Ensures.bind_eq
    (decide (selected .microphone < 0) && decide (selected .systemOutput < 0)) (get_shows ?_) ?_
  · intro recorder shows
    exact congrArg (fun seen : Outline => decide (seen.selected .microphone < 0) &&
      decide (seen.selected .systemOutput < 0)) shows
  refine Ensures.ite (fun missing => ?_) fun _ => ?_
  · refine (fail_shows _).bind fun _ => Ensures.pure _ fun recorder shows => ?_
    rw [show recorder.outline = _ from shows]
    refine ⟨settled.reselect devices selected, idle ▸ rfl, nofun, fun ⟨_, _, ⟨track, isSelected⟩, _⟩ => ?_⟩
    obtain ⟨-, rfl⟩ := kept ⟨track, isSelected⟩
    simp only [Outline.isSelected, Bool.and_eq_true, decide_eq_true_eq] at isSelected missing
    cases track <;> omega
  · refine (fail_shows _).bind fun _ => (startRecording_shows designLowPass answers
      (settled.reselect devices selected) idle).conseq (fun _ shows => shows) ?_
    rintro started recorder ⟨still, session, begun, possible⟩
    refine ⟨still, idle ▸ session, fun done => ⟨idle, begun done⟩, fun ⟨_, granted, opens⟩ => possible ⟨granted, ?_⟩⟩
    obtain ⟨rfl, rfl⟩ := kept opens.1
    exact opens

/-- `pause` releases the devices of a recording and keeps its writer. -/
theorem pause_shows (drained : List FfmpegAnswer) (settled : o.Settled) :
    Ensures (Shows o) (pause drained) fun paused recorder =>
      recorder.outline.Settled ∧ paused = decide (o.session = .recording) ∧
      Shows (if o.session = .recording then { o.stopStreams with session := .paused } else o) recorder := by
  refine Ensures.bind_eq _ (handle_shows .pause) ?_
  by_cases recording : o.session = .recording
  · have applied : RecordingSession.handle o.session .pause = (true, .paused) := by rw [recording]; rfl
    rw [Outline.handle, applied, if_pos recording]
    refine (stopStreams_shows drained).bind fun _ => Ensures.pure _ fun recorder shows =>
      ⟨?_, by simp [recording], shows⟩
    rw [show recorder.outline = _ from shows]
    refine ⟨settled.opening, fun _ _ present => absurd present nofun, ⟨nofun, nofun⟩, nofun, fun _ => ?_, nofun,
      fun _ _ => rfl⟩
    exact settled.writing (by simp [recording])
  · have refused : RecordingSession.handle o.session .pause = (false, o.session) := by
      simp [RecordingSession.handle, RecordingSession.transition, recording]
    rw [Outline.handle, refused, if_neg recording]
    refine Ensures.pure _ fun recorder shows => ⟨?_, by simp [recording], shows⟩
    rw [show recorder.outline = _ from shows]
    exact settled

/-- `resume` continues a paused recording when the streams open, and otherwise fails it. -/
theorem resume_shows (failures : Track → Option CaptureError) (settled : o.Settled) :
    Ensures (Shows o) (resume failures) fun resumed recorder =>
      recorder.outline.Settled ∧ recorder.outline.writerTracks = o.writerTracks ∧
      (o.session = .paused → recorder.outline.session = if resumed then .recording else .failed) ∧
      (o.session ≠ .paused → resumed = false ∧ Shows o recorder) ∧
      (o.session = .paused → (resumed = true ↔ o.Opens failures)) := by
  refine Ensures.bind_eq o.session (get_shows ?_) ?_
  · rintro recorder rfl
    rfl
  refine Ensures.ite (fun other => ?_) fun paused => ?_
  · refine Ensures.pure _ fun recorder shows => ?_
    refine ⟨?_, ?_, fun paused => absurd paused other, fun _ => ⟨rfl, shows⟩, fun paused => absurd paused other⟩
    · exact (show recorder.outline = o from shows) ▸ settled
    · rw [show recorder.outline = o from shows]
  rw [not_not] at paused
  obtain ⟨pipelines, shape, fresh, opens, -⟩ := startStreams_cases (settled.paused paused) failures
  refine Ensures.bind_eq _ (startStreams_shows settled.opening failures) ?_
  rw [shape]
  have writing := settled.writing (by simp [paused])
  refine Ensures.ite (fun failed => ?_) fun passed => ?_
  · rw [Bool.not_eq_true'] at failed
    refine Ensures.bind_eq _ (handle_shows .fault) (Ensures.pure _ fun recorder shows => ?_)
    have fault : RecordingSession.handle o.session .fault = (true, .failed) := by rw [paused]; rfl
    rw [Outline.handle, fault] at shows
    rw [show recorder.outline = _ from shows]
    refine ⟨⟨settled.opening, fresh.targets, ⟨nofun, nofun⟩, nofun, fun _ => writing, nofun, nofun⟩, rfl, fun _ => rfl,
      fun other => absurd paused other, fun _ => ?_⟩
    rw [← opens, failed]
  · rw [Bool.not_eq_true', Bool.not_eq_false] at passed
    refine (handle_shows .resume).conseq (fun _ shows => shows) ?_
    rintro resumed recorder ⟨rfl, shows⟩
    have applied : RecordingSession.handle o.session .resume = (true, .recording) := by rw [paused]; rfl
    simp only [Outline.handle, applied] at shows ⊢
    rw [show recorder.outline = _ from shows]
    refine ⟨⟨settled.opening, fresh.targets, ⟨nofun, nofun⟩, nofun, fun _ => writing, fun _ =>
      ⟨startStreams_feeding (settled.paused paused) (opens.mp passed) shape, fresh.running⟩, nofun⟩, rfl, fun _ => rfl,
      fun other => absurd paused other, fun _ => iff_of_true trivial (opens.mp passed)⟩

/-- A resume that succeeds sets up pipelines for the tracks that are selected now. -/
theorem resume_of_opens {failures : Track → Option CaptureError} (settled : o.Settled) (paused : o.session = .paused)
    (opens : o.Opens failures) : Ensures (Shows o) (resume failures) fun _ recorder =>
      Shows { o with pipelines := o.selectedPipelines, session := .recording } recorder := by
  refine Ensures.bind_eq o.session (get_shows ?_) ?_
  · rintro recorder rfl
    rfl
  refine Ensures.ite (fun other => absurd paused other) fun _ => ?_
  refine Ensures.bind_eq _ (startStreams_shows settled.opening failures) ?_
  rw [startStreams_of_opens (settled.paused paused) opens]
  refine (handle_shows .resume).conseq (fun _ shows => shows) ?_
  rintro resumed recorder ⟨-, shows⟩
  have applied : RecordingSession.handle o.session .resume = (true, .recording) := by rw [paused]; rfl
  simpa only [Outline.handle, applied] using shows

/-- `stop` brings a recording or paused recorder back to idle, whatever fails on the way. -/
theorem stop_shows (answers : StopAnswers) (settled : o.Settled) :
    Ensures (Shows o) (stop answers) fun stopped recorder =>
      recorder.outline.Settled ∧ stopped = decide (o.session = .recording ∨ o.session = .paused) ∧
      (if stopped then recorder.outline.session = .idle else Shows o recorder) := by
  refine Ensures.bind_eq _ (handle_shows .stop) ?_
  by_cases active : o.session = .recording ∨ o.session = .paused
  · have applied : RecordingSession.handle o.session .stop = (true, .stopping) := by
      rcases active with recording | paused
      · rw [recording]
        rfl
      · rw [paused]
        rfl
    rw [Outline.handle, applied]
    refine (stopStreams_shows answers.drained).bind fun _ => (set_shows fun _ shows => shows).bind fun _ => ?_
    refine Ensures.bind (Q := fun _ => Shows { o.stopStreams with session := .stopping, writer := none })
      (underLock_shows ?_) fun outcome => ?_
    · rintro recorder shows
      rw [Shows, Recorder.finishWriter_outline, show recorder.outline = _ from shows]
      rfl
    refine Ensures.bind (Q := fun _ => Shows { o.stopStreams with
      session := .stopping, writer := none, pendingOutputFile := "" }) (set_shows ?_) fun _ => ?_
    · intro recorder shows
      exact congrArg (fun seen : Outline => { seen with pendingOutputFile := "" }) shows
    refine stopSttStreaming_shows.bind fun _ => (report_shows _ _).bind fun _ =>
      Ensures.bind_eq _ (handle_shows .stopComplete) (Ensures.bind_eq _ (handle_shows .reset)
        (Ensures.pure _ fun recorder shows => ?_))
    have idle : recorder.outline.session = .idle := by
      rw [show recorder.outline = _ from shows]
      rfl
    refine ⟨settled_of_released ?_ idle ?_, by simp [active], idle⟩
    · rw [show recorder.outline = _ from shows]
      exact settled.opening
    · rw [show recorder.outline = _ from shows]
      exact ⟨fun _ => rfl, rfl, rfl, rfl⟩
  · have refused : RecordingSession.handle o.session .stop = (false, o.session) := by
      simp [RecordingSession.handle, RecordingSession.transition, active]
    rw [Outline.handle, refused]
    refine Ensures.pure _ fun recorder shows => ⟨?_, by simp [active], shows⟩
    rw [show recorder.outline = _ from shows]
    exact settled

end RecorderController

/-- A paused recording is resumed and its streams do not start. -/
def Outline.FailsResume (o : Outline) : Operation → Prop
  | .resume failures => o.session = .paused ∧ ¬ o.Opens failures
  | _ => False

namespace Recorder

open Thread

variable (designLowPass : ℕ → ℚ → List ℚ)

/-- The choice of devices may change at any time. -/
theorem reselect_shows {o : Outline} (settled : o.Settled)
    {change : RecorderController → RecorderController}
    (effect : ∀ recorder : Recorder, ∃ devices selected, (recorder.setController change).outline =
      { recorder.outline with devices := devices, selected := selected }) :
    Ensures (Shows o) (do Ui.set change; return true) fun _ recorder =>
      recorder.outline.Settled ∧ recorder.outline.session = o.session := by
  refine Ensures.bind (Q := fun _ recorder => ∃ devices selected,
    Shows { o with devices := devices, selected := selected } recorder) (Ui.set_ensures ?_) fun _ =>
      Ensures.pure _ ?_
  · rintro recorder rfl
    exact effect recorder
  · rintro recorder ⟨devices, selected, shows⟩
    rw [show recorder.outline = _ from shows]
    exact ⟨settled.reselect devices selected, rfl⟩

theorem select_outline (recorder : Recorder) (track : Track) (index : ℤ) : ∃ devices selected,
    (recorder.setController (·.select track index)).outline =
      { recorder.outline with devices := devices, selected := selected } := by
  simp only [setController, RecorderController.select]
  split
  next => exact ⟨_, _, rfl⟩
  next => exact ⟨recorder.controller.devices, recorder.controller.selected, rfl⟩

theorem unchanged_shows {o : Outline} (settled : o.Settled) {change : RecorderController → RecorderController}
    (effect : ∀ recorder : Recorder, (recorder.setController change).outline = recorder.outline) :
    Ensures (Shows o) (do Ui.set change; return true) fun _ recorder =>
      recorder.outline.Settled ∧ recorder.outline.session = o.session :=
  reselect_shows settled fun recorder => ⟨recorder.controller.devices, recorder.controller.selected, effect recorder⟩

/-- Every operation leads from a settled recorder to a settled one, and only a failed resume fails the
session. -/
theorem perform_settled (operation : Operation) {o : Outline} (settled : o.Settled) :
    Ensures (Shows o) (perform designLowPass operation) fun _ recorder => recorder.outline.Settled ∧
      (recorder.outline.session = .failed ↔ o.session = .failed ∨ o.FailsResume operation) := by
  have kept (recorder : Recorder) (same : recorder.outline.session = o.session) :
      recorder.outline.session = .failed ↔ o.session = .failed ∨ False := by rw [same, or_false]
  cases operation with
  | refreshDevices found =>
    exact (reselect_shows settled fun recorder => ⟨_, _, rfl⟩).conseq (fun _ shows => shows)
      fun _ recorder still => ⟨still.1, kept recorder still.2⟩
  | setSelectedMicrophone index =>
    exact (reselect_shows settled fun recorder => recorder.select_outline _ _).conseq (fun _ shows => shows)
      fun _ recorder still => ⟨still.1, kept recorder still.2⟩
  | setSelectedSystemOutput index =>
    exact (reselect_shows settled fun recorder => recorder.select_outline _ _).conseq (fun _ shows => shows)
      fun _ recorder still => ⟨still.1, kept recorder still.2⟩
  | setOutputDirectory directory =>
    refine (unchanged_shows settled fun recorder => ?_).conseq (fun _ shows => shows)
      fun _ recorder still => ⟨still.1, kept recorder still.2⟩
    simp only [setController]
    split <;> rfl
  | setSttEndpoint endpoint =>
    refine (unchanged_shows settled fun recorder => ?_).conseq (fun _ shows => shows)
      fun _ recorder still => ⟨still.1, kept recorder still.2⟩
    simp only [setController]
    split <;> rfl
  | start answers =>
    refine (RecorderController.start_shows designLowPass answers settled).conseq (fun _ shows => shows) ?_
    rintro started recorder ⟨still, session, begun, -⟩
    refine ⟨still, ?_⟩
    cases started with
    | false => exact kept recorder session
    | true => simp [session, (begun rfl).1, Outline.FailsResume]
  | pause drained =>
    refine (RecorderController.pause_shows drained settled).conseq (fun _ shows => shows) ?_
    rintro paused recorder ⟨still, -, shows⟩
    refine ⟨still, ?_⟩
    rw [show recorder.outline = _ from shows]
    split
    next recording => simp [recording, Outline.FailsResume]
    next => exact (or_false _).symm ▸ Iff.rfl
  | resume failures =>
    refine (RecorderController.resume_shows failures settled).conseq (fun _ shows => shows) ?_
    rintro resumed recorder ⟨still, -, session, refused, opens⟩
    refine ⟨still, ?_⟩
    by_cases paused : o.session = .paused
    · cases resumed with
      | false => simpa [session paused, paused, Outline.FailsResume] using opens paused
      | true => simpa [session paused, paused, Outline.FailsResume] using opens paused
    · rw [show recorder.outline = o from (refused paused).2]
      simp [paused, Outline.FailsResume]
  | stop answers =>
    refine (RecorderController.stop_shows answers settled).conseq (fun _ shows => shows) ?_
    rintro stopped recorder ⟨still, active, shows⟩
    refine ⟨still, ?_⟩
    cases stopped with
    | false => exact kept recorder (congrArg Outline.session shows)
    | true =>
      have idle : recorder.outline.session = .idle := shows
      rcases of_decide_eq_true active.symm with session | session <;> simp [idle, session, Outline.FailsResume]

/-- From idle, only a `start` that answers true leads into a session. -/
theorem perform_idle_cases (operation : Operation) {o : Outline} (settled : o.Settled) (idle : o.session = .idle) :
    Ensures (Shows o) (perform designLowPass operation) fun result recorder => recorder.outline.session ≠ .idle →
      ∃ answers, operation = .start answers ∧ result = true := by
  have still (recorder : Recorder) (result : Bool) (same : recorder.outline.session = o.session)
      (left : recorder.outline.session ≠ .idle) : ∃ answers, operation = .start answers ∧ result = true :=
    absurd (same.trans idle) left
  cases operation with
  | refreshDevices found =>
    exact (reselect_shows settled fun recorder => ⟨_, _, rfl⟩).conseq (fun _ shows => shows)
      fun result recorder outcome => still recorder result outcome.2
  | setSelectedMicrophone index | setSelectedSystemOutput index =>
    exact (reselect_shows settled fun recorder => recorder.select_outline _ _).conseq (fun _ shows => shows)
      fun result recorder outcome => still recorder result outcome.2
  | setOutputDirectory directory | setSttEndpoint endpoint =>
    refine (unchanged_shows settled fun recorder => ?_).conseq (fun _ shows => shows)
      fun result recorder outcome => still recorder result outcome.2
    simp only [setController]
    split <;> rfl
  | start answers =>
    refine (RecorderController.start_shows designLowPass answers settled).conseq (fun _ shows => shows) ?_
    rintro started recorder ⟨-, session, -⟩
    cases started with
    | false => exact still recorder false session
    | true => exact fun _ => ⟨answers, rfl, rfl⟩
  | pause drained =>
    refine (RecorderController.pause_shows drained settled).conseq (fun _ shows => shows) ?_
    rintro paused recorder ⟨-, -, shows⟩
    rw [idle, if_neg (by decide)] at shows
    exact still recorder paused (congrArg Outline.session shows)
  | resume failures =>
    refine (RecorderController.resume_shows failures settled).conseq (fun _ shows => shows) ?_
    rintro resumed recorder ⟨-, -, -, refused, -⟩
    exact still recorder resumed (congrArg Outline.session (refused (by simp [idle])).2)
  | stop answers =>
    refine (RecorderController.stop_shows answers settled).conseq (fun _ shows => shows) ?_
    rintro stopped recorder ⟨-, answer, shows⟩
    obtain rfl : stopped = false := answer.trans (by simp [idle])
    exact still recorder false (congrArg Outline.session shows)

end Recorder

end VoxMesh.App
