import VoxMesh.Proofs.RecorderLedger
import VoxMesh.Proofs.StreamOperations

/-! # The operations on the ledger

A `start` that succeeds opens a balanced ledger, and the starting and stopping of streams keeps it balanced,
under every interleaving with the other threads. What the operations decide on is given by the outline.
-/

namespace VoxMesh.App

open VoxMesh.Audio VoxMesh.Media VoxMesh.Dsp Machine

namespace Ui

open Thread

variable {o o' : Outline} {α : Type}

/-- The recorder has the given outline and a balanced ledger. -/
def Accounts (o : Outline) (recorder : Recorder) : Prop := Shows o recorder ∧ recorder.Balanced

/-- A step that keeps the ledger and whose effect on the outline is known. -/
theorem accounts_of_shows {thread : Ui α} {known : α}
    (shows : Ensures (Shows o) thread fun value recorder => value = known ∧ Shows o' recorder)
    (balanced : Ensures (Accounts o) thread fun _ => Recorder.Balanced) :
    Ensures (Accounts o) thread fun value recorder => value = known ∧ Accounts o' recorder :=
  Steady.under_of_shows shows balanced

end Ui

namespace RecorderController

open Thread Ui

variable {o : Outline}

theorem handle_balanced (event : SessionEvent) : Ensures (Accounts o) (handle event) fun _ => Recorder.Balanced :=
  Ensures.act fun _ accounts => accounts.2

/-- The ledger is about the core, and about where the recording is to be saved. -/
theorem books_congr {first second : Recorder} (core : second.core = first.core)
    (tracks : second.controller.writerTracks = first.controller.writerTracks)
    (pending : second.controller.pendingOutputFile = first.controller.pendingOutputFile) :
    second.books = first.books := by
  simp only [Recorder.core, Core.mk.injEq] at core
  simp only [Recorder.books, core, tracks, pending]

theorem sustained_balanced : Sustained Recorder.Balanced where
  stable := Recorder.stable_balanced
  outside recorder change core tracks pending balanced := by
    rwa [Recorder.Balanced, books_congr core tracks pending]
  register _ track feeds balanced := Recorder.register_balanced balanced track feeds
  stopStream _ track balanced := Recorder.stopStream_balanced balanced track
  dropPipelines drained closed balanced := (Recorder.dropPipelines_balanced balanced closed drained).1

/-- A stream may be opened for a track of the writer's. -/
theorem opens_balanced (numbered : ∀ track, o.isSelected track = true → 0 ≤ o.writerTracks track) :
    OpensStreams o Recorder.Balanced := fun track isSelected _ unregistered closed same balanced =>
  Recorder.open_balanced balanced unregistered closed (same ▸ numbered track isSelected)

theorem quiet_of_shows {recorder : Recorder} (shows : Shows o recorder)
    (unregistered : ∀ track, o.pipelines track = none) (closed : ∀ track, o.opening track = none) :
    recorder.Quiet := by
  obtain rfl : recorder.outline = o := shows
  exact fun track => ⟨Option.map_eq_none_iff.mp (unregistered track), Option.map_eq_none_iff.mp (closed track)⟩

/-- The streams are stopped and drained, and the pipelines dropped. -/
theorem stopStreams_balanced (closed : ∀ track, o.opening track = none) (drained : List FfmpegAnswer) :
    Ensures (Accounts o) (stopStreams drained) fun _ recorder => recorder.Balanced ∧ recorder.Quiet := by
  intro view result view' outcome accounts
  refine ⟨sustained_balanced.stopStreams closed drained view result view' outcome accounts, ?_⟩
  exact quiet_of_shows (stopStreams_shows drained view result view' outcome accounts.1) (fun _ => rfl) closed

/-- All selected tracks are the writer's, and none has a pipeline. -/
theorem startStreams_balanced (closed : ∀ track, o.opening track = none)
    (unregistered : ∀ track, o.pipelines track = none)
    (numbered : ∀ track, o.isSelected track = true → 0 ≤ o.writerTracks track)
    (failures : Track → Option CaptureError) :
    Ensures (Accounts o) (startStreams failures) fun _ => Recorder.Balanced :=
  sustained_balanced.startStreams (opens_balanced numbered) closed unregistered failures

/-- The writer that is opened is installed in a quiet recorder. -/
theorem createWriter_installs {K : Recorder → Prop} (unregistered : ∀ track, o.pipelines track = none)
    (closed : ∀ track, o.opening track = none)
    (installs : ∀ (recorder : Recorder) (writer : FfmpegRecordingWriter) tracks, recorder.Quiet →
      recorder.controller.writerTracks = trackIndices o.isSelected →
      writer.Fresh ⟨recorder.controller.pendingOutputFile, tracks⟩ recorder.disk → K (recorder.installWriter writer))
    (answers : FileAnswers) :
    Ensures (Shows o) (createWriter answers) fun created recorder => created = true → K recorder := by
  refine Ensures.bind (Q := fun _ => Shows o.numbered) (set_shows ?_) fun _ => ?_
  · rintro recorder rfl
    rfl
  refine Ensures.ite (fun _ => ?_) fun _ => ?_
  · exact (fail_shows _).bind fun _ => Ensures.pure _ fun _ _ => nofun
  refine get_any.bind fun tracks => get_any.bind fun _ => ?_
  refine Ensures.bind (Q := fun _ => Shows o.numbered) (Ensures.act fun _ shows => shows) fun path => ?_
  refine Ensures.bind (Q := fun result recorder => Shows o.numbered recorder ∧
    ∀ writer, result = .ok writer → writer.Fresh ⟨path, tracks⟩ recorder.disk) (Ensures.act ?_) fun result => ?_
  · rintro recorder shows
    exact ⟨shows, fun writer created => FfmpegRecordingWriter.create_fresh (Prod.ext created rfl)⟩
  cases result with
  | error error =>
    exact ((fail_shows _).conseq (fun _ => And.left) fun _ _ shows => shows).bind fun _ =>
      Ensures.pure _ fun _ _ => nofun
  | ok writer =>
    refine Ensures.bind (Q := fun _ recorder => recorder.Quiet ∧
      (recorder.controller.writerTracks = trackIndices o.isSelected ∧ recorder.controller.pendingOutputFile = path ∧
        writer.Fresh ⟨path, tracks⟩ recorder.disk)) (set_ensures ?_) fun _ => ?_
    · rintro recorder ⟨shows, fresh⟩
      have quiet := quiet_of_shows shows unregistered closed
      refine ⟨quiet, ?_, rfl, fresh writer rfl⟩
      exact congrArg Outline.writerTracks shows
    have stable := Recorder.stable_quiet fun controller disk _ =>
      controller.writerTracks = trackIndices o.isSelected ∧ controller.pendingOutputFile = path ∧
        writer.Fresh ⟨path, tracks⟩ disk
    refine Ensures.bind (Q := fun _ => K) (Ensures.locked stable ?_) fun _ => Ensures.pure _ fun _ holds _ => holds
    rintro recorder ⟨quiet, numbered, rfl, fresh⟩ -
    exact installs recorder writer tracks quiet numbered fresh

/-- The writer that is opened starts an empty ledger. -/
theorem createWriter_balanced (unregistered : ∀ track, o.pipelines track = none)
    (closed : ∀ track, o.opening track = none) (answers : FileAnswers) :
    Ensures (Shows o) (createWriter answers) fun created recorder => created = true → recorder.Balanced :=
  createWriter_installs unregistered closed (fun _ _ _ quiet numbered fresh =>
    Recorder.installWriter_balanced quiet fresh rfl numbered) answers

theorem startSttStreaming_balanced (designLowPass : ℕ → ℚ → List ℚ) (answers : SttAnswers) :
    Ensures (Accounts o) (startSttStreaming designLowPass answers) fun _ => Recorder.Balanced := by
  have kept {change : RecorderController → RecorderController}
      (effect : ∀ recorder : Recorder, (recorder.setController change).books = recorder.books) :
      Ensures Recorder.Balanced (Ui.set change) fun _ => Recorder.Balanced := by
    apply set_ensures
    intro recorder balanced
    rwa [Recorder.Balanced, effect recorder]
  refine Ensures.conseq (P := Recorder.Balanced) ?_ (fun _ accounts => accounts.2) fun _ _ balanced => balanced
  refine get_any.bind fun endpoint => Ensures.ite (fun _ => Ensures.pure _ fun _ balanced => balanced) fun _ => ?_
  refine (kept fun _ => rfl).bind fun _ => get_any.bind fun settings => ?_
  split
  next => exact kept fun _ => rfl
  next producer _ =>
    refine Ensures.ite (fun _ => kept fun _ => rfl) fun _ => ?_
    exact Ensures.locked Recorder.stable_balanced fun recorder balanced _ => balanced

/-- The writer's tracks are the selected ones. -/
theorem numbered_of_isSelected {selected : Track → Bool} {track : Track} (isSelected : selected track = true) :
    0 ≤ trackIndices selected track := by
  cases track with
  | microphone => simp [trackIndices, isSelected]
  | systemOutput =>
    simp only [trackIndices, isSelected, ↓reduceIte]
    split <;> decide

/-- The stages of a `start` that succeeds, from the opening of the writer on. When transcription starts, one
assertion gives way to another. -/
theorem startRecording_stages {I : Recorder → Prop} {J : Option SttStreamConfig → Recorder → Prop}
    {designLowPass : ℕ → ℚ → List ℚ} {answers : StartAnswers}
    (created : Ensures (Shows o) (createWriter answers.file) fun created recorder =>
      created = true → ∃ path, Under (o.recordingTo path) I recorder)
    (handled : Ensures I (handle .start) fun _ => I)
    (transcribing : ∀ path, Ensures (Under ((o.recordingTo path).handle .start) I)
      (startSttStreaming designLowPass answers.stt) fun _ recorder => ∃ producer client,
        Under { (o.recordingTo path).handle .start with sttProducer := producer, sttClient := client }
          (J producer) recorder)
    (started : ∀ path producer client, Ensures (Under { (o.recordingTo path).handle .start with
      sttProducer := producer, sttClient := client } (J producer)) (startStreams answers.captures)
        fun _ => J producer)
    (timed : ∀ (producer : Option SttStreamConfig) (recorder : Recorder), J producer recorder →
      J producer (recorder.setController fun controller => { controller with statsTimer := true })) :
    Ensures (Shows o) (startRecording designLowPass answers) fun begun recorder =>
      begun = true → ∃ producer, J producer recorder := by
  refine created.bind fun made => Ensures.ite (fun _ => Ensures.pure _ fun _ _ => nofun) fun passed => ?_
  rw [Bool.not_eq_true', Bool.not_eq_false] at passed
  refine Ensures.conseq (P := fun recorder => ∃ path, Under (o.recordingTo path) I recorder) ?_
    (fun _ opened => opened passed) fun _ _ holds => holds
  refine Ensures.of_exists fun path => ?_
  refine Ensures.bind_eq _ (Steady.under_of_shows (handle_shows .start) (handled.conseq (fun _ => And.right)
    fun _ _ holds => holds)) (Ensures.ite (fun _ => ?_) fun _ => ?_)
  · exact Ensures.bind (Q := fun _ _ => True) (fun _ _ _ _ _ => trivial) fun _ => Ensures.pure _ fun _ _ => nofun
  refine (transcribing path).bind fun _ => Ensures.of_exists fun producer => Ensures.of_exists fun client => ?_
  refine (started path producer client).bind fun _ => Ensures.ite (fun _ => ?_) fun _ => ?_
  · exact Ensures.bind (Q := fun _ _ => True) (fun _ _ _ _ _ => trivial) fun _ => Ensures.pure _ fun _ _ => nofun
  · exact Ensures.bind (Q := fun _ => J producer) (set_ensures (timed producer)) fun _ =>
      Ensures.pure _ fun _ holds _ => ⟨producer, holds⟩

/-- What a `start` that succeeds establishes once the devices are listed. -/
theorem start_stages {after : Recorder → Prop} {designLowPass : ℕ → ℚ → List ℚ} {answers : StartAnswers}
    (settled : o.Settled)
    (recording : ∀ devices selected, o.session = .idle →
      Outline.Settled { o with devices := devices, selected := selected } →
      Ensures (Shows { o with devices := devices, selected := selected }) (startRecording designLowPass answers)
        fun begun recorder => begun = true → after recorder) :
    Ensures (Shows o) (start designLowPass answers) fun begun recorder => begun = true → after recorder := by
  refine Ensures.bind_eq o.session (get_shows ?_) (Ensures.ite (fun _ => ?_) fun idle => ?_)
  · rintro recorder rfl
    rfl
  · exact Ensures.pure _ fun _ _ => nofun
  rw [not_not] at idle
  refine (ensureDevices_shows answers.devices).bind fun _ => Ensures.of_exists fun devices =>
    Ensures.of_exists fun selected => ?_
  refine Ensures.conseq (P := Shows { o with devices := devices, selected := selected }) ?_ (fun _ => And.left)
    fun _ _ holds => holds
  refine get_any.bind fun missing => Ensures.ite (fun _ => ?_) fun _ => ?_
  · exact (fail_shows _).bind fun _ => Ensures.pure _ fun _ _ => nofun
  · exact (fail_shows _).bind fun _ => recording devices selected idle (settled.reselect devices selected)

/-- The writer that is opened starts a balanced ledger for the selected tracks. -/
theorem createWriter_accounts (unregistered : ∀ track, o.pipelines track = none)
    (closed : ∀ track, o.opening track = none) (answers : FileAnswers) :
    Ensures (Shows o) (createWriter answers) fun created recorder =>
      created = true → ∃ path, Accounts (o.recordingTo path) recorder := by
  intro view created view' outcome shows
  have balanced := createWriter_balanced unregistered closed answers
  obtain ⟨made, -⟩ := createWriter_shows answers view created view' outcome shows
  rintro rfl
  obtain ⟨path, shows'⟩ := made
  exact ⟨path, shows', balanced view true view' outcome shows rfl⟩

theorem startRecording_balanced (designLowPass : ℕ → ℚ → List ℚ) (answers : StartAnswers)
    (settled : o.Settled) (idle : o.session = .idle) :
    Ensures (Shows o) (startRecording designLowPass answers) fun started recorder =>
      started = true → recorder.Balanced := by
  have released := settled.released idle
  refine (startRecording_stages (I := Recorder.Balanced) (J := fun _ => Recorder.Balanced)
    (createWriter_accounts released.pipelines settled.opening answers.file) (Ensures.act fun _ balanced => balanced)
    (fun path => ?_) (fun path producer client => ?_) fun _ _ balanced => balanced).conseq (fun _ shows => shows)
      fun _ _ begun done => (begun done).elim fun _ balanced => balanced
  · refine ((startSttStreaming_shows designLowPass answers.stt).keeping
      (startSttStreaming_balanced designLowPass answers.stt)).conseq (fun _ accounts => accounts) ?_
    rintro - recorder ⟨⟨producer, client, shows⟩, balanced⟩
    exact ⟨producer, client, shows, balanced⟩
  · exact startStreams_balanced (o := { (o.recordingTo path).handle .start with
      sttProducer := producer, sttClient := client }) settled.opening released.pipelines
        (fun track => numbered_of_isSelected) answers.captures

/-- A start that succeeds leaves a balanced ledger. -/
theorem start_balanced (designLowPass : ℕ → ℚ → List ℚ) (answers : StartAnswers) (settled : o.Settled) :
    Ensures (Shows o) (start designLowPass answers) fun started recorder => started = true → recorder.Balanced :=
  start_stages settled fun _ _ idle settled => startRecording_balanced designLowPass answers settled idle

end RecorderController

end VoxMesh.App
