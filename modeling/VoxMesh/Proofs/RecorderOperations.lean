import VoxMesh.Proofs.Recorder

/-! # The operations on the outline

Each operation's effect on the outline, under every interleaving with the other threads. The outline after
an operation depends on the outline before it and on the answers of the surroundings, so these triples start
from one given outline.
-/

namespace VoxMesh.App

open VoxMesh.Audio VoxMesh.Media VoxMesh.Dsp Machine

/-- Nothing in the surroundings prevents the writer from being opened. -/
def FileAnswers.Granted (answers : FileAnswers) : Prop := answers.directoryCreated = true ∧ answers.opened = []

namespace Outline

def isSelected (o : Outline) (track : Track) : Bool :=
  0 ≤ o.selected track && o.selected track < (o.devices track).length

/-- The track has a running pipeline. -/
def started (o : Outline) (track : Track) (feedsSttStream : Bool) : Outline :=
  { o with pipelines := Function.update o.pipelines track (some ⟨true, o.writerTracks track, feedsSttStream⟩) }

def startSelected (o : Outline) (track : Track) (feedsSttStream : Bool) (failure : Option CaptureError) :
    Bool × Outline :=
  if o.isSelected track then
    if failure.isSome then (false, o) else (true, o.started track feedsSttStream)
  else (true, o)

def startStreams (o : Outline) (failures : Track → Option CaptureError) : Bool × Outline :=
  let microphone := o.startSelected .microphone true (failures .microphone)
  let systemOutput := microphone.2.startSelected .systemOutput (!o.isSelected .microphone) (failures .systemOutput)
  if !microphone.1 then (false, microphone.2)
  else if !systemOutput.1 then (false, systemOutput.2)
  else (o.isSelected .microphone || o.isSelected .systemOutput, systemOutput.2)

/-- Starting a track touches its pipeline only. -/
theorem startSelected_eq (o : Outline) (track : Track) (feeds : Bool) (failure : Option CaptureError) :
    ∃ pipeline, (o.startSelected track feeds failure).2 =
      { o with pipelines := Function.update o.pipelines track pipeline } := by
  unfold startSelected
  split
  next =>
    split
    next => exact ⟨o.pipelines track, by rw [Function.update_eq_self]⟩
    next => exact ⟨_, rfl⟩
  next => exact ⟨o.pipelines track, by rw [Function.update_eq_self]⟩

/-- The outline once the writer's tracks are numbered. -/
def numbered (o : Outline) : Outline :=
  { o with writerTracks := RecorderController.trackIndices o.isSelected }

/-- The outline once the writer is open. -/
def recordingTo (o : Outline) (path : String) : Outline :=
  { o.numbered with
    writer := some ⟨path, RecorderController.trackConfigs o.isSelected⟩
    pendingOutputFile := path }

def stopStreams (o : Outline) : Outline := { o with pipelines := fun _ => none }

def handle (o : Outline) (event : SessionEvent) : Outline :=
  { o with session := (RecordingSession.handle o.session event).2 }

end Outline

/-- The recorder has the given outline. -/
def Shows (o : Outline) (recorder : Recorder) : Prop := recorder.outline = o

theorem Shows.stable (o : Outline) : Thread.Stable Recorder.environment (Shows o) :=
  Recorder.stable_outline (· = o)

namespace Ui

open Thread

variable {o o' : Outline} {P : Recorder → Prop} {α β : Type}

theorem set_ensures {change : RecorderController → RecorderController} {Q : Unit → Recorder → Prop}
    (effect : ∀ recorder : Recorder, P recorder → Q () (recorder.setController change)) :
    Ensures P (Ui.set change) Q := Ensures.update effect

theorem set_shows {change : RecorderController → RecorderController}
    (effect : ∀ recorder : Recorder, Shows o recorder → Shows o' (recorder.setController change)) :
    Ensures (Shows o) (Ui.set change) fun _ => Shows o' := set_ensures effect

/-- Reading what the outline determines. -/
theorem get_shows {f : RecorderController → α} {known : α}
    (determined : ∀ recorder : Recorder, Shows o recorder → f recorder.controller = known) :
    Ensures (Shows o) (Ui.get f) fun value recorder => value = known ∧ Shows o recorder := by
  refine (Ensures.read _).conseq (fun _ shows => shows) ?_
  rintro value recorder ⟨rfl, shows⟩
  exact ⟨determined recorder shows, shows⟩

theorem get_any {f : RecorderController → α} : Ensures P (Ui.get f) fun _ => P :=
  (Ensures.read _).conseq (fun _ holds => holds) fun _ _ holds => holds.2

theorem underLock_shows {action : Recorder → α × Recorder} {Q : α → Recorder → Prop}
    (effect : ∀ recorder : Recorder, Shows o recorder → Q (action recorder).1 (action recorder).2) :
    Ensures (Shows o) (Ui.underLock action) Q :=
  Ensures.locked (Shows.stable o) fun recorder shows _ => effect recorder shows

end Ui

namespace Recorder

/-- Passes of the drain loop keep the outline. -/
theorem keptByPasses_outline (o : Outline) : KeptByPasses (Shows o) :=
  fun _ _ _ _ _ passed shows => (drainFrame_outline passed).trans shows

theorem dropPipelines_outline (recorder : Recorder) (drained : List FfmpegAnswer) :
    (recorder.dropPipelines drained).outline = recorder.outline.stopStreams := by
  obtain ⟨last, same, shows, -, -⟩ := (keptByPasses_outline recorder.outline).dropPipelines rfl drained
  rw [same, ← show last.outline = recorder.outline from shows]
  rfl

theorem abortWriter_outline (recorder : Recorder) :
    recorder.abortWriter.outline = { recorder.outline with writer := none } := by
  unfold abortWriter
  split
  next none => simp [outline, none]
  next => rfl

/-- However it ends, `stop` lets go of the writer. -/
theorem finishWriter_outline (recorder : Recorder) (finalized : List FfmpegAnswer) (renamed : Bool) :
    (recorder.finishWriter finalized renamed).2.outline = { recorder.outline with writer := none } := by
  unfold finishWriter
  split
  next none => simp [outline, none]
  next writer _ =>
    split
    next => rfl
    next =>
      split
      next => exact recorder.abortWriter_outline
      next => split <;> rfl

theorem stopStream_outline (recorder : Recorder) (track : Track) :
    (recorder.stopStream track).outline.stopStreams = recorder.outline.stopStreams := by
  rw [stopStream]
  split <;> rfl

end Recorder

/-- The extension of a recording with the given number of tracks. -/
def extensionOf (tracks : ℕ) : String := if tracks = 1 then ".flac" else ".mka"

namespace Recorder

/-- The search takes the first path that is free, or the last one that it looks at. -/
theorem firstFree_eq (disk : Disk) (path : ℕ → String) (fuel suffix : ℕ) :
    ∃ i, firstFree disk path fuel suffix = path (suffix + i) ∧ ∀ j < i, disk.holds (path (suffix + j)) = true := by
  induction fuel generalizing suffix with
  | zero => exact ⟨0, rfl, nofun⟩
  | succ fuel ih =>
    rw [firstFree]
    split
    next taken =>
      obtain ⟨i, same, before⟩ := ih (suffix + 1)
      refine ⟨i + 1, by rw [same, Nat.add_assoc, Nat.add_comm 1 i], fun j bound => ?_⟩
      cases j with
      | zero => exact taken
      | succ j =>
        have held := before j (Nat.lt_of_succ_lt_succ bound)
        rwa [Nat.add_assoc, Nat.add_comm 1 j] at held
    next => exact ⟨0, rfl, nofun⟩

/-- The paths of the recordings with that stamp, in the order in which they are tried. -/
def recordingPath (folder stamp extension : String) : ℕ → String
  | 0 => folder ++ "voxmesh-" ++ stamp ++ extension
  | i + 1 => folder ++ "voxmesh-" ++ stamp ++ "-" ++ toString (i + 2) ++ extension

/-- The paths before that of the next recording are all taken. -/
theorem candidate_eq (disk : Disk) (folder stamp extension : String) :
    ∃ i, candidate disk folder stamp extension = recordingPath folder stamp extension i ∧
      ∀ j < i, disk.holds (recordingPath folder stamp extension j) = true := by
  rw [candidate]
  split
  next taken =>
    obtain ⟨i, same, before⟩ := firstFree_eq disk
      (fun suffix => folder ++ "voxmesh-" ++ stamp ++ "-" ++ toString suffix ++ extension) disk.files.length 2
    refine ⟨i + 1, by rw [same, recordingPath, Nat.add_comm 2 i], fun j bound => ?_⟩
    cases j with
    | zero => exact taken
    | succ j =>
      have held := before j (Nat.lt_of_succ_lt_succ bound)
      rwa [Nat.add_comm 2 j] at held
  next => exact ⟨0, rfl, nofun⟩

theorem candidate_ne_empty (disk : Disk) (folder stamp extension : String) :
    candidate disk folder stamp extension ≠ "" := by
  obtain ⟨i, same, -⟩ := candidate_eq disk folder stamp extension
  rw [same]
  cases i <;> simp [recordingPath]

end Recorder

namespace RecorderController

open Thread Ui

variable {o : Outline}

/-- The writer accepts the format of each track of a recording. -/
theorem trackConfigs_all (selected : Track → Bool) :
    (trackConfigs selected).all (FfmpegRecordingWriter.accepts ·.format) = true := by
  unfold trackConfigs
  cases selected .microphone <;> cases selected .systemOutput <;> rfl

/-- A recording has tracks when one is selected. -/
theorem trackConfigs_accepted {selected : Track → Bool} (some : ∃ track, selected track = true) :
    (trackConfigs selected).isEmpty = false ∧
      (trackConfigs selected).all (FfmpegRecordingWriter.accepts ·.format) = true := by
  refine ⟨?_, trackConfigs_all selected⟩
  obtain ⟨track, isSelected⟩ := some
  unfold trackConfigs
  cases microphone : selected .microphone <;> cases systemOutput : selected .systemOutput
  · cases track <;> simp_all
  all_goals rfl

theorem fail_shows (message : String) : Ensures (Shows o) (fail message) fun _ => Shows o :=
  set_shows fun _ shows => shows

theorem handle_shows (event : SessionEvent) : Ensures (Shows o) (handle event) fun applied recorder =>
    applied = (RecordingSession.handle o.session event).1 ∧ Shows (o.handle event) recorder := by
  refine Ensures.act fun recorder shows => ?_
  subst shows
  exact ⟨rfl, rfl⟩

theorem stopStreams_shows (drained : List FfmpegAnswer) :
    Ensures (Shows o) (stopStreams drained) fun _ => Shows o.stopStreams := by
  have stable := Recorder.stable_outline fun seen => seen.stopStreams = o.stopStreams
  have stopped (track : Track) : Ensures (fun recorder => recorder.outline.stopStreams = o.stopStreams)
      (atomically (·.stopStream track)) fun _ recorder => recorder.outline.stopStreams = o.stopStreams :=
    (Ensures.yield stable).bind fun _ => Ensures.update fun recorder same =>
      (recorder.stopStream_outline track).trans same
  refine Ensures.conseq (P := fun recorder => recorder.outline.stopStreams = o.stopStreams) ?_
    (fun recorder shows => congrArg Outline.stopStreams shows) fun _ _ holds => holds
  refine (stopped .microphone).bind fun _ => (stopped .systemOutput).bind fun _ => ?_
  exact Ensures.locked stable fun recorder same _ => (recorder.dropPipelines_outline drained).trans same

theorem discardWriter_shows : Ensures (Shows o) discardWriter fun _ =>
    Shows { o with writer := none, pendingOutputFile := "" } := by
  refine Ensures.bind (Q := fun _ => Shows { o with writer := none }) (underLock_shows ?_) fun _ => set_shows ?_
  · rintro recorder rfl
    exact recorder.abortWriter_outline
  · intro recorder shows
    exact congrArg (fun seen : Outline => { seen with pendingOutputFile := "" }) shows

theorem stopSttStreaming_shows : Ensures (Shows o) stopSttStreaming fun _ =>
    Shows { o with sttProducer := none, sttClient := false } := by
  refine Ensures.bind (underLock_shows ?_) fun _ => set_shows fun _ shows => shows
  intro recorder shows
  subst shows
  rfl

theorem report_shows (savedFile finalizeError : String) :
    Ensures (Shows o) (report savedFile finalizeError) fun _ => Shows o := by
  refine Ensures.ite (fun _ => set_shows fun _ shows => shows) fun _ => ?_
  exact Ensures.ite (fun _ => fail_shows _) fun _ => Ensures.pure _ fun _ shows => shows

theorem startTrack_shows {track : Track} (closed : o.opening track = none) (feeds : Bool)
    (failure : Option CaptureError) : Ensures (Shows o) (startTrack track feeds failure) fun started recorder =>
      started = !failure.isSome ∧ Shows (if failure.isSome then o else o.started track feeds) recorder := by
  refine get_any.bind fun device => ?_
  cases failure with
  | some error => exact (fail_shows _).bind fun _ => Ensures.pure _ fun _ shows => ⟨rfl, shows⟩
  | none =>
    refine Ensures.bind (Q := fun _ => Shows { o with opening := Function.update o.opening track (some true) })
      (Ensures.update ?_) fun _ => Ensures.bind (Q := fun _ => Shows (o.started track feeds))
        (underLock_shows ?_) fun _ => Ensures.pure _ fun _ shows => ⟨rfl, shows⟩
    · intro recorder shows
      subst shows
      exact recorder.setOpening_shows track (some .opened)
    · intro recorder shows
      have known : (recorder.opening track).map (·.running) = some true :=
        (congrFun (congrArg Outline.opening shows) track).trans (Function.update_self ..)
      obtain ⟨line, present, running⟩ := Option.map_eq_some_iff.mp known
      have tracks : recorder.controller.writerTracks track = o.writerTracks track :=
        congrFun (congrArg Outline.writerTracks shows) track
      have reopened : Function.update (Function.update o.opening track (some true)) track none = o.opening := by
        rw [Function.update_idem, Function.update_eq_self_iff, closed]
      have settings : (⟨line.running, recorder.controller.writerTracks track, feeds⟩ : PipelineOutline) =
          ⟨true, o.writerTracks track, feeds⟩ := by rw [running, tracks]
      rw [Recorder.register, present]
      calc Recorder.outline _
        _ = _ := Recorder.setOpening_shows _ track none
        _ = _ := by rw [Recorder.setPipeline_shows]
        _ = o.started track feeds := by
          rw [shows]
          simp only [TrackPipeline.outline, settings, Option.map_none, reopened, Outline.started]

theorem startSelected_shows {track : Track} (closed : o.opening track = none) (feeds : Bool)
    (failure : Option CaptureError) : Ensures (Shows o) (startSelected track feeds failure) fun started recorder =>
      started = (o.startSelected track feeds failure).1 ∧
        Shows (o.startSelected track feeds failure).2 recorder := by
  refine Ensures.bind_eq (o.isSelected track) (get_shows ?_) ?_
  · rintro recorder rfl
    rfl
  · unfold Outline.startSelected
    split
    next =>
      refine (startTrack_shows closed feeds failure).conseq (fun _ shows => shows) ?_
      cases failure <;> exact fun _ _ outcome => outcome
    next => exact Ensures.pure _ fun _ shows => ⟨rfl, shows⟩

theorem startStreams_shows (closed : ∀ track, o.opening track = none) (failures : Track → Option CaptureError) :
    Ensures (Shows o) (startStreams failures) fun started recorder =>
      started = (o.startStreams failures).1 ∧ Shows (o.startStreams failures).2 recorder := by
  obtain ⟨pipeline, middle⟩ := o.startSelected_eq .microphone true (failures .microphone)
  refine Ensures.bind_eq (o.isSelected .microphone) (get_shows ?_) ?_
  · rintro recorder rfl
    rfl
  refine Ensures.bind_eq _ (startSelected_shows (closed .microphone) true (failures .microphone)) ?_
  unfold Outline.startStreams
  refine Ensures.ite (fun failed => ?_) fun passed => ?_
  · rw [if_pos failed]
    exact Ensures.pure _ fun _ shows => ⟨rfl, shows⟩
  rw [if_neg passed]
  refine Ensures.bind_eq (o.isSelected .systemOutput) (get_shows ?_) ?_
  · intro recorder shows
    rw [middle] at shows
    exact congrArg (fun seen : Outline => seen.isSelected .systemOutput) shows
  refine Ensures.bind_eq _ (startSelected_shows ?_ (!o.isSelected .microphone) (failures .systemOutput)) ?_
  · rw [middle]
    exact closed .systemOutput
  refine Ensures.ite (fun failed => ?_) fun passed => ?_
  · rw [if_pos failed]
    exact Ensures.pure _ fun _ shows => ⟨rfl, shows⟩
  · rw [if_neg passed]
    exact Ensures.pure _ fun _ shows => ⟨rfl, shows⟩

theorem createWriter_shows (answers : FileAnswers) : Ensures (Shows o) (createWriter answers) fun created recorder =>
    (if created then ∃ path, Shows (o.recordingTo path) recorder else Shows o.numbered recorder) ∧
      (answers.Granted → (∃ track, o.isSelected track = true) → created = true) := by
  refine Ensures.bind (Q := fun _ => Shows o.numbered) (set_shows ?_) fun _ => ?_
  · rintro recorder rfl
    rfl
  refine Ensures.ite (fun missing => ?_) fun directory => ?_
  · refine (fail_shows _).bind fun _ => Ensures.pure _ fun _ shows => ⟨shows, fun granted => ?_⟩
    simp [granted.1] at missing
  refine Ensures.bind_eq (trackConfigs o.isSelected) (get_shows ?_) (get_any.bind fun _ => ?_)
  · rintro recorder shows
    exact congrArg (fun seen : Outline => trackConfigs seen.isSelected) shows
  refine Ensures.bind (Q := fun path recorder => path ≠ "" ∧ Shows o.numbered recorder)
    (Ensures.act fun recorder shows => ⟨Recorder.candidate_ne_empty _ _ _ _, shows⟩) fun path => ?_
  refine Ensures.of_fact fun named => ?_
  refine Ensures.bind (Q := fun result recorder =>
      ((∀ writer, result = .ok writer → writer.config = ⟨path, trackConfigs o.isSelected⟩) ∧
        (answers.Granted → (∃ track, o.isSelected track = true) → ∃ writer, result = .ok writer)) ∧
      Shows o.numbered recorder)
    (Ensures.act fun recorder shows => ⟨⟨fun writer created => ?_, fun granted selected => ?_⟩, shows⟩)
    fun result => Ensures.of_fact fun ⟨configured, possible⟩ => ?_
  · exact (FfmpegRecordingWriter.create_fresh (Prod.ext created rfl)).configured
  · obtain ⟨tracks, formats⟩ := trackConfigs_accepted selected
    rw [granted.2]
    exact FfmpegRecordingWriter.create_unscripted (Bool.eq_false_iff.mpr (mt String.isEmpty_iff.mp named))
      tracks formats
  cases result with
  | error error =>
    refine (fail_shows _).bind fun _ => Ensures.pure _ fun _ shows => ⟨shows, fun granted selected => ?_⟩
    obtain ⟨writer, impossible⟩ := possible granted selected
    contradiction
  | ok writer =>
    refine Ensures.bind (Q := fun _ => Shows { o.numbered with pendingOutputFile := path }) (set_shows ?_) fun _ => ?_
    · intro recorder shows
      exact congrArg (fun seen : Outline => { seen with pendingOutputFile := path }) shows
    refine Ensures.bind (Q := fun _ => Shows (o.recordingTo path)) (underLock_shows ?_) fun _ =>
      Ensures.pure _ fun _ shows => ⟨⟨path, shows⟩, fun _ _ => rfl⟩
    intro recorder shows
    have same : (some writer).map (·.config) = some ⟨path, trackConfigs o.isSelected⟩ := by
      rw [Option.map_some, configured writer rfl]
    exact congrArg₂ (fun (seen : Outline) config => { seen with writer := config }) shows same

/-- Transcription starts with the configuration for the selected tracks, or not at all. -/
theorem startSttStreaming_shows (designLowPass : ℕ → ℚ → List ℚ) (answers : SttAnswers) :
    Ensures (Shows o) (startSttStreaming designLowPass answers) fun _ recorder => ∃ producer client,
      Shows { o with sttProducer := producer, sttClient := client } recorder := by
  have unchanged : ∀ recorder, Shows o recorder → ∃ producer client,
      Shows { o with sttProducer := producer, sttClient := client } recorder :=
    fun recorder shows => ⟨o.sttProducer, o.sttClient, shows⟩
  refine get_any.bind fun endpoint => Ensures.ite (fun _ => Ensures.pure _ unchanged) fun _ => ?_
  refine Ensures.bind (Q := fun _ => Shows o) (set_shows fun _ shows => shows) fun _ => get_any.bind fun settings => ?_
  split
  next => exact (fail_shows _).conseq (fun _ shows => shows) fun _ => unchanged
  next producer _ =>
    refine Ensures.ite (fun _ => (fail_shows _).conseq (fun _ shows => shows) fun _ => unchanged) fun _ => ?_
    refine underLock_shows fun recorder shows => ⟨some producer.config, true, ?_⟩
    exact congrArg (fun seen : Outline => { seen with sttProducer := some producer.config, sttClient := true }) shows

end RecorderController

end VoxMesh.App
