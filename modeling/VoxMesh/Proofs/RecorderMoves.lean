import VoxMesh.Proofs.RecorderOperations

/-! # The moves that the operations are made of

Each operation is made of the same few moves of the UI thread, between which the other threads take their steps. What
every move keeps, every operation keeps, whatever the interleaving (`Kept`). The announcement of a saved file, the last
thing that `stop` does with it, is not counted among the moves.
-/

namespace VoxMesh.App

open VoxMesh.Audio VoxMesh.Media Machine

namespace Recorder

inductive Move : Recorder → Recorder → Prop
  | environment {recorder next : Recorder} (event : Environment) (taken : recorder.environment event = some next) :
      Move recorder next
  | session (recorder : Recorder) (event : SessionEvent) : Move recorder (recorder.setController fun controller =>
      { controller with session := (RecordingSession.handle controller.session event).2 })
  | fail (recorder : Recorder) (message : String) : Move recorder (recorder.setController fun controller =>
      { controller with lastError := message })
  | setDevices (recorder : Recorder) (found : List AudioDeviceInfo) :
      Move recorder (recorder.setController (·.setDevices found))
  | select (recorder : Recorder) (track : Track) (index : ℤ) :
      Move recorder (recorder.setController (·.select track index))
  | number (recorder : Recorder) : Move recorder (recorder.setController fun controller =>
      { controller with writerTracks := RecorderController.trackIndices controller.isSelected })
  | create (recorder : Recorder) (config : RecordingWriterConfig) (frameSize : ℕ) (answers : List FfmpegAnswer) :
      Move recorder { recorder with
        disk := (FfmpegRecordingWriter.create config frameSize ⟨recorder.disk, answers⟩).2.disk }
  | pend (recorder : Recorder) (path : String) : Move recorder (recorder.setController fun controller =>
      { controller with pendingOutputFile := path })
  | installWriter (recorder : Recorder) (writer : FfmpegRecordingWriter) : Move recorder (recorder.installWriter writer)
  | abortWriter (recorder : Recorder) : Move recorder recorder.abortWriter
  | openStream (recorder : Recorder) (track : Track) : Move recorder { recorder with
      opening := Function.update recorder.opening track (some .opened) }
  | register (recorder : Recorder) (track : Track) (feeds : Bool) : Move recorder (recorder.register track feeds)
  | stopStream (recorder : Recorder) (track : Track) : Move recorder (recorder.stopStream track)
  | dropPipelines (recorder : Recorder) (drained : List FfmpegAnswer) : Move recorder (recorder.dropPipelines drained)
  | finishWriter (recorder : Recorder) (finalized : List FfmpegAnswer) (renamed : Bool) :
      Move recorder (recorder.finishWriter finalized renamed).2
  | clearTranscript (recorder : Recorder) : Move recorder (recorder.setController fun controller =>
      { controller with transcriptLines := [], transcriptSegmentIds := [] })
  | installStt (recorder : Recorder) (producer : Dsp.SttStreamProducer) (client : SttClient) :
      Move recorder (recorder.installStt producer client)
  | removeStt (recorder : Recorder) : Move recorder recorder.removeStt
  | endStt (recorder : Recorder) : Move recorder (recorder.setController fun controller =>
      { controller with sttActive := false })
  | time (recorder : Recorder) (running : Bool) : Move recorder (recorder.setController fun controller =>
      { controller with statsTimer := running })
  | tick (recorder : Recorder) : Move recorder recorder.onStatsTick
  | outputDirectory (recorder : Recorder) (directory : String) : Move recorder (recorder.setController fun controller =>
      if controller.session ≠ .idle ∨ directory.isEmpty then controller
      else { controller with outputDirectory := directory })
  | sttEndpoint (recorder : Recorder) (endpoint : String) : Move recorder (recorder.setController fun controller =>
      if controller.session ≠ .idle then controller else { controller with sttEndpoint := endpoint })

/-- Every move keeps the assertion. -/
def Kept (K : Recorder → Prop) : Prop := ∀ ⦃recorder next : Recorder⦄, recorder.Move next → K recorder → K next

end Recorder

namespace Recorder.Kept

open Thread Ui RecorderController Recorder

variable {K : Recorder → Prop} {α : Type}

theorem stable (kept : Kept K) : Stable environment K :=
  fun _ event _ taken holds => kept (.environment event taken) holds

theorem underLock (kept : Kept K) {action : Recorder → α × Recorder}
    (move : ∀ recorder : Recorder, recorder.Move (action recorder).2) : Ensures K (Ui.underLock action) fun _ => K :=
  Ensures.locked kept.stable fun recorder holds _ => kept (move recorder) holds

theorem set (kept : Kept K) {change : RecorderController → RecorderController}
    (move : ∀ recorder : Recorder, recorder.Move (recorder.setController change)) :
    Ensures K (Ui.set change) fun _ => K :=
  set_ensures fun recorder holds => kept (move recorder) holds

theorem fail (kept : Kept K) (message : String) : Ensures K (RecorderController.fail message) fun _ => K :=
  kept.set fun recorder => .fail recorder message

theorem handle (kept : Kept K) (event : SessionEvent) : Ensures K (RecorderController.handle event) fun _ => K :=
  Ensures.act fun recorder holds => kept (.session recorder event) holds

theorem refused (value : α) : Ensures K (pure value : Ui α) fun _ => K := Ensures.pure _ fun _ holds => holds

theorem stopStreams (kept : Kept K) (drained : List FfmpegAnswer) :
    Ensures K (RecorderController.stopStreams drained) fun _ => K := by
  have stopped (track : Track) : Ensures K (atomically (·.stopStream track)) fun _ => K :=
    (Ensures.yield kept.stable).bind fun _ => Ensures.update fun recorder => kept (.stopStream recorder track)
  exact (stopped .microphone).bind fun _ => (stopped .systemOutput).bind fun _ =>
    kept.underLock fun recorder => .dropPipelines recorder drained

theorem discardWriter (kept : Kept K) : Ensures K RecorderController.discardWriter fun _ => K :=
  (kept.underLock .abortWriter).bind fun _ => kept.set fun recorder => .pend recorder ""

theorem stopSttStreaming (kept : Kept K) : Ensures K RecorderController.stopSttStreaming fun _ => K :=
  (kept.underLock .removeStt).bind fun _ => kept.set .endStt

theorem createWriter (kept : Kept K) (answers : FileAnswers) :
    Ensures K (RecorderController.createWriter answers) fun _ => K := by
  refine (kept.set .number).bind fun _ => Ensures.ite (fun _ => (kept.fail _).bind fun _ => refused _) fun _ => ?_
  refine get_any.bind fun tracks => get_any.bind fun directory => ?_
  refine Ensures.bind (Q := fun _ => K) (Ensures.act fun _ holds => holds) fun path => ?_
  refine Ensures.bind (Q := fun _ => K) (Ensures.act fun recorder holds => kept (.create recorder _ _ _) holds)
    fun result => ?_
  cases result with
  | error error => exact (kept.fail _).bind fun _ => refused _
  | ok writer =>
    exact (kept.set fun recorder => .pend recorder path).bind fun _ =>
      (kept.underLock fun recorder => .installWriter recorder writer).bind fun _ => refused _

theorem startTrack (kept : Kept K) (track : Track) (feeds : Bool) (failure : Option CaptureError) :
    Ensures K (RecorderController.startTrack track feeds failure) fun _ => K := by
  refine get_any.bind fun device => ?_
  cases failure with
  | some error => exact (kept.fail _).bind fun _ => refused _
  | none =>
    refine Ensures.bind (Q := fun _ => K) (Ensures.update fun recorder => kept (.openStream recorder track)) fun _ => ?_
    exact (kept.underLock fun recorder => .register recorder track feeds).bind fun _ => refused _

theorem startStreams (kept : Kept K) (failures : Track → Option CaptureError) :
    Ensures K (RecorderController.startStreams failures) fun _ => K := by
  have each (track : Track) (feeds : Bool) : Ensures K (startSelected track feeds (failures track)) fun _ => K :=
    get_any.bind fun _ => Ensures.ite (fun _ => kept.startTrack track feeds _) fun _ => refused _
  refine get_any.bind fun _ => (each _ _).bind fun _ => Ensures.ite (fun _ => refused _) fun _ => ?_
  exact get_any.bind fun _ => (each _ _).bind fun _ => Ensures.ite (fun _ => refused _) fun _ => refused _

theorem startSttStreaming (kept : Kept K) (designLowPass : ℕ → ℚ → List ℚ) (answers : SttAnswers) :
    Ensures K (RecorderController.startSttStreaming designLowPass answers) fun _ => K := by
  refine get_any.bind fun endpoint => Ensures.ite (fun _ => refused _) fun _ => ?_
  refine (kept.set .clearTranscript).bind fun _ => get_any.bind fun settings => ?_
  split
  next => exact kept.fail _
  next producer created =>
    exact Ensures.ite (fun _ => kept.fail _) fun _ => kept.underLock fun recorder => .installStt recorder producer _

theorem abandon (kept : Kept K) (drained : List FfmpegAnswer) :
    Ensures K (RecorderController.abandon drained) fun _ => K :=
  (kept.stopStreams drained).bind fun _ => kept.discardWriter.bind fun _ => kept.stopSttStreaming.bind fun _ =>
    (kept.handle .fault).bind fun _ => (kept.handle .reset).bind fun _ => refused _

theorem start (kept : Kept K) (designLowPass : ℕ → ℚ → List ℚ) (answers : StartAnswers) :
    Ensures K (RecorderController.start designLowPass answers) fun _ => K := by
  refine get_any.bind fun _ => Ensures.ite (fun _ => refused _) fun _ => ?_
  refine Ensures.bind (Q := fun _ => K) (get_any.bind fun _ => Ensures.ite
    (fun _ => kept.set fun recorder => .setDevices recorder answers.devices) fun _ => refused _) fun _ => ?_
  refine get_any.bind fun _ => Ensures.ite (fun _ => (kept.fail _).bind fun _ => refused _) fun _ => ?_
  refine (kept.fail _).bind fun _ => (kept.createWriter _).bind fun _ => Ensures.ite (fun _ => refused _) fun _ => ?_
  refine (kept.handle .start).bind fun _ =>
    Ensures.ite (fun _ => kept.discardWriter.bind fun _ => refused _) fun _ => ?_
  refine (kept.startSttStreaming _ _).bind fun _ => (kept.startStreams _).bind fun _ =>
    Ensures.ite (fun _ => (kept.abandon _).bind fun _ => refused _) fun _ => ?_
  exact (kept.set fun recorder => .time recorder true).bind fun _ => refused _

/-- Every operation but `stop` keeps what the moves keep. -/
theorem perform (kept : Kept K) (designLowPass : ℕ → ℚ → List ℚ) {operation : Operation}
    (other : ∀ answers, operation ≠ .stop answers) :
    Ensures K (Recorder.perform designLowPass operation) fun _ => K := by
  cases operation with
  | stop answers => exact absurd rfl (other answers)
  | start answers => exact kept.start designLowPass answers
  | pause drained =>
    exact (kept.handle .pause).bind fun _ => Ensures.ite (fun _ => refused _) fun _ =>
      (kept.stopStreams drained).bind fun _ => refused _
  | resume failures =>
    refine get_any.bind fun _ => Ensures.ite (fun _ => refused _) fun _ => ?_
    exact (kept.startStreams failures).bind fun _ => Ensures.ite
      (fun _ => (kept.handle .fault).bind fun _ => refused _) fun _ => kept.handle .resume
  | refreshDevices found => exact (kept.set fun recorder => .setDevices recorder found).bind fun _ => refused _
  | setSelectedMicrophone index =>
    exact (kept.set fun recorder => .select recorder .microphone index).bind fun _ => refused _
  | setSelectedSystemOutput index =>
    exact (kept.set fun recorder => .select recorder .systemOutput index).bind fun _ => refused _
  | setOutputDirectory directory =>
    exact (kept.set fun recorder => .outputDirectory recorder directory).bind fun _ => refused _
  | setSttEndpoint endpoint => exact (kept.set fun recorder => .sttEndpoint recorder endpoint).bind fun _ => refused _

/-- So does every step but a `stop`. -/
theorem step (kept : Kept K) {designLowPass : ℕ → ℚ → List ℚ} {recorder next : Recorder} {label : Label}
    (other : ∀ answers agenda, label ≠ .operation (.stop answers) agenda)
    (taken : Recorder.step designLowPass recorder label = some next) (holds : K recorder) : K next := by
  cases label with
  | operation operation agenda =>
    obtain ⟨⟨result, last⟩, outcome, same⟩ := Option.map_eq_some_iff.mp taken
    obtain rfl : last = next := same
    refine (kept.perform designLowPass ?_).run outcome holds
    rintro answers rfl
    exact other answers agenda rfl
  | statsTick =>
    rw [Recorder.step] at taken
    split at taken
    next =>
      obtain rfl := Option.some.inj taken
      exact kept (.tick recorder) holds
    next => contradiction
  | environment event => exact kept (.environment event taken) holds

end Recorder.Kept

end VoxMesh.App
