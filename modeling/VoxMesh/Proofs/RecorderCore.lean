import VoxMesh.Proofs.RecorderOperations

/-! # What the operations do to the core of a recorder

The core of a recorder is everything but the session state, the devices, the texts shown and the lock. An
assertion about the core is `Lasting` when none of the steps that touch the core can falsify it, and `Flowing` when
the dropping of the pipelines may. Every operation is made of these steps, so it keeps a lasting assertion under every
interleaving, and a flowing one until the pipelines are dropped; what `createWriter` does is left to the assertion at
hand.
-/

namespace VoxMesh.App

open VoxMesh.Audio VoxMesh.Media VoxMesh.Dsp Machine

/-- The files, and what frames flow through. -/
structure Core where
  disk : Disk
  opening : Track → Option CaptureLine
  history : History
  pipelines : Track → Option TrackPipeline
  writer : Option FfmpegRecordingWriter
  writerFailed : Bool
  sttProducer : Option SttStreamProducer
  sttClient : Option SttClient

def Recorder.core (recorder : Recorder) : Core where
  disk := recorder.disk
  opening := recorder.opening
  history := recorder.history
  pipelines := recorder.controller.pipelines
  writer := recorder.controller.writer
  writerFailed := recorder.controller.writerFailed
  sttProducer := recorder.controller.sttProducer
  sttClient := recorder.controller.sttClient

/-- No step that touches the core falsifies the assertion, unless the pipelines are dropped. -/
structure Flowing (K : Core → Prop) : Prop where
  capture : ∀ {recorder next : Recorder} {track : Track} {frame : AudioFrame},
    recorder.capture track frame = some next → K recorder.core → K next.core
  captureOpening : ∀ {recorder next : Recorder} {track : Track} {frame : AudioFrame},
    recorder.captureOpening track frame = some next → K recorder.core → K next.core
  drainFrame : ∀ {recorder next : Recorder} {track : Track} {answers rest : List FfmpegAnswer},
    recorder.drainFrame track answers = some (next, rest) → K recorder.core → K next.core
  openStream : ∀ (recorder : Recorder) (track : Track), K recorder.core →
    K { recorder.core with opening := Function.update recorder.opening track (some .opened) }
  register : ∀ (recorder : Recorder) (track : Track) (feeds : Bool), K recorder.core →
    K (recorder.register track feeds).core
  stopStream : ∀ (recorder : Recorder) (track : Track), K recorder.core → K (recorder.stopStream track).core
  abortWriter : ∀ recorder : Recorder, K recorder.core → K recorder.abortWriter.core
  finishWriter : ∀ (recorder : Recorder) (finalized : List FfmpegAnswer) (renamed : Bool), K recorder.core →
    K (recorder.finishWriter finalized renamed).2.core
  installStt : ∀ (recorder : Recorder) {designLowPass : ℕ → ℚ → List ℚ} {settings : SttStreamConfig}
    {producer : SttStreamProducer} (endpoint sessionId : String),
    SttStreamProducer.create designLowPass settings = some producer → K recorder.core →
      K (recorder.installStt producer ⟨endpoint, sessionId, []⟩).core
  removeStt : ∀ recorder : Recorder, K recorder.core → K recorder.removeStt.core

/-- Dropping the pipelines turns one assertion into another. -/
def Closes (K L : Core → Prop) : Prop := ∀ (recorder : Recorder) (present : Track → Bool), K recorder.core →
  L { recorder.core with pipelines := fun _ => none, history := recorder.history.close present }

/-- No step that touches the core falsifies the assertion. -/
structure Lasting (K : Core → Prop) : Prop extends Flowing K where
  closePipelines : Closes K K

namespace Flowing

open Thread Ui RecorderController

variable {K L : Core → Prop} {α : Type}

/-- The assertion as one about recorders. -/
abbrev On (K : Core → Prop) (recorder : Recorder) : Prop := K recorder.core

theorem keptByPasses (flowing : Flowing K) : Recorder.KeptByPasses (On K) := fun _ _ _ _ _ => flowing.drainFrame

theorem stable (flowing : Flowing K) : Stable Recorder.environment (On K) :=
  flowing.keptByPasses.stable (fun captured => flowing.capture captured)
    (fun captured => flowing.captureOpening captured) fun _ _ holds => holds

theorem dropPipelines (flowing : Flowing K) (closes : Closes K L) {recorder : Recorder} (holds : K recorder.core)
    (drained : List FfmpegAnswer) : L (recorder.dropPipelines drained).core := by
  obtain ⟨last, same, holds, -, -⟩ := flowing.keptByPasses.dropPipelines holds drained
  rw [same]
  exact closes last _ holds

/-- A change to what is not in the core. -/
theorem set {change : RecorderController → RecorderController}
    (outside : ∀ recorder : Recorder, (recorder.setController change).core = recorder.core) :
    Ensures (On K) (Ui.set change) fun _ => On K :=
  Ensures.update fun recorder holds => (congrArg K (outside recorder)).mpr holds

theorem fail (message : String) : Ensures (On K) (RecorderController.fail message) fun _ => On K :=
  set fun _ => rfl

theorem handle (event : SessionEvent) : Ensures (On K) (RecorderController.handle event) fun _ => On K :=
  Ensures.act fun _ holds => holds

theorem get {f : RecorderController → α} : Ensures (On K) (Ui.get f) fun _ => On K := get_any

theorem underLock (flowing : Flowing K) {action : Recorder → α × Recorder}
    (effect : ∀ recorder : Recorder, K recorder.core → L (action recorder).2.core) :
    Ensures (On K) (Ui.underLock action) fun _ => On L :=
  Ensures.locked flowing.stable fun recorder holds _ => effect recorder holds

theorem stopStreams (flowing : Flowing K) (closes : Closes K L) (drained : List FfmpegAnswer) :
    Ensures (On K) (RecorderController.stopStreams drained) fun _ => On L := by
  have stopped (track : Track) : Ensures (On K) (atomically (·.stopStream track)) fun _ => On K :=
    (Ensures.yield flowing.stable).bind fun _ => Ensures.update fun recorder => flowing.stopStream recorder track
  refine (stopped .microphone).bind fun _ => (stopped .systemOutput).bind fun _ => ?_
  exact flowing.underLock fun _ holds => flowing.dropPipelines closes holds drained

theorem discardWriter (flowing : Flowing K) : Ensures (On K) RecorderController.discardWriter fun _ => On K :=
  (flowing.underLock flowing.abortWriter).bind fun _ => set fun _ => rfl

theorem stopSttStreaming (flowing : Flowing K) : Ensures (On K) RecorderController.stopSttStreaming fun _ => On K :=
  (flowing.underLock flowing.removeStt).bind fun _ => set fun _ => rfl

theorem startTrack (flowing : Flowing K) (track : Track) (feeds : Bool) (failure : Option CaptureError) :
    Ensures (On K) (RecorderController.startTrack track feeds failure) fun _ => On K := by
  refine get.bind fun device => ?_
  cases failure with
  | some error => exact (fail _).bind fun _ => Ensures.pure _ fun _ holds => holds
  | none =>
    refine Ensures.bind (Q := fun _ => On K) (Ensures.update fun recorder => flowing.openStream recorder track)
      fun _ => ?_
    exact (flowing.underLock fun recorder => flowing.register recorder track feeds).bind fun _ =>
      Ensures.pure _ fun _ holds => holds

theorem startSelected (flowing : Flowing K) (track : Track) (feeds : Bool) (failure : Option CaptureError) :
    Ensures (On K) (RecorderController.startSelected track feeds failure) fun _ => On K :=
  get.bind fun _ => Ensures.ite (fun _ => flowing.startTrack track feeds failure) fun _ =>
    Ensures.pure _ fun _ holds => holds

theorem startStreams (flowing : Flowing K) (failures : Track → Option CaptureError) :
    Ensures (On K) (RecorderController.startStreams failures) fun _ => On K := by
  refine get.bind fun _ => (flowing.startSelected _ _ _).bind fun _ => ?_
  refine Ensures.ite (fun _ => Ensures.pure _ fun _ holds => holds) fun _ => ?_
  refine get.bind fun _ => (flowing.startSelected _ _ _).bind fun _ => ?_
  exact Ensures.ite (fun _ => Ensures.pure _ fun _ holds => holds) fun _ => Ensures.pure _ fun _ holds => holds

theorem startSttStreaming (flowing : Flowing K) (designLowPass : ℕ → ℚ → List ℚ) (answers : SttAnswers) :
    Ensures (On K) (RecorderController.startSttStreaming designLowPass answers) fun _ => On K := by
  refine get.bind fun endpoint => Ensures.ite (fun _ => Ensures.pure _ fun _ holds => holds) fun _ => ?_
  refine Ensures.bind (Q := fun _ => On K) (set fun _ => rfl) fun _ => get.bind fun settings => ?_
  split
  next => exact fail _
  next producer created =>
    exact Ensures.ite (fun _ => fail _) fun _ => flowing.underLock fun recorder =>
      flowing.installStt recorder endpoint answers.sessionId created

/-- A recording that starts meets the assertion when its writer does; one that does not has its pipelines dropped. -/
theorem startRecording (flowing : Flowing K) (after : Flowing L) (closes : Closes K L)
    (weaker : ∀ core, K core → L core) {P : Recorder → Prop} {answers : StartAnswers}
    (created : Ensures P (createWriter answers.file) fun made recorder =>
      if made then K recorder.core else L recorder.core) (designLowPass : ℕ → ℚ → List ℚ) :
    Ensures P (RecorderController.startRecording designLowPass answers) fun started recorder =>
      if started then K recorder.core else L recorder.core := by
  refine created.bind fun made => ?_
  cases made with
  | false => exact Ensures.pure _ fun _ holds => holds
  | true =>
    refine (handle (K := K) .start).bind fun _ => Ensures.ite (fun _ => ?_) fun _ => ?_
    · exact flowing.discardWriter.bind fun _ => Ensures.pure _ fun _ holds => weaker _ holds
    refine (flowing.startSttStreaming designLowPass answers.stt).bind fun _ =>
      (flowing.startStreams answers.captures).bind fun _ => Ensures.ite (fun _ => ?_) fun _ => ?_
    · refine Ensures.bind (Q := fun _ => On L) ?_ fun _ => Ensures.pure _ fun _ holds => holds
      exact (flowing.stopStreams closes answers.drained).bind fun _ => after.discardWriter.bind fun _ =>
        after.stopSttStreaming.bind fun _ => (handle .fault).bind fun _ => (handle .reset).bind fun _ =>
          Ensures.pure _ fun _ holds => holds
    · exact Ensures.bind (Q := fun _ => On K) (set fun _ => rfl) fun _ => Ensures.pure _ fun _ holds => holds

/-- A `stop` drops the pipelines, unless it is refused. -/
theorem stop (flowing : Flowing K) (after : Flowing L) (closes : Closes K L) (weaker : ∀ core, K core → L core)
    (answers : StopAnswers) : Ensures (On K) (RecorderController.stop answers) fun _ => On L := by
  refine (handle .stop).bind fun _ =>
    Ensures.ite (fun _ => Ensures.pure _ fun _ holds => weaker _ holds) fun _ => ?_
  refine (flowing.stopStreams closes answers.drained).bind fun _ =>
    Ensures.bind (Q := fun _ => On L) (set fun _ => rfl) fun _ => ?_
  refine (after.underLock fun recorder => after.finishWriter recorder answers.finalized answers.renamed).bind
    fun _ => Ensures.bind (Q := fun _ => On L) (set fun _ => rfl) fun _ => after.stopSttStreaming.bind fun _ => ?_
  refine Ensures.bind (Q := fun _ => On L) ?_ fun _ => (handle .stopComplete).bind fun _ =>
    (handle .reset).bind fun _ => Ensures.pure _ fun _ holds => holds
  exact Ensures.ite (fun _ => set fun _ => rfl) fun _ => Ensures.ite (fun _ => fail _) fun _ =>
    Ensures.pure _ fun _ holds => holds

end Flowing

namespace Lasting

open Thread Ui RecorderController Flowing

variable {K : Core → Prop} {α : Type}

/-- What `start` does once the writer is created. -/
theorem startRecording (lasting : Lasting K) {P : Recorder → Prop} {answers : StartAnswers}
    (created : Ensures P (createWriter answers.file) fun _ => On K) (designLowPass : ℕ → ℚ → List ℚ) :
    Ensures P (RecorderController.startRecording designLowPass answers) fun _ => On K := by
  have either : Ensures P (createWriter answers.file) fun made recorder =>
      if made then K recorder.core else K recorder.core := by simpa only [ite_self] using created
  have begun := lasting.toFlowing.startRecording lasting.toFlowing lasting.closePipelines (fun _ holds => holds) either
    designLowPass
  simpa only [ite_self] using begun

theorem pause (lasting : Lasting K) (drained : List FfmpegAnswer) :
    Ensures (On K) (RecorderController.pause drained) fun _ => On K :=
  (Flowing.handle .pause).bind fun _ => Ensures.ite (fun _ => Ensures.pure _ fun _ holds => holds) fun _ =>
    (lasting.stopStreams lasting.closePipelines drained).bind fun _ => Ensures.pure _ fun _ holds => holds

theorem resume (lasting : Lasting K) (failures : Track → Option CaptureError) :
    Ensures (On K) (RecorderController.resume failures) fun _ => On K := by
  refine get.bind fun _ => Ensures.ite (fun _ => Ensures.pure _ fun _ holds => holds) fun _ => ?_
  refine (lasting.startStreams failures).bind fun _ => Ensures.ite (fun _ => ?_) fun _ => Flowing.handle .resume
  exact (Flowing.handle .fault).bind fun _ => Ensures.pure _ fun _ holds => holds

/-- Every operation but `start` keeps the assertion. -/
theorem perform (lasting : Lasting K) (designLowPass : ℕ → ℚ → List ℚ) {operation : Operation}
    (other : ∀ answers, operation ≠ .start answers) :
    Ensures (On K) (Recorder.perform designLowPass operation) fun _ => On K := by
  have kept {change : RecorderController → RecorderController}
      (outside : ∀ recorder : Recorder, (recorder.setController change).core = recorder.core) :
      Ensures (On K) (do Ui.set change; return true) fun _ => On K :=
    (set outside).bind fun _ => Ensures.pure _ fun _ holds => holds
  cases operation with
  | start answers => exact absurd rfl (other answers)
  | refreshDevices found => exact kept fun _ => rfl
  | pause drained => exact lasting.pause drained
  | resume failures => exact lasting.resume failures
  | stop answers => exact lasting.stop lasting.toFlowing lasting.closePipelines (fun _ holds => holds) answers
  | setSelectedMicrophone index | setSelectedSystemOutput index =>
    refine kept fun recorder => ?_
    simp only [Recorder.setController, RecorderController.select]
    split <;> rfl
  | setOutputDirectory directory | setSttEndpoint endpoint =>
    refine kept fun recorder => ?_
    simp only [Recorder.setController]
    split <;> rfl

/-- What a `start` keeps, every step keeps. -/
theorem step (lasting : Lasting K) {designLowPass : ℕ → ℚ → List ℚ} {recorder next : Recorder} {label : Label}
    (started : ∀ answers agenda result, label = .operation (.start answers) agenda →
      (RecorderController.start designLowPass answers).run agenda recorder = some (result, next) → K next.core)
    (taken : Recorder.step designLowPass recorder label = some next) (holds : K recorder.core) : K next.core := by
  cases label with
  | operation operation agenda =>
    obtain ⟨⟨result, last⟩, outcome, same⟩ := Option.map_eq_some_iff.mp taken
    obtain rfl : last = next := same
    by_cases isStart : ∃ answers, operation = .start answers
    · obtain ⟨answers, rfl⟩ := isStart
      exact started answers agenda result rfl outcome
    · exact (lasting.perform designLowPass (not_exists.mp isStart)).run outcome holds
  | statsTick =>
    rw [Recorder.step] at taken
    split at taken
    next =>
      obtain rfl := Option.some.inj taken
      rw [Recorder.onStatsTick]
      split
      next => exact holds
      next => exact holds
    next => contradiction
  | environment event => exact lasting.stable recorder event next taken holds

/-- A `start` keeps what its `createWriter` keeps. -/
theorem start (lasting : Lasting K) (created : ∀ answers, Ensures (On K) (createWriter answers) fun _ => On K)
    (designLowPass : ℕ → ℚ → List ℚ) (answers : StartAnswers) :
    Ensures (On K) (RecorderController.start designLowPass answers) fun _ => On K := by
  refine Flowing.get.bind fun session => Ensures.ite (fun _ => Ensures.pure _ fun _ holds => holds) fun _ => ?_
  have devices : Ensures (On K) (ensureDevices answers.devices) fun _ => On K :=
    Flowing.get.bind fun _ => Ensures.ite (fun _ => Flowing.set fun _ => rfl) fun _ =>
      Ensures.pure _ fun _ holds => holds
  refine devices.bind fun _ => Flowing.get.bind fun _ => Ensures.ite (fun _ => ?_) fun _ => ?_
  · exact (Flowing.fail _).bind fun _ => Ensures.pure _ fun _ holds => holds
  · exact (Flowing.fail _).bind fun _ => lasting.startRecording (created answers.file) designLowPass

/-- What holds initially and every `createWriter` keeps holds after every run. -/
theorem run (lasting : Lasting K) (created : ∀ answers, Ensures (On K) (createWriter answers) fun _ => On K)
    {designLowPass : ℕ → ℚ → List ℚ} {recorder last : Recorder} {labels : List Label}
    (run : Run (Recorder.step designLowPass) recorder labels last) (holds : K recorder.core) : K last.core := by
  refine run.invariant (I := On K) (fun seen label next holds taken => ?_) holds
  refine lasting.step (fun answers agenda result _ outcome => ?_) taken holds
  exact (lasting.start created designLowPass answers).run outcome holds

end Lasting

/-- A lasting assertion that does not depend on the files and survives a new recording. -/
structure Enduring (K : Core → Prop) : Prop extends Lasting K where
  disk : ∀ (core : Core) (disk : Disk), K core → K { core with disk := disk }
  installWriter : ∀ (recorder : Recorder) (writer : FfmpegRecordingWriter), K recorder.core →
    K (recorder.installWriter writer).core

namespace Enduring

open Thread Ui RecorderController Flowing

variable {K : Core → Prop}

theorem createWriter (enduring : Enduring K) (answers : FileAnswers) :
    Ensures (On K) (RecorderController.createWriter answers) fun _ => On K := by
  refine Ensures.bind (Q := fun _ => On K) (Flowing.set fun _ => rfl) fun _ => Ensures.ite (fun _ => ?_) fun _ => ?_
  · exact (Flowing.fail _).bind fun _ => Ensures.pure _ fun _ holds => holds
  refine Flowing.get.bind fun tracks => Flowing.get.bind fun directory => ?_
  refine Ensures.bind (Q := fun _ => On K) (Ensures.act fun _ holds => holds) fun path => ?_
  refine Ensures.bind (Q := fun _ => On K) (Ensures.act fun recorder => enduring.disk recorder.core _) fun result => ?_
  cases result with
  | error error => exact (Flowing.fail _).bind fun _ => Ensures.pure _ fun _ holds => holds
  | ok writer =>
    refine Ensures.bind (Q := fun _ => On K) (Flowing.set fun _ => rfl) fun _ => ?_
    exact (enduring.toLasting.underLock fun recorder => enduring.installWriter recorder writer).bind fun _ =>
      Ensures.pure _ fun _ holds => holds

/-- What holds initially holds after every run. -/
theorem run (enduring : Enduring K) {designLowPass : ℕ → ℚ → List ℚ} {recorder last : Recorder}
    {labels : List Label} (run : Run (Recorder.step designLowPass) recorder labels last) (holds : K recorder.core) :
    K last.core :=
  enduring.toLasting.run enduring.createWriter run holds

end Enduring

end VoxMesh.App
