import VoxMesh.Proofs.LedgerOperations

/-! # Assertions across whole sessions

An assertion is `Persistent` when it is sustained and the end of a session does not falsify it; then every label
keeps it up to the next session. It is `Throughout` when nothing in the beginning of a session falsifies it either,
and a writer that is installed in a quiet recorder establishes it; then every label keeps it.
-/

namespace VoxMesh.App

open VoxMesh.Audio VoxMesh.Media VoxMesh.Dsp Machine

structure Persistent (K : Recorder → Prop) : Prop extends Sustained K where
  opens : ∀ o, OpensStreams o K
  change : ∀ (recorder : Recorder) (change : RecorderController → RecorderController),
    (recorder.setController change).core = recorder.core → K recorder → K (recorder.setController change)
  finishWriter : ∀ (recorder : Recorder) (finalized : List FfmpegAnswer) (renamed : Bool), K recorder →
    K (recorder.finishWriter finalized renamed).2
  removeStt : ∀ recorder : Recorder, K recorder → K recorder.removeStt

structure Throughout (K : Recorder → Prop) : Prop extends Persistent K where
  disk : ∀ (recorder : Recorder) (disk : Disk), K recorder → K { recorder with disk := disk }
  installWriter : ∀ {recorder : Recorder} (writer : FfmpegRecordingWriter), recorder.Quiet →
    K (recorder.installWriter writer)
  abortWriter : ∀ recorder : Recorder, K recorder → K recorder.abortWriter
  installStt : ∀ (recorder : Recorder) (producer : SttStreamProducer) (client : SttClient), K recorder →
    K (recorder.installStt producer client)

namespace Persistent

open Thread Ui RecorderController Steady

variable {K : Recorder → Prop} {o : Outline} {α : Type}

theorem set (persistent : Persistent K) {change : RecorderController → RecorderController}
    (outside : ∀ recorder : Recorder, (recorder.setController change).core = recorder.core) :
    Ensures K (Ui.set change) fun _ => K :=
  set_ensures fun recorder => persistent.change recorder change (outside recorder)

theorem underLock (persistent : Persistent K) {action : Recorder → α × Recorder}
    (effect : ∀ recorder : Recorder, K recorder → K (action recorder).2) : Ensures K (Ui.underLock action) fun _ => K :=
  Ensures.locked persistent.stable fun recorder holds _ => effect recorder holds

theorem stopSttStreaming (persistent : Persistent K) : Ensures K RecorderController.stopSttStreaming fun _ => K :=
  (persistent.underLock persistent.removeStt).bind fun _ => persistent.set fun _ => rfl

theorem stop (persistent : Persistent K) (answers : StopAnswers) (settled : o.Settled) :
    Ensures (Under o K) (RecorderController.stop answers) fun _ => K := by
  have handled : Ensures (Under o K) (RecorderController.handle .stop) fun _ => K :=
    (persistent.handle_keeps .stop).conseq (fun _ => And.right) fun _ _ holds => holds
  refine Ensures.bind_eq _ (under_of_shows (handle_shows .stop) handled) (Ensures.ite (fun _ => ?_) fun _ => ?_)
  · exact Ensures.pure _ fun _ under => under.2
  refine (persistent.stopStreams (by exact settled.opening) answers.drained).bind fun _ =>
    (persistent.set fun _ => rfl).bind fun _ => ?_
  refine (persistent.underLock fun recorder => persistent.finishWriter recorder answers.finalized answers.renamed).bind
    fun _ => (persistent.set fun _ => rfl).bind fun _ => persistent.stopSttStreaming.bind fun _ => ?_
  refine Ensures.bind (Q := fun _ => K) ?_ fun _ => (persistent.handle_keeps .stopComplete).bind fun _ =>
    (persistent.handle_keeps .reset).bind fun _ => Ensures.pure _ fun _ holds => holds
  exact Ensures.ite (fun _ => persistent.set fun _ => rfl) fun _ => Ensures.ite (fun _ => persistent.set fun _ => rfl)
    fun _ => Ensures.pure _ fun _ holds => holds

/-- Every operation keeps the assertion that `start` keeps. -/
theorem perform (persistent : Persistent K) (designLowPass : ℕ → ℚ → List ℚ) (operation : Operation)
    (started : ∀ answers, operation = .start answers →
      Ensures (Under o K) (RecorderController.start designLowPass answers) fun _ => K)
    (settled : o.Settled) : Ensures (Under o K) (Recorder.perform designLowPass operation) fun _ => K := by
  have kept {change : RecorderController → RecorderController}
      (outside : ∀ recorder : Recorder, (recorder.setController change).core = recorder.core) :
      Ensures (Under o K) (do Ui.set change; return true) fun _ => K :=
    ((persistent.set outside).conseq (fun _ => And.right) fun _ _ holds => holds).bind fun _ =>
      Ensures.pure _ fun _ holds => holds
  cases operation with
  | refreshDevices found => exact kept fun _ => rfl
  | start answers => exact started answers rfl
  | pause drained => exact persistent.pause drained settled
  | resume failures => exact persistent.resume (persistent.opens o) failures settled
  | stop answers => exact persistent.stop answers settled
  | setSelectedMicrophone index | setSelectedSystemOutput index =>
    refine kept fun recorder => ?_
    simp only [Recorder.setController, RecorderController.select]
    split <;> rfl
  | setOutputDirectory directory | setSttEndpoint endpoint =>
    refine kept fun recorder => ?_
    simp only [Recorder.setController]
    split <;> rfl

theorem step_of_start (persistent : Persistent K) {designLowPass : ℕ → ℚ → List ℚ} {recorder next : Recorder}
    {label : Label} (started : ∀ answers agenda, label = .operation (.start answers) agenda →
      Ensures (Under recorder.outline K) (RecorderController.start designLowPass answers) fun _ => K)
    (settled : recorder.outline.Settled) (taken : Recorder.step designLowPass recorder label = some next)
    (holds : K recorder) : K next := by
  cases label with
  | operation operation agenda =>
    obtain ⟨⟨result, last⟩, outcome, same⟩ := Option.map_eq_some_iff.mp taken
    obtain rfl : last = next := same
    refine (persistent.perform designLowPass operation (fun answers same => ?_) settled).run outcome ⟨rfl, holds⟩
    exact started answers agenda (congrArg (Label.operation · agenda) same)
  | statsTick =>
    rw [Recorder.step] at taken
    split at taken
    next =>
      obtain rfl := Option.some.inj taken
      rw [Recorder.onStatsTick]
      split
      next =>
        exact persistent.change recorder (fun controller => { controller with
          writerFailureReported := true
          lastError := writeFailure })
            rfl holds
      next => exact holds
    next => contradiction
  | environment event => exact persistent.stable recorder event next taken holds

/-- A label that begins no session keeps the assertion. -/
theorem step (persistent : Persistent K) {designLowPass : ℕ → ℚ → List ℚ} {recorder next : Recorder} {label : Label}
    (settled : recorder.outline.Settled) (continues : ∀ answers agenda, label = .operation (.start answers) agenda →
      recorder.controller.session ≠ .idle)
    (taken : Recorder.step designLowPass recorder label = some next) (holds : K recorder) : K next := by
  refine persistent.step_of_start (fun answers agenda isStart => ?_) settled taken holds
  refine Ensures.bind_eq recorder.controller.session (get_under ?_) (Ensures.ite (fun _ => ?_) fun idle => ?_)
  · exact fun seen shows => congrArg Outline.session shows
  · exact Ensures.pure _ fun _ under => under.2
  · exact absurd (not_not.mp idle) (continues answers agenda isStart)

end Persistent

namespace Throughout

open Thread Ui RecorderController Steady

variable {K : Recorder → Prop} {o : Outline}

theorem discardWriter (throughout : Throughout K) : Ensures K RecorderController.discardWriter fun _ => K :=
  (throughout.underLock throughout.abortWriter).bind fun _ => throughout.set fun _ => rfl

/-- Quiet recorders stay quiet, and the assertion with them. -/
theorem quiet_stable (throughout : Throughout K) :
    Stable Recorder.environment fun recorder => recorder.Quiet ∧ K recorder := fun seen event next taken holds =>
  ⟨(Recorder.stable_quiet (fun _ _ _ => True) seen event next taken ⟨holds.1, trivial⟩).1,
    throughout.stable seen event next taken holds.2⟩

theorem createWriter (throughout : Throughout K) (answers : FileAnswers) :
    Ensures (fun recorder => recorder.Quiet ∧ K recorder) (RecorderController.createWriter answers) fun _ => K := by
  have kept {change : RecorderController → RecorderController} (outside : ∀ recorder : Recorder,
      (recorder.setController change).core = recorder.core ∧
        (change recorder.controller).pipelines = recorder.controller.pipelines) :
      Ensures (fun recorder => recorder.Quiet ∧ K recorder) (Ui.set change) fun _ recorder =>
        recorder.Quiet ∧ K recorder := by
    apply set_ensures
    rintro recorder ⟨quiet, holds⟩
    obtain ⟨core, pipelines⟩ := outside recorder
    refine ⟨fun track => ⟨?_, (quiet track).2⟩, throughout.change recorder change core holds⟩
    exact (congrFun pipelines track).trans (quiet track).1
  have failed (message : String) : Ensures (fun recorder => recorder.Quiet ∧ K recorder) (fail message) fun _ => K :=
    (kept fun _ => ⟨rfl, rfl⟩).conseq (fun _ both => both) fun _ _ both => both.2
  refine (kept fun _ => ⟨rfl, rfl⟩).bind fun _ => Ensures.ite (fun _ => ?_) fun _ => ?_
  · exact (failed _).bind fun _ => Ensures.pure _ fun _ holds => holds
  refine get_any.bind fun tracks => get_any.bind fun _ => ?_
  refine Ensures.bind (Q := fun _ recorder => recorder.Quiet ∧ K recorder) (Ensures.act fun _ both => both)
    fun path => ?_
  refine Ensures.bind (Q := fun _ recorder => recorder.Quiet ∧ K recorder) (Ensures.act ?_) fun result => ?_
  · rintro recorder ⟨quiet, holds⟩
    exact ⟨quiet, throughout.disk recorder _ holds⟩
  cases result with
  | error error => exact (failed _).bind fun _ => Ensures.pure _ fun _ holds => holds
  | ok writer =>
    refine (kept fun _ => ⟨rfl, rfl⟩).bind fun _ =>
      Ensures.bind (Q := fun _ => K) (Ensures.locked throughout.quiet_stable ?_) fun _ =>
        Ensures.pure _ fun _ holds => holds
    rintro recorder ⟨quiet, -⟩ -
    exact throughout.installWriter writer quiet

theorem startSttStreaming (throughout : Throughout K) (designLowPass : ℕ → ℚ → List ℚ) (answers : SttAnswers) :
    Ensures K (RecorderController.startSttStreaming designLowPass answers) fun _ => K := by
  refine get_any.bind fun endpoint => Ensures.ite (fun _ => Ensures.pure _ fun _ holds => holds) fun _ => ?_
  refine (throughout.set fun _ => rfl).bind fun _ => get_any.bind fun settings => ?_
  split
  next => exact throughout.set fun _ => rfl
  next producer _ =>
    refine Ensures.ite (fun _ => throughout.set fun _ => rfl) fun _ => ?_
    exact throughout.underLock fun recorder => throughout.installStt recorder producer _

/-- No stream is being opened. -/
theorem abandon (throughout : Throughout K) (closed : ∀ track, o.opening track = none) (drained : List FfmpegAnswer) :
    Ensures (Under o K) (RecorderController.abandon drained) fun _ => K :=
  (throughout.stopStreams closed drained).bind fun _ => throughout.discardWriter.bind fun _ =>
    throughout.stopSttStreaming.bind fun _ => (throughout.handle_keeps .fault).bind fun _ =>
      (throughout.handle_keeps .reset).bind fun _ => Ensures.pure _ fun _ holds => holds

theorem startRecording (throughout : Throughout K) (designLowPass : ℕ → ℚ → List ℚ) (answers : StartAnswers)
    (settled : o.Settled) (idle : o.session = .idle) :
    Ensures (Under o K) (RecorderController.startRecording designLowPass answers) fun _ => K := by
  have released := settled.released idle
  have created : Ensures (Under o K) (RecorderController.createWriter answers.file) fun _ => K :=
    (throughout.createWriter answers.file).conseq (fun _ under =>
      ⟨quiet_of_shows under.1 released.pipelines settled.opening, under.2⟩) fun _ _ holds => holds
  refine ((createWriter_shows answers.file).keeping created).bind fun made =>
    Ensures.ite (fun _ => Ensures.pure _ fun _ both => both.2) fun passed => ?_
  rw [Bool.not_eq_true', Bool.not_eq_false] at passed
  refine Ensures.conseq (P := fun recorder => ∃ path, Under (o.recordingTo path) K recorder) ?_ ?_
    fun _ _ holds => holds
  · refine Ensures.of_exists fun path => ?_
    have handled : Ensures (Under (o.recordingTo path) K) (RecorderController.handle .start) fun _ => K :=
      (throughout.handle_keeps .start).conseq (fun _ => And.right) fun _ _ holds => holds
    refine Ensures.bind_eq _ (under_of_shows (handle_shows .start) handled) (Ensures.ite (fun _ => ?_) fun _ => ?_)
    · exact (throughout.discardWriter.conseq (fun _ => And.right) fun _ _ holds => holds).bind fun _ =>
        Ensures.pure _ fun _ holds => holds
    have transcribing : Ensures (Under ((o.recordingTo path).handle .start) K)
        (RecorderController.startSttStreaming designLowPass answers.stt) fun _ => K :=
      (throughout.startSttStreaming designLowPass answers.stt).conseq (fun _ => And.right) fun _ _ holds => holds
    refine ((startSttStreaming_shows designLowPass answers.stt).keeping transcribing).bind fun _ => ?_
    refine Ensures.conseq (P := fun recorder => ∃ producer client, Under { (o.recordingTo path).handle .start with
      sttProducer := producer, sttClient := client } K recorder) ?_ ?_ fun _ _ holds => holds
    · refine Ensures.of_exists fun producer => Ensures.of_exists fun client => ?_
      generalize opened : ({ (o.recordingTo path).handle .start with
        sttProducer := producer, sttClient := client } : Outline) = o₁
      have closed : ∀ track, o₁.opening track = none := opened ▸ settled.opening
      have vacant : ∀ track, o₁.pipelines track = none := opened ▸ released.pipelines
      have still : ∀ track, (o₁.startStreams answers.captures).2.opening track = none := by
        obtain ⟨pipelines, shape, -⟩ := Outline.startStreams_cases vacant answers.captures
        rw [shape]
        exact closed
      refine Ensures.bind_eq _ (under_of_shows (startStreams_shows closed answers.captures)
        (throughout.startStreams (throughout.opens o₁) closed vacant answers.captures)) ?_
      refine Ensures.ite (fun _ => ?_) fun _ => ?_
      · exact (throughout.abandon still answers.drained).bind fun _ => Ensures.pure _ fun _ holds => holds
      · exact ((throughout.set fun _ => rfl).conseq (fun _ => And.right) fun _ _ holds => holds).bind fun _ =>
          Ensures.pure _ fun _ holds => holds
    · rintro recorder ⟨⟨producer, client, shows⟩, holds⟩
      exact ⟨producer, client, shows, holds⟩
  · rintro recorder ⟨⟨shows, -⟩, holds⟩
    rw [passed, if_pos rfl] at shows
    exact shows.imp fun path shows => ⟨shows, holds⟩

theorem start (throughout : Throughout K) (designLowPass : ℕ → ℚ → List ℚ) (answers : StartAnswers)
    (settled : o.Settled) : Ensures (Under o K) (RecorderController.start designLowPass answers) fun _ => K := by
  refine Ensures.bind_eq o.session (get_under ?_) (Ensures.ite (fun _ => ?_) fun idle => ?_)
  · rintro recorder rfl
    rfl
  · exact Ensures.pure _ fun _ under => under.2
  rw [not_not] at idle
  have listed : Ensures (Under o K) (ensureDevices answers.devices) fun _ => K := by
    refine get_any.bind fun _ => Ensures.ite (fun _ => ?_) fun _ => Ensures.pure _ fun _ under => under.2
    exact (throughout.set fun _ => rfl).conseq (fun _ => And.right) fun _ _ holds => holds
  refine ((ensureDevices_shows answers.devices).keeping listed).bind fun _ => ?_
  refine Ensures.conseq (P := fun recorder => ∃ devices selected,
    Under { o with devices := devices, selected := selected } K recorder) ?_ ?_ fun _ _ holds => holds
  · refine Ensures.of_exists fun devices => Ensures.of_exists fun selected => get_any.bind fun _ => ?_
    have quietly (message : String) : Ensures (Under { o with devices := devices, selected := selected } K)
        (fail message) fun _ => Under { o with devices := devices, selected := selected } K :=
      (fail_shows message).keeping ((throughout.fail_keeps message).conseq (fun _ => And.right) fun _ _ holds => holds)
    refine Ensures.ite (fun _ => ?_) fun _ => ?_
    · exact (quietly _).bind fun _ => Ensures.pure _ fun _ under => under.2
    · exact (quietly _).bind fun _ =>
        throughout.startRecording designLowPass answers (settled.reselect devices selected) idle
  · rintro recorder ⟨⟨devices, selected, shows, -⟩, holds⟩
    exact ⟨devices, selected, shows, holds⟩

/-- Every label keeps the assertion. -/
theorem step (throughout : Throughout K) {designLowPass : ℕ → ℚ → List ℚ} {recorder next : Recorder} {label : Label}
    (settled : recorder.outline.Settled) (taken : Recorder.step designLowPass recorder label = some next)
    (holds : K recorder) : K next :=
  throughout.toPersistent.step_of_start (fun answers _ _ => throughout.start designLowPass answers settled) settled
    taken
    holds

end Throughout

end VoxMesh.App
