import VoxMesh.Proofs.RecorderLedger
import VoxMesh.Proofs.StreamOperations
import VoxMesh.Soundness.RecorderLifecycle

/-! # What is shown of a session that has failed

A session fails where a paused recording is resumed and a stream of a selected device does not start. The error of that
stream is shown, with what its device is called, and while the session stays failed only the error of a failed write
takes its place (`failed_session_explained`). A resume that finds no device selected fails the session without a word.
-/

namespace VoxMesh.App

open VoxMesh.Audio VoxMesh.Media Machine

/-- The error names the device and gives the code, unless the name has place markers of its own. -/
theorem captureFailure_eq {device : AudioDeviceInfo} {name : String}
    (called : (if device.name.isEmpty then device.id else device.name) = name) (plain : '%' ∉ name.toList)
    (error : CaptureError) : captureFailure device error =
      "Failed to start capture on \"" ++ name ++ "\" (error " ++ toString error.code ++ ")." := by
  have first : Text.arg "Failed to start capture on \"%1\" (error %2).".toList name.toList =
      "Failed to start capture on \"".toList ++ (name.toList ++ "\" (error %2).".toList) :=
    @Text.arg_marker "Failed to start capture on \"".toList ['1'] "\" (error %2).".toList _ 1 (by decide +kernel)
      (by decide +kernel) (by decide +kernel) (by decide +kernel)
  have rest : "\" (error %2).".toList = "\" (error ".toList ++ '%' :: (['2'] ++ ").".toList) := by decide +kernel
  have absent : '%' ∉ "Failed to start capture on \"".toList ++ (name.toList ++ "\" (error ".toList) := by
    simp only [List.mem_append, not_or]
    exact ⟨by decide +kernel, plain, by decide +kernel⟩
  have second := @Text.arg_marker _ ['2'] ").".toList (toString error.code).toList 2 absent (by decide +kernel)
    (by decide +kernel) (by decide +kernel)
  simp only [List.append_assoc] at second
  rw [captureFailure, called, arg, arg, String.toList_ofList, first, rest, second]
  simp only [← String.toList_inj, String.toList_ofList, String.toList_append, List.append_assoc]

-- A name with a place marker takes the code, and the code's own marker stays.
example : captureFailure { name := "Mic %1" } .deviceUnavailable =
    "Failed to start capture on \"Mic 1\" (error %2)." := by decide +kernel

/-- A resume with the selection opens no stream for the track, whose turn comes. -/
structure FailsToOpen (isSelected : Track → Bool) (failures : Track → Option CaptureError) (track : Track)
    (error : CaptureError) : Prop where
  selected : isSelected track = true
  failure : failures track = some error
  earlier : track = .systemOutput → isSelected .microphone = true → failures .microphone = none

namespace Recorder

def Showing (message : String) (recorder : Recorder) : Prop := recorder.controller.lastError = message

/-- The error shown is the given one, or that of a write that failed. -/
def Explains (message : String) (recorder : Recorder) : Prop :=
  recorder.Showing message ∨ recorder.Showing writeFailure ∧ recorder.controller.writerFailed = true

/-- The session has failed, and the error shown says why. -/
structure FailedExplained (message : String) (recorder : Recorder) : Prop where
  failed : recorder.controller.session = .failed
  explained : recorder.Explains message

variable {message : String}

theorem FailedExplained.congr {recorder next : Recorder} (holds : recorder.FailedExplained message)
    (session : next.controller.session = recorder.controller.session)
    (lastError : next.controller.lastError = recorder.controller.lastError)
    (writerFailed : recorder.controller.writerFailed = true → next.controller.writerFailed = true) :
    next.FailedExplained message := by
  refine ⟨session.trans holds.failed, ?_⟩
  unfold Explains Showing
  rw [lastError]
  exact holds.explained.imp id (And.imp id writerFailed)

/-- A write that failed stays so while the session goes on. -/
theorem stable_writerFailed : Thread.Stable environment fun recorder => recorder.controller.writerFailed = true := by
  have passes : KeptByPasses fun recorder => recorder.controller.writerFailed = true := by
    intro recorder next track answers rest passed failed
    obtain ⟨pipeline, frame, -, -, same⟩ := drainFrame_eq_some passed
    have kept := uploadAligned_books (recorder.popFrame track (aligned pipeline frame) frame
      (pipeline.synchronizer.process .machine frame).2) pipeline.feedsSttStream
        (pipeline.synchronizer.process .machine frame).2
    have outcome := writeAligned_cases kept pipeline.writerTrack (pipeline.synchronizer.process .machine frame).2
      answers
    rw [same] at outcome
    rcases outcome with ⟨unchanged, -⟩ | ⟨_, _, _, _, _, _, working, -⟩
    · exact (congrArg Books.writerFailed unchanged).trans failed
    · exact absurd (working.symm.trans failed) nofun
  refine passes.stable (fun captured failed => ?_) (fun captured failed => ?_) fun _ _ failed => failed
  · obtain ⟨pipeline, -, -, rfl⟩ := capture_eq_some captured
    exact failed
  · obtain ⟨line, -, rfl⟩ := captureOpening_eq_some captured
    exact failed

theorem stable_failedExplained : Thread.Stable environment (FailedExplained message) := by
  intro recorder event next taken holds
  have own := environment_own taken
  have session : next.own.session = recorder.own.session := congrArg _ own
  have lastError : next.own.lastError = recorder.own.lastError := congrArg _ own
  exact holds.congr session lastError (stable_writerFailed recorder event next taken)

end Recorder

def Outline.selectedDevice (o : Outline) (track : Track) : AudioDeviceInfo :=
  (o.devices track).getD (o.selected track).toNat {}

namespace RecorderController

open Thread Ui Recorder

variable {o : Outline} {message : String}

/-- The error shown is that of a selected track whose stream did not start. -/
def Blames (o : Outline) (failures : Track → Option CaptureError) (recorder : Recorder) : Prop :=
  ∃ track error, FailsToOpen o.isSelected failures track error ∧
    recorder.Showing (captureFailure (o.selectedDevice track) error)

theorem startTrack_explains (track : Track) (feeds : Bool) (failure : Option CaptureError) :
    Ensures (Shows o) (startTrack track feeds failure) fun started recorder => started = false →
      ∃ error, failure = some error ∧ recorder.Showing (captureFailure (o.selectedDevice track) error) := by
  refine Ensures.bind_eq (o.selectedDevice track) (get_shows ?_) ?_
  · rintro recorder rfl
    rfl
  cases failure with
  | some error =>
    refine Ensures.bind (Q := fun _ => Showing (captureFailure (o.selectedDevice track) error))
      (set_ensures fun recorder _ => rfl) fun _ => ?_
    exact Ensures.pure _ fun _ shown _ => ⟨error, rfl, shown⟩
  | none =>
    refine Ensures.bind (Q := fun _ _ => True) (Ensures.update fun _ _ => trivial) fun _ => ?_
    refine Ensures.bind (Q := fun _ _ => True) (fun _ _ _ _ _ => trivial) fun _ => ?_
    exact Ensures.pure _ fun _ _ failed => nomatch failed

theorem startSelected_explains (track : Track) (feeds : Bool) (failure : Option CaptureError) :
    Ensures (Shows o) (startSelected track feeds failure) fun started recorder => started = false →
      o.isSelected track = true ∧
        ∃ error, failure = some error ∧ recorder.Showing (captureFailure (o.selectedDevice track) error) := by
  refine Ensures.bind_eq (o.isSelected track) (get_shows ?_) ?_
  · rintro recorder rfl
    rfl
  refine Ensures.ite (fun selected => ?_) fun _ => Ensures.pure _ fun _ _ failed => nomatch failed
  exact (startTrack_explains track feeds failure).conseq (fun _ shows => shows) fun _ _ explains failed =>
    ⟨selected, explains failed⟩

/-- With a device selected, streams that do not start leave an error. -/
theorem startStreams_explains (closed : ∀ track, o.opening track = none) (chosen : ∃ track, o.isSelected track = true)
    (failures : Track → Option CaptureError) :
    Ensures (Shows o) (startStreams failures) fun started recorder => started = false → Blames o failures recorder := by
  obtain ⟨pipeline, middle⟩ := o.startSelected_eq .microphone true (failures .microphone)
  refine Ensures.bind_eq (o.isSelected .microphone) (get_shows ?_) ?_
  · rintro recorder rfl
    rfl
  refine Ensures.bind ((startSelected_shows (closed .microphone) true (failures .microphone)).both
    (startSelected_explains .microphone true (failures .microphone))) fun started => ?_
  refine Ensures.ite (fun failed => Ensures.pure _ fun _ outcome _ => ?_) fun passed => ?_
  · obtain ⟨selected, error, failure, shown⟩ := outcome.2 (by simpa using failed)
    exact ⟨.microphone, error, ⟨selected, failure, nofun⟩, shown⟩
  have opened (outcome : started = (o.startSelected .microphone true (failures .microphone)).1) :
      o.isSelected .microphone = true → failures .microphone = none := by
    intro selected
    simp only [Outline.startSelected, selected, if_true] at outcome
    cases failure : failures .microphone with
    | none => rfl
    | some error => simp [failure] at outcome; simp [outcome] at passed
  refine Ensures.conseq (P := fun recorder => (o.isSelected .microphone = true → failures .microphone = none) ∧
    Shows { o with pipelines := Function.update o.pipelines .microphone pipeline } recorder) ?_
      (fun _ outcome => ⟨opened outcome.1.1, middle ▸ outcome.1.2⟩) fun _ _ outcome => outcome
  refine Ensures.of_fact fun earlier => ?_
  refine Ensures.bind_eq (o.isSelected .systemOutput) (get_shows ?_) ?_
  · intro recorder shows
    exact congrArg (fun seen : Outline => seen.isSelected .systemOutput) shows
  refine Ensures.bind (startSelected_explains .systemOutput _ (failures .systemOutput)) fun started => ?_
  refine Ensures.ite (fun failed => Ensures.pure _ fun _ explains _ => ?_) fun _ => ?_
  · obtain ⟨selected, error, failure, shown⟩ := explains (by simpa using failed)
    exact ⟨.systemOutput, error, ⟨selected, failure, fun _ => earlier⟩, shown⟩
  refine Ensures.pure _ fun _ _ neither => ?_
  obtain ⟨microphone, systemOutput⟩ := Bool.or_eq_false_iff.mp neither
  obtain ⟨track, isSelected⟩ := chosen
  cases track with
  | microphone => exact absurd isSelected (by simp [microphone])
  | systemOutput => exact absurd isSelected (by simp [systemOutput])

theorem resume_explains (failures : Track → Option CaptureError) (settled : o.Settled) (paused : o.session = .paused)
    (chosen : ∃ track, o.isSelected track = true) :
    Ensures (Shows o) (resume failures) fun resumed recorder => resumed = false → Blames o failures recorder := by
  refine Ensures.bind_eq o.session (get_shows ?_) (Ensures.ite (fun other => absurd paused other) fun _ => ?_)
  · rintro recorder rfl
    rfl
  obtain ⟨pipelines, shape, -⟩ := Outline.startStreams_cases (settled.paused paused) failures
  refine Ensures.bind ((startStreams_shows settled.opening failures).both
    (startStreams_explains settled.opening chosen failures)) fun started => Ensures.ite (fun failed => ?_) fun _ => ?_
  · refine Ensures.bind (Q := fun _ => Blames o failures) (Ensures.act fun recorder outcome => ?_) fun _ => ?_
    · exact outcome.2 (by simpa using failed)
    · exact Ensures.pure _ fun _ explained _ => explained
  · refine Ensures.conseq (P := Shows { o with pipelines := pipelines }) (handle_shows .resume)
      (fun _ outcome => shape ▸ outcome.1.2) ?_
    rintro resumed recorder ⟨rfl, -⟩ refused
    have applied : RecordingSession.handle o.session .resume = (true, .recording) := by rw [paused]; rfl
    exact absurd (congrArg Prod.fst applied) (by simp [refused])

/-- With no device selected, the error shown stays. -/
theorem resume_silent (failures : Track → Option CaptureError) (message : String)
    (unselected : ∀ track, o.isSelected track = false) :
    Ensures (Under o (Showing message)) (resume failures) fun _ => Showing message := by
  have skips (track : Track) : Ensures (Under o (Showing message)) (Ui.get (·.isSelected track))
      fun isSelected recorder => isSelected = false ∧ Under o (Showing message) recorder := by
    refine Steady.get_under fun recorder shows => ?_
    exact (congrArg (fun seen : Outline => seen.isSelected track) shows).trans (unselected track)
  have skipped (track : Track) (feeds : Bool) (failure : Option CaptureError) :
      Ensures (Under o (Showing message)) (startSelected track feeds failure) fun started recorder =>
        started = true ∧ Under o (Showing message) recorder :=
    Ensures.bind_eq _ (skips track) (Ensures.ite (fun isSelected => absurd isSelected (by simp)) fun _ =>
      Ensures.pure _ fun _ under => ⟨rfl, under⟩)
  have streams : Ensures (Under o (Showing message)) (startStreams failures) fun _ => Showing message := by
    refine Ensures.bind_eq _ (skips .microphone) (Ensures.bind_eq _ (skipped .microphone _ _) ?_)
    refine Ensures.ite (fun failed => absurd failed (by simp)) fun _ => ?_
    refine Ensures.bind_eq _ (skips .systemOutput) (Ensures.bind_eq _ (skipped .systemOutput _ _) ?_)
    exact Ensures.ite (fun failed => absurd failed (by simp)) fun _ => Ensures.pure _ fun _ under => under.2
  have handled (event : SessionEvent) : Ensures (Showing message) (handle event) fun _ => Showing message :=
    Ensures.act fun _ shown => shown
  refine get_any.bind fun _ => Ensures.ite (fun _ => Ensures.pure _ fun _ under => under.2) fun _ => ?_
  refine streams.bind fun _ => Ensures.ite (fun _ => ?_) fun _ => handled .resume
  exact (handled .fault).bind fun _ => Ensures.pure _ fun _ shown => shown

/-- A failed session refuses the event. -/
theorem handle_failed {event : SessionEvent} (refused : RecordingSession.handle .failed event = (false, .failed)) :
    Ensures (FailedExplained message) (handle event) fun applied recorder =>
      applied = false ∧ recorder.FailedExplained message := by
  refine Ensures.act fun recorder holds => ?_
  rw [holds.failed, refused]
  exact ⟨rfl, rfl, holds.explained⟩

theorem session_failed : Ensures (FailedExplained message) (Ui.get (·.session)) fun session recorder =>
    session = .failed ∧ recorder.FailedExplained message :=
  (Ensures.read _).conseq (fun _ holds => holds) fun _ _ outcome => ⟨outcome.1.trans outcome.2.failed, outcome.2⟩

theorem set_failed {change : RecorderController → RecorderController}
    (session : ∀ controller, (change controller).session = controller.session)
    (lastError : ∀ controller, (change controller).lastError = controller.lastError)
    (writerFailed : ∀ controller, (change controller).writerFailed = controller.writerFailed) :
    Ensures (FailedExplained message) (Ui.set change) fun _ => FailedExplained message :=
  set_ensures fun _ holds => holds.congr (session _) (lastError _) (writerFailed _).trans

end RecorderController

namespace Recorder

open Thread Ui RecorderController

variable {designLowPass : ℕ → ℚ → List ℚ} {outputDirectory message : String} {recorder next last : Recorder}
variable {label : Label}

/-- No operation changes what is shown of a failed session. -/
theorem perform_failedExplained (operation : Operation) :
    Ensures (FailedExplained message) (perform designLowPass operation) fun _ => FailedExplained message := by
  have done : Ensures (FailedExplained message) (pure true : Ui Bool) fun _ => FailedExplained message :=
    Ensures.pure _ fun _ holds => holds
  have refused : Ensures (FailedExplained message) (pure false : Ui Bool) fun _ => FailedExplained message :=
    Ensures.pure _ fun _ holds => holds
  cases operation with
  | start answers =>
    exact Ensures.bind_eq _ session_failed (Ensures.ite (fun _ => refused) fun idle => absurd (by decide) idle)
  | pause drained =>
    exact Ensures.bind_eq _ (handle_failed rfl) (Ensures.ite (fun _ => refused) fun applied => absurd rfl applied)
  | resume failures =>
    exact Ensures.bind_eq _ session_failed (Ensures.ite (fun _ => refused) fun paused => absurd (by decide) paused)
  | stop answers =>
    exact Ensures.bind_eq _ (handle_failed rfl) (Ensures.ite (fun _ => refused) fun applied => absurd rfl applied)
  | refreshDevices found =>
    refine (set_failed (fun controller => ?_) (fun controller => ?_) fun controller => ?_).bind fun _ => done
    all_goals rfl
  | setSelectedMicrophone index | setSelectedSystemOutput index =>
    refine (set_failed (fun controller => ?_) (fun controller => ?_) fun controller => ?_).bind fun _ => done
    all_goals
      rw [RecorderController.select]
      split <;> rfl
  | setOutputDirectory directory | setSttEndpoint endpoint =>
    refine (set_failed (fun controller => ?_) (fun controller => ?_) fun controller => ?_).bind fun _ => done
    all_goals split <;> rfl

theorem step_failedExplained (holds : recorder.FailedExplained message)
    (taken : step designLowPass recorder label = some next) : next.FailedExplained message := by
  cases label with
  | operation operation agenda =>
    obtain ⟨⟨result, last⟩, outcome, same⟩ := Option.map_eq_some_iff.mp taken
    obtain rfl : last = next := same
    exact (perform_failedExplained operation).run outcome holds
  | statsTick =>
    obtain ⟨-, taken⟩ := Option.ite_none_right_eq_some.mp taken
    obtain rfl := Option.some.inj taken
    rw [onStatsTick]
    split
    next fails =>
      have failed := (Bool.and_eq_true_iff.mp fails).1
      exact ⟨holds.failed, .inr ⟨rfl, failed⟩⟩
    next => exact holds
  | environment event => exact stable_failedExplained recorder event next taken holds

/-- A resume of a paused recording finds a device selected. -/
def ResumesChosen (recorder : Recorder) : Label → Prop
  | .operation (.resume _) _ => recorder.controller.session = .paused →
      recorder.controller.isSelected .microphone = true ∨ recorder.controller.isSelected .systemOutput = true
  | _ => True

instance (recorder : Recorder) (label : Label) : Decidable (recorder.ResumesChosen label) :=
  match label with
  | .operation (.resume _) _ => inferInstanceAs (Decidable (_ → _))
  | .operation (.refreshDevices _) _ | .operation (.start _) _ | .operation (.pause _) _ | .operation (.stop _) _
  | .operation (.setSelectedMicrophone _) _ | .operation (.setSelectedSystemOutput _) _
  | .operation (.setOutputDirectory _) _ | .operation (.setSttEndpoint _) _ | .statsTick | .environment _ =>
      isTrue trivial

/-- The resume that fails a session explains it. -/
theorem failedResume_explains {failures : Track → Option CaptureError} {agenda : List (List Environment)}
    (settled : recorder.outline.Settled) (paused : recorder.controller.session = .paused)
    (stuck : ¬ recorder.outline.Opens failures)
    (chosen : recorder.controller.isSelected .microphone = true ∨ recorder.controller.isSelected .systemOutput = true)
    (taken : step designLowPass recorder (.operation (.resume failures) agenda) = some next) :
    Blames recorder.outline failures next := by
  obtain ⟨⟨resumed, last⟩, outcome, same⟩ := Option.map_eq_some_iff.mp taken
  obtain rfl : last = next := same
  have selected : ∃ track, recorder.outline.isSelected track = true := chosen.elim (⟨_, ·⟩) (⟨_, ·⟩)
  have opens := (resume_shows failures settled).run outcome rfl
  have failed : resumed = false := Bool.eq_false_iff.mpr fun done => stuck ((opens.2.2.2.2 paused).mp done)
  exact (resume_explains failures settled paused selected).run outcome rfl failed

/-- A session that has failed did so at one resume of the run. -/
theorem exists_failedResume {start : Recorder} {labels : List Label} (settled : start.outline.Settled)
    (run : Run (step designLowPass) start labels last) (sound : start.controller.session ≠ .failed)
    (failed : last.controller.session = .failed) :
    ∃ before failures agenda after resumed next, labels = before ++ .operation (.resume failures) agenda :: after ∧
      Run (step designLowPass) start before resumed ∧ resumed.outline.Settled ∧
      resumed.controller.session = .paused ∧ ¬ resumed.outline.Opens failures ∧
      step designLowPass resumed (.operation (.resume failures) agenda) = some next ∧
      next.controller.session = .failed ∧ Run (step designLowPass) next after last := by
  induction labels generalizing start with
  | nil => exact absurd (Run.nil_iff.mp run ▸ failed) sound
  | cons label rest ih =>
    obtain ⟨next, taken, tail⟩ := Run.cons_iff.mp run
    have settles := step_settled settled taken
    by_cases fails : FailedResume start label
    · have failing : next.controller.session = .failed := settles.2.mpr (.inr fails)
      cases label with
      | statsTick | environment => exact fails.elim
      | operation operation agenda =>
        cases operation with
        | resume failures =>
          exact ⟨[], failures, agenda, rest, start, next, rfl, Run.nil_iff.mpr rfl, settled, fails.1, fails.2, taken,
            failing, tail⟩
        | _ => exact fails.elim
    · have still : next.controller.session ≠ .failed := fun failing => (settles.2.mp failing).elim sound fails
      obtain ⟨before, failures, agenda, after, resumed, broken, rfl, begun, rest⟩ := ih settles.1 tail still
      exact ⟨label :: before, failures, agenda, after, resumed, broken, rfl,
        Run.cons_iff.mpr ⟨next, taken, begun⟩, rest⟩

/-- A resume that finds no device selected fails the session and leaves the error as it was. -/
theorem resume_unexplained (settled : recorder.outline.Settled) (paused : recorder.controller.session = .paused)
    (unselected : ∀ track, recorder.controller.isSelected track = false) {failures : Track → Option CaptureError}
    {agenda : List (List Environment)}
    (taken : step designLowPass recorder (.operation (.resume failures) agenda) = some next) :
    next.controller.session = .failed ∧ next.controller.lastError = recorder.controller.lastError := by
  refine ⟨(step_settled settled taken).2.mpr (.inr ⟨paused, fun opens => ?_⟩), ?_⟩
  · obtain ⟨track, isSelected⟩ := opens.1
    exact absurd isSelected (by rw [show recorder.outline.isSelected track = false from unselected track]; simp)
  · obtain ⟨⟨resumed, last⟩, outcome, same⟩ := Option.map_eq_some_iff.mp taken
    obtain rfl : last = next := same
    have silent := resume_silent (o := recorder.outline) failures recorder.controller.lastError unselected
    exact silent.run outcome ⟨rfl, rfl⟩

/-- In every run whose resumes find a device selected, a session that has failed did so at the resume of a paused
recording, and the error shown is that of the stream that did not start there, the first of the selected tracks, or that
of a write that failed. A resume that finds no device selected fails the session without an error of its own. -/
theorem failed_session_explained (designLowPass : ℕ → ℚ → List ℚ) (outputDirectory : String) (labels : List Label)
    (last : Recorder) (run : Run (step designLowPass) (init outputDirectory) labels last) :
    (Along (step designLowPass) ResumesChosen (init outputDirectory) labels → last.controller.session = .failed →
      ∃ before failures agenda after resumed next, labels = before ++ .operation (.resume failures) agenda :: after ∧
        Run (step designLowPass) (init outputDirectory) before resumed ∧ resumed.controller.session = .paused ∧
        step designLowPass resumed (.operation (.resume failures) agenda) = some next ∧
        next.controller.session = .failed ∧ Run (step designLowPass) next after last ∧
        ∃ track error, FailsToOpen resumed.controller.isSelected failures track error ∧
          next.Showing (captureFailure (resumed.controller.selectedDevice track) error) ∧
          last.Explains (captureFailure (resumed.controller.selectedDevice track) error)) ∧
    (last.controller.session = .paused → (∀ track, last.controller.isSelected track = false) →
      ∀ failures agenda next, step designLowPass last (.operation (.resume failures) agenda) = some next →
        next.controller.session = .failed ∧ next.controller.lastError = last.controller.lastError) := by
  refine ⟨fun chosen failed => ?_, fun paused unselected failures agenda next taken =>
    resume_unexplained (run_settled run (settled_init outputDirectory)) paused unselected taken⟩
  obtain ⟨before, failures, agenda, after, resumed, next, rfl, begun, settled, paused, stuck, taken, failing, later⟩ :=
    exists_failedResume (settled_init outputDirectory) run nofun failed
  have choice := ((Along.append_iff.mp chosen).2 resumed begun).1 paused
  obtain ⟨track, error, opens, shown⟩ := failedResume_explains settled paused stuck choice taken
  refine ⟨before, failures, agenda, after, resumed, next, rfl, begun, paused, taken, failing, later, track, error,
    opens, shown, ?_⟩
  exact (later.invariant (fun _ _ _ => step_failedExplained) ⟨failing, .inl shown⟩).explained

/-- Both devices are deselected while the recording is paused. -/
private def deselected : List Label :=
  [.operation (.refreshDevices bothDevices) [], .operation (.start {}) [], .operation (.pause []) [],
    .operation (.setSelectedMicrophone (-1)) [], .operation (.setSelectedSystemOutput (-1)) []]

/-- A resume fails for the lost device and names it; without a device it fails and shows nothing. -/
theorem failed_session_explained_lostDevice :
    (∃ last, Run (step fun _ _ => []) (init "recordings") lostDevice last ∧ last.controller.session = .failed ∧
      last.controller.lastError = "Failed to start capture on \"Speaker\" (error 1)." ∧
      ∃ (resumed : Recorder) (failures : Track → Option CaptureError) (track : Track) (error : CaptureError),
        FailsToOpen resumed.controller.isSelected failures track error ∧
        last.Explains (captureFailure (resumed.controller.selectedDevice track) error)) ∧
    ∃ last next, Run (step fun _ _ => []) (init "recordings") deselected last ∧
      step (fun _ _ => []) last (.operation (.resume fun _ => none) []) = some next ∧
      next.controller.session = .failed ∧ next.controller.lastError = "" := by
  constructor
  · have outcome : (exec (step fun _ _ => []) (init "recordings") lostDevice).map (fun last =>
        (last.controller.session, last.controller.lastError)) =
          some (.failed, "Failed to start capture on \"Speaker\" (error 1).") := by decide +kernel
    have chosen : Along (step fun _ _ => []) ResumesChosen (init "recordings") lostDevice := by decide +kernel
    obtain ⟨last, run, same⟩ := Option.map_eq_some_iff.mp outcome
    obtain ⟨failed, shown⟩ := Prod.mk.inj same
    obtain ⟨before, failures, agenda, after, resumed, next, -, -, -, -, -, -, track, error, opens, -, explains⟩ :=
      (failed_session_explained (fun _ _ => []) "recordings" _ last run).1 chosen failed
    exact ⟨last, run, failed, shown, resumed, failures, track, error, opens, explains⟩
  · have outcome : (exec (step fun _ _ => []) (init "recordings") deselected).bind (fun last =>
        (step (fun _ _ => []) last (.operation (.resume fun _ => none) [])).map fun _ =>
          ((last.controller.session, last.controller.lastError),
            last.controller.isSelected .microphone, last.controller.isSelected .systemOutput)) =
        some ((.paused, ""), false, false) := by decide +kernel
    obtain ⟨last, run, outcome⟩ := Option.bind_eq_some_iff.mp outcome
    obtain ⟨next, taken, same⟩ := Option.map_eq_some_iff.mp outcome
    simp only [Prod.mk.injEq] at same
    obtain ⟨⟨paused, shown⟩, microphone, systemOutput⟩ := same
    have unselected (track : Track) : last.controller.isSelected track = false := by cases track <;> assumption
    obtain ⟨failed, kept⟩ := (failed_session_explained (fun _ _ => []) "recordings" _ last run).2 paused unselected _ _
      next taken
    exact ⟨last, next, run, taken, failed, kept.trans shown⟩

end Recorder

end VoxMesh.App
