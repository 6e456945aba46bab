import VoxMesh.Proofs.RecorderCore
import VoxMesh.Proofs.RecorderLifecycle

/-! # Assertions across the starting and stopping of streams

An assertion is `Steady` when the other threads and the stopping of streams keep it, and `Sustained` when
registering a stream keeps it too. Streams are opened for selected tracks that have none, and pipelines are dropped
when no stream is being opened. Every operation of a session then keeps the assertion, under every interleaving:
the outline shows that the guards are met.
-/

namespace VoxMesh.App

open VoxMesh.Audio VoxMesh.Media Machine

/-- The recorder has the given outline and meets the assertion. -/
def Under (o : Outline) (K : Recorder → Prop) (recorder : Recorder) : Prop := Shows o recorder ∧ K recorder

structure Steady (K : Recorder → Prop) : Prop where
  stable : Thread.Stable Recorder.environment K
  outside : ∀ (recorder : Recorder) (change : RecorderController → RecorderController),
    (recorder.setController change).core = recorder.core →
    (change recorder.controller).writerTracks = recorder.controller.writerTracks →
    (change recorder.controller).pendingOutputFile = recorder.controller.pendingOutputFile →
    K recorder → K (recorder.setController change)
  stopStream : ∀ (recorder : Recorder) (track : Track), K recorder → K (recorder.stopStream track)
  dropPipelines : ∀ {recorder : Recorder} (drained : List FfmpegAnswer), (∀ track, recorder.opening track = none) →
    K recorder → K (recorder.dropPipelines drained)

structure Sustained (K : Recorder → Prop) : Prop extends Steady K where
  register : ∀ (recorder : Recorder) (track : Track) (feeds : Bool), K recorder → K (recorder.register track feeds)

/-- Opening streams for the tracks selected in the outline keeps the assertion. -/
def OpensStreams (o : Outline) (K : Recorder → Prop) : Prop :=
  ∀ track, o.isSelected track = true → ∀ recorder : Recorder, recorder.controller.pipelines track = none →
    recorder.opening track = none → recorder.controller.writerTracks = o.writerTracks → K recorder →
      K { recorder with opening := Function.update recorder.opening track (some .opened) }

/-- Registering the streams of the tracks selected in the outline keeps the assertion. The system output feeds the
transcription stream only when the microphone is not selected. -/
def RegistersStreams (o : Outline) (K : Recorder → Prop) : Prop :=
  ∀ track feeds, o.isSelected track = true →
    (feeds = true → track = .systemOutput → o.isSelected .microphone = false) →
      ∀ recorder : Recorder, K recorder → K (recorder.register track feeds)

theorem Sustained.registers {K : Recorder → Prop} (sustained : Sustained K) (o : Outline) : RegistersStreams o K :=
  fun track feeds _ _ recorder => sustained.register recorder track feeds

namespace Steady

open Thread Ui RecorderController

variable {K : Recorder → Prop} {o o' : Outline} {α : Type}

/-- A step that keeps the assertion and whose effect on the outline is known. -/
theorem under_of_shows {thread : Ui α} {known : α}
    (shows : Ensures (Shows o) thread fun value recorder => value = known ∧ Shows o' recorder)
    (kept : Ensures (Under o K) thread fun _ => K) :
    Ensures (Under o K) thread fun value recorder => value = known ∧ Under o' K recorder :=
  (shows.keeping kept).conseq (fun _ under => under) fun _ _ outcome => ⟨outcome.1.1, outcome.1.2, outcome.2⟩

theorem get_under {f : RecorderController → α} {known : α}
    (determined : ∀ recorder : Recorder, Shows o recorder → f recorder.controller = known) :
    Ensures (Under o K) (Ui.get f) fun value recorder => value = known ∧ Under o K recorder :=
  under_of_shows (get_shows determined) (get_any.conseq (fun _ under => under.2) fun _ _ holds => holds)

theorem fail_keeps (steady : Steady K) (message : String) :
    Ensures K (RecorderController.fail message) fun _ => K :=
  set_ensures fun recorder holds => steady.outside recorder _ rfl rfl rfl holds

theorem handle_keeps (steady : Steady K) (event : SessionEvent) :
    Ensures K (RecorderController.handle event) fun _ => K :=
  Ensures.act fun recorder holds => steady.outside recorder (fun controller =>
    { controller with session := (RecordingSession.handle recorder.controller.session event).2 }) rfl rfl rfl holds

/-- The streams are stopped and drained, and the pipelines dropped. -/
theorem stopStreams (steady : Steady K) (closed : ∀ track, o.opening track = none)
    (drained : List FfmpegAnswer) :
    Ensures (Under o K) (RecorderController.stopStreams drained) fun _ => K := by
  have stable : Stable Recorder.environment fun recorder =>
      (∀ track, recorder.outline.opening track = none) ∧ K recorder := fun seen event next taken holds =>
    ⟨Recorder.stable_outline (fun o => ∀ track, o.opening track = none) seen event next taken holds.1,
      steady.stable seen event next taken holds.2⟩
  have stopped (track : Track) : Ensures
      (fun recorder => (∀ track, recorder.outline.opening track = none) ∧ K recorder)
      (atomically (·.stopStream track)) fun _ recorder =>
        (∀ track, recorder.outline.opening track = none) ∧ K recorder := by
    refine (Ensures.yield stable).bind fun _ => Ensures.update ?_
    rintro recorder ⟨closed, holds⟩
    refine ⟨fun other => ?_, steady.stopStream recorder track holds⟩
    have same := congrArg (·.opening other) (recorder.stopStream_outline track)
    exact same.trans (closed other)
  refine Ensures.conseq (P := fun recorder =>
    (∀ track, recorder.outline.opening track = none) ∧ K recorder) ?_ ?_ fun _ _ holds => holds
  · refine (stopped .microphone).bind fun _ => (stopped .systemOutput).bind fun _ => Ensures.locked stable ?_
    rintro recorder ⟨closed, holds⟩ -
    exact steady.dropPipelines drained (fun track => Option.map_eq_none_iff.mp (closed track)) holds
  · rintro recorder ⟨shows, holds⟩
    exact ⟨(show recorder.outline = o from shows) ▸ closed, holds⟩

/-- A selected track that has no pipeline is started. -/
theorem startTrack (steady : Steady K) (opens : OpensStreams o K) (registers : RegistersStreams o K) {track : Track}
    (isSelected : o.isSelected track = true) (closed : o.opening track = none)
    (unregistered : o.pipelines track = none) {feeds : Bool}
    (fed : feeds = true → track = .systemOutput → o.isSelected .microphone = false) (failure : Option CaptureError) :
    Ensures (Under o K) (RecorderController.startTrack track feeds failure) fun _ => K := by
  refine get_any.bind fun device => ?_
  cases failure with
  | some error =>
    exact ((steady.fail_keeps _).conseq (fun _ => And.right) fun _ _ holds => holds).bind fun _ =>
      Ensures.pure _ fun _ holds => holds
  | none =>
    refine Ensures.bind (Q := fun _ => K) (Ensures.update ?_) fun _ => ?_
    · rintro recorder ⟨rfl, holds⟩
      exact opens track isSelected recorder (Option.map_eq_none_iff.mp unregistered)
        (Option.map_eq_none_iff.mp closed) rfl holds
    · refine Ensures.bind (Q := fun _ => K) ?_ fun _ => Ensures.pure _ fun _ holds => holds
      exact Ensures.locked steady.stable fun recorder holds _ => registers track feeds isSelected fed recorder holds

theorem startSelected (steady : Steady K) (opens : OpensStreams o K) (registers : RegistersStreams o K) {track : Track}
    (closed : o.opening track = none) (unregistered : o.pipelines track = none) {feeds : Bool}
    (fed : feeds = true → track = .systemOutput → o.isSelected .microphone = false) (failure : Option CaptureError) :
    Ensures (Under o K) (RecorderController.startSelected track feeds failure) fun _ => K := by
  refine Ensures.bind_eq (o.isSelected track) (get_under ?_) (Ensures.ite ?_ ?_)
  · rintro recorder rfl
    rfl
  · intro selected
    exact steady.startTrack opens registers selected closed unregistered fed failure
  · intro _
    exact Ensures.pure _ fun _ under => under.2

/-- No track has a pipeline. -/
theorem startStreams (steady : Steady K) (opens : OpensStreams o K) (registers : RegistersStreams o K)
    (closed : ∀ track, o.opening track = none) (unregistered : ∀ track, o.pipelines track = none)
    (failures : Track → Option CaptureError) :
    Ensures (Under o K) (RecorderController.startStreams failures) fun _ => K := by
  obtain ⟨pipeline, middle⟩ := o.startSelected_eq .microphone true (failures .microphone)
  refine Ensures.bind_eq (o.isSelected .microphone) (get_under ?_) ?_
  · rintro recorder rfl
    rfl
  have first := startSelected_shows (closed .microphone) true (failures .microphone)
  have unfed : true = true → Track.microphone = .systemOutput → o.isSelected .microphone = false :=
    fun _ other => absurd other (by decide)
  have kept := steady.startSelected opens registers (closed .microphone) (unregistered .microphone) unfed
    (failures .microphone)
  rw [middle] at first
  refine Ensures.bind_eq _ (under_of_shows first kept) (Ensures.ite (fun _ => ?_) fun _ => ?_)
  · exact Ensures.pure _ fun _ under => under.2
  have still : Function.update o.pipelines .microphone pipeline .systemOutput = none := by
    rw [Function.update_of_ne (by decide)]
    exact unregistered .systemOutput
  have fed : (!o.isSelected .microphone) = true → Track.systemOutput = .systemOutput →
      o.isSelected .microphone = false := fun unselected _ => by simpa using unselected
  have second := steady.startSelected (o := { o with pipelines := Function.update o.pipelines .microphone pipeline })
    opens registers (closed .systemOutput) still fed (failures .systemOutput)
  refine Ensures.bind_eq (o.isSelected .systemOutput) (get_under ?_) (second.bind fun _ => ?_)
  · rintro recorder shows
    exact congrArg (fun seen : Outline => seen.isSelected .systemOutput) shows
  · exact Ensures.ite (fun _ => Ensures.pure _ fun _ holds => holds) fun _ => Ensures.pure _ fun _ holds => holds

theorem pause (steady : Steady K) (drained : List FfmpegAnswer) (settled : o.Settled) :
    Ensures (Under o K) (RecorderController.pause drained) fun _ => K := by
  have handled : Ensures (Under o K) (RecorderController.handle .pause) fun _ => K :=
    (steady.handle_keeps .pause).conseq (fun _ => And.right) fun _ _ holds => holds
  refine Ensures.bind_eq _ (under_of_shows (handle_shows .pause) handled) ?_
  refine Ensures.ite (fun _ => Ensures.pure _ fun _ under => under.2) fun _ => ?_
  exact (steady.stopStreams (by exact settled.opening) drained).bind fun _ => Ensures.pure _ fun _ holds => holds

theorem resume (steady : Steady K) (opens : o.session = .paused → OpensStreams o K)
    (registers : o.session = .paused → RegistersStreams o K) (failures : Track → Option CaptureError)
    (settled : o.Settled) : Ensures (Under o K) (RecorderController.resume failures) fun _ => K := by
  refine Ensures.bind_eq o.session (get_under ?_) (Ensures.ite (fun _ => ?_) fun paused => ?_)
  · rintro recorder rfl
    rfl
  · exact Ensures.pure _ fun _ under => under.2
  rw [not_not] at paused
  have started := steady.startStreams (opens paused) (registers paused) settled.opening (settled.paused paused) failures
  refine started.bind fun _ => Ensures.ite (fun _ => ?_) fun _ => steady.handle_keeps .resume
  exact (steady.handle_keeps .fault).bind fun _ => Ensures.pure _ fun _ holds => holds

/-- In a session every operation keeps the assertion that `resume` keeps, unless it ends the session. -/
theorem perform (steady : Steady K) (designLowPass : ℕ → ℚ → List ℚ) (operation : Operation)
    (resumed : ∀ failures, operation = .resume failures →
      Ensures (Under o K) (RecorderController.resume failures) fun _ => K)
    (settled : o.Settled) (active : o.session ≠ .idle) :
    Ensures (Under o K) (Recorder.perform designLowPass operation) fun _ recorder =>
      recorder.outline.session ≠ .idle → K recorder := by
  have kept {change : RecorderController → RecorderController} (outside : ∀ recorder : Recorder,
      (recorder.setController change).core = recorder.core ∧
      (change recorder.controller).writerTracks = recorder.controller.writerTracks ∧
      (change recorder.controller).pendingOutputFile = recorder.controller.pendingOutputFile) :
      Ensures (Under o K) (do Ui.set change; return true) fun _ recorder =>
        recorder.outline.session ≠ .idle → K recorder := by
    refine Ensures.bind (Q := fun _ => K) (set_ensures fun recorder under => ?_) fun _ =>
      Ensures.pure _ fun _ holds _ => holds
    obtain ⟨core, tracks, pending⟩ := outside recorder
    exact steady.outside recorder change core tracks pending under.2
  have always {thread : Ui Bool} (keeps : Ensures (Under o K) thread fun _ => K) :
      Ensures (Under o K) thread fun _ recorder => recorder.outline.session ≠ .idle → K recorder :=
    keeps.conseq (fun _ under => under) fun _ _ holds _ => holds
  cases operation with
  | refreshDevices found => exact kept fun _ => ⟨rfl, rfl, rfl⟩
  | setSelectedMicrophone index | setSelectedSystemOutput index =>
    refine kept fun recorder => ?_
    simp only [Recorder.setController, RecorderController.select]
    split <;> exact ⟨rfl, rfl, rfl⟩
  | setOutputDirectory directory | setSttEndpoint endpoint =>
    refine kept fun recorder => ?_
    simp only [Recorder.setController]
    split <;> exact ⟨rfl, rfl, rfl⟩
  | start answers =>
    refine Ensures.bind_eq o.session (get_under ?_) (Ensures.ite (fun _ => ?_) fun idle => ?_)
    · rintro recorder rfl
      rfl
    · exact Ensures.pure _ fun _ under _ => under.2
    · exact absurd (not_not.mp idle) active
  | pause drained => exact always (steady.pause drained settled)
  | resume failures => exact always (resumed failures rfl)
  | stop answers =>
    by_cases stoppable : o.session = .recording ∨ o.session = .paused
    · intro view stopped view' outcome under session
      obtain ⟨-, answer, idle⟩ := RecorderController.stop_shows answers settled view stopped view' outcome under.1
      rw [answer, decide_eq_true stoppable] at idle
      exact absurd idle session
    · have refused : RecordingSession.handle o.session .stop = (false, o.session) := by
        simp [RecordingSession.handle, RecordingSession.transition, stoppable]
      have handled : Ensures (Under o K) (RecorderController.handle .stop) fun _ => K :=
        (steady.handle_keeps .stop).conseq (fun _ => And.right) fun _ _ holds => holds
      refine Ensures.bind_eq _ (under_of_shows (handle_shows .stop) handled) ?_
      rw [Outline.handle, refused]
      exact Ensures.ite (fun _ => Ensures.pure _ fun _ under _ => under.2) fun applied => absurd rfl applied

theorem step (steady : Steady K) {designLowPass : ℕ → ℚ → List ℚ} {recorder next : Recorder} {label : Label}
    (resumed : ∀ failures agenda, label = .operation (.resume failures) agenda →
      Ensures (Under recorder.outline K) (RecorderController.resume failures) fun _ => K)
    (settled : recorder.outline.Settled) (active : recorder.controller.session ≠ .idle)
    (taken : Recorder.step designLowPass recorder label = some next)
    (holds : K recorder) (ongoing : next.controller.session ≠ .idle) : K next := by
  cases label with
  | operation operation agenda =>
    obtain ⟨⟨result, last⟩, outcome, same⟩ := Option.map_eq_some_iff.mp taken
    obtain rfl : last = next := same
    refine (steady.perform designLowPass operation (fun failures same => ?_) settled active).run outcome ⟨rfl, holds⟩
      ongoing
    exact resumed failures agenda (congrArg (Label.operation · agenda) same)
  | statsTick =>
    rw [Recorder.step] at taken
    split at taken
    next =>
      obtain rfl := Option.some.inj taken
      rw [Recorder.onStatsTick]
      split
      next =>
        exact steady.outside recorder (fun controller => { controller with
          writerFailureReported := true
          lastError := writeFailure })
            rfl rfl rfl holds
      next => exact holds
    next => contradiction
  | environment event => exact steady.stable recorder event next taken holds

end Steady

namespace Sustained

open Thread

variable {K : Recorder → Prop} {o : Outline}

theorem startStreams (sustained : Sustained K) (opens : OpensStreams o K)
    (closed : ∀ track, o.opening track = none) (unregistered : ∀ track, o.pipelines track = none)
    (failures : Track → Option CaptureError) :
    Ensures (Under o K) (RecorderController.startStreams failures) fun _ => K :=
  sustained.toSteady.startStreams opens (sustained.registers o) closed unregistered failures

theorem resume (sustained : Sustained K) (opens : OpensStreams o K) (failures : Track → Option CaptureError)
    (settled : o.Settled) : Ensures (Under o K) (RecorderController.resume failures) fun _ => K :=
  sustained.toSteady.resume (fun _ => opens) (fun _ => sustained.registers o) failures settled

theorem perform (sustained : Sustained K) (opens : OpensStreams o K) (designLowPass : ℕ → ℚ → List ℚ)
    (operation : Operation) (settled : o.Settled) (active : o.session ≠ .idle) :
    Ensures (Under o K) (Recorder.perform designLowPass operation) fun _ recorder =>
      recorder.outline.session ≠ .idle → K recorder :=
  sustained.toSteady.perform designLowPass operation (fun failures _ => sustained.resume opens failures settled) settled
    active

theorem step (sustained : Sustained K) (opens : ∀ o, OpensStreams o K) {designLowPass : ℕ → ℚ → List ℚ}
    {recorder next : Recorder} {label : Label} (settled : recorder.outline.Settled)
    (active : recorder.controller.session ≠ .idle) (taken : Recorder.step designLowPass recorder label = some next)
    (holds : K recorder) (ongoing : next.controller.session ≠ .idle) : K next :=
  sustained.toSteady.step (fun failures _ _ => sustained.resume (opens _) failures settled) settled active taken holds
    ongoing

end Sustained

end VoxMesh.App
