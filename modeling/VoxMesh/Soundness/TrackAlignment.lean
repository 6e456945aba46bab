import VoxMesh.Proofs.SttUpload
import VoxMesh.Soundness.SavedRecording
import VoxMesh.Soundness.SttTimestamps

/-! # The alignment of the two tracks

A frame's position in the file is the number of samples written to its track before it. Without a pause, a track is
what one synchronizer made of what its ring accepted, so a position is the frame's time of capture since the first
frame of its track, to within the jitter, as long as the synchronizer keeps its first anchor. A gap beyond the cap and
an overlap set a new anchor, and the file does not tell how far apart the two first frames were.
-/

namespace VoxMesh.Audio

/-- Each frame stands on the timeline where the samples before it put it. -/
theorem Follows.of_split {config : ClockSyncConfig} {anchor : ℤ} {position : ℕ} {before after : List AlignedFrame}
    {output : AlignedFrame} (follows : Follows config anchor position (before ++ output :: after)) :
    |output.frame.timestamp - anchor - config.offset (position + samplesOf before)| ≤
      max config.tolerance config.samplePeriod := by
  induction before generalizing position with
  | nil => exact follows.1
  | cons earlier rest ih =>
    have later := ih follows.2
    rwa [Nat.add_assoc] at later

end VoxMesh.Audio

namespace VoxMesh.App

open VoxMesh.Audio VoxMesh.Media Machine

namespace Track

/-- When a frame begins in the file, with the given ones before it on its track. -/
def startTime (track : Track) (before : List AlignedFrame) : ℤ := track.sync.offset (Audio.samplesOf before)

/-- A frame's position is its time of capture since the first frame. -/
theorem near_startTime {track : Track} {first : AudioFrame} {rest : List AudioFrame} {before after : List AlignedFrame}
    {output : AlignedFrame} (fits : (TrackSynchronizer.create track.sync).Fits (first :: rest))
    (inStep : (TrackSynchronizer.create track.sync).InStep (first :: rest))
    (split : track.outputs (first :: rest) = before ++ output :: after) :
    |output.frame.timestamp - first.timestamp - track.startTime before| ≤ 20000000 := by
  have follows := TrackSynchronizer.run_follows track.sync first rest (by cases track <;> decide) fits inStep
  rw [← outputs, split] at follows
  have near := follows.of_split
  rw [Nat.zero_add] at near
  exact near.trans (max_le (le_refl _) (by cases track <;> decide))

end Track

/-- The frames that the track's rings have accepted. -/
def History.captured (history : History) (track : Track) : List AudioFrame := (history.rings track).flatten

/-- One ring was dropped at most. -/
def Unbroken (rings : Track → List (List AudioFrame)) : Prop := ∀ track, (rings track).length ≤ 1

/-- The frames of an unbroken recording went through one synchronizer. -/
theorem History.flatMap_outputs {history : History} (unbroken : Unbroken history.rings) (track : Track) :
    (history.rings track).flatMap track.outputs = track.outputs (history.captured track) := by
  have short := unbroken track
  rw [captured]
  cases rings : history.rings track with
  | nil => exact ((track.outputs_eq_nil []).mpr rfl).symm
  | cons ring rest =>
    rw [rings, List.length_cons] at short
    obtain rfl : rest = [] := List.eq_nil_of_length_eq_zero (by omega)
    simp

/-- Only the dropping of the pipelines drops rings. -/
theorem flowing_rings (R : (Track → List (List AudioFrame)) → Prop) : Flowing fun core => R core.history.rings where
  capture captured holds := by
    obtain ⟨pipeline, -, -, rfl⟩ := Recorder.capture_eq_some captured
    simpa [Recorder.core, Recorder.offer_eq] using holds
  captureOpening captured holds := by
    obtain ⟨line, -, rfl⟩ := Recorder.captureOpening_eq_some captured
    simpa [Recorder.core, Recorder.offer_eq] using holds
  drainFrame passed holds := by
    obtain ⟨pipeline, frame, _, _, _, _, _, _, -, -, same, -⟩ := Recorder.drainFrame_core passed
    rw [same]
    exact holds
  openStream _ _ holds := holds
  register recorder track feeds holds := by
    rw [Recorder.register]
    split <;> exact holds
  stopStream recorder track holds := by
    rw [Recorder.stopStream]
    split <;> exact holds
  abortWriter recorder holds := by
    rw [Recorder.abortWriter]
    split <;> exact holds
  finishWriter recorder finalized renamed holds := by
    rw [Recorder.finishWriter]
    split
    next => exact holds
    next =>
      split
      next => exact holds
      next =>
        split
        next =>
          rw [Recorder.abortWriter]
          split <;> exact holds
        next => split <;> exact holds
  installStt _ _ _ _ _ _ _ holds := holds
  removeStt _ holds := holds

namespace RecorderController

open Thread Ui Flowing

/-- The writer that is opened starts with no rings. -/
private theorem createWriter_rings (answers : FileAnswers) : Ensures (fun _ => True) (createWriter answers)
    fun made recorder => if made then recorder.core.history.rings = (fun _ => []) else True := by
  refine Ensures.bind (Q := fun _ _ => True) (set_ensures fun _ _ => trivial) fun _ =>
    Ensures.ite (fun _ => ?_) fun _ => ?_
  · exact Ensures.bind (Q := fun _ _ => True) (set_ensures fun _ _ => trivial) fun _ =>
      Ensures.pure _ fun _ _ => trivial
  refine get_any.bind fun tracks => get_any.bind fun _ =>
    Ensures.bind (Q := fun _ _ => True) (Ensures.act fun _ _ => trivial) fun path =>
      Ensures.bind (Q := fun _ _ => True) (Ensures.act fun _ _ => trivial) fun result => ?_
  cases result with
  | error error =>
    exact Ensures.bind (Q := fun _ _ => True) (set_ensures fun _ _ => trivial) fun _ =>
      Ensures.pure _ fun _ _ => trivial
  | ok writer =>
    refine Ensures.bind (Q := fun _ _ => True) (set_ensures fun _ _ => trivial) fun _ =>
      Ensures.bind (Q := fun _ recorder => recorder.core.history.rings = fun _ => []) ?_ fun _ =>
        Ensures.pure _ fun _ none => (if_pos rfl).mpr none
    exact Ensures.locked (fun _ _ _ _ _ => trivial) fun _ _ _ => rfl

/-- A recording starts with no rings. -/
theorem start_rings (designLowPass : ℕ → ℚ → List ℚ) (answers : StartAnswers) :
    Ensures (fun _ => True) (start designLowPass answers) fun started recorder =>
      started = true → recorder.history.rings = fun _ => [] := by
  have quiet {change : RecorderController → RecorderController} :
      Ensures (fun _ => True) (Ui.set change) fun _ _ => True := set_ensures fun _ _ => trivial
  refine get_any.bind fun session => Ensures.ite (fun _ => Ensures.pure _ fun _ _ => nofun) fun _ => ?_
  refine Ensures.bind (Q := fun _ _ => True) ?_ fun _ => get_any.bind fun _ => Ensures.ite (fun _ => ?_) fun _ => ?_
  · exact get_any.bind fun _ => Ensures.ite (fun _ => quiet) fun _ => Ensures.pure _ fun _ _ => trivial
  · exact quiet.bind fun _ => Ensures.pure _ fun _ _ => nofun
  refine quiet.bind fun _ => ?_
  refine ((flowing_rings (· = fun _ => [])).startRecording (flowing_rings fun _ => True) (fun _ _ _ => trivial)
    (fun _ _ => trivial) (createWriter_rings answers.file) designLowPass).conseq (fun _ holds => holds) ?_
  intro started recorder holds begun
  rwa [begun, if_pos rfl] at holds

/-- A recording without a pause has at most one ring for each track. -/
theorem stop_rings (answers : StopAnswers) : Ensures (fun recorder => recorder.history.rings = fun _ => [])
    (stop answers) fun _ recorder => Unbroken recorder.history.rings := by
  refine (flowing_rings (· = fun _ => [])).stop (flowing_rings Unbroken) ?_ ?_ answers
  · intro recorder present whole track
    have none : recorder.history.rings = fun _ => [] := whole
    simp only [History.close, none]
    split <;> simp
  · intro core whole track
    rw [whole]
    exact Nat.zero_le _

end RecorderController

/-- Neither a pause nor a stop. -/
def Label.Records : Label → Prop
  | .operation (.pause _) _ | .operation (.stop _) _ => False
  | _ => True

/-- A recording that was not paused so far. -/
structure Recorder.Unpaused (recorder : Recorder) : Prop where
  recording : recorder.controller.session = .recording
  balanced : recorder.Balanced
  whole : recorder.history.rings = fun _ => []

namespace Recorder

open Thread Ui RecorderController

variable {designLowPass : ℕ → ℚ → List ℚ}

/-- The other threads do not pause a recording. -/
theorem unpaused_stable : Stable environment Unpaused := fun recorder event next taken unpaused => {
  recording := (congrArg Outline.session (environment_outline taken)).trans unpaused.recording
  balanced := stable_balanced recorder event next taken unpaused.balanced
  whole := (flowing_rings (· = fun _ => [])).stable recorder event next taken unpaused.whole }

/-- A change to what is neither in the ledger nor the session. -/
private theorem set_unpaused {change : RecorderController → RecorderController} (outside : ∀ recorder : Recorder,
    (recorder.setController change).books = recorder.books ∧
      (change recorder.controller).session = recorder.controller.session) :
    Ensures Unpaused (do Ui.set change; return true) fun _ => Unpaused := by
  refine Ensures.bind (Q := fun _ => Unpaused) (set_ensures fun recorder unpaused => ?_) fun _ =>
    Ensures.pure _ fun _ unpaused => unpaused
  obtain ⟨books, session⟩ := outside recorder
  exact ⟨session.trans unpaused.recording, by rw [Balanced, books]; exact unpaused.balanced, unpaused.whole⟩

/-- While it records, `start` and `resume` are refused. -/
private theorem refused_unpaused {α : Type} {next : SessionState → Ui α} {Q : α → Recorder → Prop}
    (refused : Ensures Unpaused (next .recording) Q) :
    Ensures Unpaused (Ui.get (·.session) >>= next) Q := by
  refine Ensures.bind_eq .recording ?_ refused
  refine (Ensures.read _).conseq (fun _ unpaused => unpaused) ?_
  rintro value recorder ⟨rfl, unpaused⟩
  exact ⟨unpaused.recording, unpaused⟩

/-- An operation that neither pauses nor stops a recording. -/
private theorem perform_unpaused {operation : Operation} {agenda : List (List Environment)}
    (records : (Label.operation operation agenda).Records) :
    Ensures Unpaused (perform designLowPass operation) fun _ => Unpaused := by
  cases operation with
  | pause drained | stop answers => exact records.elim
  | start answers | resume failures =>
    exact refused_unpaused (Ensures.ite (fun _ => Ensures.pure _ fun _ unpaused => unpaused) fun idle =>
      absurd (by decide) idle)
  | refreshDevices found => exact set_unpaused fun _ => ⟨rfl, rfl⟩
  | setSelectedMicrophone index | setSelectedSystemOutput index =>
    refine set_unpaused fun recorder => ?_
    simp only [Recorder.setController, RecorderController.select]
    split <;> exact ⟨rfl, rfl⟩
  | setOutputDirectory directory | setSttEndpoint endpoint =>
    refine set_unpaused fun recorder => ?_
    simp only [Recorder.setController]
    split <;> exact ⟨rfl, rfl⟩

theorem step_unpaused {recorder next : Recorder} {label : Label} (unpaused : recorder.Unpaused)
    (records : label.Records) (taken : step designLowPass recorder label = some next) : next.Unpaused := by
  cases label with
  | operation operation agenda =>
    obtain ⟨⟨result, last⟩, outcome, same⟩ := Option.map_eq_some_iff.mp taken
    obtain rfl : last = next := same
    exact (perform_unpaused records).run outcome unpaused
  | statsTick =>
    rw [step] at taken
    split at taken
    next =>
      obtain rfl := Option.some.inj taken
      rw [onStatsTick]
      split
      next => exact ⟨unpaused.recording, unpaused.balanced, unpaused.whole⟩
      next => exact unpaused
    next => contradiction
  | environment event => exact unpaused_stable recorder event next taken unpaused

/-- A recording that was started, not paused, stopped and saved, in some run of the recorder. -/
inductive SavedWhole (designLowPass : ℕ → ℚ → List ℚ) (outputDirectory : String) : Recorder → Prop where
  | intro {before during : List Label} {idle begun last stopped : Recorder} {startAnswers : StartAnswers}
      {stopAnswers : StopAnswers} {startAgenda stopAgenda : List (List Environment)}
      (earlier : Run (step designLowPass) (init outputDirectory) before idle)
      (started : (perform designLowPass (.start startAnswers)).run startAgenda idle = some (true, begun))
      (run : Run (step designLowPass) begun during last)
      (records : ∀ label ∈ during, label.Records)
      (ended : (perform designLowPass (.stop stopAnswers)).run stopAgenda last = some (true, stopped))
      (saved : stopped.history.finalized = some true) : SavedWhole designLowPass outputDirectory stopped

theorem run_unpaused {recorder last : Recorder} {labels : List Label} (settled : recorder.outline.Settled)
    (unpaused : recorder.Unpaused) (run : Run (step designLowPass) recorder labels last)
    (records : ∀ label ∈ labels, label.Records) : last.outline.Settled ∧ last.Unpaused := by
  induction labels generalizing recorder with
  | nil => exact Run.nil_iff.mp run ▸ ⟨settled, unpaused⟩
  | cons label rest ih =>
    obtain ⟨next, taken, tail⟩ := Run.cons_iff.mp run
    have still := step_unpaused unpaused (records label (List.mem_cons_self ..)) taken
    exact ih (step_settled settled taken).1 still tail fun other member => records other (List.mem_cons_of_mem _ member)

/-- A recording without a pause has on each track what one synchronizer made of the captured frames. -/
theorem SavedWhole.handed {outputDirectory : String} {stopped : Recorder}
    (recorded : SavedWhole designLowPass outputDirectory stopped) (track : Track) :
    stopped.history.handed (stopped.controller.writerTracks track) =
      track.outputs (stopped.history.captured track) := by
  obtain @⟨before, during, idle, begun, last, _, startAnswers, stopAnswers, _, _, earlier, started, run, records, ended,
    saved⟩ := recorded
  have idleSettled := run_settled earlier (settled_init outputDirectory)
  have begunSettled := (RecorderController.start_shows designLowPass startAnswers idleSettled).run started rfl
  have begunUnpaused : begun.Unpaused := by
    refine ⟨begunSettled.2.1.trans (if_pos rfl), ?_, ?_⟩
    · exact (RecorderController.start_balanced designLowPass startAnswers idleSettled).run started rfl rfl
    · exact (RecorderController.start_rings designLowPass startAnswers).run started trivial rfl
  obtain ⟨settled, unpaused⟩ := run_unpaused begunSettled.1 begunUnpaused run records
  have complete := (RecorderController.stop_saves stopAnswers settled).run ended ⟨rfl, unpaused.balanced⟩ rfl saved
  have unbroken := (RecorderController.stop_rings stopAnswers).run ended unpaused.whole
  rw [complete track, History.flatMap_outputs unbroken]

/-- The distance of a microphone frame from a system output frame in the file, less their distance in time. -/
def misalignment (onMicrophone onSystemOutput : List AlignedFrame) (microphone systemOutput : AlignedFrame) : ℤ :=
  (Track.startTime .microphone onMicrophone - Track.startTime .systemOutput onSystemOutput) -
    (microphone.frame.timestamp - systemOutput.frame.timestamp)

/-- Where neither track has a new anchor, the file misplaces the tracks by the distance of their first frames, to within
the jitter of both. -/
theorem SavedWhole.misalignment_near {outputDirectory : String} {stopped : Recorder}
    (recorded : SavedWhole designLowPass outputDirectory stopped)
    (fits : ∀ track, (TrackSynchronizer.create track.sync).Fits (stopped.history.captured track))
    (inStep : ∀ track, (TrackSynchronizer.create track.sync).InStep (stopped.history.captured track))
    {first : Track → AudioFrame} (begins : ∀ track, (stopped.history.captured track).head? = some (first track))
    {preceding following : Track → List AlignedFrame} {frame : Track → AlignedFrame}
    (written : ∀ track, stopped.history.handed (stopped.controller.writerTracks track) =
      preceding track ++ frame track :: following track) :
    |misalignment (preceding .microphone) (preceding .systemOutput) (frame .microphone) (frame .systemOutput) +
        ((first .microphone).timestamp - (first .systemOutput).timestamp)| ≤ 2 * Track.microphone.sync.tolerance := by
  have near (track : Track) :
      |(frame track).frame.timestamp - (first track).timestamp - track.startTime (preceding track)| ≤ 20000000 := by
    obtain ⟨rest, captured⟩ := List.head?_eq_some_iff.mp (begins track)
    have outputs := recorded.handed track
    rw [captured, written] at outputs
    exact Track.near_startTime (captured ▸ fits track) (captured ▸ inStep track) outputs.symm
  have microphone := abs_le.mp (near .microphone)
  have systemOutput := abs_le.mp (near .systemOutput)
  have tolerance : Track.microphone.sync.tolerance = 20000000 := rfl
  rw [tolerance, misalignment, abs_le]
  omega

/-- Where neither track has a new anchor, the distance of two frames in the file is their distance in time, to within
twice the jitter tolerance and a sample period, and to within the distance of the first frames. This holds for all
recordings without a pause, in all runs. -/
theorem tracks_aligned (designLowPass : ℕ → ℚ → List ℚ) (outputDirectory : String) (stopped : Recorder)
    (recorded : SavedWhole designLowPass outputDirectory stopped)
    (fits : ∀ track, (TrackSynchronizer.create track.sync).Fits (stopped.history.captured track))
    (inStep : ∀ track, (TrackSynchronizer.create track.sync).InStep (stopped.history.captured track))
    (first : Track → AudioFrame) (begins : ∀ track, (stopped.history.captured track).head? = some (first track))
    (preceding following : Track → List AlignedFrame) (frame : Track → AlignedFrame)
    (written : ∀ track, stopped.history.handed (stopped.controller.writerTracks track) =
      preceding track ++ frame track :: following track) :
    |misalignment (preceding .microphone) (preceding .systemOutput) (frame .microphone) (frame .systemOutput)| ≤
      2 * (Track.microphone.sync.tolerance + kNanosPerSecond / 48000) +
        |(first .microphone).timestamp - (first .systemOutput).timestamp| := by
  have near := abs_le.mp (recorded.misalignment_near fits inStep begins written)
  have apart := abs_le.mp (le_refl |(first .microphone).timestamp - (first .systemOutput).timestamp|)
  rw [abs_le]
  simp only [kNanosPerSecond]
  omega

private def burst (track : Track) (samples : ℕ) (timestamp : ℤ) : AudioFrame where
  track := track.kind
  timestamp := timestamp
  sampleRate := 48000
  channels := track.channels
  payload := List.replicate (2 * track.channels * samples) 1

private def twoDevices : StartAnswers where
  devices := [{ id := "m" }, { id := "s", kind := .renderOutput }]

/-- The timestamps and the lengths of the frames on a track, and which of them are silence. -/
private def framesOn (recorder : Recorder) (track : Track) : List (ℤ × ℕ × Bool) :=
  (recorder.history.handed (recorder.controller.writerTracks track)).map fun output =>
    (output.frame.timestamp, output.samples, output.synthesized)

/-- A frame was captured, the arithmetic is in range, and no frame sets a new anchor. -/
private def steadily (recorder : Recorder) (track : Track) : Bool :=
  (recorder.history.captured track).head?.isSome &&
    decide ((TrackSynchronizer.create track.sync).Fits (recorder.history.captured track)) &&
      decide ((TrackSynchronizer.create track.sync).InStep (recorder.history.captured track))

/-- What is left of a recording: whether it is saved, whether its tracks are steady, and what is on them. -/
private structure Rehearsal where
  saved : Bool
  steady : Bool
  microphone : List (ℤ × ℕ × Bool)
  systemOutput : List (ℤ × ℕ × Bool)
deriving DecidableEq

private def rehearse (during : List Label) : Option Rehearsal :=
  ((perform (fun _ _ => []) (.start twoDevices)).run [] (init "recordings")).bind fun (started, begun) =>
    (exec (step fun _ _ => []) begun during).bind fun last =>
      ((perform (fun _ _ => []) (.stop {})).run [] last).map fun (stopped, after) =>
        { saved := started && stopped && after.history.finalized == some true
          steady := steadily after .microphone && steadily after .systemOutput
          microphone := framesOn after .microphone
          systemOutput := framesOn after .systemOutput }

private theorem of_rehearse {during : List Label} (records : ∀ label ∈ during, label.Records) {rehearsal : Rehearsal}
    (outcome : rehearse during = some rehearsal) (saved : rehearsal.saved = true) :
    ∃ stopped, SavedWhole (fun _ _ => []) "recordings" stopped ∧
      (steadily stopped .microphone && steadily stopped .systemOutput) = rehearsal.steady ∧
      framesOn stopped .microphone = rehearsal.microphone ∧
      framesOn stopped .systemOutput = rehearsal.systemOutput := by
  simp only [rehearse, Option.bind_eq_some_iff, Option.map_eq_some_iff, Prod.exists] at outcome
  obtain ⟨started, begun, start, last, run, ended, stopped, stop, rfl⟩ := outcome
  simp only [Bool.and_eq_true, beq_iff_eq] at saved
  obtain ⟨⟨rfl, rfl⟩, finalized⟩ := saved
  exact ⟨stopped, .intro (Run.nil_iff.mpr rfl) start run records stop finalized, rfl, rfl, rfl⟩

/-- The microphone starts a second before the system output. -/
private def apartDuring : List Label :=
  [.environment (.capture .microphone (burst .microphone 1 0)),
    .environment (.capture .systemOutput (burst .systemOutput 1 1000000000))]

/-- Both devices start at once, and a microphone frame overlaps the one before it. -/
private def overlapDuring : List Label :=
  [.environment (.capture .microphone (burst .microphone 2400 0)),
    .environment (.capture .microphone (burst .microphone 1 0)),
    .environment (.capture .systemOutput (burst .systemOutput 1 0))]

/-- Tracks that do not start together, and a track with an overlap, are not aligned. -/
theorem tracks_misaligned :
    (∃ stopped a b, SavedWhole (fun _ _ => []) "recordings" stopped ∧
      stopped.history.handed (stopped.controller.writerTracks .microphone) = [a] ∧ a.synthesized = false ∧
      stopped.history.handed (stopped.controller.writerTracks .systemOutput) = [b] ∧ b.synthesized = false ∧
      2 * (Track.microphone.sync.tolerance + Track.microphone.sync.samplePeriod) < |misalignment [] [] a b|) ∧
    ∃ stopped first a b, SavedWhole (fun _ _ => []) "recordings" stopped ∧
      stopped.history.handed (stopped.controller.writerTracks .microphone) = [first, a] ∧ a.synthesized = false ∧
      stopped.history.handed (stopped.controller.writerTracks .systemOutput) = [b] ∧ b.synthesized = false ∧
      first.frame.timestamp = b.frame.timestamp ∧
      2 * (Track.microphone.sync.tolerance + Track.microphone.sync.samplePeriod) < |misalignment [first] [] a b| := by
  constructor
  · have outcome : rehearse apartDuring = some ⟨true, true, [(0, 1, false)], [(1000000000, 1, false)]⟩ := by
      decide +kernel
    obtain ⟨stopped, saved, -, microphone, systemOutput⟩ :=
      of_rehearse (by simp [apartDuring, Label.Records]) outcome rfl
    obtain ⟨a, onMicrophone, aFrame⟩ := List.map_eq_singleton_iff.mp microphone
    obtain ⟨b, onSystemOutput, bFrame⟩ := List.map_eq_singleton_iff.mp systemOutput
    simp only [Prod.mk.injEq] at aFrame bFrame
    refine ⟨stopped, a, b, saved, onMicrophone, aFrame.2.2, onSystemOutput, bFrame.2.2, ?_⟩
    rw [misalignment, aFrame.1, bFrame.1]
    decide
  · have outcome : rehearse overlapDuring =
        some ⟨true, false, [(0, 2400, false), (0, 1, false)], [(0, 1, false)]⟩ := by decide +kernel
    obtain ⟨stopped, saved, -, microphone, systemOutput⟩ :=
      of_rehearse (by simp [overlapDuring, Label.Records]) outcome rfl
    obtain ⟨first, tail, onMicrophone, firstFrame, rest⟩ := List.map_eq_cons_iff.mp microphone
    obtain ⟨a, rfl, aFrame⟩ := List.map_eq_singleton_iff.mp rest
    obtain ⟨b, onSystemOutput, bFrame⟩ := List.map_eq_singleton_iff.mp systemOutput
    simp only [Prod.mk.injEq] at firstFrame aFrame bFrame
    refine ⟨stopped, first, a, b, saved, onMicrophone, aFrame.2.2, onSystemOutput, bFrame.2.2,
      firstFrame.1.trans bFrame.1.symm, ?_⟩
    rw [misalignment, aFrame.1, bFrame.1, Track.startTime, Audio.samplesOf, List.map_singleton, firstFrame.2.1]
    decide

/-- A gap on the microphone's track is filled, and the system output starts a little later. -/
private def healedDuring : List Label :=
  [.environment (.capture .microphone (burst .microphone 1 0)),
    .environment (.capture .systemOutput (burst .systemOutput 1 5000)),
    .environment (.capture .microphone (burst .microphone 1 30000000))]

private def each {α : Type} (microphone systemOutput : α) : Track → α
  | .microphone => microphone
  | .systemOutput => systemOutput

/-- The frame behind the gap is as far from the system output as it was captured. -/
theorem tracks_aligned_healed : ∃ stopped, ∃ onMicrophone a b, ∃ first : Track → AudioFrame,
    SavedWhole (fun _ _ => []) "recordings" stopped ∧
      (∀ track, (stopped.history.captured track).head? = some (first track)) ∧
      stopped.history.handed (stopped.controller.writerTracks .microphone) = onMicrophone ++ [a] ∧
      onMicrophone.length = 2 ∧ stopped.history.handed (stopped.controller.writerTracks .systemOutput) = [b] ∧
      |misalignment onMicrophone [] a b| ≤ 2 * (Track.microphone.sync.tolerance + kNanosPerSecond / 48000) +
        |(first .microphone).timestamp - (first .systemOutput).timestamp| := by
  have outcome : rehearse healedDuring =
      some ⟨true, true, [(0, 1, false), (20833, 1439, true), (30000000, 1, false)], [(5000, 1, false)]⟩ := by
    decide +kernel
  obtain ⟨stopped, saved, steady, microphone, systemOutput⟩ :=
    of_rehearse (by simp [healedDuring, Label.Records]) outcome rfl
  obtain ⟨earlier, tail, onMicrophone, -, rest⟩ := List.map_eq_cons_iff.mp microphone
  obtain ⟨silence, last, rfl, -, remaining⟩ := List.map_eq_cons_iff.mp rest
  obtain ⟨a, rfl, -⟩ := List.map_eq_singleton_iff.mp remaining
  obtain ⟨b, onSystemOutput, -⟩ := List.map_eq_singleton_iff.mp systemOutput
  have both : ∀ track, steadily stopped track = true := by
    intro track
    have conditions := Bool.and_eq_true_iff.mp steady
    cases track with
    | microphone => exact conditions.1
    | systemOutput => exact conditions.2
  simp only [steadily, Bool.and_eq_true, decide_eq_true_eq] at both
  have written (track : Track) : stopped.history.handed (stopped.controller.writerTracks track) =
      each [earlier, silence] [] track ++ each a b track :: each [] [] track := by
    cases track with
    | microphone => exact onMicrophone
    | systemOutput => exact onSystemOutput
  obtain ⟨first, begins⟩ : ∃ first : Track → AudioFrame, ∀ track,
      (stopped.history.captured track).head? = some (first track) :=
    ⟨fun track => (stopped.history.captured track).head?.get (both track).1.1, fun track =>
      (Option.some_get (both track).1.1).symm⟩
  have aligned := tracks_aligned (fun _ _ => []) "recordings" stopped saved (fun track => (both track).1.2)
    (fun track => (both track).2) first begins _ _ _ written
  exact ⟨stopped, [earlier, silence], a, b, first, saved, begins, onMicrophone, rfl, onSystemOutput, aligned⟩

end Recorder

end VoxMesh.App
