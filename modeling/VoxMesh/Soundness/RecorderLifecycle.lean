import VoxMesh.Proofs.RecorderProgress

/-! # The recorder's resources over whole runs

Between two operations a capture stream runs exactly while the session records, a writer is held exactly
while it records or is paused, and an idle recorder holds nothing: `Tidy`. One operation can break this for
good. When the streams of a paused recording do not start again, `resume` fails the session and leaves the
streams that did start running and the writer open, and every later operation is refused. The theorems say
that this is the only way, and that without it the recorder can always be brought back to idle.
-/

namespace VoxMesh.App

open VoxMesh.Audio VoxMesh.Media Machine

/-- The step is a resume of a paused recording whose streams do not start. -/
def FailedResume (recorder : Recorder) : Label → Prop
  | .operation operation _ => recorder.outline.FailsResume operation
  | _ => False

namespace Recorder

/-- What is held between two operations. -/
structure Tidy (recorder : Recorder) : Prop where
  streams : (∃ track pipeline, recorder.controller.pipelines track = some pipeline ∧ pipeline.running = true) ↔
    recorder.controller.session = .recording
  writer : recorder.controller.writer.isSome ↔
    recorder.controller.session = .recording ∨ recorder.controller.session = .paused
  idle : recorder.controller.session = .idle → recorder.controller.writer = none ∧
    (∀ track, recorder.controller.pipelines track = none) ∧ recorder.controller.sttClient = none ∧
    recorder.controller.pendingOutputFile = ""

variable {designLowPass : ℕ → ℚ → List ℚ}

theorem settled_init (outputDirectory : String) : (init outputDirectory).outline.Settled :=
  Outline.settled_of_released (fun _ => rfl) rfl ⟨fun _ => rfl, rfl, rfl, rfl⟩

theorem step_settled {recorder next : Recorder} {label : Label} (settled : recorder.outline.Settled)
    (taken : step designLowPass recorder label = some next) :
    next.outline.Settled ∧
      (next.controller.session = .failed ↔ recorder.controller.session = .failed ∨ FailedResume recorder label) := by
  have unchanged (same : next.outline = recorder.outline) : next.outline.Settled ∧
      (next.controller.session = .failed ↔ recorder.controller.session = .failed ∨ False) := by
    refine ⟨same ▸ settled, ?_⟩
    rw [or_false, show next.controller.session = recorder.controller.session from congrArg Outline.session same]
  cases label with
  | operation operation agenda =>
    obtain ⟨⟨result, last⟩, outcome, same⟩ := Option.map_eq_some_iff.mp taken
    obtain rfl : last = next := same
    exact (perform_settled designLowPass operation settled).run outcome rfl
  | statsTick =>
    rw [step] at taken
    split at taken
    next =>
      obtain rfl := Option.some.inj taken
      apply unchanged
      rw [onStatsTick]
      split <;> rfl
    next => contradiction
  | environment event => exact unchanged (environment_outline taken)

theorem run_settled {recorder last : Recorder} {labels : List Label}
    (run : Run (step designLowPass) recorder labels last) (settled : recorder.outline.Settled) :
    last.outline.Settled :=
  run.invariant (I := fun seen => seen.outline.Settled) (fun _ _ _ still taken => (step_settled still taken).1) settled

/-- The session of a run has failed exactly if a resume has failed on the way. -/
theorem run_failed_iff {last : Recorder} {labels : List Label} {outputDirectory : String}
    (run : Run (step designLowPass) (init outputDirectory) labels last) :
    Along (step designLowPass) (fun recorder label => ¬ FailedResume recorder label) (init outputDirectory) labels ↔
      last.controller.session ≠ .failed := by
  have counted := run.along_iff_count (I := fun seen => seen.outline.Settled)
    (P := fun recorder label => ¬ FailedResume recorder label)
    (fun seen => if seen.controller.session = .failed then 1 else 0)
    (fun _ _ _ still taken => (step_settled still taken).1) ?_ ?_ (settled_init outputDirectory)
  · rw [counted]
    split <;> simp_all [init]
  · intro seen label next settled taken kept
    have failed := (step_settled settled taken).2
    simp only [kept, or_false] at failed
    simp only [failed]
  · intro seen label next settled taken failing
    have failed := (step_settled settled taken).2
    rw [not_not] at failing
    have paused : seen.controller.session = .paused := by
      cases label with
      | operation operation _ => cases operation <;> first | exact failing.1 | exact failing.elim
      | _ => exact failing.elim
    simp [failed, failing, paused]

theorem pipelines_eq_none {recorder : Recorder} {track : Track} :
    recorder.outline.pipelines track = none ↔ recorder.controller.pipelines track = none := Option.map_eq_none_iff

theorem streams_iff {recorder : Recorder} (settled : recorder.outline.Settled)
    (working : recorder.controller.session ≠ .failed) :
    (∃ track pipeline, recorder.controller.pipelines track = some pipeline ∧ pipeline.running = true) ↔
      recorder.controller.session = .recording := by
  constructor
  · rintro ⟨track, pipeline, present, -⟩
    have held : recorder.outline.pipelines track ≠ none := fun none =>
      absurd (present.symm.trans (pipelines_eq_none.mp none)) nofun
    cases session : recorder.controller.session with
    | recording => rfl
    | idle => exact absurd ((settled.released session).pipelines track) held
    | paused => exact absurd (settled.paused session track) held
    | stopping => exact absurd session settled.steady.1
    | stopped => exact absurd session settled.steady.2
    | failed => exact absurd session working
  · intro recording
    obtain ⟨⟨track, _, present, -⟩, running⟩ := settled.capturing recording
    obtain ⟨pipeline, found, rfl⟩ := Option.map_eq_some_iff.mp present
    exact ⟨track, pipeline, found, running track pipeline.outline present⟩

theorem writer_iff {recorder : Recorder} (settled : recorder.outline.Settled)
    (working : recorder.controller.session ≠ .failed) :
    recorder.controller.writer.isSome ↔
      recorder.controller.session = .recording ∨ recorder.controller.session = .paused := by
  have held : recorder.outline.writer.isSome = recorder.controller.writer.isSome := Option.isSome_map
  have writing := settled.writing
  rw [show recorder.outline.session = recorder.controller.session from rfl, held] at writing
  cases session : recorder.controller.session with
  | idle => simp [← held, (settled.released session).writer]
  | recording | paused => simp [writing (by simp [session])]
  | stopping => exact absurd session settled.steady.1
  | stopped => exact absurd session settled.steady.2
  | failed => exact absurd session working

/-- A settled recorder is tidy exactly if its session has not failed. -/
theorem tidy_iff {recorder : Recorder} (settled : recorder.outline.Settled) :
    recorder.Tidy ↔ recorder.controller.session ≠ .failed := by
  constructor
  · intro tidy failed
    have active : recorder.controller.session ≠ .idle := by simp [failed]
    have writing := settled.writing active
    rcases tidy.writer.mp (Option.isSome_map.symm.trans writing) with session | session <;>
      exact absurd (failed.symm.trans session) nofun
  · intro working
    refine ⟨streams_iff settled working, writer_iff settled working, fun idle => ?_⟩
    have released := settled.released idle
    exact ⟨Option.map_eq_none_iff.mp released.writer, fun track => pipelines_eq_none.mp (released.pipelines track),
      Option.isNone_iff_eq_none.mp (Option.isSome_eq_false_iff.mp released.sttClient), released.pendingOutputFile⟩

/-- Between any two operations of any run, whatever fails and however the threads interleave, the recorder
holds the right resources exactly if no paused recording was resumed with streams that did not start. -/
theorem tidy_iff_resumes (designLowPass : ℕ → ℚ → List ℚ) (outputDirectory : String) (labels : List Label)
    (recorder : Recorder) (run : Run (step designLowPass) (init outputDirectory) labels recorder) :
    recorder.Tidy ↔ Along (step designLowPass) (fun recorder label => ¬ FailedResume recorder label)
      (init outputDirectory) labels := by
  rw [run_failed_iff run, tidy_iff (run_settled run (settled_init outputDirectory))]

/-- A microphone and a loudspeaker. -/
def bothDevices : List AudioDeviceInfo :=
  [{ id := "m", name := "Microphone", isDefault := true }, { id := "s", name := "Speaker", kind := .renderOutput }]

/-- A recording of both devices is paused, and on resume the second device is gone. -/
def lostDevice : List Label :=
  [.operation (.refreshDevices bothDevices) [], .operation (.start {}) [], .operation (.pause []) [],
    .operation (.resume fun track => if track = .microphone then none else some .deviceUnavailable) []]

private theorem lostDevice_run : ∃ recorder, Run (step fun _ _ => []) (init "recordings") lostDevice recorder ∧
    recorder.controller.session = .failed ∧ recorder.controller.writer.isSome = true ∧
    (recorder.controller.pipelines .microphone).map (·.running) = some true := by
  have outcome : (exec (step fun _ _ => []) (init "recordings") lostDevice).map (fun recorder =>
      (recorder.controller.session, recorder.controller.writer.isSome,
        (recorder.controller.pipelines .microphone).map (·.running))) = some (.failed, true, some true) := by
    decide +kernel
  obtain ⟨recorder, run, same⟩ := Option.map_eq_some_iff.mp outcome
  obtain ⟨failed, rest⟩ := Prod.mk.inj same
  exact ⟨recorder, run, failed, Prod.mk.inj rest⟩

/-- After the failed resume the microphone keeps capturing in a failed session that still holds its writer. -/
theorem tidy_iff_resumes_lostDevice : ∃ recorder, Run (step fun _ _ => []) (init "recordings") lostDevice recorder ∧
    recorder.controller.session = .failed ∧ recorder.controller.writer.isSome = true ∧
    (recorder.controller.pipelines .microphone).map (·.running) = some true ∧ ¬ recorder.Tidy := by
  obtain ⟨recorder, run, failed, held, running⟩ := lostDevice_run
  refine ⟨recorder, run, failed, held, running, fun tidy => ?_⟩
  exact (tidy_iff (run_settled run (settled_init _))).mp tidy failed

/-- The second device does not open at first; then both are recorded, paused and resumed. -/
def secondAttempt : List Label :=
  [.operation (.refreshDevices bothDevices) [],
    .operation (.start { captures := fun track => if track = .microphone then none else some .deviceUnavailable }) [],
    .operation (.start {}) [], .operation (.pause []) [], .operation (.resume fun _ => none) []]

private theorem secondAttempt_run : ∃ recorder,
    Run (step fun _ _ => []) (init "recordings") secondAttempt recorder ∧ recorder.controller.session = .recording := by
  have outcome : (exec (step fun _ _ => []) (init "recordings") secondAttempt).map (·.controller.session) =
      some .recording := by decide +kernel
  exact Option.map_eq_some_iff.mp outcome

theorem tidy_iff_resumes_secondAttempt : ∃ recorder,
    Run (step fun _ _ => []) (init "recordings") secondAttempt recorder ∧
    recorder.controller.session = .recording ∧
    (recorder.Tidy ↔ Along (step fun _ _ => []) (fun recorder label => ¬ FailedResume recorder label)
      (init "recordings") secondAttempt) := by
  obtain ⟨recorder, run, recording⟩ := secondAttempt_run
  exact ⟨recorder, run, recording, tidy_iff_resumes (fun _ _ => []) "recordings" secondAttempt recorder run⟩

end Recorder

/-- In this step the backend, FFmpeg, the disk and the transcription service grant everything. -/
def Granted : Label → Prop
  | .operation operation agenda => (∀ steps ∈ agenda, ∀ event ∈ steps, event.Granted) ∧
      match operation with
      | .start answers => answers.file.Granted ∧ answers.stt.connected = true ∧
          (∀ track, answers.captures track = none) ∧ answers.drained = []
      | .pause drained => drained = []
      | .resume failures => ∀ track, failures track = none
      | .stop answers => answers.drained = [] ∧ answers.finalized = [] ∧ answers.renamed = true
      | _ => True
  | .statsTick => True
  | .environment event => event.Granted

namespace Recorder

variable {designLowPass : ℕ → ℚ → List ℚ}

/-- With everything granted, some steps lead back to idle with the writer released, and then a `start` can
succeed. -/
def Recoverable (designLowPass : ℕ → ℚ → List ℚ) (recorder : Recorder) : Prop :=
  ∃ labels idle answers agenda started, Run (step designLowPass) recorder labels idle ∧
    (∀ label ∈ labels, Granted label) ∧ idle.controller.session = .idle ∧ idle.controller.writer = none ∧
    Granted (.operation (.start answers) agenda) ∧
    (perform designLowPass (.start answers)).run agenda idle = some (true, started)

/-- The session state turns the transport operation away. -/
def Refuses (recorder : Recorder) : Operation → Prop
  | .start _ => recorder.controller.session ≠ .idle
  | .pause _ => (RecordingSession.handle recorder.controller.session .pause).1 = false
  | .resume _ => recorder.controller.session ≠ .paused
  | .stop _ => (RecordingSession.handle recorder.controller.session .stop).1 = false
  | _ => False

/-- The transport operations are all refused. -/
def Stuck (recorder : Recorder) : Prop :=
  (∀ answers, recorder.Refuses (.start answers)) ∧ (∀ drained, recorder.Refuses (.pause drained)) ∧
  (∀ failures, recorder.Refuses (.resume failures)) ∧ ∀ answers, recorder.Refuses (.stop answers)

/-- A refused operation answers false. -/
theorem refused_of_refuses {recorder next : Recorder} {operation : Operation} {agenda : List (List Environment)}
    {result : Bool} (settled : recorder.outline.Settled) (refuses : recorder.Refuses operation)
    (outcome : (perform designLowPass operation).run agenda recorder = some (result, next)) : result = false := by
  cases operation with
  | start answers =>
    have ensured := (RecorderController.start_shows designLowPass answers settled).run outcome rfl
    cases result with
    | false => rfl
    | true => exact absurd (ensured.2.2.1 rfl).1 refuses
  | pause drained =>
    have ensured := (RecorderController.pause_shows drained settled).run outcome rfl
    rw [ensured.2.1, decide_eq_false_iff_not]
    intro recording
    rw [Refuses, show recorder.controller.session = .recording from recording] at refuses
    contradiction
  | resume failures =>
    have ensured := (RecorderController.resume_shows failures settled).run outcome rfl
    exact (ensured.2.2.2.1 refuses).1
  | stop answers =>
    have ensured := (RecorderController.stop_shows answers settled).run outcome rfl
    rw [ensured.2.1, decide_eq_false_iff_not]
    rintro (session | session)
    · rw [Refuses, show recorder.controller.session = .recording from session] at refuses
      contradiction
    · rw [Refuses, show recorder.controller.session = .paused from session] at refuses
      contradiction
  | _ => exact refuses.elim

theorem failed_of_failed {recorder last : Recorder} {labels : List Label}
    (run : Run (step designLowPass) recorder labels last) (settled : recorder.outline.Settled)
    (failed : recorder.controller.session = .failed) : last.controller.session = .failed := by
  have kept := run.invariant (I := fun seen => seen.outline.Settled ∧ seen.controller.session = .failed) ?_
    ⟨settled, failed⟩
  · exact kept.2
  · rintro seen label next ⟨settled, failed⟩ taken
    obtain ⟨still, session⟩ := step_settled settled taken
    exact ⟨still, session.mpr (.inl failed)⟩

/-- With a device selected and everything granted, an idle recorder starts. -/
theorem start_succeeds (designLowPass : ℕ → ℚ → List ℚ) {recorder : Recorder} (settled : recorder.outline.Settled)
    (idle : recorder.controller.session = .idle) (track : Track) (selected : recorder.outline.isSelected track = true) :
    ∃ agenda started, Granted (.operation (.start {}) agenda) ∧
      (perform designLowPass (.start {})).run agenda recorder = some (true, started) := by
  obtain ⟨agenda, result, started, kinds, outcome⟩ :=
    (RecorderController.completes_start designLowPass {}).run recorder
  have ensured := (RecorderController.start_shows designLowPass {} settled).run outcome rfl
  obtain rfl : result = true := ensured.2.2.2 ⟨idle, ⟨rfl, rfl⟩, ⟨track, selected⟩, fun _ _ => rfl⟩
  exact ⟨agenda, started, ⟨kinds, ⟨rfl, rfl⟩, rfl, fun _ => rfl, rfl⟩, outcome⟩

theorem stop_succeeds (designLowPass : ℕ → ℚ → List ℚ) {recorder : Recorder} (settled : recorder.outline.Settled)
    (active : recorder.controller.session = .recording ∨ recorder.controller.session = .paused) :
    ∃ agenda stopped, Granted (.operation (.stop {}) agenda) ∧
      (perform designLowPass (.stop {})).run agenda recorder = some (true, stopped) ∧
      stopped.outline.Settled ∧ stopped.controller.session = .idle := by
  obtain ⟨agenda, result, stopped, kinds, outcome⟩ := (RecorderController.completes_stop {}).run recorder
  obtain ⟨still, answer, idle⟩ := (RecorderController.stop_shows {} settled).run outcome rfl
  obtain rfl : result = true := answer.trans (decide_eq_true active)
  exact ⟨agenda, stopped, ⟨kinds, rfl, rfl, rfl⟩, outcome, still, idle⟩

theorem recoverable_of_idle {recorder : Recorder} (settled : recorder.outline.Settled)
    (idle : recorder.controller.session = .idle) : recorder.Recoverable designLowPass := by
  have refreshed : (recorder.setController (·.setDevices [{}])).outline.Settled := settled.reselect _ _
  obtain ⟨agenda, started, granted, outcome⟩ :=
    start_succeeds designLowPass refreshed idle .microphone rfl
  refine ⟨[.operation (.refreshDevices [{}]) []], _, {}, agenda, started,
    Run.cons_iff.mpr ⟨_, rfl, Run.nil_iff.mpr rfl⟩, ?_, idle, ?_, granted, outcome⟩
  · intro label member
    rw [List.mem_singleton.mp member]
    exact ⟨nofun, trivial⟩
  · exact Option.map_eq_none_iff.mp (settled.released idle).writer

theorem Recoverable.prepend {recorder next : Recorder} {label : Label} (granted : Granted label)
    (taken : step designLowPass recorder label = some next) (recoverable : next.Recoverable designLowPass) :
    recorder.Recoverable designLowPass := by
  obtain ⟨labels, idle, answers, agenda, started, run, all, rest⟩ := recoverable
  refine ⟨label :: labels, idle, answers, agenda, started, Run.cons_iff.mpr ⟨next, taken, run⟩, ?_, rest⟩
  exact List.forall_mem_cons.mpr ⟨granted, all⟩

theorem recoverable_iff {recorder : Recorder} (settled : recorder.outline.Settled) :
    recorder.Recoverable designLowPass ∧ ¬ recorder.Stuck ↔ recorder.controller.session ≠ .failed := by
  constructor
  · rintro ⟨⟨labels, idle, _, _, _, run, _, isIdle, _⟩, -⟩ failed
    exact absurd ((failed_of_failed run settled failed).symm.trans isIdle) nofun
  · intro working
    have active (session : recorder.controller.session = .recording ∨ recorder.controller.session = .paused) :
        recorder.Recoverable designLowPass ∧ ¬ recorder.Stuck := by
      refine ⟨?_, fun stuck => ?_⟩
      · obtain ⟨agenda, stopped, granted, outcome, still, idle⟩ :=
          stop_succeeds designLowPass settled session
        exact (recoverable_of_idle still idle).prepend granted (congrArg (Option.map Prod.snd) outcome)
      · have refused := stuck.2.2.2 {}
        rcases session with session | session <;> rw [Refuses, session] at refused <;> contradiction
    cases session : recorder.controller.session with
    | idle => exact ⟨recoverable_of_idle settled session, fun stuck => stuck.1 {} session⟩
    | recording => exact active (.inl session)
    | paused => exact active (.inr session)
    | stopping => exact absurd session settled.steady.1
    | stopped => exact absurd session settled.steady.2
    | failed => exact absurd session working

/-- Every state of every run can be brought back to idle and is not stuck, exactly if no paused recording was
resumed with streams that did not start. -/
theorem recoverable_iff_resumes (designLowPass : ℕ → ℚ → List ℚ) (outputDirectory : String) (labels : List Label)
    (recorder : Recorder) (run : Run (step designLowPass) (init outputDirectory) labels recorder) :
    recorder.Recoverable designLowPass ∧ ¬ recorder.Stuck ↔
      Along (step designLowPass) (fun recorder label => ¬ FailedResume recorder label) (init outputDirectory)
        labels := by
  rw [run_failed_iff run, recoverable_iff (run_settled run (settled_init outputDirectory))]

/-- After the failed resume every transport operation is refused, and idle is out of reach. -/
theorem recoverable_iff_resumes_lostDevice : ∃ recorder,
    Run (step fun _ _ => []) (init "recordings") lostDevice recorder ∧
    recorder.Stuck ∧ ¬ recorder.Recoverable fun _ _ => [] := by
  obtain ⟨recorder, run, failed, -⟩ := lostDevice_run
  refine ⟨recorder, run, ?_, ?_⟩
  · refine ⟨fun _ => ?_, fun _ => ?_, fun _ => ?_, fun _ => ?_⟩ <;> rw [Refuses, failed]
    all_goals decide
  · rintro ⟨labels, idle, _, _, _, later, _, isIdle, _⟩
    exact absurd ((failed_of_failed later (run_settled run (settled_init _)) failed).symm.trans isIdle) nofun

theorem recoverable_iff_resumes_secondAttempt : ∃ recorder,
    Run (step fun _ _ => []) (init "recordings") secondAttempt recorder ∧
    recorder.controller.session = .recording ∧
    (recorder.Recoverable (fun _ _ => []) ∧ ¬ recorder.Stuck ↔
      Along (step fun _ _ => []) (fun recorder label => ¬ FailedResume recorder label)
        (init "recordings") secondAttempt) := by
  obtain ⟨recorder, run, recording⟩ := secondAttempt_run
  exact ⟨recorder, run, recording, recoverable_iff_resumes (fun _ _ => []) "recordings" secondAttempt recorder run⟩

end Recorder

end VoxMesh.App
