import VoxMesh.Proofs.RecorderLifecycle

/-! # The recorder's threads make progress

The drain thread can end its round from every state: each pass takes a frame from a ring, and nobody needs to
fill the rings meanwhile. So the lock can always be freed, and every operation can run to its end.
-/

namespace VoxMesh.App

open VoxMesh.Audio VoxMesh.Media Machine

namespace Recorder

/-- The drain thread runs by itself for a while, all its writes succeeding, and leaves the recorder like
this. -/
def Drains (recorder last : Recorder) : Prop :=
  ∃ passes, Run environment recorder (List.replicate passes (.drain [])) last

theorem Drains.refl (recorder : Recorder) : Drains recorder recorder := ⟨0, Run.nil_iff.mpr rfl⟩

theorem Drains.pass {recorder next last : Recorder} (taken : recorder.drainStep [] = some next)
    (later : Drains next last) : Drains recorder last := by
  obtain ⟨passes, run⟩ := later
  exact ⟨passes + 1, Run.cons_iff.mpr ⟨next, taken, run⟩⟩

theorem Drains.trans {recorder middle last : Recorder} (left : Drains recorder middle)
    (right : Drains middle last) : Drains recorder last := by
  obtain ⟨first, before⟩ := left
  obtain ⟨second, after⟩ := right
  exact ⟨first + second, List.replicate_add first second _ ▸ before.append after⟩

private theorem drains_empty {recorder : Recorder} {track : Track} (inside : recorder.drain = .draining track)
    (empty : recorder.drainFrame track [] = none) :
    ∃ last, Drains recorder last ∧ last.drain = .after track := by
  refine ⟨{ recorder with drain := .after track }, .pass ?_ (.refl _), rfl⟩
  simp only [drainStep, inside, empty]

/-- The drain thread empties the ring it is at and moves on. -/
private theorem drains_track {recorder : Recorder} (track : Track) (inside : recorder.drain = .draining track) :
    ∃ last, Drains recorder last ∧ last.drain = .after track := by
  obtain ⟨count, waiting⟩ : ∃ count, recorder.waiting track = count := ⟨_, rfl⟩
  induction count generalizing recorder with
  | zero =>
    cases passed : recorder.drainFrame track [] with
    | none => exact drains_empty inside passed
    | some result =>
      obtain ⟨next, rest⟩ := result
      have fewer := waiting_drainFrame passed
      omega
  | succ count ih =>
    cases passed : recorder.drainFrame track [] with
    | none => exact drains_empty inside passed
    | some result =>
      obtain ⟨next, rest⟩ := result
      have fewer := waiting_drainFrame passed
      obtain ⟨_, _, _, _, _, still⟩ := drainFrame_pipelines passed
      obtain ⟨last, drains, ended⟩ := ih (still.trans inside) (by omega)
      refine ⟨last, .pass ?_ drains, ended⟩
      simp only [drainStep, inside, passed]

theorem drains_unlocked (recorder : Recorder) : ∃ last, Drains recorder last ∧ last.unlocked = true := by
  cases inside : recorder.drain with
  | resting | ended => exact ⟨recorder, .refl recorder, by rw [unlocked, inside]⟩
  | draining track =>
    obtain ⟨middle, first, reached⟩ := drains_track track inside
    cases track with
    | systemOutput => exact ⟨middle, first, by rw [unlocked, reached]; rfl⟩
    | microphone =>
      obtain ⟨last, second, ended⟩ := drains_track .systemOutput reached
      exact ⟨last, first.trans second, by rw [unlocked, ended]; rfl⟩

end Recorder

/-- A step of another thread in which every write succeeds. -/
def Environment.Granted : Environment → Prop
  | .drain answers => answers = []
  | _ => True

/-- The drain thread ends its round and frees the lock. -/
theorem Recorder.frees : Thread.Frees environment Environment.Granted unlocked := by
  intro recorder
  obtain ⟨last, ⟨passes, run⟩, unlocked⟩ := recorder.drains_unlocked
  refine ⟨_, last, run, unlocked, fun event member => ?_⟩
  rw [List.eq_of_mem_replicate member]
  rfl

namespace RecorderController

open Thread Ui Recorder

/-- The operation can run to its end. -/
abbrev CanEnd {α : Type} (operation : Ui α) : Prop := Completes Environment.Granted operation

theorem completes_set (change : RecorderController → RecorderController) : CanEnd (Ui.set change) := Completes.update _

theorem completes_get {α : Type} (f : RecorderController → α) : CanEnd (Ui.get f) := Completes.read _

theorem completes_fail (message : String) : CanEnd (fail message) := completes_set _

theorem completes_handle (event : SessionEvent) : CanEnd (handle event) := Completes.act _

theorem completes_underLock {α : Type} (action : Recorder → α × Recorder) : CanEnd (underLock action) :=
  Completes.locked frees action

theorem completes_stopStreams (drained : List FfmpegAnswer) : CanEnd (stopStreams drained) := by
  have stopStream (track : Track) : CanEnd (atomically (·.stopStream track)) :=
    Completes.yield.bind fun _ => Completes.update _
  exact (stopStream .microphone).bind fun _ => (stopStream .systemOutput).bind fun _ => completes_underLock _

theorem completes_discardWriter : CanEnd discardWriter := (completes_underLock _).bind fun _ => completes_set _

theorem completes_stopSttStreaming : CanEnd stopSttStreaming := (completes_underLock _).bind fun _ => completes_set _

theorem completes_abandon (drained : List FfmpegAnswer) : CanEnd (abandon drained) :=
  (completes_stopStreams drained).bind fun _ => completes_discardWriter.bind fun _ =>
    completes_stopSttStreaming.bind fun _ => (completes_handle _).bind fun _ => (completes_handle _).bind fun _ =>
      Completes.pure ()

theorem completes_createWriter (answers : FileAnswers) : CanEnd (createWriter answers) := by
  refine (completes_set _).bind fun _ => Completes.ite ((completes_fail _).bind fun _ => Completes.pure _) ?_
  refine (completes_get _).bind fun _ => (completes_get _).bind fun _ => (Completes.read _).bind fun path =>
    (Completes.act _).bind fun result => ?_
  cases result with
  | error error => exact (completes_fail _).bind fun _ => Completes.pure _
  | ok writer => exact (completes_set _).bind fun _ => (completes_underLock _).bind fun _ => Completes.pure _

theorem completes_startTrack (track : Track) (feeds : Bool) (failure : Option CaptureError) :
    CanEnd (startTrack track feeds failure) := by
  refine (completes_get _).bind fun device => ?_
  cases failure with
  | some error => exact (completes_fail _).bind fun _ => Completes.pure _
  | none =>
    exact Completes.bind (Completes.update _) fun _ => (completes_underLock _).bind fun _ => Completes.pure _

theorem completes_startStreams (failures : Track → Option CaptureError) :
    CanEnd (startStreams failures) := by
  have each (track : Track) (feeds : Bool) : CanEnd (startSelected track feeds (failures track)) :=
    (completes_get _).bind fun _ => Completes.ite (completes_startTrack _ _ _) (Completes.pure _)
  refine (completes_get _).bind fun _ => (each _ _).bind fun _ => Completes.ite (Completes.pure _) ?_
  exact (completes_get _).bind fun _ => (each _ _).bind fun _ => Completes.ite (Completes.pure _) (Completes.pure _)

theorem completes_startSttStreaming (designLowPass : ℕ → ℚ → List ℚ) (answers : SttAnswers) :
    CanEnd (startSttStreaming designLowPass answers) := by
  refine (completes_get _).bind fun _ => Completes.ite (Completes.pure _) ?_
  refine (completes_set _).bind fun _ => (completes_get _).bind fun _ => ?_
  split
  next => exact completes_fail _
  next => exact Completes.ite (completes_fail _) (completes_underLock _)

theorem completes_start (designLowPass : ℕ → ℚ → List ℚ) (answers : StartAnswers) :
    CanEnd (start designLowPass answers) := by
  refine (completes_get _).bind fun _ => Completes.ite (Completes.pure _) ?_
  refine Completes.bind ((completes_get _).bind fun _ => Completes.ite (completes_set _) (Completes.pure _)) fun _ => ?_
  refine (completes_get _).bind fun _ => Completes.ite ((completes_fail _).bind fun _ => Completes.pure _) ?_
  refine (completes_fail _).bind fun _ => (completes_createWriter _).bind fun _ => Completes.ite (Completes.pure _) ?_
  refine (completes_handle _).bind fun _ => Completes.ite (completes_discardWriter.bind fun _ => Completes.pure _) ?_
  refine (completes_startSttStreaming _ _).bind fun _ => (completes_startStreams _).bind fun _ =>
    Completes.ite ((completes_abandon _).bind fun _ => Completes.pure _) ?_
  exact (completes_set _).bind fun _ => Completes.pure _

theorem completes_stop (answers : StopAnswers) : CanEnd (stop answers) := by
  refine (completes_handle _).bind fun _ => Completes.ite (Completes.pure _) ?_
  refine (completes_stopStreams _).bind fun _ => (completes_set _).bind fun _ =>
    (completes_underLock _).bind fun outcome => ?_
  refine (completes_set _).bind fun _ => completes_stopSttStreaming.bind fun _ => Completes.bind ?_ fun _ =>
    (completes_handle _).bind fun _ => (completes_handle _).bind fun _ => Completes.pure _
  exact Completes.ite (completes_set _) (Completes.ite (completes_fail _) (Completes.pure _))

end RecorderController

end VoxMesh.App
