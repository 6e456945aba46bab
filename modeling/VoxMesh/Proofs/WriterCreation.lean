import VoxMesh.Proofs.RecorderCore
import VoxMesh.Soundness.KeptRecordings

/-! # The opening of a writer

`createWriter` opens a writer at a path that is free, lets the other threads run, and takes the writer in. A lasting
assertion survives that if opening a writer keeps it and a writer so opened may be taken in.
-/

namespace VoxMesh.App

open VoxMesh.Audio VoxMesh.Media Machine Thread Ui RecorderController Flowing

variable {K : Core → Prop}

theorem Lasting.createWriter (lasting : Lasting K) {F : FfmpegRecordingWriter → Prop}
    (creates : ∀ (core : Core) (path : String) (tracks : List RecordingTrackConfig) (frameSize : ℕ)
      (opened : List FfmpegAnswer), core.disk.holds path = false → K core →
      K { core with disk := (FfmpegRecordingWriter.create ⟨path, tracks⟩ frameSize ⟨core.disk, opened⟩).2.disk } ∧
        ∀ writer, (FfmpegRecordingWriter.create ⟨path, tracks⟩ frameSize ⟨core.disk, opened⟩).1 = .ok writer →
          F writer)
    (installs : ∀ (recorder : Recorder) (writer : FfmpegRecordingWriter), F writer → K recorder.core →
      K (recorder.installWriter writer).core) (answers : FileAnswers) :
    Ensures (Flowing.On K) (RecorderController.createWriter answers) fun _ => Flowing.On K := by
  refine Ensures.bind (Q := fun _ => Flowing.On K) (Flowing.set fun _ => rfl) fun _ =>
    Ensures.ite (fun _ => ?_) fun _ => ?_
  · exact (Flowing.fail _).bind fun _ => Ensures.pure _ fun _ holds => holds
  refine Flowing.get.bind fun tracks => Flowing.get.bind fun directory => (Ensures.read _).bind fun path => ?_
  refine Ensures.bind (Q := fun result recorder => K recorder.core ∧ ∀ writer, result = .ok writer → F writer)
    (Ensures.act ?_) fun result => ?_
  · rintro recorder ⟨rfl, holds⟩
    exact creates recorder.core _ tracks answers.frameSize answers.opened (Recorder.candidate_free ..) holds
  cases result with
  | error error =>
    exact ((Flowing.fail _).conseq (fun _ => And.left) fun _ _ holds => holds).bind fun _ =>
      Ensures.pure _ fun _ holds => holds
  | ok writer =>
    refine Ensures.conseq (P := fun recorder => F writer ∧ K recorder.core) ?_
      (fun _ both => ⟨both.2 writer rfl, both.1⟩) fun _ _ holds => holds
    refine Ensures.of_fact fun opened =>
      Ensures.bind (Q := fun _ => Flowing.On K) (Flowing.set fun _ => rfl) fun _ => ?_
    exact (lasting.underLock fun recorder => installs recorder writer opened).bind fun _ =>
      Ensures.pure _ fun _ holds => holds

end VoxMesh.App
