import VoxMesh.Proofs.RecorderCore
import VoxMesh.Soundness.RecorderLifecycle
import Mathlib.Data.List.Perm.Subperm
import Mathlib.Data.List.Nodup

/-! # Earlier recordings on disk

`createWriter` looks for a path that no file has, and the writer then opens another path, the same with a
suffix for partial files. A partial file that was kept under this path is truncated, which happens exactly when
a stamp is used again of which one is left (`Reuses`). Nothing else that the recorder does touches a file that
was there before: `Spares` says so of the core, and it is lasting.
-/

namespace VoxMesh.Media

open VoxMesh.Audio

namespace Disk

variable {before disk after : Disk} {path : String}

/-- Every file of the first disk is on the second, unchanged. -/
def Keeps (before after : Disk) : Prop := ∀ path file, before.find? path = some file → after.find? path = some file

theorem Keeps.of_elsewhere (keeps : before.Keeps disk) (free : before.find? path = none)
    (elsewhere : ∀ other, other ≠ path → after.find? other = disk.find? other) : before.Keeps after := by
  intro other file found
  have apart : other ≠ path := by
    rintro rfl
    exact absurd (found.symm.trans free) nofun
  rw [elsewhere other apart, keeps other file found]

theorem Keeps.free (keeps : before.Keeps disk) (free : disk.holds path = false) : before.find? path = none := by
  cases found : before.find? path with
  | none => rfl
  | some file =>
    rw [holds, keeps path file found] at free
    contradiction

theorem find?_rename {source target other : String} (apart : other ≠ source) (away : other ≠ target) :
    (disk.rename source target).find? other = disk.find? other := by
  rw [rename]
  split
  next => rw [find?_put, if_neg away, find?_remove, if_neg apart]
  next => rfl

theorem mem_of_holds (held : disk.holds path = true) : path ∈ disk.files.map Prod.fst := by
  rw [holds, find?, List.lookup_isSome_iff] at held
  obtain ⟨entry, member, same⟩ := held
  exact List.mem_map.mpr ⟨entry, member, (beq_iff_eq.mp same).symm⟩

end Disk

namespace FfmpegRecordingWriter

theorem calls_succ (count : ℕ) (io : Io) : (io.calls (count + 1)).1 =
    ((io.calls count).1 && (io.calls count).2.call.1) := by
  induction count generalizing io with
  | zero =>
    conv_lhs => rw [Io.calls]
    change _ = (true && io.call.1)
    rcases io.call with ⟨_ | _, io'⟩ <;> rfl
  | succ count ih =>
    rw [Io.calls, Io.calls]
    rcases io.call with ⟨_ | _, io'⟩
    · rfl
    · exact ih io'

/-- `create` gets as far as opening the partial file for writing. -/
def Truncates (config : RecordingWriterConfig) (io : Io) : Prop :=
  (config.outputFile.isEmpty || config.tracks.isEmpty || !config.tracks.all (accepts ·.format)) = false ∧
    (io.calls (1 + config.tracks.length * openTrackCalls + 1 + 1)).1 = true

instance (config : RecordingWriterConfig) (io : Io) : Decidable (Truncates config io) :=
  inferInstanceAs (Decidable (_ ∧ _))

/-- Otherwise it fails and leaves every file alone. -/
theorem create_untouched {config : RecordingWriterConfig} {frameSize : ℕ} {io : Io}
    (stopped : ¬ Truncates config io) : (∀ writer, (create config frameSize io).1 ≠ .ok writer) ∧
      (create config frameSize io).2.disk = io.disk := by
  rw [create]
  split
  next => exact ⟨by rintro writer ⟨⟩, rfl⟩
  next valid =>
    have called := io.calls_disk (1 + config.tracks.length * openTrackCalls + 1)
    split
    next io₁ failed =>
      rw [failed] at called
      exact ⟨by rintro writer ⟨⟩, called⟩
    next io₁ passed =>
      rw [passed] at called
      have refused : io₁.call.1 = false := by
        rw [Truncates, calls_succ, passed, not_and] at stopped
        simpa using stopped (Bool.eq_false_iff.mpr valid)
      have same := io₁.call_disk
      rw [openPartial]
      split
      next io₂ failed =>
        rw [failed] at same
        exact ⟨by rintro writer ⟨⟩, same.trans called⟩
      next io₂ passed' =>
        rw [passed'] at refused
        contradiction

theorem abort_elsewhere (writer : FfmpegRecordingWriter) (io : Io) {other : String}
    (apart : other ≠ writer.partialPath) : (writer.abort io).2.disk.find? other = io.disk.find? other := by
  rw [abort]
  split
  · exact (io.disk.find?_remove _ _).trans (if_neg apart)
  · exact (io.disk.find?_remove _ _).trans (if_neg apart)
  · rfl

end FfmpegRecordingWriter

end VoxMesh.Media

namespace VoxMesh.App

open VoxMesh.Audio VoxMesh.Media VoxMesh.Dsp Machine

/-- The files of the given disk are all there, and the writer writes to none of them. -/
structure Spares (before : Disk) (core : Core) : Prop where
  files : before.Keeps core.disk
  apart : ∀ writer, core.writer = some writer →
    before.find? writer.partialPath = none ∧ before.find? writer.config.outputFile = none

namespace Spares

variable {before : Disk} {recorder next : Recorder}

theorem congr {core after : Core} (spares : Spares before core) (disk : after.disk = core.disk)
    (writer : ∀ new, after.writer = some new → core.writer = some new) : Spares before after :=
  ⟨disk ▸ spares.files, fun new present => spares.apart new (writer new present)⟩

theorem writeAligned (spares : Spares before recorder.core) (writerTrack : ℤ) (aligned : List AlignedFrame)
    (answers : List FfmpegAnswer) : Spares before (recorder.writeAligned writerTrack aligned answers).1.core := by
  rw [Recorder.writeAligned]
  split
  next => exact spares
  next writer present =>
    split
    next => exact spares
    next =>
      obtain ⟨partialFree, outputFree⟩ := spares.apart writer present
      obtain ⟨same, writes⟩ := writeAll_sameFile writerTrack.toNat writer aligned ⟨recorder.disk, answers⟩
      refine ⟨spares.files.of_elsewhere partialFree writes.elsewhere, ?_⟩
      rintro after ⟨⟩
      rw [same.partialPath, same.config]
      exact ⟨partialFree, outputFree⟩

theorem drainFrame {track : Track} {answers rest : List FfmpegAnswer}
    (passed : recorder.drainFrame track answers = some (next, rest)) (spares : Spares before recorder.core) :
    Spares before next.core := by
  obtain ⟨pipeline, frame, present, -, same⟩ := Recorder.drainFrame_eq_some passed
  have uploaded : Spares before ((recorder.popFrame track (Recorder.aligned pipeline frame) frame
      (pipeline.synchronizer.process .machine frame).2).uploadAligned pipeline.feedsSttStream
        (pipeline.synchronizer.process .machine frame).2).core := by
    unfold Recorder.uploadAligned
    split <;> exact spares.congr rfl fun _ present => present
  have written := uploaded.writeAligned pipeline.writerTrack (pipeline.synchronizer.process .machine frame).2 answers
  rwa [same] at written

theorem abortWriter (spares : Spares before recorder.core) : Spares before recorder.abortWriter.core := by
  unfold Recorder.abortWriter
  split
  next => exact spares
  next writer present =>
    obtain ⟨partialFree, -⟩ := spares.apart writer present
    exact ⟨spares.files.of_elsewhere partialFree fun other => writer.abort_elsewhere ⟨recorder.disk, []⟩, nofun⟩

theorem finishWriter (spares : Spares before recorder.core) (finalized : List FfmpegAnswer) (renamed : Bool) :
    Spares before (recorder.finishWriter finalized renamed).2.core := by
  unfold Recorder.finishWriter
  split
  next => exact spares
  next writer present =>
    obtain ⟨partialFree, outputFree⟩ := spares.apart writer present
    split
    next => exact spares.congr rfl nofun
    next =>
      split
      next => exact spares.abortWriter
      next =>
        rcases writer.finalize_cases ⟨recorder.disk, finalized⟩ renamed with
          ⟨-, same⟩ | ⟨tracks, io, -, writes, same⟩ | ⟨io, disk, -, writes, last, -, same⟩
        · rw [same]
          exact spares.congr rfl nofun
        · rw [same]
          exact ⟨spares.files.of_elsewhere partialFree writes.elsewhere, nofun⟩
        · rw [same]
          have flushed := spares.files.of_elsewhere partialFree writes.elsewhere
          refine ⟨fun path file found => ?_, nofun⟩
          have away : path ≠ writer.partialPath ∧ path ≠ writer.config.outputFile := by
            constructor
            · rintro rfl
              exact absurd (found.symm.trans partialFree) nofun
            · rintro rfl
              exact absurd (found.symm.trans outputFree) nofun
          change io.disk.find? path = some file
          rw [last, Disk.find?_rename away.1 away.2]
          exact flushed path file found

/-- Only a new writer can touch files that were there before. -/
theorem lasting (before : Disk) : Lasting (Spares before) where
  capture captured spares := by
    obtain ⟨pipeline, -, -, rfl⟩ := Recorder.capture_eq_some captured
    exact spares.congr rfl fun _ present => present
  captureOpening captured spares := by
    obtain ⟨line, -, rfl⟩ := Recorder.captureOpening_eq_some captured
    exact spares.congr rfl fun _ present => present
  drainFrame passed spares := spares.drainFrame passed
  closePipelines _ _ spares := spares.congr rfl fun _ present => present
  openStream _ _ spares := spares.congr rfl fun _ present => present
  register recorder track feeds spares := by
    rw [Recorder.register]
    split
    next => exact spares
    next => exact spares.congr rfl fun _ present => present
  stopStream recorder track spares := by
    rw [Recorder.stopStream]
    split
    next => exact spares
    next => exact spares.congr rfl fun _ present => present
  abortWriter _ spares := spares.abortWriter
  finishWriter _ finalized renamed spares := spares.finishWriter finalized renamed
  installStt _ _ _ _ _ _ _ spares := spares.congr rfl fun _ present => present
  removeStt _ spares := spares.congr rfl fun _ present => present

end Spares

namespace Recorder

/-- While the search finds nothing free, every path it could have taken is in use. -/
theorem holds_of_firstFree {disk : Disk} {path : ℕ → String} {fuel suffix : ℕ}
    (held : disk.holds (firstFree disk path fuel suffix) = true) :
    ∀ i ≤ fuel, disk.holds (path (suffix + i)) = true := by
  induction fuel generalizing suffix with
  | zero =>
    intro i bound
    obtain rfl := Nat.le_zero.mp bound
    exact held
  | succ fuel ih =>
    rw [firstFree] at held
    split at held
    next taken =>
      intro i bound
      cases i with
      | zero => exact taken
      | succ i =>
        rw [← Nat.add_assoc, Nat.add_right_comm]
        exact ih held i (Nat.le_of_succ_le_succ bound)
    next free => exact absurd held free

/-- One more path than there are files: one of them is free. -/
theorem firstFree_free {disk : Disk} {path : ℕ → String} (apart : Function.Injective path) (suffix : ℕ) :
    disk.holds (firstFree disk path disk.files.length suffix) = false := by
  by_contra held
  rw [Bool.not_eq_false] at held
  have all := holds_of_firstFree held
  have nodup : ((List.range (disk.files.length + 1)).map fun i => path (suffix + i)).Nodup :=
    List.nodup_range.map fun i j same => Nat.add_left_cancel (apart same)
  have inside : (List.range (disk.files.length + 1)).map (fun i => path (suffix + i)) ⊆ disk.files.map Prod.fst := by
    intro name member
    obtain ⟨i, bound, rfl⟩ := List.mem_map.mp member
    exact Disk.mem_of_holds (all i (Nat.lt_succ_iff.mp (List.mem_range.mp bound)))
  have count := (nodup.subperm inside).length_le
  simp at count

/-- The path of the next recording is free. -/
theorem candidate_free (disk : Disk) (folder stamp extension : String) :
    disk.holds (candidate disk folder stamp extension) = false := by
  rw [candidate]
  split
  next =>
    apply firstFree_free
    intro i j same
    have digits := congrArg String.toList ((String.append_right_inj _).mp ((String.append_left_inj _).mp same))
    rw [Nat.toString_eq_repr, Nat.toString_eq_repr, Nat.toList_repr, Nat.toList_repr] at digits
    have back := congrArg (Nat.ofDigitChars 10 · 0) digits
    simpa only [Nat.ofDigitChars_ten_toDigits] using back
  next free => exact Bool.eq_false_iff.mpr free

/-- A recording with that stamp has left its partial file, under the first path that no final file has. -/
def Leftover (folder stamp extension : String) (disk : Disk) : Prop :=
  ∃ i, (∀ j < i, disk.holds (recordingPath folder stamp extension j) = true) ∧
    disk.holds (recordingPath folder stamp extension i) = false ∧
    disk.holds (recordingPath folder stamp extension i ++ ".partial") = true

/-- Then the partial file of the next recording is this one. -/
theorem leftover_iff (disk : Disk) (folder stamp extension : String) : Leftover folder stamp extension disk ↔
    disk.holds (candidate disk folder stamp extension ++ ".partial") = true := by
  obtain ⟨first, same, before⟩ := candidate_eq disk folder stamp extension
  have free := candidate_free disk folder stamp extension
  rw [same] at free ⊢
  constructor
  · rintro ⟨i, taken, unused, kept⟩
    rcases Nat.lt_trichotomy i first with less | rfl | more
    · exact absurd ((before i less).symm.trans unused) nofun
    · exact kept
    · exact absurd ((taken first more).symm.trans free) nofun
  · exact fun kept => ⟨first, before, free, kept⟩

instance (folder stamp extension : String) (disk : Disk) : Decidable (Leftover folder stamp extension disk) :=
  decidable_of_iff' _ (leftover_iff disk folder stamp extension)

/-- The configuration that `createWriter` makes. -/
def writerConfig (recorder : Recorder) (answers : FileAnswers) : RecordingWriterConfig :=
  let tracks := RecorderController.trackConfigs recorder.controller.isSelected
  ⟨candidate recorder.disk (answers.folder recorder.controller.outputDirectory) answers.stamp
    (extensionOf tracks.length), tracks⟩

/-- `createWriter` opens a partial file that is there already. -/
def Clobbers (recorder : Recorder) (answers : FileAnswers) : Prop :=
  answers.directoryCreated = true ∧
    FfmpegRecordingWriter.Truncates (recorder.writerConfig answers) ⟨recorder.disk, answers.opened⟩ ∧
    recorder.disk.holds ((recorder.writerConfig answers).outputFile ++ ".partial") = true

/-- There is a track to record, and the directory and FFmpeg's answers up to the opening of the partial file are
such that it is opened. -/
def OpensFile (recorder : Recorder) (answers : FileAnswers) : Prop :=
  let tracks := RecorderController.trackConfigs recorder.controller.isSelected
  answers.directoryCreated = true ∧ tracks ≠ [] ∧
    (Io.calls (1 + tracks.length * FfmpegRecordingWriter.openTrackCalls + 1 + 1)
      ⟨recorder.disk, answers.opened⟩).1 = true

instance (recorder : Recorder) (answers : FileAnswers) : Decidable (recorder.OpensFile answers) :=
  inferInstanceAs (Decidable (_ ∧ _ ∧ _))

theorem clobbers_iff (recorder : Recorder) (answers : FileAnswers) : recorder.Clobbers answers ↔
    recorder.OpensFile answers ∧ Leftover (answers.folder recorder.controller.outputDirectory) answers.stamp
      (extensionOf (RecorderController.trackConfigs recorder.controller.isSelected).length) recorder.disk := by
  have named : (recorder.writerConfig answers).outputFile.isEmpty = false :=
    Bool.eq_false_iff.mpr fun empty => candidate_ne_empty _ _ _ _ (String.isEmpty_iff.mp empty)
  have valid : (recorder.writerConfig answers).tracks.all (FfmpegRecordingWriter.accepts ·.format) = true :=
    RecorderController.trackConfigs_all _
  rw [leftover_iff, Clobbers, OpensFile, FfmpegRecordingWriter.Truncates, named, valid, Bool.false_or, Bool.not_true,
    Bool.or_false, List.isEmpty_eq_false_iff, and_assoc, and_assoc, and_assoc]
  rfl

/-- The recorder once it knows some devices. -/
def knowing (recorder : Recorder) (found : List AudioDeviceInfo) : Recorder :=
  if (recorder.controller.devices .microphone).isEmpty && (recorder.controller.devices .systemOutput).isEmpty then
    recorder.setController (·.setDevices found)
  else recorder

/-- A start whose new partial file is a file of an earlier recording. -/
def Reopens (recorder : Recorder) (label : Label) : Prop :=
  ∃ answers agenda, label = .operation (.start answers) agenda ∧ recorder.controller.session = .idle ∧
    (recorder.knowing answers.devices).Clobbers answers.file

/-- A start that records into the folder under a stamp of which a partial file is left. -/
def Reuses (folder : String) (recorder : Recorder) (label : Label) : Prop :=
  ∃ answers agenda, label = .operation (.start answers) agenda ∧ recorder.controller.session = .idle ∧
    (recorder.knowing answers.devices).OpensFile answers.file ∧
    Leftover folder answers.file.stamp
      (extensionOf (RecorderController.trackConfigs (recorder.knowing answers.devices).controller.isSelected).length)
      recorder.disk

/-- Recordings go into the folder. -/
def SavesInto (folder : String) (recorder : Recorder) (label : Label) : Prop :=
  ∀ answers agenda, label = .operation (.start answers) agenda →
    answers.file.folder recorder.controller.outputDirectory = folder

theorem reopens_iff {folder : String} {recorder : Recorder} {label : Label} (into : recorder.SavesInto folder label) :
    recorder.Reopens label ↔ recorder.Reuses folder label := by
  refine exists_congr fun answers => exists_congr fun agenda => and_congr_right fun same => and_congr_right fun _ => ?_
  have here := into answers agenda same
  have kept : (recorder.knowing answers.devices).controller.outputDirectory = recorder.controller.outputDirectory ∧
      (recorder.knowing answers.devices).disk = recorder.disk := by
    rw [knowing]
    split <;> exact ⟨rfl, rfl⟩
  rw [clobbers_iff, kept.1, kept.2, here]

end Recorder

section Start

open Thread Ui RecorderController

variable {before : Disk}

/-- A file path that `createWriter` chooses is free, and so, unless it clobbers a file, is the partial file's. -/
theorem createWriter_spares (answers : FileAnswers) :
    Ensures (fun recorder => Spares before recorder.core ∧ ¬ recorder.Clobbers answers) (createWriter answers)
      fun _ recorder => Spares before recorder.core := by
  have lasting := Spares.lasting before
  refine Ensures.bind (Q := fun _ recorder => Spares before recorder.core ∧ ¬ recorder.Clobbers answers)
    (Ensures.update fun recorder holds => holds) fun _ => ?_
  refine Ensures.ite (fun _ => ?_) fun created => ?_
  · exact ((Flowing.fail _).conseq (fun _ => And.left) fun _ _ spares => spares).bind fun _ =>
      Ensures.pure _ fun _ spares => spares
  have granted : answers.directoryCreated = true := by simpa using created
  refine (Ensures.read _).bind fun tracks => (Ensures.read _).bind fun directory => (Ensures.read _).bind fun path => ?_
  refine Ensures.bind (Q := fun result recorder => Spares before recorder.core ∧ ∀ writer, result = .ok writer →
    before.find? writer.partialPath = none ∧ before.find? writer.config.outputFile = none) (Ensures.act ?_)
    fun result => ?_
  · rintro recorder ⟨rfl, rfl, rfl, spares, unclobbered⟩
    have outputFree := spares.files.free (Recorder.candidate_free recorder.disk
      (answers.folder recorder.controller.outputDirectory) answers.stamp
      (extensionOf (trackConfigs recorder.controller.isSelected).length))
    change Spares before { recorder.core with
      disk := (FfmpegRecordingWriter.create (recorder.writerConfig answers) answers.frameSize _).2.disk } ∧ _
    by_cases truncates :
        FfmpegRecordingWriter.Truncates (recorder.writerConfig answers) ⟨recorder.disk, answers.opened⟩
    · have unheld : recorder.disk.holds ((recorder.writerConfig answers).outputFile ++ ".partial") = false :=
        Bool.eq_false_iff.mpr fun held => unclobbered ⟨granted, truncates, held⟩
      have partialFree := spares.files.free unheld
      refine ⟨⟨spares.files.of_elsewhere partialFree fun other => FfmpegRecordingWriter.create_elsewhere,
        spares.apart⟩, fun writer opened => ?_⟩
      have fresh := FfmpegRecordingWriter.create_fresh (Prod.ext opened rfl)
      rw [fresh.partialPath, fresh.configured]
      exact ⟨partialFree, outputFree⟩
    · obtain ⟨failed, untouched⟩ := FfmpegRecordingWriter.create_untouched truncates
      exact ⟨spares.congr untouched fun _ present => present, fun writer opened => absurd opened (failed writer)⟩
  cases result with
  | error error =>
    exact ((Flowing.fail _).conseq (fun _ => And.left) fun _ _ spares => spares).bind fun _ =>
      Ensures.pure _ fun _ spares => spares
  | ok writer =>
    refine Ensures.conseq (P := fun recorder => (before.find? writer.partialPath = none ∧
      before.find? writer.config.outputFile = none) ∧ Spares before recorder.core) ?_
        (fun _ holds => ⟨holds.2 writer rfl, holds.1⟩) fun _ _ spares => spares
    refine Ensures.of_fact fun free => Ensures.bind (Q := fun _ recorder => Spares before recorder.core)
      (Flowing.set fun _ => rfl) fun _ => ?_
    refine Ensures.bind (Q := fun _ recorder => Spares before recorder.core) ?_ fun _ =>
      Ensures.pure _ fun _ spares => spares
    refine Ensures.locked lasting.stable fun recorder spares _ => ⟨spares.files, ?_⟩
    rintro new ⟨⟩
    exact free

theorem start_spares (designLowPass : ℕ → ℚ → List ℚ) (answers : StartAnswers) :
    Ensures (fun recorder => Spares before recorder.core ∧
      (recorder.controller.session = .idle → ¬ (recorder.knowing answers.devices).Clobbers answers.file))
      (start designLowPass answers) fun _ recorder => Spares before recorder.core := by
  have lasting := Spares.lasting before
  refine (Ensures.read _).bind fun session => Ensures.ite (fun _ => Ensures.pure _ fun _ holds => holds.2.1)
    fun idle => ?_
  rw [not_not] at idle
  refine Ensures.bind (Q := fun _ recorder => Spares before recorder.core ∧ ¬ recorder.Clobbers answers.file) ?_
    fun _ => ?_
  · refine (Ensures.read _).bind fun unknown => Ensures.ite (fun missing => set_ensures ?_) fun known =>
      Ensures.pure _ ?_
    · rintro recorder ⟨rfl, rfl, spares, unclobbered⟩
      have clear := unclobbered idle
      rw [Recorder.knowing, if_pos missing] at clear
      exact ⟨spares, clear⟩
    · rintro recorder ⟨rfl, rfl, spares, unclobbered⟩
      have clear := unclobbered idle
      rw [Recorder.knowing, if_neg known] at clear
      exact ⟨spares, clear⟩
  refine get_any.bind fun _ => Ensures.ite (fun _ => ?_) fun _ => ?_
  · exact ((Flowing.fail _).conseq (fun _ => And.left) fun _ _ spares => spares).bind fun _ =>
      Ensures.pure _ fun _ spares => spares
  refine Ensures.bind (Q := fun _ recorder => Spares before recorder.core ∧ ¬ recorder.Clobbers answers.file)
    (set_ensures fun recorder holds => holds) fun _ => ?_
  exact lasting.startRecording (createWriter_spares answers.file) designLowPass

end Start

namespace Recorder

open Thread

variable {designLowPass : ℕ → ℚ → List ℚ} {before : Disk}

theorem step_spares {recorder next : Recorder} {label : Label} (spares : Spares before recorder.core)
    (clear : ¬ recorder.Reopens label) (taken : step designLowPass recorder label = some next) :
    Spares before next.core := by
  refine (Spares.lasting before).step (fun answers agenda result same outcome => ?_) taken spares
  exact (start_spares designLowPass answers).run outcome
    ⟨spares, fun idle clobbers => clear ⟨answers, agenda, same, idle, clobbers⟩⟩

/-- An idle recorder that finds files on its disk keeps them. -/
theorem spares_of_idle {recorder : Recorder} (settled : recorder.outline.Settled)
    (idle : recorder.controller.session = .idle) : Spares recorder.disk recorder.core := by
  refine ⟨fun _ _ found => found, fun writer present => ?_⟩
  have none := Option.map_eq_none_iff.mp (settled.released idle).writer
  exact absurd (none.symm.trans present) nofun

/-- Between two sessions: no later recording into the folder reopens a kept partial file, and every file that is on disk
stays as it is in every later state, exactly if no later recording gets a stamp of which there is a partial file. The
path chosen for a new recording is always free. -/
theorem recordings_kept (designLowPass : ℕ → ℚ → List ℚ) (outputDirectory folder : String) (disk : Disk)
    (before later : List Label) (idle last : Recorder)
    (earlier : Run (step designLowPass) { init outputDirectory with disk := disk } before idle)
    (rest : idle.controller.session = .idle) (run : Run (step designLowPass) idle later last)
    (into : Along (step designLowPass) (SavesInto folder) idle later) :
    (Along (step designLowPass) (fun recorder label => ¬ recorder.Reuses folder label) idle later ↔
      Along (step designLowPass) (fun recorder label => ¬ recorder.Reopens label) idle later ∧
        ∀ first more seen, later = first ++ more → Run (step designLowPass) idle first seen →
          idle.disk.Keeps seen.disk) ∧
      ∀ answers, last.disk.holds (last.writerConfig answers).outputFile = false := by
  have settled : idle.outline.Settled := run_settled earlier (settled_init outputDirectory)
  refine ⟨⟨fun unused => ?_, fun kept => ?_⟩, fun answers => candidate_free ..⟩
  · have clear : Along (step designLowPass) (fun recorder label => ¬ recorder.Reopens label) idle later :=
      into.imp (fun _ _ saves reuses => mt (reopens_iff saves).mp reuses) unused
    refine ⟨clear, ?_⟩
    rintro first more seen rfl begun
    exact (begun.invariant_along (I := fun recorder => Spares idle.disk recorder.core)
      (fun _ _ _ spares clear taken => step_spares spares clear taken) (Along.append_iff.mp clear).1
      (spares_of_idle settled rest)).files
  · exact into.imp (fun _ _ saves clear => mt (reopens_iff saves).mpr clear) kept.1

private def keptFrame : AudioFrame where
  sampleRate := 48000
  channels := 1
  payload := [0, 0]

private def microphoneOnly : List AudioDeviceInfo := [{ id := "m" }]

/-- A recording that cannot be renamed at its end: the partial file is kept. -/
def unrenamed : List Label :=
  [.operation (.start { devices := microphoneOnly }) [], .environment (.capture .microphone keptFrame),
    .operation (.stop { renamed := false }) []]

/-- A start at the time given. -/
def startAt (stamp : String) : List Label := [.operation (.start { file := { stamp := stamp } }) []]

/-- The partial file of the first recording. -/
def firstPartial : String := "recordings/voxmesh-.flac.partial"

/-- A second recording with the same time stamp truncates the partial file of the first. -/
theorem recordings_truncated : ¬ ∀ (designLowPass : ℕ → ℚ → List ℚ) (outputDirectory : String) (disk : Disk)
    (before later : List Label) (idle last : Recorder),
    Run (step designLowPass) { init outputDirectory with disk := disk } before idle →
      idle.controller.session = .idle → Run (step designLowPass) idle later last → idle.disk.Keeps last.disk := by
  intro always
  have outcome : (exec (step fun _ _ => []) (init "recordings") unrenamed).bind (fun idle =>
      (exec (step fun _ _ => []) idle (startAt "")).map fun last =>
        (decide (idle.controller.session = .idle), idle.disk.find? firstPartial, last.disk.find? firstPartial)) =
      some (true, some { header := true, trailer := true }, some { header := true }) := by decide +kernel
  simp only [Option.bind_eq_some_iff, Option.map_eq_some_iff, Prod.mk.injEq, decide_eq_true_eq] at outcome
  obtain ⟨idle, earlier, last, run, rest, kept, replaced⟩ := outcome
  have unchanged := always (fun _ _ => []) "recordings" {} unrenamed (startAt "") idle last earlier rest run _ _ kept
  rw [replaced] at unchanged
  exact absurd unchanged (by decide)

/-- A second later, the same start takes another file. -/
theorem recordings_kept_later : ∃ idle last : Recorder,
    last.disk.find? firstPartial = some { header := true, trailer := true } ∧
    last.disk.holds "recordings/voxmesh-later.flac.partial" = true ∧
    Along (step fun _ _ => []) (fun recorder label => ¬ recorder.Reuses "recordings/" label) idle (startAt "later") ∧
    Along (step fun _ _ => []) (fun recorder label => ¬ recorder.Reopens label) idle (startAt "later") ∧
    idle.disk.Keeps last.disk := by
  have outcome : (exec (step fun _ _ => []) (init "recordings") unrenamed).bind (fun idle =>
      (exec (step fun _ _ => []) idle (startAt "later")).map fun last =>
        ((decide (idle.controller.session = .idle), idle.controller.outputDirectory,
          decide (Leftover "recordings/" "later" ".flac" idle.disk),
          (RecorderController.trackConfigs (idle.knowing []).controller.isSelected).length),
          last.disk.find? firstPartial, last.disk.holds "recordings/voxmesh-later.flac.partial")) =
      some ((true, "recordings", false, 1), some { header := true, trailer := true }, true) := by decide +kernel
  simp only [Option.bind_eq_some_iff, Option.map_eq_some_iff, Prod.mk.injEq, decide_eq_true_eq,
    decide_eq_false_iff_not] at outcome
  obtain ⟨idle, earlier, last, run, ⟨rest, directory, unused, single⟩, kept, opened⟩ := outcome
  have into : Along (step fun _ _ => []) (SavesInto "recordings/") idle (startAt "later") := by
    refine ⟨?_, fun _ _ => trivial⟩
    intro answers agenda same
    obtain ⟨rfl, rfl⟩ : { file := { stamp := "later" } } = answers ∧ [] = agenda := by simpa using same
    rw [directory]
    rfl
  have unused : Along (step fun _ _ => []) (fun recorder label => ¬ recorder.Reuses "recordings/" label) idle
      (startAt "later") := by
    refine ⟨?_, fun _ _ => trivial⟩
    rintro ⟨answers, agenda, same, -, -, left⟩
    obtain ⟨rfl, rfl⟩ : { file := { stamp := "later" } } = answers ∧ [] = agenda := by simpa using same
    rw [single] at left
    exact unused left
  obtain ⟨clear, keeps⟩ := (recordings_kept (fun _ _ => []) "recordings" "recordings/" {} unrenamed (startAt "later")
    idle last earlier rest run into).1.mp unused
  exact ⟨idle, last, kept, opened, unused, clear, keeps _ [] last (List.append_nil _).symm run⟩

end Recorder

end VoxMesh.App
