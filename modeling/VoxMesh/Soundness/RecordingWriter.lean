import VoxMesh.Machine.Run
import VoxMesh.Proofs.RecordingFile

/-! # Atomic finalization

A writer is given any calls in any order, and any call into FFmpeg and the rename may fail. The output file
appears when `finalize` answers true, and at no other time, and then it is a complete recording; until then
the partial file is there, and only `abort` removes it. Once the writer has published or discarded its file,
no call has an effect.
-/

namespace VoxMesh.Media

open VoxMesh.Audio Machine

/-- A call on a writer, with the answer of the file system to the rename. -/
inductive WriterCall where
  | write (trackIndex : ℕ) (frame : AudioFrame)
  | finalize (renamed : Bool)
  | abort
deriving DecidableEq

/-- A writer, the files, and the calls so far with their answers; `abort` has none and is noted as true. -/
structure WriterSession where
  writer : FfmpegRecordingWriter
  io : Io
  log : List (WriterCall × Bool) := []

namespace WriterSession

def step (session : WriterSession) (call : WriterCall) : Option WriterSession :=
  match call with
  | .write trackIndex frame =>
      let (answer, writer, io) := session.writer.write trackIndex frame session.io
      some ⟨writer, io, session.log ++ [(call, answer)]⟩
  | .finalize renamed =>
      let (answer, writer, io) := session.writer.finalize renamed session.io
      some ⟨writer, io, session.log ++ [(call, answer)]⟩
  | .abort =>
      let (writer, io) := session.writer.abort session.io
      some ⟨writer, io, session.log ++ [(call, true)]⟩

/-- The destructor. -/
def destroy (session : WriterSession) : WriterSession := { session with writer := session.writer.cleanup }

/-- A `finalize` that answered true. -/
def isPublication : WriterCall × Bool → Bool
  | (.finalize _, answer) => answer
  | _ => false

def Published (session : WriterSession) : Prop := ∃ entry ∈ session.log, isPublication entry = true

def Aborted (session : WriterSession) : Prop := (.abort, true) ∈ session.log

/-- A `write` or a `finalize` that answered true. -/
def isSuccess : WriterCall × Bool → Bool
  | (.abort, _) => false
  | (_, answer) => answer

/-- What a session has done to the files by any point in time. -/
structure Atomic (config : RecordingWriterConfig) (before : Disk) (session : WriterSession) : Prop where
  untouched : ¬ session.Published → session.io.disk.find? config.outputFile = before.find? config.outputFile
  kept : ¬ session.Published → ¬ session.Aborted → session.io.disk.holds (config.outputFile ++ ".partial") = true
  removed : ¬ session.Published → session.Aborted → session.io.disk.holds (config.outputFile ++ ".partial") = false
  present : session.Published →
    ∃ file, session.io.disk.find? config.outputFile = some file ∧ file.Complete config.tracks.length
  once : session.log.countP isPublication ≤ 1

/-- Nothing more happens to the files, and no call succeeds. -/
structure Settled (earlier session : WriterSession) : Prop where
  disk : session.io.disk = earlier.io.disk
  refused : ∃ later, session.log = earlier.log ++ later ∧ ∀ entry ∈ later, isSuccess entry = false

/-- The writer's state and the log agree, and the files are as they should be. -/
structure Consistent (config : RecordingWriterConfig) (before : Disk) (session : WriterSession) : Prop where
  configured : session.writer.config = config
  partialPath : session.writer.partialPath = config.outputFile ++ ".partial"
  live : session.writer.Live ↔ ¬ session.Published ∧ ¬ session.Aborted
  closed : session.writer.state ≠ .closed
  onFile : session.writer.state = .opened → session.writer.OnHeadedFile session.io.disk
  atomic : session.Atomic config before

section Step

variable {config : RecordingWriterConfig} {before : Disk} {session next : WriterSession} {call : WriterCall}

theorem published_snoc {writer : FfmpegRecordingWriter} {io : Io} {entry : WriterCall × Bool} :
    Published ⟨writer, io, session.log ++ [entry]⟩ ↔ session.Published ∨ isPublication entry = true := by
  simp [Published, or_and_right, exists_or]

theorem aborted_snoc {writer : FfmpegRecordingWriter} {io : Io} {entry : WriterCall × Bool} :
    Aborted ⟨writer, io, session.log ++ [entry]⟩ ↔ session.Aborted ∨ entry = (.abort, true) := by
  simp [Aborted, eq_comm]

/-- A refused call leaves the writer on its file. -/
private theorem Consistent.relabelled (consistent : session.Consistent config before) {error : RecordingWriterError}
    (opened : { session.writer with lastError := error }.state = .opened) :
    { session.writer with lastError := error }.OnHeadedFile session.io.disk :=
  ⟨(consistent.onFile opened).states, (consistent.onFile opened).headed⟩

/-- A call that neither publishes nor discards keeps everything; once the writer is no longer live, it must not
do anything. -/
private theorem Consistent.unpublished (consistent : session.Consistent config before)
    {writer : FfmpegRecordingWriter} {io : Io} {entry : WriterCall × Bool}
    (sameFile : session.writer.SameFile writer) (state : writer.Live → session.writer.Live)
    (closed : writer.state ≠ .closed) (onFile : writer.state = .opened → writer.OnHeadedFile io.disk)
    (writes : session.io.disk.Writes session.writer.partialPath io.disk)
    (idle : ¬ session.writer.Live → io.disk = session.io.disk) (unpublished : isPublication entry = false)
    (unaborted : entry ≠ (.abort, true)) :
    Consistent config before ⟨writer, io, session.log ++ [entry]⟩ := by
  have published : Published ⟨writer, io, session.log ++ [entry]⟩ ↔ session.Published := by
    rw [published_snoc, unpublished]
    simp
  have aborted : Aborted ⟨writer, io, session.log ++ [entry]⟩ ↔ session.Aborted := by
    rw [aborted_snoc]
    simp [unaborted]
  rw [consistent.partialPath] at writes
  refine ⟨sameFile.config.trans consistent.configured, sameFile.partialPath.trans consistent.partialPath, ?_, closed,
    onFile, ?_⟩
  · rw [published, aborted, ← consistent.live]
    exact ⟨state, sameFile.live⟩
  · have atomic := consistent.atomic
    constructor
    · intro still
      exact (writes.elsewhere _ (FfmpegRecordingWriter.suffixed_ne config.outputFile).symm).trans
        (atomic.untouched (published.not.mp still))
    · intro still unaborted
      exact writes.kept (atomic.kept (published.not.mp still) (aborted.not.mp unaborted))
    · intro still gone
      have ended : ¬ session.writer.Live := fun live => (consistent.live.mp live).2 (aborted.mp gone)
      change io.disk.holds _ = false
      rw [idle ended]
      exact atomic.removed (published.not.mp still) (aborted.mp gone)
    · intro done
      have ended : ¬ session.writer.Live := fun live => (consistent.live.mp live).1 (published.mp done)
      change ∃ file, io.disk.find? _ = some file ∧ _
      rw [idle ended]
      exact atomic.present (published.mp done)
    · change (session.log ++ [entry]).countP isPublication ≤ 1
      rw [List.countP_append, List.countP_singleton, unpublished]
      exact atomic.once

private theorem step_write (consistent : session.Consistent config before) (trackIndex : ℕ) (frame : AudioFrame)
    (taken : session.step (.write trackIndex frame) = some next) : next.Consistent config before := by
  rcases session.writer.write_cases trackIndex frame session.io with
    ⟨_, same⟩ | ⟨_, _, opened, writes, same⟩ | ⟨_, _, _, opened, writes, same⟩
  · rw [step, same] at taken
    obtain rfl := Option.some.inj taken
    exact consistent.unpublished ⟨rfl, rfl, id⟩ id consistent.closed consistent.relabelled (.refl _ _) (fun _ => rfl)
      rfl nofun
  · rw [step, same] at taken
    obtain rfl := Option.some.inj taken
    exact consistent.unpublished ⟨rfl, rfl, fun _ => .inr rfl⟩ (fun _ => .inl opened) nofun nofun writes
      (fun ended => absurd (.inl opened) ended) rfl nofun
  · have onFile := (consistent.onFile opened).write trackIndex frame
    rw [step, same] at taken
    obtain rfl := Option.some.inj taken
    rw [same] at onFile
    exact consistent.unpublished ⟨rfl, rfl, id⟩ id consistent.closed (fun _ => onFile) writes
      (fun ended => absurd (.inl opened) ended) rfl nofun

private theorem step_finalize (consistent : session.Consistent config before) (renamed : Bool)
    (taken : session.step (.finalize renamed) = some next) : next.Consistent config before := by
  rcases session.writer.finalize_cases session.io renamed with
    ⟨_, same⟩ | ⟨_, _, opened, writes, same⟩ | ⟨io, _, opened, _, _, _, same⟩
  · rw [step, same] at taken
    obtain rfl := Option.some.inj taken
    exact consistent.unpublished ⟨rfl, rfl, id⟩ id consistent.closed consistent.relabelled (.refl _ _) (fun _ => rfl)
      rfl nofun
  · rw [step, same] at taken
    obtain rfl := Option.some.inj taken
    exact consistent.unpublished ⟨rfl, rfl, fun _ => .inr rfl⟩ (fun _ => .inl opened) nofun nofun writes
      (fun ended => absurd (.inl opened) ended) rfl nofun
  · rw [step, same] at taken
    obtain rfl := Option.some.inj taken
    obtain ⟨unpublished, -⟩ := consistent.live.mp (.inl opened)
    have complete := FfmpegRecordingWriter.finalize_complete (consistent.onFile opened) same
    rw [consistent.configured] at complete
    have none : session.log.countP isPublication = 0 :=
      List.countP_eq_zero.mpr fun entry member published => unpublished ⟨entry, member, published⟩
    have published : Published ⟨{ session.writer with state := .finalized, tracks := [] }, io,
        session.log ++ [(WriterCall.finalize renamed, true)]⟩ := published_snoc.mpr (.inr rfl)
    refine ⟨consistent.configured, consistent.partialPath, ⟨?_, fun both => absurd published both.1⟩, nofun, nofun, ?_⟩
    · rintro (opened | failed) <;> contradiction
    · refine ⟨absurd published, fun still => absurd published still, fun still => absurd published still,
        fun _ => complete, ?_⟩
      · change (session.log ++ [(WriterCall.finalize renamed, true)]).countP isPublication ≤ 1
        rw [List.countP_append, none]
        exact le_refl 1

/-- An `abort` of a live writer. -/
private theorem step_abort_of_live (consistent : session.Consistent config before) (live : session.writer.Live)
    (taken : session.step .abort = some next) : next.Consistent config before := by
  obtain ⟨unpublished, unaborted⟩ := consistent.live.mp live
  rw [step, session.writer.abort_of_live session.io live, consistent.partialPath] at taken
  obtain rfl := Option.some.inj taken
  have atomic := consistent.atomic
  have still (writer : FfmpegRecordingWriter) (io : Io) :
      ¬ Published ⟨writer, io, session.log ++ [(.abort, true)]⟩ := by
    rw [published_snoc]
    exact not_or.mpr ⟨unpublished, nofun⟩
  have gone (writer : FfmpegRecordingWriter) (io : Io) : Aborted ⟨writer, io, session.log ++ [(.abort, true)]⟩ :=
    aborted_snoc.mpr (.inr rfl)
  refine ⟨consistent.configured, rfl, ⟨?_, fun both => absurd (gone _ _) both.2⟩, nofun, nofun, ?_⟩
  · rintro (opened | failed) <;> contradiction
  · refine ⟨fun _ => ?_, fun _ kept => absurd (gone _ _) kept, fun _ _ => ?_, fun done => absurd done (still _ _), ?_⟩
    · change (session.io.disk.remove _).find? _ = _
      rw [Disk.find?_remove, if_neg (FfmpegRecordingWriter.suffixed_ne config.outputFile).symm]
      exact atomic.untouched unpublished
    · change (session.io.disk.remove _).holds _ = false
      rw [Bool.eq_false_iff, ne_eq, Disk.holds_remove]
      exact fun kept => kept.1 rfl
    · change (session.log ++ [(WriterCall.abort, true)]).countP isPublication ≤ 1
      rw [List.countP_append]
      exact atomic.once

/-- An `abort` after the writer has published or discarded its file. -/
private theorem step_abort_of_ended (consistent : session.Consistent config before) (ended : ¬ session.writer.Live)
    (taken : session.step .abort = some next) : next.Consistent config before := by
  have atomic := consistent.atomic
  have idle := session.writer.abort_of_ended session.io consistent.closed ended
  rw [step, idle] at taken
  obtain rfl := Option.some.inj taken
  have published : Published ⟨session.writer.cleanup, session.io, session.log ++ [(.abort, true)]⟩ ↔
      session.Published := by
    rw [published_snoc]
    simp [isPublication]
  have aborted : Aborted ⟨session.writer.cleanup, session.io, session.log ++ [(.abort, true)]⟩ :=
    aborted_snoc.mpr (.inr rfl)
  refine ⟨consistent.configured, consistent.partialPath, ⟨fun live => absurd live ended, fun both =>
    absurd aborted both.2⟩, consistent.closed, fun opened => absurd (.inl opened) ended, ?_⟩
  constructor
  · exact fun still => atomic.untouched (published.not.mp still)
  · exact fun _ still => absurd aborted still
  · intro still _
    by_cases earlier : session.Aborted
    · exact atomic.removed (published.not.mp still) earlier
    · exact absurd (consistent.live.mpr ⟨published.not.mp still, earlier⟩) ended
  · exact fun done => atomic.present (published.mp done)
  · change (session.log ++ [(WriterCall.abort, true)]).countP isPublication ≤ 1
    rw [List.countP_append]
    exact atomic.once

/-- One call keeps the session consistent. -/
theorem step_consistent (consistent : session.Consistent config before) (taken : session.step call = some next) :
    next.Consistent config before := by
  cases call with
  | write trackIndex frame => exact step_write consistent trackIndex frame taken
  | finalize renamed => exact step_finalize consistent renamed taken
  | abort =>
    by_cases live : session.writer.Live
    · exact step_abort_of_live consistent live taken
    · exact step_abort_of_ended consistent live taken

/-- When the writer is not live, a call changes no file and does not succeed. -/
theorem step_settled (closed : session.writer.state ≠ .closed) (ended : ¬ session.writer.Live)
    (taken : session.step call = some next) : Settled session next ∧ next.writer.state = session.writer.state := by
  have unopened : session.writer.state ≠ .opened := fun opened => ended (.inl opened)
  cases call with
  | write trackIndex frame =>
    rcases session.writer.write_cases trackIndex frame session.io with
      ⟨_, same⟩ | ⟨_, _, opened, _⟩ | ⟨_, _, _, opened, _⟩
    · rw [step, same] at taken
      obtain rfl := Option.some.inj taken
      exact ⟨⟨rfl, _, rfl, by simp [isSuccess]⟩, rfl⟩
    · contradiction
    · contradiction
  | finalize renamed =>
    rcases session.writer.finalize_cases session.io renamed with ⟨_, same⟩ | ⟨_, _, opened, _⟩ | ⟨_, _, opened, _⟩
    · rw [step, same] at taken
      obtain rfl := Option.some.inj taken
      exact ⟨⟨rfl, _, rfl, by simp [isSuccess]⟩, rfl⟩
    · contradiction
    · contradiction
  | abort =>
    rw [step, session.writer.abort_of_ended session.io closed ended] at taken
    obtain rfl := Option.some.inj taken
    exact ⟨⟨rfl, _, rfl, by simp [isSuccess]⟩, rfl⟩

private theorem Settled.refl (session : WriterSession) : session.Settled session := ⟨rfl, [], by simp⟩

private theorem Settled.trans {first second third : WriterSession} (left : first.Settled second)
    (right : second.Settled third) : first.Settled third := by
  obtain ⟨early, log, refused⟩ := left.refused
  obtain ⟨late, log', refused'⟩ := right.refused
  refine ⟨right.disk.trans left.disk, early ++ late, by rw [log', log, List.append_assoc], fun entry member => ?_⟩
  exact (List.mem_append.mp member).elim (refused entry) (refused' entry)

/-- Nor do all later calls. -/
theorem run_settled {later : List WriterCall} {last : WriterSession} (closed : session.writer.state ≠ .closed)
    (ended : ¬ session.writer.Live) (run : Run step session later last) : Settled session last := by
  refine (run.invariant (I := fun s => Settled session s ∧ s.writer.state = session.writer.state) ?_
    ⟨.refl session, rfl⟩).1
  rintro s call t ⟨settled, same⟩ taken
  have stillOver : ¬ s.writer.Live := by rwa [FfmpegRecordingWriter.Live, same]
  obtain ⟨step, still⟩ := step_settled (same ▸ closed) stillOver taken
  exact ⟨settled.trans step, still.trans same⟩

end Step

section Fresh

variable {config : RecordingWriterConfig} {frameSize : ℕ} {io opened : Io} {writer : FfmpegRecordingWriter}

private theorem consistent_of_create
    (created : FfmpegRecordingWriter.create config frameSize io = (.ok writer, opened)) :
    Consistent config io.disk ⟨writer, opened, []⟩ := by
  have fresh := FfmpegRecordingWriter.create_fresh created
  have elsewhere : (FfmpegRecordingWriter.create config frameSize io).2.disk.find? config.outputFile =
      io.disk.find? config.outputFile :=
    FfmpegRecordingWriter.create_elsewhere (FfmpegRecordingWriter.suffixed_ne config.outputFile).symm
  rw [created] at elsewhere
  have unpublished : ¬ Published ⟨writer, opened, []⟩ := by simp [Published]
  have unaborted : ¬ Aborted ⟨writer, opened, []⟩ := by simp [Aborted]
  refine ⟨fresh.configured, fresh.partialPath, ⟨fun _ => ⟨unpublished, unaborted⟩, fun _ => .inl fresh.opened⟩, ?_,
    fun _ => FfmpegRecordingWriter.create_headed created, ?_⟩
  · rw [fresh.opened]
    nofun
  · refine ⟨fun _ => elsewhere, fun _ _ => ?_, fun _ gone => absurd gone unaborted, fun done => absurd done unpublished,
      Nat.zero_le 1⟩
    rw [← fresh.partialPath]
    exact fresh.held

end Fresh

/-- Any calls on a new writer, under any failures, and its destruction at any point: the files are as they
should be, and once the output is published or discarded nothing changes any more. -/
theorem finalization_atomic (config : RecordingWriterConfig) (frameSize : ℕ) (io opened : Io)
    (writer : FfmpegRecordingWriter) (calls later : List WriterCall) (session last : WriterSession)
    (created : FfmpegRecordingWriter.create config frameSize io = (.ok writer, opened))
    (run : Run step ⟨writer, opened, []⟩ calls session) (more : Run step session later last) :
    session.Atomic config io.disk ∧ session.destroy.Atomic config io.disk ∧
      (session.Published ∨ session.Aborted → Settled session last ∧ Settled session last.destroy) := by
  have consistent : session.Consistent config io.disk :=
    run.invariant (fun _ _ _ holds taken => step_consistent holds taken) (consistent_of_create created)
  have atomic := consistent.atomic
  refine ⟨atomic, ⟨atomic.untouched, atomic.kept, atomic.removed, atomic.present, atomic.once⟩, fun ended => ?_⟩
  have dead : ¬ session.writer.Live := fun live => ended.elim (consistent.live.mp live).1 (consistent.live.mp live).2
  have settled := run_settled consistent.closed dead more
  exact ⟨settled, ⟨settled.disk, settled.refused⟩⟩

private def singleTrack : RecordingWriterConfig where
  outputFile := "recording.flac"
  tracks := [{ format := { format := .pcmS16Le } }]

private def threeChunks : WriterCall := .write 0 { sampleRate := 48000, channels := 1, payload := List.replicate 10 0 }

-- The calls that open the writer use up all answers but those for the first chunk.
private def onePacketReleased : Io := ⟨⟨[]⟩, List.replicate 18 .ok⟩

private def answersAndFile (session : WriterSession) : List Bool × Option MediaFile :=
  (session.log.map Prod.snd, session.io.disk.find? singleTrack.outputFile)

private theorem singleTrack_run (calls : List WriterCall) (seen : List Bool × Option MediaFile)
    (outcome : (match FfmpegRecordingWriter.create singleTrack 2 onePacketReleased with
      | (.ok writer, opened) => (exec step ⟨writer, opened, []⟩ calls).map answersAndFile
      | (.error _, _) => none) = some seen) :
    ∃ opened writer session, FfmpegRecordingWriter.create singleTrack 2 onePacketReleased = (.ok writer, opened) ∧
      Run step ⟨writer, opened, []⟩ calls session ∧ answersAndFile session = seen := by
  split at outcome
  next writer opened created =>
    obtain ⟨session, run, answered⟩ := Option.map_eq_some_iff.mp outcome
    exact ⟨opened, writer, session, created, run, answered⟩
  next => contradiction

/-- One recording is discarded after its rename has failed, and one is published and outlasts an `abort`. -/
theorem finalization_atomic_endings : ∃ discarded published : WriterSession,
    answersAndFile discarded = ([true, false, false, true], none) ∧ discarded.Atomic singleTrack ⟨[]⟩ ∧
      discarded.destroy.Atomic singleTrack ⟨[]⟩ ∧
      answersAndFile published = ([true, true, true, false], some ⟨true, [0], true⟩) ∧
      published.Atomic singleTrack ⟨[]⟩ ∧ published.destroy.Atomic singleTrack ⟨[]⟩ ∧
      (published.Published ∨ published.Aborted →
        Settled published published ∧ Settled published published.destroy) := by
  obtain ⟨opened, writer, discarded, created, run, seen⟩ := singleTrack_run
    [threeChunks, .finalize false, .finalize true, .abort] ([true, false, false, true], none) (by decide +kernel)
  obtain ⟨opened', writer', published, created', run', seen'⟩ := singleTrack_run
    [threeChunks, .finalize true, .abort, .finalize true]
    ([true, true, true, false], some ⟨true, [0], true⟩) (by decide +kernel)
  have first := finalization_atomic singleTrack 2 _ opened writer _ [] discarded discarded created run
    (Run.nil_iff.mpr rfl)
  have second := finalization_atomic singleTrack 2 _ opened' writer' _ [] published published created' run'
    (Run.nil_iff.mpr rfl)
  exact ⟨discarded, published, seen, first.1, first.2.1, seen', second⟩

end WriterSession

end VoxMesh.Media
