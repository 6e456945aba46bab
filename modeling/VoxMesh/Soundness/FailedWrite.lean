import VoxMesh.Proofs.RecordingWriter

/-! # When a failed write is final

A write that fails in FFmpeg ends the writer: every later write fails and is not counted. A write that does not
fit, because there is no such track or the frame has another format, leaves the writer open. So failures are final
in every case exactly for the sequences of writes in which no misfit comes before a write that fits.
-/

namespace VoxMesh.Media.FfmpegRecordingWriter

open VoxMesh.Audio

/-- The answers of consecutive writes, each with the statistics after it. -/
def writeEach : FfmpegRecordingWriter → Io → List (ℕ × AudioFrame) → List (Bool × RecordingWriterStats)
  | _, _, [] => []
  | writer, io, (index, frame) :: rest =>
      let (written, writer, io) := writer.write index frame io
      (written, writer.stats) :: writer.writeEach io rest

/-- After a failed write all later ones fail and leave the statistics alone. -/
def FailureFinal (outcomes : List (Bool × RecordingWriterStats)) : Prop :=
  outcomes.Pairwise fun earlier later => earlier.1 = false → later = (false, earlier.2)

instance (outcomes : List (Bool × RecordingWriterStats)) : Decidable (FailureFinal outcomes) :=
  inferInstanceAs (Decidable (List.Pairwise _ _))

/-- There is a track of the index, and it has the frame's format. -/
def Fits (config : RecordingWriterConfig) (call : ℕ × AudioFrame) : Prop :=
  ∃ track, config.tracks[call.1]? = some track ∧ matchesTrack track.format call.2 = true

/-- No write that fits comes after one that does not. -/
def Orderly (config : RecordingWriterConfig) (calls : List (ℕ × AudioFrame)) : Prop :=
  calls.Pairwise fun earlier later => Fits config later → Fits config earlier

/-- The writer is open, with a track for every configured one. -/
private structure Ready (config : RecordingWriterConfig) (writer : FfmpegRecordingWriter) : Prop where
  opened : writer.state = .opened
  configured : writer.config = config
  tracks : writer.tracks.length = config.tracks.length

variable {config : RecordingWriterConfig} {writer : FfmpegRecordingWriter} {io : Io}

private theorem ready_of_create {frameSize : ℕ} {opened : Io}
    (created : create config frameSize io = (.ok writer, opened)) : Ready config writer := by
  have fresh := create_fresh created
  exact ⟨fresh.opened, fresh.configured, by rw [(create_tracks created).1, List.length_map]⟩

/-- A writer that is not open refuses everything. -/
private theorem writeEach_of_ended (ended : writer.state ≠ .opened) (io : Io) (calls : List (ℕ × AudioFrame)) :
    ∀ outcome ∈ writer.writeEach io calls, outcome = (false, writer.stats) := by
  induction calls generalizing writer with
  | nil => simp [writeEach]
  | cons call rest ih =>
    have refused : writer.write call.1 call.2 io = (false, { writer with lastError := .invalidState }, io) := by
      rw [write]
      split
      next opened _ _ => exact absurd opened ended
      next => rfl
    rw [writeEach, refused]
    intro outcome member
    rcases List.mem_cons.mp member with here | later
    · exact here
    · exact @ih { writer with lastError := .invalidState } ended outcome later

/-- A misfit fails and leaves the writer as it is. -/
private theorem Ready.write_misfit (ready : Ready config writer) (io : Io) {call : ℕ × AudioFrame}
    (misfit : ¬ Fits config call) :
    ∃ error, writer.write call.1 call.2 io = (false, { writer with lastError := error }, io) := by
  rw [write]
  split
  next expected track _ known _ =>
    have different : matchesTrack expected.format call.2 = false := by
      rw [ready.configured] at known
      exact Bool.eq_false_iff.mpr fun same => misfit ⟨expected, known, same⟩
    exact ⟨.formatMismatch, by rw [different]; rfl⟩
  next => exact ⟨.invalidState, rfl⟩

private theorem encodeLoop_unscripted (path : String) (index : ℕ) (drainAll : Bool) (fuel : ℕ) (track : TrackState)
    (disk : Disk) : ∃ track', TrackState.encodeLoop path index drainAll fuel track ⟨disk, []⟩ =
      (true, track', ⟨disk, []⟩) := by
  induction fuel generalizing track with
  | zero => exact ⟨track, rfl⟩
  | succ fuel ih =>
    rw [TrackState.encodeLoop]
    dsimp only
    split
    next => exact ⟨track, rfl⟩
    next =>
      rw [Io.calls_unscripted]
      exact ih _

/-- Without a failure in FFmpeg, buffering succeeds. -/
private theorem buffer_unscripted (track : TrackState) (path : String) (index : ℕ) (frame : AudioFrame) (disk : Disk) :
    ∃ track', buffer track path index frame ⟨disk, []⟩ = (true, track', ⟨disk, []⟩) := by
  rw [buffer]
  split
  next => exact ⟨track, rfl⟩
  next => exact encodeLoop_unscripted ..

/-- A write that fits is decided by the buffering of its samples. -/
private theorem Ready.write_fit (ready : Ready config writer) {call : ℕ × AudioFrame} (fits : Fits config call)
    (io : Io) : ∃ track,
      ((buffer track writer.partialPath call.1 call.2 io).1 = false ∧ ∃ ended, ended.state ≠ .opened ∧
        ended.stats = writer.stats ∧ writer.write call.1 call.2 io =
          (false, ended, (buffer track writer.partialPath call.1 call.2 io).2.2)) ∨
      ((buffer track writer.partialPath call.1 call.2 io).1 = true ∧ ∃ next, Ready config next ∧
        writer.write call.1 call.2 io = (true, next, (buffer track writer.partialPath call.1 call.2 io).2.2)) := by
  obtain ⟨expected, known, same⟩ := fits
  rw [← ready.configured] at known
  have inside : call.1 < writer.tracks.length := by
    rw [ready.tracks, ← ready.configured]
    exact (List.getElem?_eq_some_iff.mp known).1
  refine ⟨writer.tracks[call.1], ?_⟩
  rcases result : buffer writer.tracks[call.1] writer.partialPath call.1 call.2 io with ⟨buffered, track, io'⟩
  have outcome : writer.write call.1 call.2 io =
      if !buffered then (false, ({ writer with tracks := writer.tracks.set call.1 track }).fail .writeFailed, io')
      else (true, { writer with
        tracks := writer.tracks.set call.1 track
        stats := {
          framesWritten := writer.stats.framesWritten + 1
          samplesWrittenPerTrack := writer.stats.samplesWrittenPerTrack.modify call.1
            (· + FixedWidth.toUint64 (FixedWidth.int32 call.2.sampleCountPerChannel)) } }, io') := by
    rw [write]
    split
    next _ found _ isExpected isTrack =>
      obtain rfl := Option.some.inj (isExpected.symm.trans known)
      obtain rfl := Option.some.inj (isTrack.symm.trans (List.getElem?_eq_getElem inside))
      rw [same, result]
      rfl
    next none => exact absurd (List.getElem?_eq_getElem inside) (none _ _ ready.opened known)
  cases buffered with
  | false =>
    rw [Bool.not_false, if_pos rfl] at outcome
    refine .inl ⟨rfl, _, ?_, ?_, outcome⟩
    · intro opened
      cases opened
    · rfl
  | true =>
    rw [Bool.not_true, if_neg Bool.false_ne_true] at outcome
    refine .inr ⟨rfl, _, ?_, outcome⟩
    exact ⟨ready.opened, ready.configured, (List.length_set ..).trans ready.tracks⟩

private theorem failureFinal_of_refused {outcomes : List (Bool × RecordingWriterStats)} {stats : RecordingWriterStats}
    (refused : ∀ outcome ∈ outcomes, outcome = (false, stats)) : FailureFinal outcomes := by
  apply List.pairwise_of_forall_mem_list
  intro earlier first later second _
  rw [refused earlier first, refused later second]

/-- Misfits alone are all refused. -/
private theorem writeEach_of_misfits (ready : Ready config writer) (io : Io) {calls : List (ℕ × AudioFrame)}
    (misfits : ∀ call ∈ calls, ¬ Fits config call) :
    ∀ outcome ∈ writer.writeEach io calls, outcome = (false, writer.stats) := by
  induction calls generalizing writer with
  | nil => simp [writeEach]
  | cons call rest ih =>
    obtain ⟨error, refused⟩ := ready.write_misfit io (misfits call (List.mem_cons_self ..))
    have unharmed : Ready config { writer with lastError := error } :=
      ⟨ready.opened, ready.configured, ready.tracks⟩
    rw [writeEach, refused]
    intro outcome member
    rcases List.mem_cons.mp member with here | later
    · exact here
    · exact ih unharmed (fun other inside => misfits other (List.mem_cons_of_mem _ inside)) outcome later

private theorem failureFinal_of_orderly (ready : Ready config writer) {calls : List (ℕ × AudioFrame)}
    (orderly : Orderly config calls) (io : Io) : FailureFinal (writer.writeEach io calls) := by
  induction calls generalizing writer io with
  | nil => exact .nil
  | cons call rest ih =>
    obtain ⟨here, later⟩ := List.pairwise_cons.mp orderly
    by_cases fits : Fits config call
    · obtain ⟨track, ⟨-, ended, dead, same, outcome⟩ | ⟨-, next, ready, outcome⟩⟩ := ready.write_fit fits io
      · have refused := writeEach_of_ended dead (buffer track writer.partialPath call.1 call.2 io).2.2 rest
        rw [writeEach, outcome]
        exact List.pairwise_cons.mpr ⟨fun after member _ => refused after member, failureFinal_of_refused refused⟩
      · rw [writeEach, outcome]
        exact List.pairwise_cons.mpr ⟨fun _ _ failed => absurd failed.symm Bool.false_ne_true, ih ready later _⟩
    · obtain ⟨error, outcome⟩ := ready.write_misfit io fits
      have unharmed : Ready config { writer with lastError := error } :=
        ⟨ready.opened, ready.configured, ready.tracks⟩
      have refused := writeEach_of_misfits unharmed io fun other member fit => fits (here other member fit)
      rw [writeEach, outcome]
      exact List.pairwise_cons.mpr ⟨fun after member _ => refused after member, failureFinal_of_refused refused⟩

/-- When FFmpeg does not fail, only misfits are refused. -/
private theorem misfits_of_refused (ready : Ready config writer) {disk : Disk} {calls : List (ℕ × AudioFrame)}
    (refused : ∀ outcome ∈ writer.writeEach ⟨disk, []⟩ calls, outcome.1 = false) :
    ∀ call ∈ calls, ¬ Fits config call := by
  induction calls generalizing writer with
  | nil => simp
  | cons call rest ih =>
    have misfit : ¬ Fits config call := by
      intro fits
      obtain ⟨track, ⟨failed, -⟩ | ⟨-, next, -, outcome⟩⟩ := ready.write_fit fits ⟨disk, []⟩
      · obtain ⟨_, succeeded⟩ := buffer_unscripted track writer.partialPath call.1 call.2 disk
        rw [succeeded] at failed
        contradiction
      · rw [writeEach, outcome] at refused
        exact absurd (refused _ (List.mem_cons_self ..)) (by simp)
    obtain ⟨error, outcome⟩ := ready.write_misfit ⟨disk, []⟩ misfit
    rw [writeEach, outcome] at refused
    have unharmed : Ready config { writer with lastError := error } :=
      ⟨ready.opened, ready.configured, ready.tracks⟩
    intro other member
    rcases List.mem_cons.mp member with rfl | later
    · exact misfit
    · exact ih unharmed (fun after inside => refused after (List.mem_cons_of_mem _ inside)) other later

private theorem orderly_of_failureFinal (ready : Ready config writer) {disk : Disk} {calls : List (ℕ × AudioFrame)}
    (final : FailureFinal (writer.writeEach ⟨disk, []⟩ calls)) : Orderly config calls := by
  induction calls generalizing writer with
  | nil => exact .nil
  | cons call rest ih =>
    by_cases fits : Fits config call
    · obtain ⟨track, ⟨failed, -⟩ | ⟨-, next, ready, outcome⟩⟩ := ready.write_fit fits ⟨disk, []⟩
      · obtain ⟨_, succeeded⟩ := buffer_unscripted track writer.partialPath call.1 call.2 disk
        rw [succeeded] at failed
        contradiction
      · obtain ⟨_, succeeded⟩ := buffer_unscripted track writer.partialPath call.1 call.2 disk
        rw [writeEach, outcome, succeeded] at final
        exact List.pairwise_cons.mpr ⟨fun _ _ _ => fits, ih ready (List.pairwise_cons.mp final).2⟩
    · obtain ⟨error, outcome⟩ := ready.write_misfit ⟨disk, []⟩ fits
      rw [writeEach, outcome] at final
      have unharmed : Ready config { writer with lastError := error } :=
        ⟨ready.opened, ready.configured, ready.tracks⟩
      obtain ⟨here, later⟩ := List.pairwise_cons.mp final
      have misfits := misfits_of_refused unharmed fun after member => congrArg Prod.fst (here after member rfl)
      exact List.pairwise_cons.mpr ⟨fun other member fit => absurd fit (misfits other member), ih unharmed later⟩

/-- On the writes of a new writer failures are final, whatever fails in FFmpeg, if and only if no misfit comes before
a write that fits. -/
theorem failed_write_final_iff (config : RecordingWriterConfig) (frameSize : ℕ) (io opened : Io)
    (writer : FfmpegRecordingWriter) (created : create config frameSize io = (.ok writer, opened))
    (calls : List (ℕ × AudioFrame)) :
    (∀ answers, FailureFinal (writer.writeEach ⟨opened.disk, answers⟩ calls)) ↔ Orderly config calls := by
  have ready := ready_of_create created
  constructor
  · intro final
    exact orderly_of_failureFinal ready (final [])
  · intro orderly answers
    exact failureFinal_of_orderly ready orderly _

private def monoTrack : RecordingWriterConfig where
  outputFile := "recording.flac"
  tracks := [{ format := { format := .pcmS16Le } }]

private def twoSamples : AudioFrame where
  sampleRate := 48000
  channels := 1
  payload := [1, 0, 2, 0]

/-- A write to a track that does not exist fails, and the next one is counted. -/
theorem failed_write_not_final : ∃ writer opened, create monoTrack 4 ⟨⟨[]⟩, []⟩ = (.ok writer, opened) ∧
    (writer.writeEach opened [(1, twoSamples), (0, twoSamples)]).map
      (fun outcome => (outcome.1, outcome.2.framesWritten)) =
      [(false, 0), (true, 1)] ∧
    ¬ FailureFinal (writer.writeEach opened [(1, twoSamples), (0, twoSamples)]) := by
  have outcome : (match create monoTrack 4 ⟨⟨[]⟩, []⟩ with
      | (.ok writer, opened) =>
        let outcomes := writer.writeEach opened [(1, twoSamples), (0, twoSamples)]
        some (outcomes.map (fun outcome => (outcome.1, outcome.2.framesWritten)), decide (FailureFinal outcomes))
      | (.error _, _) => none) = some ([(false, 0), (true, 1)], false) := by decide +kernel
  split at outcome
  next writer opened created =>
    obtain ⟨counts, final⟩ := by simpa only [Option.some.injEq, Prod.mk.injEq] using outcome
    exact ⟨writer, opened, created, counts, of_decide_eq_false final⟩
  next => contradiction

/-- Two writes that fit, and one that does not. -/
theorem failed_write_final_fitting : ∃ writer opened, create monoTrack 4 ⟨⟨[]⟩, []⟩ = (.ok writer, opened) ∧
    ((∀ answers, FailureFinal (writer.writeEach ⟨opened.disk, answers⟩
        [(0, twoSamples), (0, twoSamples), (1, twoSamples)])) ↔
      Orderly monoTrack [(0, twoSamples), (0, twoSamples), (1, twoSamples)]) ∧
    Orderly monoTrack [(0, twoSamples), (0, twoSamples), (1, twoSamples)] := by
  have outcome : (match create monoTrack 4 ⟨⟨[]⟩, []⟩ with
      | (.ok _, _) => true
      | (.error _, _) => false) = true := by decide +kernel
  split at outcome
  next writer opened created =>
    refine ⟨writer, opened, created, failed_write_final_iff monoTrack 4 _ opened writer created _, ?_⟩
    simp [Orderly, Fits, monoTrack]
  next => contradiction

end VoxMesh.Media.FfmpegRecordingWriter
