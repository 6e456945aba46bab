import VoxMesh.Proofs.LedgerOperations
import VoxMesh.Proofs.OpenWriter
import VoxMesh.Soundness.RecorderLifecycle

/-! # What a stopped recording leaves behind

When `stop` answers true, the recording has ended in exactly one of three ways. It is saved, and then the
writer was given everything that the synchronizers made of the frames that the rings accepted, in order; or
it is kept, because a write or the finalization failed, and its partial file is still there with all that
it held when `stop` was called; or there was nothing to save. This holds over all runs in which the device
selection does not change from `start` to `stop`, however the threads interleave and whatever fails.
-/

namespace VoxMesh.App

open VoxMesh.Audio VoxMesh.Media Machine

inductive Outcome where
  | saved
  | kept
  | nothing
deriving DecidableEq

namespace Outcome

/-- How the recorder is left after a recording that was to be saved in the given file, with the disk as it was when
the recording was stopped. -/
def Holds (outputFile : String) (before : Disk) (recorder : Recorder) : Outcome → Prop
  | saved => recorder.history.finalized = some true ∧
      ∀ track, recorder.history.handed (recorder.controller.writerTracks track) =
        (recorder.history.rings track).flatMap track.outputs
  | kept => (recorder.controller.writerFailed = true ∧ recorder.controller.lastError =
          "Recording was interrupted by a write failure; a partial file was kept." ∨
        recorder.history.finalized = some false ∧ ∃ reason : RecordingWriterError, recorder.controller.lastError =
          "Recording could not be finalized (" ++ reason.toString ++ "); a partial file was kept.") ∧
      before.KeepsFile (outputFile ++ ".partial") recorder.disk
  | nothing => (∀ track, ∀ ring ∈ recorder.history.rings track, ring = []) ∧
      recorder.disk.holds (outputFile ++ ".partial") = false ∧
      recorder.controller.lastError = "No audio was captured; nothing was saved."

/-- What the critical section of `stop` has decided, and the path and the error that it reports. -/
def Decided (outputFile : String) (before : Disk) (answer : String × String) (controller : RecorderController)
    (disk : Disk) (history : History) : Outcome → Prop
  | saved => controller.writerFailed = false ∧ history.finalized = some true ∧
      (∀ track, history.handed (controller.writerTracks track) = (history.rings track).flatMap track.outputs) ∧
      ∃ track, ∃ ring ∈ history.rings track, ring ≠ []
  | kept => history.finalized ≠ some true ∧ before.KeepsFile (outputFile ++ ".partial") disk ∧ answer.1 = "" ∧
      (controller.writerFailed = true ∧
          answer.2 = "Recording was interrupted by a write failure; a partial file was kept." ∨
        history.finalized = some false ∧ ∃ reason : RecordingWriterError, answer.2 =
          "Recording could not be finalized (" ++ reason.toString ++ "); a partial file was kept.")
  | nothing => controller.writerFailed = false ∧ history.finalized = none ∧
      (∀ track, ∀ ring ∈ history.rings track, ring = []) ∧ disk.holds (outputFile ++ ".partial") = false ∧
      answer = ("", "No audio was captured; nothing was saved.")

/-- A decision fixes the outcome. -/
theorem Decided.unique {outputFile : String} {before : Disk} {answer : String × String} {recorder : Recorder}
    {outcome : Outcome}
    (decided : outcome.Decided outputFile before answer recorder.controller recorder.disk recorder.history)
    (reported : outcome ≠ saved → recorder.controller.lastError = answer.2) :
    ∃! outcome : Outcome, outcome.Holds outputFile before recorder := by
  cases outcome with
  | saved =>
    obtain ⟨working, finalized, complete, track, ring, member, some⟩ := decided
    refine ⟨saved, ⟨finalized, complete⟩, fun other holds => ?_⟩
    cases other with
    | saved => rfl
    | kept => rcases holds.1 with ⟨failed, -⟩ | ⟨unfinished, -⟩ <;> simp_all
    | nothing => exact absurd (holds.1 track ring member) some
  | kept =>
    obtain ⟨unfinished, keeps, -, why⟩ := decided
    have error := reported (by decide)
    refine ⟨kept, ⟨?_, keeps⟩, fun other holds => ?_⟩
    · rwa [error]
    · cases other with
      | saved => exact absurd holds.1 unfinished
      | kept => rfl
      | nothing => exact absurd (keeps.held.symm.trans holds.2.1) (by decide)
  | nothing =>
    obtain ⟨working, unfinished, empty, removed, rfl⟩ := decided
    refine ⟨nothing, ⟨empty, removed, reported (by decide)⟩, fun other holds => ?_⟩
    cases other with
    | saved => exact absurd (unfinished.symm.trans holds.1) nofun
    | kept => exact absurd (removed.symm.trans holds.2.held) (by decide)
    | nothing => rfl

end Outcome

namespace Recorder

/-- Without a pipeline nothing is half drained. -/
theorem made_of_quiet {recorder : Recorder} (balanced : recorder.Balanced) (quiet : recorder.Quiet) (track : Track) :
    recorder.history.made track = (recorder.history.rings track).flatMap track.outputs := by
  have undrained : recorder.history.drained track = [] := by
    cases balanced.flow track with
    | vacant _ _ _ undrained | opening _ _ _ _ undrained => exact undrained
    | flowing _ _ present => exact absurd ((quiet track).1.symm.trans present) nofun
  rw [History.made, undrained]
  exact List.append_nil _

/-- The writer has counted a frame exactly if a ring has accepted one. -/
theorem framesWritten_eq_zero_iff {recorder : Recorder} (balanced : recorder.Balanced) (quiet : recorder.Quiet)
    {writer : FfmpegRecordingWriter} (written : recorder.books.Written writer) :
    writer.stats.framesWritten = 0 ↔ ∀ track, ∀ ring ∈ recorder.history.rings track, ring = [] := by
  have made (track : Track) : recorder.history.handed (recorder.controller.writerTracks track) =
      (recorder.history.rings track).flatMap track.outputs :=
    (written.handed track).trans (made_of_quiet balanced quiet track)
  rw [written.counted, List.length_eq_zero_iff]
  constructor
  · intro none track ring member
    have unwritten : recorder.history.handed (recorder.controller.writerTracks track) = [] := by
      rw [History.handed, show recorder.history.writes = [] from none]
      rfl
    have all := List.flatMap_eq_nil_iff.mp ((made track).symm.trans unwritten)
    exact (track.outputs_eq_nil ring).mp (all ring member)
  · intro empty
    rw [List.eq_nil_iff_forall_not_mem]
    intro entry member
    obtain ⟨track, index⟩ := written.owned entry member
    have unwritten : (recorder.history.rings track).flatMap track.outputs = [] :=
      List.flatMap_eq_nil_iff.mpr fun ring member => (track.outputs_eq_nil ring).mpr (empty track ring member)
    have handed : entry.2 ∈ recorder.history.handed (recorder.controller.writerTracks track) :=
      List.mem_filterMap.mpr ⟨entry, member, if_pos index⟩
    rw [made track, unwritten] at handed
    exact absurd handed List.not_mem_nil

/-- The partial file of the open writer has at most grown. -/
def Appends (before : Disk) (writer : FfmpegRecordingWriter) (disk : Disk) (_ : String) : Prop :=
  before.KeepsFile writer.partialPath disk

theorem keptByWrite_appends (before : Disk) : KeptByWrite (Appends before) := by
  intro writer io path index frame appends
  rw [Appends, (writer.write_sameFile index frame io).partialPath]
  exact appends.trans ((writer.write_writes index frame io).keeps appends.held)

/-- A balanced ledger is of a writer whose partial file is there. -/
theorem Balanced.appends {recorder : Recorder} (balanced : recorder.Balanced) :
    Writing (Appends recorder.disk) recorder :=
  fun writer present => Disk.keepsFile_refl (balanced.file writer present).held

/-- The critical section of `stop` decides on one outcome. -/
theorem finishWriter_decides {recorder : Recorder} {before : Disk} (balanced : recorder.Balanced)
    (quiet : recorder.Quiet) (appends : Writing (Appends before) recorder) {writer : FfmpegRecordingWriter}
    (held : recorder.controller.writer = some writer) (finalized : List FfmpegAnswer) (renamed : Bool) :
    ∃ outcome : Outcome, outcome.Decided recorder.controller.pendingOutputFile before
      (recorder.finishWriter finalized renamed).1 (recorder.finishWriter finalized renamed).2.controller
      (recorder.finishWriter finalized renamed).2.disk (recorder.finishWriter finalized renamed).2.history := by
  have onFile := balanced.file writer held
  have path : writer.partialPath = recorder.controller.pendingOutputFile ++ ".partial" := onFile.partialPath
  have keeps : before.KeepsFile writer.partialPath recorder.disk := appends writer held
  have unfinished : recorder.history.finalized = none := onFile.unfinished
  rw [finishWriter, held]
  dsimp only
  cases failed : recorder.controller.writerFailed with
  | true =>
    rw [if_pos rfl]
    exact ⟨.kept, by simp [unfinished], path ▸ keeps, rfl, .inl ⟨rfl, rfl⟩⟩
  | false =>
    have written := balanced.written writer held failed
    have counted := framesWritten_eq_zero_iff balanced quiet written
    rw [if_neg nofun]
    by_cases none : writer.stats.framesWritten = 0
    · rw [if_pos none]
      have aborted : recorder.abortWriter = { recorder with
          controller.writer := .none, disk := recorder.disk.remove writer.partialPath } := by
        rw [abortWriter, held]
        dsimp only
        rw [writer.abort_disk ⟨recorder.disk, []⟩ onFile.live]
      rw [aborted]
      refine ⟨.nothing, failed, unfinished, counted.mp none, ?_, rfl⟩
      rw [← path, Bool.eq_false_iff, ne_eq, Disk.holds_remove]
      exact fun removed => removed.1 rfl
    · rw [if_neg none]
      rcases writer.finalize_cases ⟨recorder.disk, finalized⟩ renamed with
        ⟨_, same⟩ | ⟨tracks, io', _, grown, same⟩ | ⟨io', disk, _, _, _, _, same⟩
      · rw [same]
        exact ⟨.kept, by simp, path ▸ keeps, rfl, .inr ⟨rfl, _, rfl⟩⟩
      · rw [same]
        exact ⟨.kept, by simp, path ▸ keeps.trans (grown.keeps keeps.held), rfl, .inr ⟨rfl, _, rfl⟩⟩
      · rw [same]
        refine ⟨.saved, rfl, rfl, fun track => ?_, ?_⟩
        · exact (written.handed track).trans (made_of_quiet balanced quiet track)
        · by_contra empty
          refine none (counted.mpr fun track ring member => ?_)
          by_contra some
          exact empty ⟨track, ring, member, some⟩

end Recorder

namespace RecorderController

open Thread Ui

variable {o : Outline} {before : Disk}

/-- The decision, once the recorder is quiet; its error is surfaced unless the recording is saved. -/
def Concluded (outputFile : String) (before : Disk) (answer : String × String) (surfaced : Prop)
    (controller : RecorderController) (disk : Disk) (history : History) : Prop :=
  ∃ outcome : Outcome, outcome.Decided outputFile before answer controller disk history ∧
    (surfaced → outcome ≠ .saved → controller.lastError = answer.2)

private theorem report_concludes (outputFile : String) (before : Disk) (answer : String × String) :
    Ensures (fun recorder =>
        Concluded outputFile before answer False recorder.controller recorder.disk recorder.history)
      (report answer.1 answer.2) fun _ recorder =>
        Concluded outputFile before answer True recorder.controller recorder.disk recorder.history := by
  have silent (controller : RecorderController) (disk : Disk) (history : History) (outcome : Outcome)
      (decided : outcome.Decided outputFile before answer controller disk history)
      (none : answer.1 ≠ "" ∨ answer.2 = "") : outcome = .saved := by
    cases outcome with
    | saved => rfl
    | kept => rcases decided with ⟨-, -, unsaved, ⟨-, error⟩ | ⟨-, reason, error⟩⟩ <;> simp_all
    | nothing => simp_all [Outcome.Decided]
  refine Ensures.ite (fun saved => set_ensures ?_) fun _ => Ensures.ite (fun _ => set_ensures ?_) fun quiet => ?_
  · rintro recorder ⟨outcome, decided, -⟩
    refine ⟨outcome, decided, fun _ unsaved => absurd (silent _ _ _ _ decided (.inl ?_)) unsaved⟩
    simpa using saved
  · rintro recorder ⟨outcome, decided, -⟩
    exact ⟨outcome, decided, fun _ _ => rfl⟩
  · refine Ensures.pure _ ?_
    rintro recorder ⟨outcome, decided, -⟩
    refine ⟨outcome, decided, fun _ unsaved => absurd (silent _ _ _ _ decided (.inr ?_)) unsaved⟩
    simpa using quiet

/-- A balanced ledger, and a partial file that has at most grown. -/
def Stopping (o : Outline) (before : Disk) (recorder : Recorder) : Prop :=
  Accounts o recorder ∧ Writing (Recorder.Appends before) recorder

private theorem appends_sustained (before : Disk) : Sustained (Writing (Recorder.Appends before)) :=
  Writing.sustained (Recorder.keptByWrite_appends before)

private theorem stopping_stable (o : Outline) (before : Disk) : Stable Recorder.environment (Stopping o before) :=
  fun recorder event next taken ⟨⟨shows, balanced⟩, appends⟩ => ⟨⟨Shows.stable o recorder event next taken shows,
    Recorder.stable_balanced recorder event next taken balanced⟩,
    (appends_sustained before).stable recorder event next taken appends⟩

/-- The critical section of `stop`, after the streams are stopped. -/
private theorem finishWriter_concludes (before : Disk) (unregistered : ∀ track, o.pipelines track = none)
    (closed : ∀ track, o.opening track = none) (writing : o.writer.isSome) (finalized : List FfmpegAnswer)
    (renamed : Bool) : Ensures (Stopping o before) (underLock fun recorder => recorder.finishWriter finalized renamed)
      fun answer recorder => recorder.Quiet ∧
        Concluded o.pendingOutputFile before answer False recorder.controller recorder.disk recorder.history := by
  refine Ensures.locked (stopping_stable o before) ?_
  rintro recorder ⟨⟨shows, balanced⟩, appends⟩ -
  have after : Shows { o with writer := none } (recorder.finishWriter finalized renamed).2 :=
    (recorder.finishWriter_outline finalized renamed).trans (congrArg (fun seen => { seen with writer := none }) shows)
  have pending : recorder.controller.pendingOutputFile = o.pendingOutputFile := congrArg Outline.pendingOutputFile shows
  have held : recorder.outline.writer.isSome := (congrArg Outline.writer shows).symm ▸ writing
  obtain ⟨writer, present⟩ := Option.isSome_iff_exists.mp (Option.isSome_map.symm.trans held)
  refine ⟨quiet_of_shows after unregistered closed, ?_⟩
  obtain ⟨outcome, decided⟩ := Recorder.finishWriter_decides balanced (quiet_of_shows shows unregistered closed)
    appends present finalized renamed
  exact ⟨outcome, pending ▸ decided, False.elim⟩

/-- A `stop` that is not refused decides how the recording ends. -/
theorem stop_decides (answers : StopAnswers) (settled : o.Settled) :
    Ensures (Stopping o before) (stop answers) fun stopped recorder => stopped = true → ∃ answer,
      Concluded o.pendingOutputFile before answer True recorder.controller recorder.disk recorder.history := by
  have steady := (appends_sustained before).toSteady
  have handled : Ensures (Stopping o before) (handle .stop) fun applied recorder =>
      applied = (RecordingSession.handle o.session .stop).1 ∧ Stopping (o.handle .stop) before recorder :=
    ((accounts_of_shows (handle_shows .stop) (handle_balanced _)).keeping ((steady.handle_keeps .stop).conseq
      (fun _ => And.right) fun _ _ appends => appends)).conseq (fun _ stopping => stopping)
        fun _ _ ⟨⟨applied, accounts⟩, appends⟩ => ⟨applied, accounts, appends⟩
  refine Ensures.bind_eq _ handled ?_
  refine Ensures.ite (fun _ => Ensures.pure _ fun _ _ => nofun) fun applied => ?_
  have active : o.session ≠ .idle := by
    intro idle
    rw [idle] at applied
    exact applied rfl
  have stopped := stopStreams_balanced (o := o.handle .stop) settled.opening answers.drained
  have accounted := (stopStreams_shows answers.drained).keeping
    (stopped.conseq (fun _ accounts => accounts) fun _ _ => And.left)
  have appended := steady.stopStreams (o := o.handle .stop) settled.opening answers.drained
  refine Ensures.bind (Q := fun _ => Stopping (o.handle .stop).stopStreams before) (accounted.keeping
    (appended.conseq (fun _ stopping => ⟨stopping.1.1, stopping.2⟩) fun _ _ appends => appends)) fun _ => ?_
  refine Ensures.bind (Q := fun _ => Stopping (o.handle .stop).stopStreams before)
    (set_ensures fun _ stopping => stopping) fun _ => ?_
  have finished := finishWriter_concludes (o := (o.handle .stop).stopStreams) before (fun _ => rfl) settled.opening
    (settled.writing active) answers.finalized answers.renamed
  refine finished.bind fun answer => ?_
  have stable := Recorder.stable_quiet (Concluded o.pendingOutputFile before answer False)
  refine Ensures.bind (Q := fun _ recorder => recorder.Quiet ∧
    Concluded o.pendingOutputFile before answer False recorder.controller recorder.disk recorder.history)
      (set_ensures fun _ concluded => concluded) fun _ => ?_
  refine Ensures.bind (Q := fun _ recorder =>
    Concluded o.pendingOutputFile before answer False recorder.controller recorder.disk recorder.history) ?_ fun _ => ?_
  · refine Ensures.bind (Q := fun _ recorder => recorder.Quiet ∧
      Concluded o.pendingOutputFile before answer False recorder.controller recorder.disk recorder.history)
        (Ensures.locked stable fun _ concluded _ => concluded) fun _ => ?_
    exact set_ensures fun _ concluded => concluded.2
  have handled (event : SessionEvent) : Ensures (fun recorder =>
      Concluded o.pendingOutputFile before answer True recorder.controller recorder.disk recorder.history)
        (handle event) fun _ recorder =>
          Concluded o.pendingOutputFile before answer True recorder.controller recorder.disk recorder.history :=
    Ensures.act fun _ concluded => concluded
  refine (report_concludes o.pendingOutputFile before answer).bind fun _ => (handled .stopComplete).bind fun _ =>
    (handled .reset).bind fun _ => Ensures.pure _ fun _ concluded _ => ⟨answer, concluded⟩

/-- A `stop` that is not refused ends the recording in exactly one way. -/
theorem stop_concludes (answers : StopAnswers) (settled : o.Settled) :
    Ensures (Stopping o before) (stop answers) fun stopped recorder => stopped = true →
      ∃! outcome : Outcome, outcome.Holds o.pendingOutputFile before recorder := by
  refine (stop_decides answers settled).conseq (fun _ stopping => stopping) fun stopped recorder decides ended => ?_
  obtain ⟨answer, outcome, decided, reported⟩ := decides ended
  exact decided.unique (reported trivial)

/-- A recording that is saved is complete. -/
theorem stop_saves (answers : StopAnswers) (settled : o.Settled) :
    Ensures (Accounts o) (stop answers) fun stopped recorder => stopped = true →
      recorder.history.finalized = some true → ∀ track,
        recorder.history.handed (recorder.controller.writerTracks track) =
          (recorder.history.rings track).flatMap track.outputs := by
  intro view stopped view' outcome accounts ended saved
  obtain ⟨answer, outcome, decided, -⟩ :=
    stop_decides answers settled view stopped view' outcome ⟨accounts, accounts.2.appends⟩ ended
  cases outcome with
  | saved => exact decided.2.2.1
  | kept => exact absurd saved decided.1
  | nothing => exact absurd (decided.2.1.symm.trans saved) nofun

end RecorderController

namespace Recorder

open Thread Ui

variable {designLowPass : ℕ → ℚ → List ℚ} {o : Outline}

/-- The step changes nothing about which tracks have a device selected. -/
def KeepsSelection (designLowPass : ℕ → ℚ → List ℚ) (recorder : Recorder) (label : Label) : Prop :=
  ∀ next, step designLowPass recorder label = some next →
    ∀ track, next.controller.isSelected track = recorder.controller.isSelected track

/-- The recorder between two operations of a session: the writer's tracks are the selected ones, and the ledger
is balanced. -/
structure InSession (recorder : Recorder) : Prop where
  settled : recorder.outline.Settled
  numbered : recorder.controller.session ≠ .idle →
    recorder.controller.writerTracks = RecorderController.trackIndices recorder.controller.isSelected
  balanced : recorder.controller.session ≠ .idle → recorder.Balanced

/-- From idle, only a `start` that succeeds leads into a session. -/
theorem perform_idle (operation : Operation) (settled : o.Settled) (idle : o.session = .idle) :
    Ensures (Shows o) (perform designLowPass operation) fun _ recorder => recorder.outline.session ≠ .idle →
      recorder.Balanced ∧ recorder.outline.Begun := by
  intro view result view' outcome shows left
  obtain ⟨answers, rfl, rfl⟩ :=
    perform_idle_cases designLowPass operation settled idle view result view' outcome shows left
  have begun := RecorderController.start_shows designLowPass answers settled view true view' outcome shows
  have balanced := RecorderController.start_balanced designLowPass answers settled view true view' outcome shows
  exact ⟨balanced rfl, (begun.2.2.1 rfl).2⟩

theorem sustained_writerTracks (tracks : Track → ℤ) :
    Sustained fun recorder => recorder.controller.writerTracks = tracks where
  stable := stable_outline fun o => o.writerTracks = tracks
  outside _ _ _ same _ kept := same.trans kept
  register recorder track feeds kept := by
    rw [register]
    split <;> exact kept
  stopStream recorder track kept := (congrArg Outline.writerTracks (recorder.stopStream_outline track)).trans kept
  dropPipelines {recorder} drained _ kept :=
    (congrArg Outline.writerTracks (recorder.dropPipelines_outline drained)).trans kept

/-- In a session the ledger stays balanced and the writer's tracks stay the same. -/
theorem perform_active (operation : Operation) (settled : o.Settled) (active : o.session ≠ .idle)
    (numbered : o.writerTracks = RecorderController.trackIndices o.isSelected) :
    Ensures (Accounts o) (perform designLowPass operation) fun _ recorder => recorder.outline.session ≠ .idle →
      recorder.Balanced ∧ recorder.outline.writerTracks = o.writerTracks := by
  intro view result view' outcome accounts session
  have selected (track : Track) (isSelected : o.isSelected track = true) : 0 ≤ o.writerTracks track := by
    rw [numbered]
    exact RecorderController.numbered_of_isSelected isSelected
  have balanced := RecorderController.sustained_balanced.perform (RecorderController.opens_balanced selected)
    designLowPass operation settled active view result view' outcome accounts session
  have tracks := (sustained_writerTracks o.writerTracks).perform (fun _ _ _ _ _ _ kept => kept) designLowPass operation
    settled active view result view' outcome ⟨accounts.1, congrArg Outline.writerTracks accounts.1⟩ session
  exact ⟨balanced, tracks⟩

/-- A step that keeps the selection keeps the ledger of the session. -/
theorem step_inSession {recorder next : Recorder} {label : Label} (session : recorder.InSession)
    (kept : KeepsSelection designLowPass recorder label) (taken : step designLowPass recorder label = some next) :
    next.InSession := by
  have settled := (step_settled session.settled taken).1
  have selection : next.controller.isSelected = recorder.controller.isSelected := funext (kept next taken)
  have unchanged (same : next.outline = recorder.outline) (balanced : recorder.Balanced → next.Balanced) :
      next.InSession := by
    have sameSession : next.controller.session = recorder.controller.session := congrArg Outline.session same
    refine ⟨settled, fun active => ?_, fun active => balanced (session.balanced (sameSession ▸ active))⟩
    rw [selection, ← session.numbered (sameSession ▸ active)]
    exact congrArg Outline.writerTracks same
  cases label with
  | operation operation agenda =>
    obtain ⟨⟨result, last⟩, outcome, same⟩ := Option.map_eq_some_iff.mp taken
    obtain rfl : last = next := same
    by_cases idle : recorder.controller.session = .idle
    · have after := (perform_idle operation session.settled idle).run outcome rfl
      exact ⟨settled, fun active => (after active).2.numbered, fun active => (after active).1⟩
    · have numbered := session.numbered idle
      have after := (perform_active operation session.settled idle numbered).run outcome
        ⟨rfl, session.balanced idle⟩
      refine ⟨settled, fun active => ?_, fun active => (after active).1⟩
      rw [selection, ← numbered]
      exact (after active).2
  | statsTick =>
    rw [step] at taken
    split at taken
    next =>
      obtain rfl := Option.some.inj taken
      have books : recorder.onStatsTick.books = recorder.books := by
        rw [onStatsTick]
        split <;> rfl
      refine unchanged ?_ fun balanced => ?_
      · rw [onStatsTick]
        split <;> rfl
      · rwa [Balanced, books]
    next => contradiction
  | environment event => exact unchanged (environment_outline taken) (stable_balanced recorder event next taken)

theorem start_inSession {idle begun : Recorder} {answers : StartAnswers} {agenda : List (List Environment)}
    (settled : idle.outline.Settled)
    (started : (perform designLowPass (.start answers)).run agenda idle = some (true, begun)) : begun.InSession := by
  have shows := (RecorderController.start_shows designLowPass answers settled).run started rfl
  have balanced := (RecorderController.start_balanced designLowPass answers settled).run started rfl
  exact ⟨shows.1, fun _ => (shows.2.2.1 rfl).2.numbered, fun _ => balanced rfl⟩

/-- A `stop` that answers true leaves the recorder idle and without a writer, and its recording is saved
completely, or kept as a partial file after a failure, or empty: exactly one of the three. This holds for all
runs in which the device selection does not change from `start` to `stop`. -/
theorem stopped_recording_accounted (designLowPass : ℕ → ℚ → List ℚ) (outputDirectory : String)
    (before during : List Label) (idle begun last stopped : Recorder) (startAnswers : StartAnswers)
    (stopAnswers : StopAnswers) (startAgenda stopAgenda : List (List Environment))
    (earlier : Run (step designLowPass) (init outputDirectory) before idle)
    (started : (perform designLowPass (.start startAnswers)).run startAgenda idle = some (true, begun))
    (run : Run (step designLowPass) begun during last)
    (kept : Along (step designLowPass) (KeepsSelection designLowPass) begun during)
    (ended : (perform designLowPass (.stop stopAnswers)).run stopAgenda last = some (true, stopped)) :
    stopped.controller.session = .idle ∧ stopped.controller.writer = none ∧
      ∃! outcome : Outcome, outcome.Holds last.controller.pendingOutputFile last.disk stopped := by
  have begunInSession := start_inSession (run_settled earlier (settled_init outputDirectory)) started
  have session : last.InSession := run.invariant_along
    (fun _ _ _ session kept taken => step_inSession session kept taken) kept begunInSession
  obtain ⟨settled, answer, idle⟩ := (RecorderController.stop_shows stopAnswers session.settled).run ended rfl
  have active : last.controller.session ≠ .idle := by
    intro idle
    rw [show last.outline.session = .idle from idle] at answer
    exact absurd answer (by decide)
  refine ⟨idle, Option.map_eq_none_iff.mp (settled.released idle).writer, ?_⟩
  have balanced := session.balanced active
  exact (RecorderController.stop_concludes stopAnswers session.settled).run ended
    ⟨⟨rfl, balanced⟩, balanced.appends⟩ rfl

/-- The other threads do not change the selection. -/
theorem keepsSelection_environment (recorder : Recorder) (event : Environment) :
    KeepsSelection designLowPass recorder (.environment event) :=
  fun _ taken track => congrArg (fun o : Outline => o.isSelected track) (environment_outline taken)

private def sampleFrame (track : Track) : AudioFrame where
  track := track.kind
  sampleRate := 48000
  channels := track.channels
  payload := List.replicate (4 * track.channels) 1

private def sampleDuring : List Label :=
  [.environment (.capture .microphone (sampleFrame .microphone)), .environment (.drain []), .environment (.drain []),
    .environment (.capture .systemOutput (sampleFrame .systemOutput))]

private theorem sampleDuring_keeps (recorder : Recorder) :
    Along (step designLowPass) (KeepsSelection designLowPass) recorder sampleDuring :=
  ⟨keepsSelection_environment _ _, fun _ _ => ⟨keepsSelection_environment _ _, fun _ _ =>
    ⟨keepsSelection_environment _ _, fun _ _ => ⟨keepsSelection_environment _ _, fun _ _ => trivial⟩⟩⟩⟩

private def sampleDevices : List AudioDeviceInfo := [{ id := "m" }, { id := "s", kind := .renderOutput }]

private def sampleStart : StartAnswers := { devices := sampleDevices }

-- The drain thread is inside its round when `stop` is called.
private def roundEnds : List (List Environment) := [[], [], [.drain [], .drain [], .drain []]]

/-- A recording of both devices. When `stop` is called, a frame is still in a ring. -/
private theorem sample_run {α : Type} (stopAnswers : StopAnswers) (observe : Recorder → Recorder → α) (seen : α)
    (outcome : ((perform (fun _ _ => []) (.start sampleStart)).run [] (init "recordings")).bind
      (fun (started, begun) => (exec (step fun _ _ => []) begun sampleDuring).bind fun last =>
        ((perform (fun _ _ => []) (.stop stopAnswers)).run roundEnds last).map
          fun (stopped, after) => (started, stopped, observe last after)) = some (true, true, seen)) :
    ∃ begun last stopped,
      (perform (fun _ _ => []) (.start sampleStart)).run [] (init "recordings") = some (true, begun) ∧
      Run (step fun _ _ => []) begun sampleDuring last ∧
      (perform (fun _ _ => []) (.stop stopAnswers)).run roundEnds last = some (true, stopped) ∧
      observe last stopped = seen := by
  simp only [Option.bind_eq_some_iff, Option.map_eq_some_iff, Prod.exists, Prod.mk.injEq] at outcome
  obtain ⟨_, begun, started, last, run, _, stopped, ended, rfl, rfl, observed⟩ := outcome
  exact ⟨begun, last, stopped, started, run, ended, observed⟩

/-- One recording is saved. The rename of another one fails; its partial file has grown by a packet and the trailer. -/
theorem stopped_recording_accounted_endings :
    (∃ last stopped : Recorder, stopped.history.finalized = some true ∧ stopped.history.writes.map (·.1) = [0, 1] ∧
      stopped.controller.session = .idle ∧ stopped.controller.writer = none ∧
        ∃! outcome : Outcome, outcome.Holds last.controller.pendingOutputFile last.disk stopped) ∧
    ∃ last stopped : Recorder, last.disk = ⟨[("recordings/voxmesh-.mka.partial", ⟨true, [], false⟩)]⟩ ∧
      stopped.disk = ⟨[("recordings/voxmesh-.mka.partial", ⟨true, [0], true⟩)]⟩ ∧
      Outcome.kept.Holds "recordings/voxmesh-.mka" last.disk stopped := by
  constructor
  · obtain ⟨begun, last, stopped, started, run, ended, observed⟩ := sample_run {}
      (fun _ stopped => (stopped.history.finalized, stopped.history.writes.map (·.1))) (some true, [0, 1])
      (by decide +kernel)
    obtain ⟨finalized, writes⟩ := Prod.mk.inj observed
    exact ⟨last, stopped, finalized, writes, stopped_recording_accounted (fun _ _ => []) "recordings" [] sampleDuring
      (init "recordings") begun last stopped sampleStart {} [] _ (Run.nil_iff.mpr rfl) started run
      (sampleDuring_keeps begun) ended⟩
  · obtain ⟨begun, last, stopped, started, run, ended, observed⟩ := sample_run
      { finalized := List.replicate 4 .ok, renamed := false }
      (fun last stopped => (stopped.history.finalized, last.controller.pendingOutputFile, last.disk, stopped.disk))
      (some false, "recordings/voxmesh-.mka", ⟨[("recordings/voxmesh-.mka.partial", ⟨true, [], false⟩)]⟩,
        ⟨[("recordings/voxmesh-.mka.partial", ⟨true, [0], true⟩)]⟩) (by decide +kernel)
    simp only [Prod.mk.injEq] at observed
    obtain ⟨finalized, pending, before, after⟩ := observed
    obtain ⟨-, -, outcome, holds, -⟩ := stopped_recording_accounted (fun _ _ => []) "recordings" [] sampleDuring
      (init "recordings") begun last stopped sampleStart _ [] _ (Run.nil_iff.mpr rfl) started run
      (sampleDuring_keeps begun) ended
    rw [pending] at holds
    refine ⟨last, stopped, before, after, ?_⟩
    cases outcome with
    | saved => exact absurd (finalized.symm.trans holds.1) (by decide)
    | kept => exact holds
    | nothing =>
      have removed := holds.2.1
      rw [after] at removed
      exact absurd removed (by decide)

end Recorder

end VoxMesh.App
