import VoxMesh.Proofs.RecorderOperations
import VoxMesh.Proofs.Healing

/-! # The ledger of a recording

The ledger follows the frames of a recording from the rings to the writer. Of the frames that a ring has
accepted, those not yet drained are in it, and the track's synchronizer has seen the others. Until a write
fails, the frames handed to the writer for a track are what the synchronizers of its rings put out. Every
step of the other threads keeps the ledger balanced, and so does dropping the pipelines, because the rings
are drained first.
-/

namespace VoxMesh.App

open VoxMesh.Audio VoxMesh.Media Machine

namespace Track

variable (track : Track) (drained : List AudioFrame) (frame : AudioFrame)

/-- The track's synchronizer after the frames drained from one ring. -/
def synchronizer : TrackSynchronizer := ((TrackSynchronizer.create track.sync).run .machine drained).1

/-- What the track's synchronizer makes of the frames drained from one ring. -/
def outputs : List AlignedFrame := ((TrackSynchronizer.create track.sync).run .machine drained).2

theorem synchronizer_snoc :
    track.synchronizer (drained ++ [frame]) = ((track.synchronizer drained).process .machine frame).1 :=
  TrackSynchronizer.run_append_state ..

theorem synchronizer_config : (track.synchronizer drained).config = track.sync := by
  induction drained using List.reverseRecOn with
  | nil => rfl
  | append_singleton rest last ih => rw [synchronizer_snoc, TrackSynchronizer.process_config, ih]

theorem outputs_snoc : track.outputs (drained ++ [frame]) =
    track.outputs drained ++ ((track.synchronizer drained).process .machine frame).2 := by
  simp only [outputs, ← TrackSynchronizer.drains_output, TrackSynchronizer.drains_append, List.flatMap_append]
  congr 1
  exact List.append_nil _

/-- Every frame is put out. -/
theorem outputs_eq_nil : track.outputs drained = [] ↔ drained = [] := by
  constructor
  · intro none
    have reals := TrackSynchronizer.run_reals .machine (TrackSynchronizer.create track.sync) drained
    rw [outputs] at none
    rw [none] at reals
    exact List.map_eq_nil_iff.mp reals.symm
  · rintro rfl
    rfl

end Track

namespace History

variable (history : History)

/-- The frames handed to the writer for the track with this index. -/
def handed (writerTrack : ℤ) : List AlignedFrame :=
  history.writes.filterMap fun (index, output) => if (index : ℤ) = writerTrack then some output else none

/-- What the synchronizers of the track's rings have put out. -/
def made (track : Track) : List AlignedFrame :=
  (history.rings track).flatMap track.outputs ++ track.outputs (history.drained track)

theorem handed_write (index : ℕ) (outputs : List AlignedFrame) (writerTrack : ℤ) :
    (history.write index outputs).handed writerTrack =
      history.handed writerTrack ++ if (index : ℤ) = writerTrack then outputs else [] := by
  rw [handed, write, List.filterMap_append, List.filterMap_map]
  by_cases same : (index : ℤ) = writerTrack
  · simp [handed, same]
  · simp [handed, same]

/-- A popped frame goes through the track's synchronizer. -/
theorem made_pop (track : Track) (frame : AudioFrame) (other : Track) :
    (history.pop track frame).made other = history.made other ++
      if track = other then ((track.synchronizer (history.drained track)).process .machine frame).2 else [] := by
  rcases eq_or_ne track other with rfl | apart
  · simp only [made, pop, Function.update_self, Track.outputs_snoc, ↓reduceIte, List.append_assoc]
  · simp only [made, pop, Function.update_of_ne apart.symm, apart, ↓reduceIte, List.append_nil]

theorem rings_close {present : Track → Bool} {track : Track} (absent : present track = false) :
    (history.close present).rings track = history.rings track := by
  simp only [close, absent, Bool.false_eq_true, ↓reduceIte]

/-- Dropping a ring from which everything was drained changes nothing about what was put out. -/
theorem made_close {present : Track → Bool} {track : Track}
    (emptied : history.accepted track = history.drained track)
    (absent : present track = false → history.drained track = []) :
    (history.close present).made track = history.made track := by
  have fresh : track.outputs ((history.close present).drained track) = [] := rfl
  rw [made, fresh, List.append_nil, made]
  cases kept : present track with
  | true => simp only [close, kept, ↓reduceIte, List.flatMap_append, List.flatMap_singleton, emptied]
  | false =>
    rw [rings_close history kept, absent kept]
    exact (List.append_nil _).symm

end History

/-- The frames of one track: nothing is open, or a stream is being opened, or a pipeline is registered. -/
inductive Flow (track : Track) (writerTrack : ℤ) (pipeline : Option TrackPipeline) (opening : Option CaptureLine)
    (accepted drained : List AudioFrame) : Prop
  | vacant (unregistered : pipeline = none) (closed : opening = none) (untouched : accepted = [])
      (undrained : drained = [])
  | opening (line : CaptureLine) (unregistered : pipeline = none) (opened : opening = some line)
      (held : line.buffer.Holds accepted) (undrained : drained = [])
  | flowing (registered : TrackPipeline) (queue : List AudioFrame) (present : pipeline = some registered)
      (closed : opening = none) (held : registered.buffer.Holds queue) (balance : accepted = drained ++ queue)
      (synced : registered.synchronizer = track.synchronizer drained) (target : registered.writerTrack = writerTrack)

/-- The ring gets the frame exactly if the sink accepts it. -/
theorem CaptureLine.onFrame_holds {line : CaptureLine} {queue : List AudioFrame} (held : line.buffer.Holds queue)
    (frame : AudioFrame) : (line.onFrame frame).2.buffer.Holds
      (if (line.onFrame frame).1 then queue ++ [frame] else queue) := by
  obtain ⟨answer, after⟩ := held.tryPush frame
  rw [onFrame]
  dsimp only
  rw [answer]
  rcases Nat.lt_or_eq_of_le held.length_le with room | full
  · rwa [BoundedQueue.push_room room] at after ⊢
  · rwa [BoundedQueue.push_full full] at after ⊢

namespace Flow

variable {track : Track} {writerTrack : ℤ} {pipeline : TrackPipeline} {registered : Option TrackPipeline}
  {opening : Option CaptureLine} {line : CaptureLine} {accepted drained : List AudioFrame} {frame : AudioFrame}

/-- A registered stream delivers a frame. -/
theorem capture (flow : Flow track writerTrack (some pipeline) opening accepted drained) (frame : AudioFrame) :
    Flow track writerTrack (some { pipeline with toCaptureLine := (pipeline.onFrame frame).2 }) opening
      (if (pipeline.onFrame frame).1 then accepted ++ [frame] else accepted) drained := by
  cases flow with
  | vacant unregistered | opening _ unregistered => exact absurd unregistered nofun
  | flowing same queue present closed held balance synced target =>
    obtain rfl := Option.some.inj present
    have pushed := CaptureLine.onFrame_holds held frame
    apply Flow.flowing { pipeline with toCaptureLine := (pipeline.onFrame frame).2 } _ rfl closed pushed _ synced target
    rw [balance]
    split
    next => exact List.append_assoc ..
    next => rfl

/-- A stream delivers a frame before it is registered. -/
theorem captureOpening (flow : Flow track writerTrack registered (some line) accepted drained) (frame : AudioFrame) :
    Flow track writerTrack registered (some (line.onFrame frame).2)
      (if (line.onFrame frame).1 then accepted ++ [frame] else accepted) drained := by
  cases flow with
  | vacant _ closed | flowing _ _ _ closed => exact absurd closed nofun
  | opening same unregistered opened held undrained =>
    obtain rfl := Option.some.inj opened
    exact .opening _ unregistered rfl (CaptureLine.onFrame_holds held frame) undrained

/-- The oldest frame in the ring is drained. -/
theorem pop (flow : Flow track writerTrack (some pipeline) opening accepted drained)
    (popped : pipeline.buffer.tryPop.1 = some frame) :
    pipeline.synchronizer = track.synchronizer drained ∧ pipeline.writerTrack = writerTrack ∧
      drained ++ [frame] <+: accepted ∧
      Flow track writerTrack (some (Recorder.aligned pipeline frame)) opening accepted (drained ++ [frame]) := by
  cases flow with
  | vacant unregistered | opening _ unregistered => exact absurd unregistered nofun
  | flowing same queue present closed held balance synced target =>
    obtain rfl := Option.some.inj present
    obtain ⟨answer, after⟩ := held.tryPop
    obtain ⟨rest, rfl⟩ := List.head?_eq_some_iff.mp (answer.symm.trans popped)
    have balance : accepted = drained ++ [frame] ++ rest := by rw [balance, List.append_assoc]; rfl
    refine ⟨synced, target, ⟨rest, balance.symm⟩, .flowing (Recorder.aligned pipeline frame) rest rfl closed after
      balance ?_ target⟩
    rw [Track.synchronizer_snoc, ← synced]
    rfl

/-- A stream is opened. -/
theorem openStream (flow : Flow track writerTrack none none accepted drained) :
    Flow track writerTrack none (some .opened) accepted drained := by
  cases flow with
  | opening _ _ opened => exact absurd opened nofun
  | flowing _ _ present => exact absurd present nofun
  | vacant _ _ untouched undrained =>
    exact .opening .opened rfl rfl (untouched ▸ SpscRingBuffer.holds_create) undrained

/-- The stream that was opened is registered, with a new synchronizer. -/
theorem register (flow : Flow track writerTrack registered (some line) accepted drained) (target : ℤ) (feeds : Bool) :
    Flow track target (some {
      toCaptureLine := line
      synchronizer := .create track.sync
      writerTrack := target
      feedsSttStream := feeds }) none accepted drained := by
  cases flow with
  | vacant _ closed | flowing _ _ _ closed => exact absurd closed nofun
  | opening same _ opened held undrained =>
    obtain rfl := Option.some.inj opened
    subst undrained
    exact .flowing _ accepted rfl rfl held rfl rfl rfl

theorem stop (flow : Flow track writerTrack (some pipeline) opening accepted drained) :
    Flow track writerTrack (some { pipeline with running := false }) opening accepted drained := by
  cases flow with
  | vacant unregistered | opening _ unregistered => exact absurd unregistered nofun
  | flowing same queue present closed held balance synced target =>
    obtain rfl := Option.some.inj present
    exact .flowing _ queue rfl closed held balance synced target

end Flow

theorem trackIndices_injective {selected : Track → Bool} {track other : Track}
    (numbered : 0 ≤ RecorderController.trackIndices selected track)
    (same : RecorderController.trackIndices selected other = RecorderController.trackIndices selected track) :
    other = track := by
  cases microphone : selected .microphone <;> cases systemOutput : selected .systemOutput <;>
    cases track <;> cases other <;> simp_all [RecorderController.trackIndices]

/-- The parts of a recorder that the ledger is about. -/
structure Books where
  pipelines : Track → Option TrackPipeline
  opening : Track → Option CaptureLine
  writer : Option FfmpegRecordingWriter
  writerFailed : Bool
  writerTracks : Track → ℤ
  pendingOutputFile : String
  disk : Disk
  history : History

namespace Books

/-- The writer writes to the partial file of the pending output file. -/
structure OnFile (books : Books) (writer : FfmpegRecordingWriter) : Prop where
  live : writer.Live
  output : writer.config.outputFile = books.pendingOutputFile
  partialPath : writer.partialPath = books.pendingOutputFile ++ ".partial"
  held : books.disk.holds writer.partialPath = true
  unfinished : books.history.finalized = none

/-- Everything that was put out was handed to the writer, and the writer has counted it. -/
structure Written (books : Books) (writer : FfmpegRecordingWriter) : Prop where
  opened : writer.state = .opened
  counted : writer.stats.framesWritten = books.history.writes.length
  handed : ∀ track, books.history.handed (books.writerTracks track) = books.history.made track
  owned : ∀ entry ∈ books.history.writes, ∃ track, (entry.1 : ℤ) = books.writerTracks track

structure Balanced (books : Books) : Prop where
  flow : ∀ track, Flow track (books.writerTracks track) (books.pipelines track) (books.opening track)
    (books.history.accepted track) (books.history.drained track)
  silent : ∀ track, books.writerTracks track < 0 → books.pipelines track = none ∧ books.opening track = none ∧
    books.history.rings track = []
  numbered : ∃ selected, books.writerTracks = RecorderController.trackIndices selected
  file : ∀ writer, books.writer = some writer → books.OnFile writer
  written : ∀ writer, books.writer = some writer → books.writerFailed = false → books.Written writer

/-- One track's frames move on in their ring. -/
theorem Balanced.retrack {books : Books} (balanced : books.Balanced) {track : Track}
    (numbered : 0 ≤ books.writerTracks track) {pipeline : Option TrackPipeline} {opening : Option CaptureLine}
    {accepted : List AudioFrame}
    (flow : Flow track (books.writerTracks track) pipeline opening accepted (books.history.drained track)) :
    Balanced { books with
      pipelines := Function.update books.pipelines track pipeline
      opening := Function.update books.opening track opening
      history.accepted := Function.update books.history.accepted track accepted } where
  flow other := by
    rcases eq_or_ne other track with rfl | apart
    · simpa only [Function.update_self] using flow
    · simpa only [Function.update_of_ne apart] using balanced.flow other
  silent other negative := by
    have apart : other ≠ track := by
      rintro rfl
      exact absurd negative (not_lt.mpr numbered)
    simpa only [Function.update_of_ne apart] using balanced.silent other negative
  numbered := balanced.numbered
  file writer present :=
    have onFile := balanced.file writer present
    ⟨onFile.live, onFile.output, onFile.partialPath, onFile.held, onFile.unfinished⟩
  written writer present working :=
    have written := balanced.written writer present working
    ⟨written.opened, written.counted, written.handed, written.owned⟩

/-- A track with a pipeline or a stream being opened is one of the writer's. -/
theorem Balanced.numbered_of_flow {books : Books} (balanced : books.Balanced) {track : Track}
    (live : books.pipelines track ≠ none ∨ books.opening track ≠ none) : 0 ≤ books.writerTracks track := by
  by_contra negative
  obtain ⟨unregistered, closed, -⟩ := balanced.silent track (by omega)
  exact live.elim (absurd unregistered) (absurd closed)

/-- The writer's tracks have different numbers. -/
theorem Balanced.writerTracks_eq_iff {books : Books} (balanced : books.Balanced) {track other : Track}
    (numbered : 0 ≤ books.writerTracks track) :
    books.writerTracks track = books.writerTracks other ↔ track = other := by
  obtain ⟨selected, indices⟩ := balanced.numbered
  refine ⟨fun shared => ?_, congrArg _⟩
  rw [indices] at numbered shared
  exact (trackIndices_injective numbered shared.symm).symm

/-- Only a track of the writer's gets a pipeline. -/
theorem Balanced.silent_update {books : Books} (balanced : books.Balanced) {track : Track}
    (numbered : 0 ≤ books.writerTracks track) (pipeline : Option TrackPipeline) (other : Track)
    (negative : books.writerTracks other < 0) : Function.update books.pipelines track pipeline other = none ∧
      books.opening other = none ∧ books.history.rings other = [] := by
  have apart : other ≠ track := by
    rintro rfl
    exact absurd negative (not_lt.mpr numbered)
  rw [Function.update_of_ne apart]
  exact balanced.silent other negative

/-- The frames of a track once the oldest one in its ring is drained. -/
theorem Balanced.popped {books : Books} (balanced : books.Balanced) {track : Track} {pipeline : TrackPipeline}
    {frame : AudioFrame} (present : books.pipelines track = some pipeline)
    (popped : pipeline.buffer.tryPop.1 = some frame) :
    pipeline.synchronizer = track.synchronizer (books.history.drained track) ∧
      pipeline.writerTrack = books.writerTracks track ∧
      ∀ other, Flow other (books.writerTracks other)
        (Function.update books.pipelines track (some (Recorder.aligned pipeline frame)) other) (books.opening other)
        ((books.history.pop track frame).accepted other) ((books.history.pop track frame).drained other) := by
  obtain ⟨synced, target, -, moved⟩ := (present ▸ balanced.flow track).pop popped
  refine ⟨synced, target, fun other => ?_⟩
  rcases eq_or_ne other track with rfl | apart
  · simpa only [Function.update_self, History.pop] using moved
  · simpa only [Function.update_of_ne apart, History.pop] using balanced.flow other

end Books

namespace Recorder

def books (recorder : Recorder) : Books where
  pipelines := recorder.controller.pipelines
  opening := recorder.opening
  writer := recorder.controller.writer
  writerFailed := recorder.controller.writerFailed
  writerTracks := recorder.controller.writerTracks
  pendingOutputFile := recorder.controller.pendingOutputFile
  disk := recorder.disk
  history := recorder.history

/-- The recorder's ledger is balanced. -/
def Balanced (recorder : Recorder) : Prop := recorder.books.Balanced

theorem offer_eq (history : History) (track : Track) (frame : AudioFrame) (accepted : Bool) :
    history.offer track frame accepted = { history with
      accepted := Function.update history.accepted track
        (if accepted then history.accepted track ++ [frame] else history.accepted track) } := by
  cases accepted with
  | true => rfl
  | false => simp [History.offer]

theorem capture_balanced {recorder next : Recorder} {track : Track} {frame : AudioFrame}
    (captured : recorder.capture track frame = some next) (balanced : recorder.Balanced) : next.Balanced := by
  obtain ⟨pipeline, present, -, rfl⟩ := capture_eq_some captured
  have registered : recorder.books.pipelines track = some pipeline := present
  have numbered := balanced.numbered_of_flow (.inl (registered ▸ Option.some_ne_none pipeline))
  have moved := balanced.retrack numbered ((registered ▸ balanced.flow track).capture frame)
  rw [Function.update_eq_self] at moved
  rw [Balanced, books, offer_eq]
  exact moved

theorem captureOpening_balanced {recorder next : Recorder} {track : Track} {frame : AudioFrame}
    (captured : recorder.captureOpening track frame = some next) (balanced : recorder.Balanced) : next.Balanced := by
  obtain ⟨line, opened, rfl⟩ := captureOpening_eq_some captured
  have opening : recorder.books.opening track = some line := opened
  have numbered := balanced.numbered_of_flow (.inr (opening ▸ Option.some_ne_none line))
  have moved := balanced.retrack numbered ((opening ▸ balanced.flow track).captureOpening frame)
  rw [Function.update_eq_self] at moved
  rw [Balanced, books, offer_eq]
  exact moved

theorem uploadAligned_books (recorder : Recorder) (feeds : Bool) (outputs : List AlignedFrame) :
    (recorder.uploadAligned feeds outputs).books = recorder.books := by
  unfold uploadAligned
  split <;> rfl

/-- Nothing is written, or the frames go to the writer, all of them if every write succeeds. -/
theorem writeAligned_cases {recorder : Recorder} {books : Books} (kept : recorder.books = books) (writerTrack : ℤ)
    (outputs : List AlignedFrame) (answers : List FfmpegAnswer) :
    ((recorder.writeAligned writerTrack outputs answers).1.books = books ∧
      (books.writer = none ∨ writerTrack < 0 ∨ books.writerFailed = true)) ∨
    ∃ before after disk written handed, books.writer = some before ∧ books.writerFailed = false ∧
      before.SameFile after ∧ books.disk.Extends disk ∧
      (before.state = .opened → written = true → after.state = .opened ∧
        after.stats.framesWritten = before.stats.framesWritten + outputs.length ∧ handed = outputs) ∧
      (recorder.writeAligned writerTrack outputs answers).1.books = { books with
        writer := some after
        writerFailed := !written
        disk := disk
        history := books.history.write writerTrack.toNat handed } := by
  subst kept
  rw [writeAligned]
  split
  next none => exact .inl ⟨rfl, .inl none⟩
  next writer present =>
    by_cases skipped : writerTrack < 0 ∨ recorder.controller.writerFailed = true
    · rw [if_pos (by simpa using skipped)]
      exact .inl ⟨rfl, .inr skipped⟩
    · rw [if_neg (by simpa using skipped)]
      rw [not_or, not_lt, Bool.not_eq_true] at skipped
      obtain ⟨same, grown⟩ := writeAll_sameFile writerTrack.toNat writer outputs ⟨recorder.disk, answers⟩
      exact .inr ⟨writer, _, _, _, _, present, skipped.2, same, grown.extends, writeAll_succeeds, rfl⟩

/-- A pass of the drain loop keeps the ledger balanced. -/
theorem drainFrame_balanced {recorder next : Recorder} {track : Track} {answers rest : List FfmpegAnswer}
    (passed : recorder.drainFrame track answers = some (next, rest)) (balanced : recorder.Balanced) :
    next.Balanced := by
  obtain ⟨pipeline, frame, present, popped, same⟩ := drainFrame_eq_some passed
  obtain ⟨synced, target, flow⟩ := balanced.popped present popped
  have registered : recorder.books.pipelines track = some pipeline := present
  have numbered := balanced.numbered_of_flow (.inl (registered ▸ Option.some_ne_none pipeline))
  have silent := balanced.silent_update numbered (some (aligned pipeline frame))
  have kept := uploadAligned_books (recorder.popFrame track (aligned pipeline frame) frame
    (pipeline.synchronizer.process .machine frame).2) pipeline.feedsSttStream
      (pipeline.synchronizer.process .machine frame).2
  have outcome := writeAligned_cases kept pipeline.writerTrack (pipeline.synchronizer.process .machine frame).2 answers
  rw [same, target, synced] at outcome
  rw [Balanced]
  rcases outcome with ⟨unchanged, why⟩ |
    ⟨before, after, disk, written, handed, held, working, sameFile, grown, complete, changed⟩
  · rw [unchanged]
    refine ⟨flow, silent, balanced.numbered, fun writer held => ?_, fun writer held working => ?_⟩
    · have onFile := balanced.file writer held
      exact ⟨onFile.live, onFile.output, onFile.partialPath, onFile.held, onFile.unfinished⟩
    · rcases why with none | negative | failed
      · exact absurd (held.symm.trans none) nofun
      · exact absurd negative (not_lt.mpr numbered)
      · exact absurd (working.symm.trans failed) nofun
  · rw [changed]
    refine ⟨flow, silent, balanced.numbered, ?_, ?_⟩
    · rintro writer ⟨⟩
      have onFile := balanced.file before held
      have path := sameFile.partialPath
      exact ⟨sameFile.live onFile.live, (congrArg _ sameFile.config).trans onFile.output,
        path.trans onFile.partialPath, path ▸ grown _ onFile.held, onFile.unfinished⟩
    · rintro writer ⟨⟩ succeeded
      rw [Bool.not_eq_false'] at succeeded
      have sofar := balanced.written before held working
      obtain ⟨opened, counted, rfl⟩ := complete sofar.opened succeeded
      have index : ((recorder.books.writerTracks track).toNat : ℤ) = recorder.books.writerTracks track :=
        Int.toNat_of_nonneg numbered
      refine ⟨opened, ?_, fun other => ?_, fun entry member => ?_⟩
      · rw [counted, sofar.counted, History.write, List.length_append, List.length_map]
        rfl
      · calc History.handed _ _
          _ = recorder.history.handed (recorder.books.writerTracks other) ++ _ := History.handed_write ..
          _ = recorder.history.made other ++ _ := congrArg (· ++ _) (sofar.handed other)
          _ = (recorder.history.pop track frame).made other := by
            rw [index, if_congr (balanced.writerTracks_eq_iff numbered) rfl rfl, History.made_pop]
            rfl
      · rcases List.mem_append.mp member with earlier | new
        · exact sofar.owned entry earlier
        · obtain ⟨_, _, rfl⟩ := List.mem_map.mp new
          exact ⟨track, index⟩

theorem keptByPasses_balanced : KeptByPasses Balanced := fun _ _ _ _ _ => drainFrame_balanced

/-- No step of the other threads unbalances the ledger. -/
theorem stable_balanced : Thread.Stable environment Balanced :=
  keptByPasses_balanced.stable capture_balanced captureOpening_balanced fun _ _ balanced => balanced

/-- Once its ring is empty, everything that the ring has accepted is drained. -/
theorem Balanced.drained {recorder : Recorder} (balanced : recorder.Balanced) {track : Track}
    (closed : recorder.opening track = none) (empty : recorder.waiting track = 0) :
    recorder.history.accepted track = recorder.history.drained track := by
  cases balanced.flow track with
  | vacant _ _ untouched undrained => exact untouched.trans undrained.symm
  | opening line _ opened => exact absurd (closed.symm.trans opened) nofun
  | flowing registered queue present _ held balance =>
    rw [waiting, show recorder.controller.pipelines track = some registered from present] at empty
    obtain rfl := List.eq_nil_of_length_eq_zero (held.size_eq.symm.trans empty)
    exact balance.trans (List.append_nil _)

/-- Dropping the pipelines once the rings are empty. -/
theorem Balanced.close {recorder : Recorder} (balanced : recorder.Balanced)
    (closed : ∀ track, recorder.opening track = none) (empty : ∀ track, recorder.waiting track = 0) :
    Balanced { recorder with
      controller.pipelines := fun _ => none
      history := recorder.history.close fun track => (recorder.controller.pipelines track).isSome } := by
  refine ⟨fun track => .vacant rfl (closed track) rfl rfl, fun track negative => ⟨rfl, closed track, ?_⟩,
    balanced.numbered, fun writer held => ?_, fun writer held working => ?_⟩
  · obtain ⟨unregistered, -, none⟩ := balanced.silent track negative
    have absent := Option.isSome_eq_false_iff.mpr (Option.isNone_iff_eq_none.mpr unregistered)
    exact (recorder.history.rings_close absent).trans none
  · have onFile := balanced.file writer held
    exact ⟨onFile.live, onFile.output, onFile.partialPath, onFile.held, onFile.unfinished⟩
  · have written := balanced.written writer held working
    refine ⟨written.opened, written.counted, fun track => (written.handed track).trans ?_, written.owned⟩
    refine (recorder.history.made_close (balanced.drained (closed track) (empty track)) fun absent => ?_).symm
    cases balanced.flow track with
    | vacant _ _ _ undrained | opening _ _ _ _ undrained => exact undrained
    | flowing registered _ present =>
      rw [show recorder.controller.pipelines track = some registered from present] at absent
      contradiction

/-- Neither a pipeline nor a stream being opened. -/
def Quiet (recorder : Recorder) : Prop :=
  ∀ track, recorder.controller.pipelines track = none ∧ recorder.opening track = none

/-- Dropping the pipelines loses nothing, because the rings are drained first. -/
theorem dropPipelines_balanced {recorder : Recorder} (balanced : recorder.Balanced)
    (closed : ∀ track, recorder.opening track = none) (answers : List FfmpegAnswer) :
    (recorder.dropPipelines answers).Balanced ∧ (recorder.dropPipelines answers).Quiet := by
  obtain ⟨last, same, balanced, still, empty⟩ := keptByPasses_balanced.dropPipelines balanced answers
  rw [same]
  exact ⟨balanced.close (fun track => still track (closed track)) empty, fun track => ⟨rfl, still track (closed track)⟩⟩

/-- A stream is opened for one of the writer's tracks. -/
theorem open_balanced {recorder : Recorder} (balanced : recorder.Balanced) {track : Track}
    (unregistered : recorder.controller.pipelines track = none) (closed : recorder.opening track = none)
    (numbered : 0 ≤ recorder.controller.writerTracks track) :
    Balanced { recorder with opening := Function.update recorder.opening track (some .opened) } := by
  have unregistered : recorder.books.pipelines track = none := unregistered
  have closed : recorder.books.opening track = none := closed
  have flow := balanced.flow track
  rw [unregistered, closed] at flow
  have moved := balanced.retrack numbered flow.openStream
  rwa [← unregistered, Function.update_eq_self, Function.update_eq_self] at moved

theorem register_balanced {recorder : Recorder} (balanced : recorder.Balanced) (track : Track) (feeds : Bool) :
    (recorder.register track feeds).Balanced := by
  rw [register]
  split
  next => exact balanced
  next line opened =>
    have opening : recorder.books.opening track = some line := opened
    have numbered := balanced.numbered_of_flow (.inr (opening ▸ Option.some_ne_none line))
    have moved := balanced.retrack numbered
      ((opening ▸ balanced.flow track).register (recorder.books.writerTracks track) feeds)
    rwa [Function.update_eq_self] at moved

theorem stopStream_balanced {recorder : Recorder} (balanced : recorder.Balanced) (track : Track) :
    (recorder.stopStream track).Balanced := by
  rw [stopStream]
  split
  next => exact balanced
  next pipeline present =>
    have registered : recorder.books.pipelines track = some pipeline := present
    have numbered := balanced.numbered_of_flow (.inl (registered ▸ Option.some_ne_none pipeline))
    have moved := balanced.retrack numbered (registered ▸ balanced.flow track).stop
    rwa [Function.update_eq_self, Function.update_eq_self] at moved

/-- Nothing happens in a quiet recorder, except that the drain thread goes its rounds. -/
theorem quiet_environment {recorder next : Recorder} {event : Environment} (quiet : recorder.Quiet)
    (taken : recorder.environment event = some next) : next = { recorder with drain := next.drain } := by
  cases event with
  | capture track frame =>
    obtain ⟨pipeline, present, -⟩ := capture_eq_some taken
    exact absurd (present.symm.trans (quiet track).1) nofun
  | captureOpening track frame =>
    obtain ⟨line, present, -⟩ := captureOpening_eq_some taken
    exact absurd (present.symm.trans (quiet track).2) nofun
  | drain answers =>
    rcases drainStep_eq_some taken with ⟨track, rest, -, passed⟩ | ⟨drain, rfl⟩
    · obtain ⟨pipeline, _, present, _⟩ := drainFrame_eq_some passed
      exact absurd (present.symm.trans (quiet track).1) nofun
    · rfl
  | leave =>
    obtain ⟨-, -, rfl⟩ := leave_eq_some taken
    rfl

/-- What is true of a quiet recorder stays true. -/
theorem stable_quiet (P : RecorderController → Disk → History → Prop) : Thread.Stable environment fun recorder =>
    recorder.Quiet ∧ P recorder.controller recorder.disk recorder.history := by
  rintro recorder event next taken ⟨quiet, holds⟩
  rw [quiet_environment quiet taken]
  exact ⟨quiet, holds⟩

/-- A fresh writer starts an empty ledger. -/
theorem installWriter_balanced {recorder : Recorder} (quiet : recorder.Quiet) {config : RecordingWriterConfig}
    {writer : FfmpegRecordingWriter} (fresh : writer.Fresh config recorder.disk)
    (pending : config.outputFile = recorder.controller.pendingOutputFile) {selected : Track → Bool}
    (numbered : recorder.controller.writerTracks = RecorderController.trackIndices selected) :
    (recorder.installWriter writer).Balanced where
  flow track := .vacant (quiet track).1 (quiet track).2 rfl rfl
  silent track _ := ⟨(quiet track).1, (quiet track).2, rfl⟩
  numbered := ⟨selected, numbered⟩
  file other same := by
    obtain rfl : writer = other := Option.some.inj same
    have output : writer.config.outputFile = recorder.controller.pendingOutputFile :=
      (congrArg _ fresh.configured).trans pending
    exact ⟨.inl fresh.opened, output, fresh.partialPath.trans (congrArg (· ++ _) pending), fresh.held, rfl⟩
  written other same _ := by
    obtain rfl : writer = other := Option.some.inj same
    exact ⟨fresh.opened, fresh.framesWritten, fun _ => rfl, nofun⟩

end Recorder

end VoxMesh.App
