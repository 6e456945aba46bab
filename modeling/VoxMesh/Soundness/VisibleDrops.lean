import VoxMesh.Proofs.SessionOperations
import VoxMesh.Soundness.RecorderLifecycle

/-! # The drops that the recorder shows

The number of dropped frames is summed over the streams that are open at the moment. `Tallied` accounts for every
frame that a sink has rejected in the session: an open stream has counted it, or it was rejected before the
pipelines were last dropped. So what is shown is the total, and never falls, exactly while no sink had rejected a
frame when pipelines were dropped (`drops_visible_iff`).
-/

namespace VoxMesh.App

open VoxMesh.Audio VoxMesh.Media VoxMesh.Dsp Machine

namespace Recorder

/-- What the track's streams have counted, whether registered or just being opened. -/
def dropsOn (recorder : Recorder) (track : Track) : ℕ :=
  ((recorder.controller.pipelines track).map (·.stats.framesDropped)).getD 0 +
    ((recorder.opening track).map (·.stats.framesDropped)).getD 0

structure Tallied (recorder : Recorder) : Prop where
  apart : ∀ track, recorder.controller.pipelines track = none ∨ recorder.opening track = none
  counted : recorder.dropsOn .microphone + recorder.dropsOn .systemOutput + recorder.rejections.earlier =
    recorder.rejections.total

section Tallied

variable {recorder next : Recorder} {track : Track} {frame : AudioFrame}

/-- Only the streams and the rejections matter. -/
theorem Tallied.congr (tallied : recorder.Tallied)
    (pipelines : next.controller.pipelines = recorder.controller.pipelines) (opening : next.opening = recorder.opening)
    (rejections : next.rejections = recorder.rejections) : next.Tallied := by
  obtain ⟨apart, counted⟩ := tallied
  constructor
  · rwa [pipelines, opening]
  · rwa [rejections, dropsOn, dropsOn, pipelines, opening]

/-- One track's streams change, and its count as much as the total. -/
theorem Tallied.retrack (tallied : recorder.Tallied) (track : Track) (others : ∀ other, other ≠ track →
      next.controller.pipelines other = recorder.controller.pipelines other ∧
        next.opening other = recorder.opening other)
    (apart : next.controller.pipelines track = none ∨ next.opening track = none)
    (earlier : next.rejections.earlier = recorder.rejections.earlier)
    (balance : next.dropsOn track + recorder.rejections.total = recorder.dropsOn track + next.rejections.total) :
    next.Tallied := by
  have same (other : Track) (elsewhere : other ≠ track) : next.dropsOn other = recorder.dropsOn other := by
    rw [dropsOn, dropsOn, (others other elsewhere).1, (others other elsewhere).2]
  have counted := tallied.counted
  constructor
  · intro other
    by_cases here : other = track
    · exact here ▸ apart
    · rw [(others other here).1, (others other here).2]
      exact tallied.apart other
  · cases track with
    | microphone =>
      rw [same .systemOutput (by decide), earlier]
      omega
    | systemOutput =>
      rw [same .microphone (by decide), earlier]
      omega

/-- The stream counts a drop exactly if its sink rejects the frame. -/
theorem onFrame_framesDropped (line : CaptureLine) (frame : AudioFrame) (rejections : Rejections) :
    (line.onFrame frame).2.stats.framesDropped + rejections.total =
      line.stats.framesDropped + (rejections.offer (line.onFrame frame).1).total := by
  cases accepted : (line.buffer.tryPush frame).1 with
  | true => simp [CaptureLine.onFrame, Rejections.offer, accepted]
  | false =>
    simp only [CaptureLine.onFrame, Rejections.offer, accepted, Bool.false_eq_true, if_false]
    omega

private theorem offer_earlier (rejections : Rejections) (accepted : Bool) :
    (rejections.offer accepted).earlier = rejections.earlier := by
  cases accepted <;> rfl

theorem capture_tallied (captured : recorder.capture track frame = some next) (tallied : recorder.Tallied) :
    next.Tallied := by
  obtain ⟨pipeline, present, -, rfl⟩ := capture_eq_some captured
  have closed := (tallied.apart track).resolve_left (present ▸ Option.some_ne_none pipeline)
  refine tallied.retrack track (fun other elsewhere => ⟨Function.update_of_ne elsewhere .., rfl⟩)
    (.inr closed) (offer_earlier ..) ?_
  have counted := onFrame_framesDropped pipeline.toCaptureLine frame recorder.rejections
  simp only [dropsOn, setPipeline, Function.update_self, present, closed, Option.map_some, Option.map_none,
    Option.getD_some, Option.getD_none, Nat.add_zero]
  exact counted

theorem captureOpening_tallied (captured : recorder.captureOpening track frame = some next)
    (tallied : recorder.Tallied) : next.Tallied := by
  obtain ⟨line, opened, rfl⟩ := captureOpening_eq_some captured
  have unregistered := (tallied.apart track).resolve_right (opened ▸ Option.some_ne_none line)
  refine tallied.retrack track (fun other elsewhere => ⟨rfl, Function.update_of_ne elsewhere ..⟩)
    (.inl unregistered) (offer_earlier ..) ?_
  have counted := onFrame_framesDropped line frame recorder.rejections
  simp only [dropsOn, Function.update_self, unregistered, opened, Option.map_some, Option.map_none, Option.getD_some,
    Option.getD_none, Nat.zero_add]
  exact counted

/-- A pass of the drain loop opens nothing and rejects nothing. -/
private theorem drainFrame_aside {answers rest : List FfmpegAnswer}
    (passed : recorder.drainFrame track answers = some (next, rest)) :
    next.opening = recorder.opening ∧ next.rejections = recorder.rejections := by
  have uploaded (seen : Recorder) (feeds : Bool) (outputs : List AlignedFrame) :
      (seen.uploadAligned feeds outputs).opening = seen.opening ∧
        (seen.uploadAligned feeds outputs).rejections = seen.rejections := by
    unfold uploadAligned
    split <;> exact ⟨rfl, rfl⟩
  have written (seen : Recorder) (target : ℤ) (outputs : List AlignedFrame) :
      (seen.writeAligned target outputs answers).1.opening = seen.opening ∧
        (seen.writeAligned target outputs answers).1.rejections = seen.rejections := by
    rw [writeAligned]
    split
    next => exact ⟨rfl, rfl⟩
    next => split <;> exact ⟨rfl, rfl⟩
  obtain ⟨pipeline, frame, -, -, same⟩ := drainFrame_eq_some passed
  obtain ⟨opening, rejections⟩ := written _ pipeline.writerTrack (pipeline.synchronizer.process .machine frame).2
  rw [same] at opening rejections
  exact ⟨opening.trans (uploaded ..).1, rejections.trans (uploaded ..).2⟩

theorem drainFrame_tallied {answers rest : List FfmpegAnswer}
    (passed : recorder.drainFrame track answers = some (next, rest)) (tallied : recorder.Tallied) : next.Tallied := by
  obtain ⟨opening, rejections⟩ := drainFrame_aside passed
  obtain ⟨pipeline, frame, present, -, pipelines, -⟩ := drainFrame_pipelines passed
  have closed := (tallied.apart track).resolve_left (present ▸ Option.some_ne_none pipeline)
  refine tallied.retrack track (fun other elsewhere => ⟨?_, congrFun opening other⟩)
    (.inr (opening ▸ closed)) (rejections ▸ rfl) ?_
  · rw [pipelines, Function.update_of_ne elsewhere]
  · rw [dropsOn, dropsOn, pipelines, opening, rejections, Function.update_self, present]
    rfl

theorem register_tallied (tallied : recorder.Tallied) (track : Track) (feeds : Bool) :
    (recorder.register track feeds).Tallied := by
  rw [register]
  split
  next => exact tallied
  next line opened =>
    have unregistered := (tallied.apart track).resolve_right (opened ▸ Option.some_ne_none line)
    refine tallied.retrack track (fun other elsewhere => ⟨Function.update_of_ne elsewhere ..,
      Function.update_of_ne elsewhere ..⟩) (.inr (Function.update_self ..)) rfl ?_
    simp only [dropsOn, setPipeline, Function.update_self, unregistered, opened, Option.map_some, Option.map_none,
      Option.getD_some, Option.getD_none, Nat.zero_add, Nat.add_zero]

theorem stopStream_tallied (tallied : recorder.Tallied) (track : Track) : (recorder.stopStream track).Tallied := by
  rw [stopStream]
  split
  next => exact tallied
  next pipeline present =>
    have closed := (tallied.apart track).resolve_left (present ▸ Option.some_ne_none pipeline)
    refine tallied.retrack track (fun other elsewhere => ⟨Function.update_of_ne elsewhere .., rfl⟩)
      (.inr closed) rfl ?_
    simp only [dropsOn, setPipeline, Function.update_self, present, Option.map_some, Option.getD_some]

/-- With no stream being opened, what is shown and what came before the last drop are all the rejections. -/
theorem Tallied.framesDropped (tallied : recorder.Tallied) (closed : ∀ track, recorder.opening track = none) :
    recorder.controller.framesDropped + recorder.rejections.earlier = recorder.rejections.total := by
  have counted := tallied.counted
  simp only [dropsOn, closed, Option.map_none, Option.getD_none, Nat.add_zero] at counted
  exact counted

theorem keptByPasses_tallied : KeptByPasses Tallied := fun _ _ _ _ _ => drainFrame_tallied

theorem dropPipelines_tallied (tallied : recorder.Tallied) (closed : ∀ track, recorder.opening track = none)
    (drained : List FfmpegAnswer) : (recorder.dropPipelines drained).Tallied := by
  obtain ⟨last, same, tallied, still, -⟩ := keptByPasses_tallied.dropPipelines tallied drained
  have counted := tallied.framesDropped fun track => still track (closed track)
  rw [same]
  refine ⟨fun _ => .inl rfl, ?_⟩
  simp only [dropsOn, still _ (closed _), Option.map_none, Option.getD_none, Nat.add_zero, Nat.zero_add]

theorem open_tallied (tallied : recorder.Tallied) (unregistered : recorder.controller.pipelines track = none)
    (closed : recorder.opening track = none) :
    Tallied { recorder with opening := Function.update recorder.opening track (some .opened) } := by
  refine tallied.retrack track (fun other elsewhere => ⟨rfl, Function.update_of_ne elsewhere ..⟩)
    (.inl unregistered) rfl ?_
  simp only [dropsOn, Function.update_self, unregistered, closed]
  rfl

theorem installWriter_tallied (quiet : recorder.Quiet) (writer : FfmpegRecordingWriter) :
    (recorder.installWriter writer).Tallied := by
  refine ⟨fun track => .inl (quiet track).1, ?_⟩
  simp only [dropsOn, installWriter, (quiet _).1, (quiet _).2]
  rfl

private theorem abortWriter_aside (recorder : Recorder) :
    recorder.abortWriter.controller.pipelines = recorder.controller.pipelines ∧
      recorder.abortWriter.opening = recorder.opening ∧ recorder.abortWriter.rejections = recorder.rejections := by
  rw [abortWriter]
  split <;> exact ⟨rfl, rfl, rfl⟩

private theorem finishWriter_aside (recorder : Recorder) (finalized : List FfmpegAnswer) (renamed : Bool) :
    (recorder.finishWriter finalized renamed).2.controller.pipelines = recorder.controller.pipelines ∧
      (recorder.finishWriter finalized renamed).2.opening = recorder.opening ∧
      (recorder.finishWriter finalized renamed).2.rejections = recorder.rejections := by
  rw [finishWriter]
  split
  next => exact ⟨rfl, rfl, rfl⟩
  next =>
    split
    next => exact ⟨rfl, rfl, rfl⟩
    next =>
      split
      next => exact abortWriter_aside recorder
      next => split <;> exact ⟨rfl, rfl, rfl⟩

end Tallied

theorem throughout_tallied : Throughout Tallied where
  stable := keptByPasses_tallied.stable (fun captured => capture_tallied captured)
    (fun captured => captureOpening_tallied captured) fun _ _ tallied => ⟨tallied.apart, tallied.counted⟩
  outside _ _ core _ _ tallied := tallied.congr (congrArg Core.pipelines core) rfl rfl
  register _ track feeds tallied := register_tallied tallied track feeds
  stopStream _ track tallied := stopStream_tallied tallied track
  dropPipelines drained closed tallied := dropPipelines_tallied tallied closed drained
  opens _ _ _ _ unregistered closed _ tallied := open_tallied tallied unregistered closed
  change _ _ core tallied := tallied.congr (congrArg Core.pipelines core) rfl rfl
  finishWriter _ _ _ tallied :=
    tallied.congr (finishWriter_aside ..).1 (finishWriter_aside ..).2.1 (finishWriter_aside ..).2.2
  removeStt _ tallied := ⟨tallied.apart, tallied.counted⟩
  disk _ _ tallied := ⟨tallied.apart, tallied.counted⟩
  installWriter writer quiet := installWriter_tallied quiet writer
  abortWriter _ tallied :=
    tallied.congr (abortWriter_aside _).1 (abortWriter_aside _).2.1 (abortWriter_aside _).2.2
  installStt _ _ _ tallied := ⟨tallied.apart, tallied.counted⟩

/-- The counts have reached at least the given ones. -/
def RejectedAtLeast (before : Rejections) (recorder : Recorder) : Prop :=
  before.total ≤ recorder.rejections.total ∧ before.earlier ≤ recorder.rejections.earlier

private theorem offer_le (rejections : Rejections) (accepted : Bool) :
    rejections.total ≤ (rejections.offer accepted).total ∧
      rejections.earlier ≤ (rejections.offer accepted).earlier := by
  cases accepted <;> simp [Rejections.offer]

theorem persistent_rejectedAtLeast {before : Rejections} (sane : before.earlier ≤ before.total) :
    Persistent (RejectedAtLeast before) where
  stable := by
    refine KeptByPasses.stable ?_ ?_ ?_ fun _ _ holds => holds
    · intro recorder next track answers rest passed holds
      rwa [RejectedAtLeast, (drainFrame_aside passed).2]
    · intro recorder next track frame captured holds
      obtain ⟨pipeline, -, -, rfl⟩ := capture_eq_some captured
      have grown := offer_le recorder.rejections (pipeline.onFrame frame).1
      exact ⟨holds.1.trans grown.1, holds.2.trans grown.2⟩
    · intro recorder next track frame captured holds
      obtain ⟨line, -, rfl⟩ := captureOpening_eq_some captured
      have grown := offer_le recorder.rejections (line.onFrame frame).1
      exact ⟨holds.1.trans grown.1, holds.2.trans grown.2⟩
  outside _ _ _ _ _ holds := holds
  register recorder track feeds holds := by
    rw [register]
    split <;> exact holds
  stopStream recorder track holds := by
    rw [stopStream]
    split <;> exact holds
  dropPipelines drained _ holds := by
    have passes : KeptByPasses (RejectedAtLeast before) := fun _ _ _ _ _ passed holds => by
      rwa [RejectedAtLeast, (drainFrame_aside passed).2]
    obtain ⟨last, same, kept, -⟩ := passes.dropPipelines holds drained
    rw [same]
    exact ⟨kept.1, sane.trans kept.1⟩
  opens _ _ _ _ _ _ _ holds := holds
  change _ _ _ holds := holds
  finishWriter _ _ _ holds := by rwa [RejectedAtLeast, (finishWriter_aside ..).2.2]
  removeStt _ holds := holds

/-- The label begins no session. -/
def Continues (recorder : Recorder) (label : Label) : Prop :=
  ∀ answers agenda, label = .operation (.start answers) agenda → recorder.controller.session ≠ .idle

/-- After every label of the run, what is shown is the number of rejected frames, and it never falls. -/
structure DropsVisible (designLowPass : ℕ → ℚ → List ℚ) (opened : Recorder) (labels : List Label) : Prop where
  counted : ∀ first rest seen, labels = first ++ rest → Run (step designLowPass) opened first seen →
    seen.controller.framesDropped = seen.rejections.total
  steady : ∀ first middle rest earlier later, labels = first ++ (middle ++ rest) →
    Run (step designLowPass) opened first earlier → Run (step designLowPass) earlier middle later →
      earlier.controller.framesDropped ≤ later.controller.framesDropped

section Runs

variable {designLowPass : ℕ → ℚ → List ℚ} {recorder last : Recorder} {labels : List Label}

private theorem run_tallied (run : Run (step designLowPass) recorder labels last)
    (start : recorder.outline.Settled ∧ recorder.Tallied) : last.outline.Settled ∧ last.Tallied := by
  refine run.invariant (I := fun seen => seen.outline.Settled ∧ seen.Tallied) ?_ start
  rintro seen label next ⟨settled, tallied⟩ taken
  exact ⟨(step_settled settled taken).1, throughout_tallied.step settled taken tallied⟩

private theorem run_rejectedAtLeast (run : Run (step designLowPass) recorder labels last)
    (continues : Along (step designLowPass) Continues recorder labels) (settled : recorder.outline.Settled)
    (tallied : recorder.Tallied) : RejectedAtLeast recorder.rejections last := by
  have sane : recorder.rejections.earlier ≤ recorder.rejections.total := by
    have counted := tallied.counted
    omega
  refine (run.invariant_along (I := fun seen => seen.outline.Settled ∧ RejectedAtLeast recorder.rejections seen) ?_
    continues ⟨settled, Nat.le_refl _, Nat.le_refl _⟩).2
  rintro seen label next ⟨settled, holds⟩ continuing taken
  exact ⟨(step_settled settled taken).1,
    (persistent_rejectedAtLeast sane).step settled continuing taken holds⟩

/-- Between two operations, a rejected frame is shown, or pipelines were dropped since. -/
theorem framesDropped_add_earlier (settled : recorder.outline.Settled) (tallied : recorder.Tallied) :
    recorder.controller.framesDropped + recorder.rejections.earlier = recorder.rejections.total :=
  tallied.framesDropped fun track => Option.map_eq_none_iff.mp (settled.opening track)

theorem init_tallied (outputDirectory : String) : (init outputDirectory).Tallied := ⟨fun _ => .inl rfl, rfl⟩

end Runs

/-- Up to the next session, the drops of a session are visible exactly if its sinks have rejected no frame before
pipelines were last dropped. -/
theorem drops_visible_iff (designLowPass : ℕ → ℚ → List ℚ) (outputDirectory : String) (opened last : Recorder)
    (labels : List Label) (reached : Reaches (step designLowPass) (init outputDirectory) opened)
    (run : Run (step designLowPass) opened labels last)
    (continues : Along (step designLowPass) Continues opened labels) :
    DropsVisible designLowPass opened labels ↔ last.rejections.earlier = 0 := by
  obtain ⟨earlier, arrived⟩ := reached
  have start := run_tallied arrived ⟨settled_init outputDirectory, init_tallied outputDirectory⟩
  have ended := run_tallied run start
  have balance := framesDropped_add_earlier ended.1 ended.2
  constructor
  · intro visible
    have counted := visible.counted labels [] last (List.append_nil _).symm run
    omega
  · intro none
    have shown : ∀ first rest seen, labels = first ++ rest → Run (step designLowPass) opened first seen →
        (seen.outline.Settled ∧ seen.Tallied) ∧ seen.controller.framesDropped = seen.rejections.total := by
      rintro first rest seen rfl begun
      obtain ⟨middle, same, remaining⟩ := Run.append_iff.mp run
      obtain rfl := begun.unique same
      obtain ⟨settled, tallied⟩ := run_tallied begun start
      have later := run_rejectedAtLeast remaining ((Along.append_iff.mp continues).2 seen begun) settled tallied
      have here := framesDropped_add_earlier settled tallied
      have least := later.2
      exact ⟨⟨settled, tallied⟩, by omega⟩
    refine ⟨fun first rest seen split begun => (shown first rest seen split begun).2, ?_⟩
    rintro first middle rest earlier later rfl begun went
    obtain ⟨⟨settled, tallied⟩, before⟩ := shown first (middle ++ rest) earlier rfl begun
    have after := (shown (first ++ middle) rest later (List.append_assoc ..).symm (begun.append went)).2
    have along := (Along.append_iff.mp ((Along.append_iff.mp continues).2 earlier begun)).1
    rw [before, after]
    exact (run_rejectedAtLeast went along settled tallied).1

/-- No label is a start. -/
private theorem continues_of_forall {designLowPass : ℕ → ℚ → List ℚ} {labels : List Label}
    (none : ∀ label ∈ labels, ∀ answers agenda, label ≠ .operation (.start answers) agenda) (recorder : Recorder) :
    Along (step designLowPass) Continues recorder labels := by
  induction labels generalizing recorder with
  | nil => trivial
  | cons label rest ih =>
    obtain ⟨here, later⟩ := List.forall_mem_cons.mp none
    exact ⟨fun answers agenda same => absurd same (here answers agenda), fun next _ => ih later next⟩

section Flood

variable (designLowPass : ℕ → ℚ → List ℚ) {recorder : Recorder} {track : Track}

/-- The track's stream has delivered at least so many frames that nobody has drained. -/
private def Flooded (recorder : Recorder) (track : Track) (count : ℕ) : Prop :=
  ∃ pipeline queue, recorder.controller.pipelines track = some pipeline ∧ pipeline.running = true ∧
    pipeline.buffer.Holds queue ∧ count ≤ queue.length + pipeline.stats.framesDropped

private theorem Flooded.capture {count : ℕ} (flooded : Flooded recorder track count) (frame : AudioFrame) :
    ∃ next, recorder.capture track frame = some next ∧ next.rejections.earlier = recorder.rejections.earlier ∧
      Flooded next track (count + 1) := by
  obtain ⟨pipeline, queue, present, running, held, least⟩ := flooded
  have answer := CaptureLine.onFrame_holds held frame
  rw [Recorder.capture, present]
  simp only [running, Bool.not_true, Bool.false_eq_true, if_false]
  refine ⟨_, rfl, offer_earlier .., { pipeline with toCaptureLine := (pipeline.onFrame frame).2 }, _,
    Function.update_self .., running, answer, ?_⟩
  have counted := onFrame_framesDropped pipeline.toCaptureLine frame {}
  change count + 1 ≤ _ + (pipeline.onFrame frame).2.stats.framesDropped
  cases accepted : (pipeline.onFrame frame).1 with
  | true =>
    simp only [accepted, Rejections.offer, if_true, Nat.add_zero] at counted
    rw [if_pos rfl, List.length_append, List.length_singleton]
    omega
  | false =>
    simp only [accepted, Rejections.offer, Bool.false_eq_true, if_false, Nat.add_zero] at counted
    rw [if_neg Bool.false_ne_true]
    omega

private theorem Flooded.run {count : ℕ} (flooded : Flooded recorder track count) (more : ℕ) :
    ∃ next, Run (step designLowPass) recorder (List.replicate more (.environment (.capture track {}))) next ∧
      next.outline = recorder.outline ∧ next.rejections.earlier = recorder.rejections.earlier ∧
      Flooded next track (count + more) := by
  induction more generalizing recorder count with
  | zero => exact ⟨recorder, Run.nil_iff.mpr rfl, rfl, rfl, flooded⟩
  | succ more ih =>
    obtain ⟨middle, captured, kept, further⟩ := flooded.capture {}
    obtain ⟨next, run, same, still, last⟩ := ih further
    refine ⟨next, Run.cons_iff.mpr ⟨middle, captured, run⟩, same.trans ?_, still.trans kept,
      by rwa [Nat.add_right_comm] at last⟩
    exact @environment_outline recorder middle (.capture track {}) captured

/-- A recording that has started has a running stream. -/
private theorem exists_flooded {ready opened : Recorder} {answers : StartAnswers} {agenda : List (List Environment)}
    (settled : ready.outline.Settled)
    (started : (RecorderController.start designLowPass answers).run agenda ready = some (true, opened)) :
    opened.controller.session = .recording ∧ ∃ track, Flooded opened track 0 := by
  obtain ⟨settled, recording, -⟩ := (RecorderController.start_shows designLowPass answers settled).run started rfl
  have balanced := (RecorderController.start_balanced designLowPass answers ‹_›).run started rfl rfl
  have capturing := settled.capturing recording
  obtain ⟨track, _, present, -⟩ := capturing.feeding
  obtain ⟨pipeline, registered, -⟩ := Option.map_eq_some_iff.mp present
  have running : pipeline.running = true := capturing.running track _ (congrArg (Option.map _) registered)
  have flow := balanced.flow track
  rw [show opened.books.pipelines track = some pipeline from registered] at flow
  refine ⟨recording, track, ?_⟩
  cases flow with
  | vacant unregistered | opening _ unregistered => cases unregistered
  | flowing same queue isSome _ held =>
    obtain rfl := Option.some.inj isSome
    exact ⟨pipeline, queue, registered, running, held, Nat.zero_le _⟩

/-- More frames than a ring holds. -/
private theorem Flooded.framesDropped_pos (flooded : Flooded recorder track 513) :
    0 < recorder.controller.framesDropped := by
  obtain ⟨pipeline, queue, present, -, held, least⟩ := flooded
  have room : queue.length ≤ 512 := held.length_le
  have counted : 0 < pipeline.stats.framesDropped := by omega
  unfold RecorderController.framesDropped
  dsimp only
  cases track with
  | microphone =>
    rw [present]
    exact Nat.add_pos_left counted _
  | systemOutput =>
    rw [present]
    exact Nat.add_pos_right _ counted

end Flood

/-- A recorder with one device. -/
private def ready : Recorder := (init "recordings").setController (·.setDevices [{}])

private theorem ready_settled : ready.outline.Settled := (settled_init "recordings").reselect _ _

private theorem run_ready (designLowPass : ℕ → ℚ → List ℚ) {opened : Recorder} {result : Bool}
    {answers : StartAnswers} {agenda : List (List Environment)}
    (started : (RecorderController.start designLowPass answers).run agenda ready = some (result, opened)) :
    Run (step designLowPass) (init "recordings")
      [.operation (.refreshDevices [{}]) [], .operation (.start answers) agenda] opened :=
  Run.cons_iff.mpr ⟨ready, rfl, Run.cons_iff.mpr ⟨_, congrArg (Option.map Prod.snd) started, Run.nil_iff.mpr rfl⟩⟩

/-- More frames arrive than the ring holds: the drops show while the streams stay open. -/
theorem drops_visible_iff_flooded : ∃ (labels : List Label) (opened last : Recorder),
    Reaches (step fun _ _ => []) (init "recordings") opened ∧ opened.controller.session = .recording ∧
    Run (step fun _ _ => []) opened labels last ∧ 0 < last.rejections.total ∧ last.rejections.earlier = 0 ∧
    0 < last.controller.framesDropped ∧ DropsVisible (fun _ _ => []) opened labels := by
  have outcome : ((RecorderController.start (fun _ _ => []) {}).run [] ready).map
      (fun result => (result.1, result.2.rejections)) = some (true, {}) := by decide +kernel
  obtain ⟨⟨result, opened⟩, started, same⟩ := Option.map_eq_some_iff.mp outcome
  obtain ⟨rfl, fresh⟩ := Prod.mk.inj same
  have arrived := run_ready (fun _ _ => []) started
  obtain ⟨recording, track, flooded⟩ := exists_flooded (fun _ _ => []) ready_settled started
  obtain ⟨last, filled, -, kept, overflowing⟩ := flooded.run (fun _ _ => []) 513
  rw [fresh] at kept
  have continues := @continues_of_forall (fun _ _ => []) (List.replicate 513 (.environment (.capture track {}))) (by
    intro label member answers agenda isStart
    have other := List.eq_of_mem_replicate member
    rw [isStart] at other
    cases other) opened
  obtain ⟨settled, tallied⟩ := run_tallied (arrived.append filled)
    ⟨settled_init "recordings", init_tallied "recordings"⟩
  have shown := framesDropped_add_earlier settled tallied
  have dropped := overflowing.framesDropped_pos
  exact ⟨_, opened, last, ⟨_, arrived⟩, recording, filled, by omega, kept, dropped,
    (drops_visible_iff (fun _ _ => []) "recordings" opened last _ ⟨_, arrived⟩ filled continues).mpr kept⟩

/-- More frames arrive than the ring holds, and the recording is stopped: nothing is shown of what was dropped. -/
theorem drops_forgotten : ∃ (labels : List Label) (opened last : Recorder),
    Reaches (step fun _ _ => []) (init "recordings") opened ∧ opened.controller.session = .recording ∧
    Run (step fun _ _ => []) opened labels last ∧ Along (step fun _ _ => []) Continues opened labels ∧
    last.controller.session = .idle ∧ last.controller.framesDropped = 0 ∧ 0 < last.rejections.total ∧
    ¬ DropsVisible (fun _ _ => []) opened labels := by
  obtain ⟨agenda, opened, -, started⟩ := start_succeeds (fun _ _ => []) ready_settled rfl .microphone rfl
  have arrived := run_ready (fun _ _ => []) started
  obtain ⟨recording, track, flooded⟩ := exists_flooded (fun _ _ => []) ready_settled started
  obtain ⟨full, filled, same, -, overflowing⟩ := flooded.run (fun _ _ => []) 513
  obtain ⟨settled, tallied⟩ := run_tallied (arrived.append filled)
    ⟨settled_init "recordings", init_tallied "recordings"⟩
  have active : full.controller.session = .recording := (congrArg Outline.session same).trans recording
  obtain ⟨agenda, last, -, stopped, still, idle⟩ := stop_succeeds (fun _ _ => []) settled (.inl active)
  have stop : Run (step fun _ _ => []) full [.operation (.stop {}) agenda] last :=
    Run.cons_iff.mpr ⟨last, congrArg (Option.map Prod.snd) stopped, Run.nil_iff.mpr rfl⟩
  have continues := @continues_of_forall (fun _ _ => [])
    (List.replicate 513 (.environment (.capture track {})) ++ [.operation (.stop {}) agenda]) (by
      intro label member answers agenda isStart
      rcases List.mem_append.mp member with captured | last
      · have other := List.eq_of_mem_replicate captured
        rw [isStart] at other
        contradiction
      · have other := List.mem_singleton.mp last
        rw [isStart] at other
        cases other) opened
  have shown := framesDropped_add_earlier settled tallied
  have dropped := overflowing.framesDropped_pos
  have least := (run_rejectedAtLeast stop ((Along.append_iff.mp continues).2 full filled) settled tallied).1
  have none : last.controller.framesDropped = 0 := by
    have vacant (track : Track) : last.controller.pipelines track = .none :=
      Option.map_eq_none_iff.mp ((still.released idle).pipelines track)
    simp only [RecorderController.framesDropped, vacant]
    rfl
  refine ⟨_, opened, last, ⟨_, arrived⟩, recording, filled.append stop, continues, idle, none, by omega,
    fun visible => ?_⟩
  have counted := visible.counted _ [] last (List.append_nil _).symm (filled.append stop)
  omega

end Recorder

end VoxMesh.App
