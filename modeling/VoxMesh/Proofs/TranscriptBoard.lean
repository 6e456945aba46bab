import VoxMesh.Proofs.RecorderLifecycle

/-! # The transcript on the board

The other threads leave the transcript lines and the number of the session alone, and so do the operations, except
for a `start` of an idle recorder: it may clear the lines, and begins a session only with no line left.
-/

namespace VoxMesh.App

open VoxMesh.Audio VoxMesh.Media VoxMesh.Dsp Machine

/-- What is shown of the transcript, and the number of the session. -/
structure Board where
  lines : List String
  sessions : ℕ

def Recorder.board (recorder : Recorder) : Board := ⟨recorder.controller.transcriptLines, recorder.sttSessions⟩

/-- The recorder shows the given board. -/
def On (board : Board) (recorder : Recorder) : Prop := recorder.board = board

namespace Recorder

theorem drainFrame_board {recorder next : Recorder} {track : Track} {answers rest : List FfmpegAnswer}
    (passed : recorder.drainFrame track answers = some (next, rest)) : next.board = recorder.board := by
  obtain ⟨pipeline, frame, -, -, same⟩ := drainFrame_eq_some passed
  have uploaded (recorder : Recorder) (feeds : Bool) (aligned : List AlignedFrame) :
      (recorder.uploadAligned feeds aligned).board = recorder.board := by
    unfold uploadAligned
    split <;> rfl
  have written (recorder : Recorder) (target : ℤ) (aligned : List AlignedFrame) (answers : List FfmpegAnswer) :
      (recorder.writeAligned target aligned answers).1.board = recorder.board := by
    rw [writeAligned]
    split
    next => rfl
    next => split <;> rfl
  calc next.board
    _ = _ := congrArg (·.1.board) same.symm
    _ = _ := written ..
    _ = _ := uploaded ..

theorem keptByPasses_board (board : Board) : KeptByPasses (On board) :=
  fun _ _ _ _ _ passed on => (drainFrame_board passed).trans on

theorem stable_board (board : Board) : Thread.Stable environment (On board) := by
  refine (keptByPasses_board board).stable ?_ ?_ fun _ _ on => on
  · intro recorder next track frame captured on
    obtain ⟨pipeline, -, -, rfl⟩ := capture_eq_some captured
    exact on
  · intro recorder next track frame captured on
    obtain ⟨line, -, rfl⟩ := captureOpening_eq_some captured
    exact on

theorem dropPipelines_board {board : Board} {recorder : Recorder} (on : On board recorder)
    (drained : List FfmpegAnswer) : On board (recorder.dropPipelines drained) := by
  obtain ⟨last, same, on, -, -⟩ := (keptByPasses_board board).dropPipelines on drained
  rw [same]
  exact on

theorem abortWriter_board {board : Board} {recorder : Recorder} (on : On board recorder) :
    On board recorder.abortWriter := by
  unfold abortWriter
  split <;> exact on

theorem finishWriter_board {board : Board} {recorder : Recorder} (on : On board recorder)
    (finalized : List FfmpegAnswer) (renamed : Bool) : On board (recorder.finishWriter finalized renamed).2 := by
  unfold finishWriter
  split
  next => exact on
  next =>
    split
    next => exact on
    next =>
      split
      next => exact abortWriter_board on
      next => split <;> exact on

theorem register_board {board : Board} {recorder : Recorder} (on : On board recorder) (track : Track)
    (feeds : Bool) : On board (recorder.register track feeds) := by
  rw [register]
  split <;> exact on

theorem stopStream_board {board : Board} {recorder : Recorder} (on : On board recorder) (track : Track) :
    On board (recorder.stopStream track) := by
  rw [stopStream]
  split <;> exact on

end Recorder

namespace RecorderController

open Thread Ui

variable {board : Board} {α : Type}

/-- A change that does not touch the lines. -/
private theorem set_board {change : RecorderController → RecorderController}
    (kept : ∀ controller, (change controller).transcriptLines = controller.transcriptLines) :
    Ensures (On board) (Ui.set change) fun _ => On board :=
  Ensures.update fun recorder on => (congrArg (Board.mk · recorder.sttSessions) (kept _)).trans on

private theorem fail_board (message : String) : Ensures (On board) (fail message) fun _ => On board :=
  set_board fun _ => rfl

private theorem handle_board (event : SessionEvent) : Ensures (On board) (handle event) fun _ => On board :=
  Ensures.act fun _ on => on

/-- A critical section that does not touch the board. -/
private theorem underLock_board {action : Recorder → α × Recorder}
    (kept : ∀ recorder : Recorder, On board recorder → On board (action recorder).2) :
    Ensures (On board) (underLock action) fun _ => On board :=
  Ensures.locked (Recorder.stable_board board) fun recorder on _ => kept recorder on

private theorem stopStreams_board (drained : List FfmpegAnswer) :
    Ensures (On board) (stopStreams drained) fun _ => On board := by
  have stopped (track : Track) : Ensures (On board) (atomically (·.stopStream track)) fun _ => On board :=
    (Ensures.yield (Recorder.stable_board board)).bind fun _ =>
      Ensures.update fun _ on => Recorder.stopStream_board on track
  refine (stopped .microphone).bind fun _ => (stopped .systemOutput).bind fun _ => ?_
  exact underLock_board fun _ on => Recorder.dropPipelines_board on drained

private theorem discardWriter_board : Ensures (On board) discardWriter fun _ => On board :=
  (underLock_board fun _ on => Recorder.abortWriter_board on).bind fun _ => set_board fun _ => rfl

private theorem stopSttStreaming_board : Ensures (On board) stopSttStreaming fun _ => On board :=
  (underLock_board fun _ on => on).bind fun _ => set_board fun _ => rfl

private theorem startTrack_board (track : Track) (feeds : Bool) (failure : Option CaptureError) :
    Ensures (On board) (startTrack track feeds failure) fun _ => On board := by
  refine get_any.bind fun device => ?_
  cases failure with
  | some error => exact (fail_board _).bind fun _ => Ensures.pure _ fun _ on => on
  | none =>
    refine Ensures.bind (Q := fun _ => On board) (Ensures.update fun _ on => on) fun _ => ?_
    exact (underLock_board fun _ on => Recorder.register_board on track feeds).bind fun _ =>
      Ensures.pure _ fun _ on => on

private theorem startSelected_board (track : Track) (feeds : Bool) (failure : Option CaptureError) :
    Ensures (On board) (startSelected track feeds failure) fun _ => On board :=
  get_any.bind fun _ => Ensures.ite (fun _ => startTrack_board track feeds failure) fun _ =>
    Ensures.pure _ fun _ on => on

private theorem startStreams_board (failures : Track → Option CaptureError) :
    Ensures (On board) (startStreams failures) fun _ => On board := by
  refine get_any.bind fun _ => (startSelected_board _ _ _).bind fun _ => ?_
  refine Ensures.ite (fun _ => Ensures.pure _ fun _ on => on) fun _ => ?_
  refine get_any.bind fun _ => (startSelected_board _ _ _).bind fun _ => ?_
  exact Ensures.ite (fun _ => Ensures.pure _ fun _ on => on) fun _ => Ensures.pure _ fun _ on => on

private theorem abandon_board (drained : List FfmpegAnswer) :
    Ensures (On board) (abandon drained) fun _ => On board :=
  (stopStreams_board drained).bind fun _ => discardWriter_board.bind fun _ => stopSttStreaming_board.bind fun _ =>
    (handle_board .fault).bind fun _ => (handle_board .reset).bind fun _ => Ensures.pure _ fun _ on => on

private theorem createWriter_board (answers : FileAnswers) :
    Ensures (On board) (createWriter answers) fun _ => On board := by
  refine Ensures.bind (Q := fun _ => On board) (set_board fun _ => rfl) fun _ => Ensures.ite (fun _ => ?_) fun _ => ?_
  · exact (fail_board _).bind fun _ => Ensures.pure _ fun _ on => on
  refine get_any.bind fun tracks => get_any.bind fun directory => ?_
  refine Ensures.bind (Q := fun _ => On board) (Ensures.act fun _ on => on) fun path => ?_
  refine Ensures.bind (Q := fun _ => On board) (Ensures.act fun _ on => on) fun result => ?_
  cases result with
  | error error => exact (fail_board _).bind fun _ => Ensures.pure _ fun _ on => on
  | ok writer =>
    refine Ensures.bind (Q := fun _ => On board) (set_board fun _ => rfl) fun _ => ?_
    exact (underLock_board fun _ on => on).bind fun _ => Ensures.pure _ fun _ on => on

private theorem pause_board (drained : List FfmpegAnswer) :
    Ensures (On board) (pause drained) fun _ => On board :=
  (handle_board .pause).bind fun _ => Ensures.ite (fun _ => Ensures.pure _ fun _ on => on) fun _ =>
    (stopStreams_board drained).bind fun _ => Ensures.pure _ fun _ on => on

private theorem resume_board (failures : Track → Option CaptureError) :
    Ensures (On board) (resume failures) fun _ => On board := by
  refine get_any.bind fun _ => Ensures.ite (fun _ => Ensures.pure _ fun _ on => on) fun _ => ?_
  refine (startStreams_board failures).bind fun _ => Ensures.ite (fun _ => ?_) fun _ => handle_board .resume
  exact (handle_board .fault).bind fun _ => Ensures.pure _ fun _ on => on

private theorem stop_board (answers : StopAnswers) : Ensures (On board) (stop answers) fun _ => On board := by
  refine (handle_board .stop).bind fun _ => Ensures.ite (fun _ => Ensures.pure _ fun _ on => on) fun _ => ?_
  refine (stopStreams_board answers.drained).bind fun _ =>
    Ensures.bind (Q := fun _ => On board) (set_board fun _ => rfl) fun _ => ?_
  refine Ensures.bind (Q := fun _ => On board) (underLock_board fun _ on => Recorder.finishWriter_board on _ _)
    fun _ => Ensures.bind (Q := fun _ => On board) (set_board fun _ => rfl) fun _ =>
      stopSttStreaming_board.bind fun _ => ?_
  refine Ensures.bind (Q := fun _ => On board) ?_ fun _ => (handle_board .stopComplete).bind fun _ =>
    (handle_board .reset).bind fun _ => Ensures.pure _ fun _ on => on
  exact Ensures.ite (fun _ => set_board fun _ => rfl) fun _ => Ensures.ite (fun _ => fail_board _) fun _ =>
    Ensures.pure _ fun _ on => on

/-- The board after a step that may have begun a session. -/
def Turned (board : Board) (recorder : Recorder) : Prop :=
  On board recorder ∨ On ⟨[], board.sessions⟩ recorder ∨ On ⟨[], board.sessions + 1⟩ recorder

private theorem startSttStreaming_board (designLowPass : ℕ → ℚ → List ℚ) (answers : SttAnswers) :
    Ensures (On board) (startSttStreaming designLowPass answers) fun _ => Turned board := by
  refine get_any.bind fun endpoint => Ensures.ite (fun _ => Ensures.pure _ fun _ on => .inl on) fun _ => ?_
  refine Ensures.bind (Q := fun _ => On ⟨[], board.sessions⟩) (Ensures.update ?_) fun _ => get_any.bind fun _ => ?_
  · rintro recorder rfl
    rfl
  split
  next => exact (fail_board _).conseq (fun _ on => on) fun _ _ on => .inr (.inl on)
  next producer _ =>
    refine Ensures.ite (fun _ => (fail_board _).conseq (fun _ on => on) fun _ _ on => .inr (.inl on)) fun _ => ?_
    refine Ensures.locked (Recorder.stable_board _) fun recorder on _ => .inr (.inr ?_)
    exact congrArg (fun seen : Board => Board.mk seen.lines (seen.sessions + 1)) on

/-- What keeps every board keeps what is known of a turned one. -/
private theorem turned_of_board {thread : Ui α} (kept : ∀ board, Ensures (On board) thread fun _ => On board) :
    Ensures (Turned board) thread fun _ => Turned board := by
  rintro view result view' outcome (on | on | on)
  · exact .inl (kept _ view result view' outcome on)
  · exact .inr (.inl (kept _ view result view' outcome on))
  · exact .inr (.inr (kept _ view result view' outcome on))

private theorem startRecording_board (designLowPass : ℕ → ℚ → List ℚ) (answers : StartAnswers) :
    Ensures (On board) (startRecording designLowPass answers) fun _ => Turned board := by
  refine (createWriter_board answers.file).bind fun _ => Ensures.ite (fun _ => Ensures.pure _ fun _ on => .inl on)
    fun _ => ?_
  refine (handle_board .start).bind fun _ => Ensures.ite (fun _ => discardWriter_board.bind fun _ =>
    Ensures.pure _ fun _ on => .inl on) fun _ => ?_
  refine (startSttStreaming_board designLowPass answers.stt).bind fun _ =>
    (turned_of_board fun _ => startStreams_board answers.captures).bind fun _ => Ensures.ite (fun _ => ?_) fun _ => ?_
  · exact (turned_of_board fun _ => abandon_board answers.drained).bind fun _ => Ensures.pure _ fun _ on => on
  · exact Ensures.bind (Q := fun _ => Turned board) (turned_of_board fun _ => set_board fun _ => rfl) fun _ =>
      Ensures.pure _ fun _ on => on

/-- Only from idle a `start` clears the lines, and it may begin a session then. -/
private theorem start_board (designLowPass : ℕ → ℚ → List ℚ) (answers : StartAnswers) (session : SessionState) :
    Ensures (fun recorder => recorder.controller.session = session ∧ On board recorder) (start designLowPass answers)
      fun _ recorder => On board recorder ∨ session = .idle ∧ Turned board recorder := by
  refine Ensures.bind_eq session ((Ensures.read _).conseq (fun _ holds => holds) ?_)
    (Ensures.ite (fun _ => Ensures.pure _ fun _ on => .inl on) fun idle => ?_)
  · rintro value recorder ⟨rfl, same, on⟩
    exact ⟨same, on⟩
  refine Ensures.conseq (Q := fun _ => Turned board) ?_ (fun _ on => on)
    fun _ _ turned => .inr ⟨not_not.mp idle, turned⟩
  refine Ensures.bind (Q := fun _ => On board) ?_ fun _ => get_any.bind fun _ => Ensures.ite (fun _ => ?_) fun _ => ?_
  · refine get_any.bind fun _ => Ensures.ite (fun _ => set_board fun _ => rfl) fun _ => ?_
    exact Ensures.pure _ fun _ on => on
  · exact (fail_board _).bind fun _ => Ensures.pure _ fun _ on => .inl on
  · exact (fail_board _).bind fun _ => startRecording_board designLowPass answers

end RecorderController

namespace Recorder

open Thread RecorderController

variable {designLowPass : ℕ → ℚ → List ℚ}

/-- Only a `start` touches the board. -/
private theorem perform_board {board : Board} {operation : Operation} (other : ∀ answers, operation ≠ .start answers) :
    Ensures (On board) (perform designLowPass operation) fun _ => On board := by
  have kept {change : RecorderController → RecorderController}
      (outside : ∀ controller, (change controller).transcriptLines = controller.transcriptLines) :
      Ensures (On board) (do Ui.set change; return true) fun _ => On board :=
    (set_board outside).bind fun _ => Ensures.pure _ fun _ on => on
  cases operation with
  | start answers => exact absurd rfl (other answers)
  | refreshDevices found => exact kept fun _ => rfl
  | pause drained => exact pause_board drained
  | resume failures => exact resume_board failures
  | stop answers => exact stop_board answers
  | setSelectedMicrophone index | setSelectedSystemOutput index =>
    refine kept fun controller => ?_
    simp only [RecorderController.select]
    split <;> rfl
  | setOutputDirectory directory | setSttEndpoint endpoint =>
    refine kept fun controller => ?_
    split <;> rfl

/-- A step leaves the lines or clears them; it begins a session only when it is a `start` of an idle recorder. -/
theorem step_board {recorder next : Recorder} {label : Label} (taken : step designLowPass recorder label = some next) :
    On recorder.board next ∨ recorder.controller.session = .idle ∧ Turned recorder.board next := by
  cases label with
  | operation operation agenda =>
    obtain ⟨⟨result, last⟩, outcome, same⟩ := Option.map_eq_some_iff.mp taken
    obtain rfl : last = next := same
    by_cases isStart : ∃ answers, operation = .start answers
    · obtain ⟨answers, rfl⟩ := isStart
      exact (start_board designLowPass answers _).run outcome ⟨rfl, rfl⟩
    · exact .inl ((perform_board (not_exists.mp isStart)).run outcome rfl)
  | statsTick =>
    rw [step] at taken
    split at taken
    next =>
      obtain rfl := Option.some.inj taken
      rw [onStatsTick]
      split <;> exact .inl rfl
    next => contradiction
  | environment event => exact .inl (stable_board _ recorder event next taken rfl)

end Recorder

end VoxMesh.App
