import VoxMesh.Model.Transcript
import VoxMesh.Proofs.TranscriptBoard
import VoxMesh.Soundness.RecorderLifecycle

/-! # The transcript of a session

The lines are cleared when a transcription session begins, but updates of the session before may still wait in
the event queue, and they are then applied in the new one. So the transcript belongs to its session in every run in
which the queue is empty whenever a session begins.
-/

namespace VoxMesh.App

open VoxMesh.Audio VoxMesh.Stt Machine

namespace RecorderController

theorem applyTranscript_outline (recorder : Recorder) (update : TranscriptUpdate) :
    (recorder.setController (·.applyTranscript update)).outline = recorder.outline := by
  simp only [Recorder.setController, applyTranscript]
  split <;> rfl

/-- An update contributes its own line and no other. -/
theorem mem_applyTranscript {controller : RecorderController} {update : TranscriptUpdate} {line : String}
    (shown : line ∈ (controller.applyTranscript update).transcriptLines) :
    line ∈ controller.transcriptLines ∨ line = update.line := by
  rw [applyTranscript] at shown
  split at shown
  next => exact List.mem_or_eq_of_mem_set shown
  next => simpa using shown

end RecorderController

namespace Desktop

variable (designLowPass : ℕ → ℚ → List ℚ)

/-- The step begins a transcription session. -/
def BeginsSession (desktop : Desktop) : DesktopLabel → Prop
  | .recorder label _ _ => ∃ recorder, desktop.recorder.step designLowPass label = some recorder ∧
      recorder.sttSessions ≠ desktop.recorder.sttSessions
  | _ => False

instance (desktop : Desktop) : (label : DesktopLabel) → Decidable (BeginsSession designLowPass desktop label)
  | .recorder label _ _ => decidable_of_iff
      ((desktop.recorder.step designLowPass label).any (·.sttSessions ≠ desktop.recorder.sttSessions) = true)
      (by simp only [BeginsSession, Option.any_eq_true, decide_eq_true_eq])
  | .receive _ => isFalse id
  | .processEvent => isFalse id

/-- No update waits in the event queue when a session begins. -/
def Unhurried (desktop : Desktop) (label : DesktopLabel) : Prop :=
  BeginsSession designLowPass desktop label → desktop.uiQueue = []

instance (desktop : Desktop) (label : DesktopLabel) : Decidable (Unhurried designLowPass desktop label) :=
  inferInstanceAs (Decidable (_ → _))

/-- Every line was built from an update received in the session that began last. -/
def LinesOfSession (desktop : Desktop) : Prop :=
  ∀ line ∈ desktop.recorder.controller.transcriptLines, ∃ update ∈ desktop.received, line = update.line

/-- Everything that waits or is shown belongs to the session. -/
private structure Current (desktop : Desktop) : Prop where
  settled : desktop.recorder.outline.Settled
  waiting : desktop.uiQueue ⊆ desktop.received
  shown : desktop.LinesOfSession

variable {designLowPass}

private theorem Current.receive {desktop next : Desktop} (current : desktop.Current) {updates : List TranscriptUpdate}
    (taken : desktop.receive updates = some next) : next.Current ∧ next.recorder = desktop.recorder := by
  rw [Desktop.receive] at taken
  split at taken
  next =>
    obtain rfl := Option.some.inj taken
    refine ⟨⟨current.settled, ?_, fun line shown => ?_⟩, rfl⟩
    · exact List.append_subset.mpr ⟨List.subset_append_of_subset_left _ current.waiting, List.subset_append_right ..⟩
    · obtain ⟨update, member, same⟩ := current.shown line shown
      exact ⟨update, List.mem_append_left _ member, same⟩
  next => contradiction

private theorem Current.next {desktop next : Desktop} {label : DesktopLabel} (current : desktop.Current)
    (unhurried : Unhurried designLowPass desktop label) (taken : desktop.step designLowPass label = some next) :
    next.Current := by
  cases label with
  | receive update => exact (current.receive taken).1
  | processEvent =>
    rw [step] at taken
    split at taken
    next => contradiction
    next update rest queue =>
      obtain rfl := Option.some.inj taken
      have waiting := List.cons_subset.mp (queue ▸ current.waiting)
      refine ⟨?_, waiting.2, fun line shown => ?_⟩
      · rw [RecorderController.applyTranscript_outline]
        exact current.settled
      · rcases RecorderController.mem_applyTranscript shown with before | rfl
        · exact current.shown line before
        · exact ⟨update, waiting.1, rfl⟩
  | recorder inner earlier later =>
    obtain ⟨recorder, moved, middle, received, became⟩ := by
      simpa only [step, Option.bind_eq_bind, Option.bind_eq_some_iff] using taken
    obtain ⟨still, same⟩ := current.receive received
    have settled := (Recorder.step_settled current.settled moved).1
    have board := Recorder.step_board moved
    rw [become, same] at became
    split at became
    next kept =>
      split at became
      next =>
        obtain rfl := Option.some.inj became
        refine ⟨settled, still.waiting, fun line shown => ?_⟩
        have lines : recorder.controller.transcriptLines = desktop.recorder.controller.transcriptLines ∨
            recorder.controller.transcriptLines = [] := by
          rcases board with on | ⟨-, on | on | on⟩
          · exact .inl (congrArg Board.lines on)
          · exact .inl (congrArg Board.lines on)
          · exact .inr (congrArg Board.lines on)
          · exact .inr (congrArg Board.lines on)
        rcases lines with unchanged | cleared
        · exact still.shown line (by rw [same, ← unchanged]; exact shown)
        · rw [show recorder.controller.transcriptLines = [] from cleared] at shown
          contradiction
      next => contradiction
    next begun =>
      obtain rfl := Option.some.inj became
      have queue := unhurried ⟨recorder, moved, begun⟩
      have other {board : Board} (on : On board recorder) (sessions : board.sessions = desktop.recorder.sttSessions) :
          False := begun ((congrArg Board.sessions on).trans sessions)
      obtain ⟨idle, cleared⟩ : desktop.recorder.controller.session = .idle ∧
          recorder.controller.transcriptLines = [] := by
        rcases board with on | ⟨idle, on | on | on⟩
        · exact (other on rfl).elim
        · exact (other on rfl).elim
        · exact (other on rfl).elim
        · exact ⟨idle, congrArg Board.lines on⟩
      have noClient : desktop.recorder.controller.sttClient.isSome = false := (current.settled.released idle).sttClient
      have silent : middle.uiQueue = [] := by
        rw [Desktop.receive, noClient, Bool.or_false] at received
        split at received
        next none =>
          obtain rfl := Option.some.inj received
          rw [post, queue, List.isEmpty_iff.mp none]
          rfl
        next => contradiction
      refine ⟨settled, ?_, fun line shown => ?_⟩
      · simp [post, silent]
      · rw [show (post { middle with recorder := recorder, received := [] } later).recorder.controller.transcriptLines =
          [] from cleared] at shown
        contradiction

/-- In every run in which the queue is empty whenever a session begins, the lines belong to the session. -/
theorem lines_of_session (designLowPass : ℕ → ℚ → List ℚ) (outputDirectory : String) (labels : List DesktopLabel)
    (last : Desktop) (run : Run (step designLowPass) (init outputDirectory) labels last)
    (unhurried : Along (step designLowPass) (Unhurried designLowPass) (init outputDirectory) labels) :
    last.LinesOfSession := by
  have start : (init outputDirectory).Current :=
    ⟨Recorder.settled_init outputDirectory, List.nil_subset _, fun _ shown => by cases shown⟩
  exact (run.invariant_along (fun _ _ _ current unhurried taken => current.next unhurried taken) unhurried start).shown

/-- An update of a session. -/
private def update (stableText : String) : TranscriptUpdate where
  segmentId := "seg-1"
  revision := 1
  stableText := stableText

/-- The endpoint and the devices are set up. -/
private def setUp : List DesktopLabel :=
  [.recorder (.operation (.setSttEndpoint "localhost:50051") []) [] [],
    .recorder (.operation (.refreshDevices [{ id := "m", name := "Microphone", isDefault := true }]) []) [] []]

private def starts (later : List TranscriptUpdate) : DesktopLabel := .recorder (.operation (.start {}) []) [] later

private def stops : DesktopLabel := .recorder (.operation (.stop {}) []) [] []

/-- The update of the first session is processed in the second. -/
def lateProcessing : List DesktopLabel :=
  setUp ++ [starts [], .receive (update "old"), stops, starts [update "new"], .processEvent]

/-- The update of the first session is processed before the second begins. -/
def timelyProcessing : List DesktopLabel :=
  setUp ++ [starts [], .receive (update "old"), stops, .processEvent, starts [update "new"], .processEvent]

theorem lines_of_session_timely : ∃ last, Run (step fun _ _ => []) (init "recordings") timelyProcessing last ∧
    last.recorder.sttSessions = 2 ∧ last.recorder.controller.transcriptLines = ["new"] ∧ last.LinesOfSession := by
  have outcome : (exec (step fun _ _ => []) (init "recordings") timelyProcessing).map (fun last =>
      (last.recorder.sttSessions, last.recorder.controller.transcriptLines)) = some (2, ["new"]) := by decide +kernel
  obtain ⟨last, run, same⟩ := Option.map_eq_some_iff.mp outcome
  obtain ⟨sessions, lines⟩ := Prod.mk.inj same
  exact ⟨last, run, sessions, lines, lines_of_session _ "recordings" timelyProcessing last run (by decide +kernel)⟩

/-- The transcript of the second session shows a line that was received in the first one only. -/
theorem lines_of_other_session : ∃ last, Run (step fun _ _ => []) (init "recordings") lateProcessing last ∧
    last.recorder.sttSessions = 2 ∧ last.recorder.controller.transcriptLines = ["old"] ∧
    last.received = [update "new"] ∧ ¬ last.LinesOfSession := by
  have outcome : (exec (step fun _ _ => []) (init "recordings") lateProcessing).map (fun last =>
      (last.recorder.sttSessions, last.recorder.controller.transcriptLines, last.received)) =
      some (2, ["old"], [update "new"]) := by decide +kernel
  obtain ⟨last, run, same⟩ := Option.map_eq_some_iff.mp outcome
  obtain ⟨sessions, rest⟩ := Prod.mk.inj same
  obtain ⟨lines, received⟩ := Prod.mk.inj rest
  refine ⟨last, run, sessions, lines, received, fun belongs => ?_⟩
  obtain ⟨update, member, same⟩ := belongs "old" (by rw [lines]; exact List.mem_singleton_self _)
  rw [received, List.mem_singleton] at member
  subst member
  revert same
  decide

end Desktop

end VoxMesh.App
