import VoxMesh.Model.RecorderController
import VoxMesh.Model.SttStreamClient

/-! # The displayed transcript

The controller shows one line for each transcript segment, in two lists that belong together: the ids of the
segments and their lines. An update replaces the line of its segment or appends one. Updates are received by
the reader thread of the transcription client, which posts them to the event queue of the UI thread. The UI
thread processes the queue in order, and not while it performs an operation.
-/

namespace VoxMesh.Stt

/-- The line of an update: the text that is settled, and what may still change with an ellipsis. -/
def TranscriptUpdate.line (update : TranscriptUpdate) : String :=
  if update.mutableText.isEmpty then update.stableText
  else (if update.stableText.isEmpty then update.stableText else update.stableText ++ " ") ++
    (update.mutableText ++ "…")

end VoxMesh.Stt

namespace VoxMesh.App

open VoxMesh.Stt

def RecorderController.applyTranscript (controller : RecorderController) (update : TranscriptUpdate) :
    RecorderController :=
  match controller.transcriptSegmentIds.findIdx? (· == update.segmentId) with
  | some index => { controller with transcriptLines := controller.transcriptLines.set index update.line }
  | none => { controller with
      transcriptSegmentIds := controller.transcriptSegmentIds ++ [update.segmentId]
      transcriptLines := controller.transcriptLines ++ [update.line] }

/-- The recorder with the event queue of the UI thread. -/
structure Desktop where
  recorder : Recorder
  uiQueue : List TranscriptUpdate := []
  /-- The updates received in the transcription session that began last; no step reads them. -/
  received : List TranscriptUpdate := []

inductive DesktopLabel where
  /-- A step of the recorder. During an operation, updates may arrive from the client that is there when it
  begins, and later from a client that it starts. -/
  | recorder (label : Label) (earlier later : List TranscriptUpdate)
  | receive (update : TranscriptUpdate)
  /-- The UI thread processes the update at the front of its queue. -/
  | processEvent

namespace Desktop

def post (desktop : Desktop) (updates : List TranscriptUpdate) : Desktop :=
  { desktop with uiQueue := desktop.uiQueue ++ updates, received := desktop.received ++ updates }

/-- Updates are received while there is a client. -/
def receive (desktop : Desktop) (updates : List TranscriptUpdate) : Option Desktop :=
  if updates.isEmpty || desktop.recorder.controller.sttClient.isSome then some (desktop.post updates) else none

/-- The state once the recorder has made a step, and has begun a transcription session or not. -/
def become (desktop : Desktop) (recorder : Recorder) (later : List TranscriptUpdate) : Option Desktop :=
  if recorder.sttSessions = desktop.recorder.sttSessions then
    if later.isEmpty then some { desktop with recorder := recorder } else none
  else some (post { desktop with recorder := recorder, received := [] } later)

variable (designLowPass : ℕ → ℚ → List ℚ)

def step (desktop : Desktop) : DesktopLabel → Option Desktop
  | .recorder label earlier later => do
      let recorder ← desktop.recorder.step designLowPass label
      let desktop ← desktop.receive earlier
      desktop.become recorder later
  | .receive update => desktop.receive [update]
  | .processEvent =>
      match desktop.uiQueue with
      | [] => none
      | update :: rest => some { desktop with
          recorder := desktop.recorder.setController (·.applyTranscript update)
          uiQueue := rest }

def init (outputDirectory : String) : Desktop := { recorder := .init outputDirectory }

end Desktop

end VoxMesh.App
