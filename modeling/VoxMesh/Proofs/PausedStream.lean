import VoxMesh.Proofs.StreamOperations
import VoxMesh.Proofs.SttUpload

/-! # The transcription stream across a pause

A pause drops the pipelines with their rings and synchronizers, while the producer, its filter and its pending
samples stay. `Continues` follows the producer and the client from a pause on: they have taken all that was aligned
since for the transcription stream, in the order in which it was drained. Every operation of the session sustains it.
-/

namespace VoxMesh.App

open VoxMesh.Audio VoxMesh.Media VoxMesh.Dsp Machine

/-- What was aligned for the transcription stream since. -/
def History.fedSince (history before : History) : List AudioFrame := history.fed.drop before.fed.length

theorem History.fed_offer (history : History) (track : Track) (frame : AudioFrame) (accepted : Bool) :
    (history.offer track frame accepted).fed = history.fed := by
  cases accepted <;> rfl

/-- The transcription stream since the given point, at which it had the given producer and client. -/
def Continues (producer : SttStreamProducer) (client : SttClient) (before : History) (core : Core) : Prop :=
  ∃ fed, core.history.fed = before.fed ++ fed ∧ core.sttProducer = some (producer.run fed).1 ∧
    core.sttClient = some { client with frames := client.frames ++ (producer.run fed).2 }

namespace Continues

variable {producer : SttStreamProducer} {client : SttClient} {before : History} {recorder next : Recorder}
variable {track : Track}

/-- A pass of the drain loop feeds the aligned frames to the producer, or its pipeline does not feed it. -/
theorem drainFrame {answers rest : List FfmpegAnswer} (passed : recorder.drainFrame track answers = some (next, rest))
    (continues : Continues producer client before recorder.core) : Continues producer client before next.core := by
  obtain ⟨pipeline, frame, _, _, _, _, _, _, -, -, same, outcome⟩ := Recorder.drainFrame_core passed
  obtain ⟨fed, grown, hasProducer, hasClient⟩ := continues
  have held : recorder.history.fed = before.fed ++ fed := grown
  rw [same]
  rcases outcome with ⟨rfl, rfl, off⟩ | ⟨last, uploads, feeds, hadProducer, hadClient, rfl, rfl⟩
  · have silent : pipeline.feedsSttStream = false := by
      by_contra feeds
      exact off _ _ (Bool.not_eq_false _ ▸ feeds) hasProducer hasClient
    refine ⟨fed, ?_, hasProducer, hasClient⟩
    change recorder.history.fed ++ (if pipeline.feedsSttStream then _ else _) = _
    rw [silent, if_neg Bool.false_ne_true, List.append_nil, held]
  · obtain rfl := Option.some.inj (hasProducer.symm.trans hadProducer)
    obtain rfl := Option.some.inj (hasClient.symm.trans hadClient)
    refine ⟨fed ++ (pipeline.synchronizer.process .machine frame).2.map (·.frame), ?_, ?_, ?_⟩
    · change recorder.history.fed ++ (if pipeline.feedsSttStream then _ else _) = _
      rw [feeds, if_pos rfl, held, List.append_assoc]
    · rw [SttStreamProducer.run_append]
    · rw [SttStreamProducer.run_append, List.append_assoc]

private theorem keptByPasses :
    Recorder.KeptByPasses fun recorder => Continues producer client before recorder.core :=
  fun _ _ _ _ _ passed continues => continues.drainFrame passed

theorem sustained : Sustained fun recorder => Continues producer client before recorder.core where
  stable := by
    refine keptByPasses.stable ?_ ?_ fun _ _ continues => continues
    · rintro recorder next track frame captured ⟨fed, grown, stt⟩
      obtain ⟨pipeline, -, -, rfl⟩ := Recorder.capture_eq_some captured
      exact ⟨fed, (History.fed_offer ..).trans grown, stt⟩
    · rintro recorder next track frame captured ⟨fed, grown, stt⟩
      obtain ⟨line, -, rfl⟩ := Recorder.captureOpening_eq_some captured
      exact ⟨fed, (History.fed_offer ..).trans grown, stt⟩
  outside _ _ core _ _ continues := core ▸ continues
  register recorder track feeds continues := by
    rw [Recorder.register]
    split <;> exact continues
  stopStream recorder track continues := by
    rw [Recorder.stopStream]
    split <;> exact continues
  dropPipelines drained _ continues := by
    obtain ⟨last, same, kept, -⟩ := keptByPasses.dropPipelines continues drained
    rw [same]
    exact kept

theorem opensStreams (o : Outline) : OpensStreams o fun recorder => Continues producer client before recorder.core :=
  fun _ _ _ _ _ _ continues => continues

end Continues

end VoxMesh.App
