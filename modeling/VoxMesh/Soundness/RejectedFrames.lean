import VoxMesh.Soundness.SttStream

/-! # Rejected frames in the transcription stream

A frame of another format is counted and dropped: the call returns before the producer takes note of a flag or
resets the filter. So a run releases what it would release for its accepted frames alone (`run_accepted`). What
has been rejected is marked in the output, and the filter starts afresh after it, when the next accepted frame
is flagged itself (`rejections_marked`).
-/

namespace VoxMesh.Dsp

open VoxMesh.Audio Blocks

/-- Any state of the filter resets alike. -/
theorem decimate_reset (config : SttStreamConfig) (decimator : FirDecimator) (frames : List AudioFrame) :
    (decimate config decimator frames).1.reset = decimator.reset := by
  induction frames generalizing decimator with
  | nil => rfl
  | cons frame rest ih =>
    rw [decimate]
    refine (ih _).trans ?_
    rw [FirDecimator.reset_process]
    split
    next => exact decimator.reset_reset
    next => rfl

/-- From a flagged frame on, the filter gives what it gives after a reset. -/
theorem decimate_cons_of_flagged (config : SttStreamConfig) {decimator other : FirDecimator}
    (same : decimator.reset = other.reset) {frame : AudioFrame} (flagged : frame.discontinuity = true)
    (rest : List AudioFrame) :
    decimate config decimator (frame :: rest) = decimate config other (frame :: rest) := by
  simp only [decimate, flagged, if_true, same]

namespace SttStreamProducer

/-- Since its last accepted frame, the producer has rejected audio or a flag. -/
def Interrupted (producer : SttStreamProducer) (earlier : List AudioFrame) : Prop :=
  ∃ before last rejected, earlier = before ++ last :: rejected ∧ producer.accepts last = true ∧
    (∀ frame ∈ rejected, producer.accepts frame = false) ∧
    ∃ frame ∈ rejected, frame.payload ≠ [] ∨ frame.discontinuity = true

/-- The first frame accepted after an interruption, where the input splits. -/
structure Resumption (producer : SttStreamProducer) (frames earlier : List AudioFrame) (next : AudioFrame)
    (later : List AudioFrame) : Prop where
  split : frames = earlier ++ next :: later
  accepted : producer.accepts next = true
  interrupted : producer.Interrupted earlier

/-- All that the filter has put out, released or pending. -/
def filtered (producer : SttStreamProducer) (frames : List AudioFrame) : List Byte :=
  (producer.run frames).2.flatMap (·.payload) ++ pcmBytes (producer.run frames).1.pending

/-- After every interruption, the output frame with the first decimated sample is flagged, and the filter gives
what it gives for the two sides on their own. -/
structure MarksRejections (producer : SttStreamProducer) (frames : List AudioFrame) : Prop where
  flagged : ∀ earlier next later, producer.Resumption frames earlier next later →
    let first := (producer.run earlier).1.samplesDecimated
    first < (producer.run (earlier ++ [next])).1.samplesDecimated →
      ∀ k (bound : k < (producer.run frames).2.length), k * producer.samplesPerOutputFrame ≤ first →
        first < (k + 1) * producer.samplesPerOutputFrame → (producer.run frames).2[k].discontinuity = true
  unmixed : ∀ earlier next later, producer.Resumption frames earlier next later →
    producer.filtered frames = producer.filtered earlier ++ producer.filtered (next :: later)

section Accepted

variable {producer : SttStreamProducer}

private theorem accepted_append (first second : List AudioFrame) :
    producer.accepted (first ++ second) = producer.accepted first ++ producer.accepted second :=
  List.filter_append ..

private theorem accepted_cons {next : AudioFrame} (matching : producer.accepts next = true)
    (later : List AudioFrame) : producer.accepted (next :: later) = next :: producer.accepted later :=
  List.filter_cons_of_pos matching

private theorem accepted_accepted (frames : List AudioFrame) :
    producer.accepted (producer.accepted frames) = producer.accepted frames := by
  simp only [accepted, List.filter_filter, Bool.and_self]

end Accepted

section Created

variable {designLowPass : ℕ → ℚ → List ℚ} {config : SttStreamConfig} {producer : SttStreamProducer}

/-- Rejected frames leave no trace in the output. -/
theorem run_accepted (created : create designLowPass config = some producer) (frames : List AudioFrame) :
    (producer.run frames).2 = (producer.run (producer.accepted frames)).2 := by
  have created := created_of_create created
  rw [(created.run frames).outputs, (created.run _).outputs]
  simp only [released, stream, marked, anchored, accepted_accepted]

private theorem filtered_eq (created : Created designLowPass config producer) (frames : List AudioFrame) :
    producer.filtered frames = pcmBytes (producer.stream frames) := by
  have produces := created.run frames
  rw [filtered, produces.outputs, released_payload, produces.output.pending, produces.size, rest, pcmBytes, pcmBytes,
    pcmBytes, ← List.flatMap_append, List.take_append_drop]

end Created

section Flagged

variable {producer : SttStreamProducer} (earlier later : List AudioFrame) {next : AudioFrame}

/-- The stream falls apart at a flagged frame. -/
private theorem stream_of_flagged (matching : producer.accepts next = true) (flagged : next.discontinuity = true) :
    producer.stream (earlier ++ next :: later) = producer.stream earlier ++ producer.stream (next :: later) := by
  rw [stream, accepted_append, accepted_cons matching, decimate_append_output,
    decimate_cons_of_flagged producer.config (decimate_reset ..) flagged, stream, stream, accepted_cons matching]

/-- A flagged frame leaves a mark where it arrives. -/
private theorem mem_marked (matching : producer.accepts next = true) (flagged : next.discontinuity = true) :
    (producer.stream earlier).length ∈ producer.marked (earlier ++ next :: later) := by
  rw [marked, accepted_append, accepted_cons matching, marks_append, Nat.zero_add, List.mem_append]
  right
  simp [marks, flagged, stream]

end Flagged

/-- Where every frame that ends an interruption is flagged, the interruptions are marked. -/
theorem rejections_marked {designLowPass : ℕ → ℚ → List ℚ} {config : SttStreamConfig} {producer : SttStreamProducer}
    (created : create designLowPass config = some producer) (frames : List AudioFrame)
    (flagged : ∀ earlier next later, producer.Resumption frames earlier next later → next.discontinuity = true) :
    producer.MarksRejections frames := by
  have created := created_of_create created
  constructor
  · intro earlier next later resumed first _ k bound starts ends
    have here := flagged earlier next later resumed
    have arrival : first = (producer.stream earlier).length := samplesDecimated_eq (created.run earlier)
    have mark := mem_marked earlier later resumed.accepted here
    simp only [(created.run frames).outputs, getElem_released, outputFrame, List.any_eq_true, Bool.and_eq_true,
      decide_eq_true_eq]
    rw [resumed.split]
    exact ⟨_, mark, arrival ▸ starts, arrival ▸ ends⟩
  · intro earlier next later resumed
    have here := flagged earlier next later resumed
    rw [filtered_eq created, filtered_eq created, filtered_eq created, resumed.split,
      stream_of_flagged earlier later resumed.accepted here, pcmBytes, pcmBytes, pcmBytes, ← List.flatMap_append]

/-- Two loud samples, a frame at another rate, two more samples. -/
private def interruption (flag : Bool) : List AudioFrame :=
  [toneFrame 2 2, toneFrame 44100 1, { toneFrame 2 2 with discontinuity := flag }]

private theorem interruption_resumed {flag : Bool} {earlier later : List AudioFrame} {next : AudioFrame}
    (resumed : (secondlyProducer 2).Resumption (interruption flag) earlier next later) :
    earlier = [toneFrame 2 2, toneFrame 44100 1] ∧ next = { toneFrame 2 2 with discontinuity := flag } := by
  obtain ⟨split, accepted, before, last, rejected, rfl, -, -, lost, member, -⟩ := resumed
  obtain ⟨head, rest, rfl⟩ := List.exists_cons_of_ne_nil (List.ne_nil_of_mem member)
  have length := congrArg List.length split
  simp only [interruption, List.length_cons, List.length_nil, List.length_append] at length
  obtain rfl := List.eq_nil_of_length_eq_zero (show before.length = 0 by omega)
  obtain rfl := List.eq_nil_of_length_eq_zero (show rest.length = 0 by omega)
  simp only [interruption, List.nil_append, List.cons_append, List.cons.injEq] at split
  obtain ⟨rfl, rfl, rfl, -⟩ := split
  exact ⟨rfl, rfl⟩

private theorem resumption (flag : Bool) : (secondlyProducer 2).Resumption (interruption flag)
    [toneFrame 2 2, toneFrame 44100 1] { toneFrame 2 2 with discontinuity := flag } [] where
  split := rfl
  accepted := by cases flag <;> decide
  interrupted := ⟨[], _, _, rfl, by decide, by decide, _, List.mem_cons_self .., .inl (by decide)⟩

theorem rejections_marked_flagged : (secondlyProducer 2).MarksRejections (interruption true) :=
  rejections_marked create_secondly_two _ fun _ _ _ resumed => (interruption_resumed resumed).2 ▸ rfl

/-- The samples after the rejected frame come unflagged, out of a filter that still holds those before it. -/
theorem rejections_unmarked : create averaging (secondly 2) = some (secondlyProducer 2) ∧
    (secondlyProducer 2).Resumption (interruption false) [toneFrame 2 2, toneFrame 44100 1] (toneFrame 2 2) [] ∧
    ((secondlyProducer 2).run (interruption false)).2.map (·.discontinuity) = [false, false] ∧
    ¬ (secondlyProducer 2).MarksRejections (interruption false) ∧
    (secondlyProducer 2).filtered (interruption false) ≠
      (secondlyProducer 2).filtered [toneFrame 2 2, toneFrame 44100 1] ++
        (secondlyProducer 2).filtered [toneFrame 2 2] := by
  have outputs : ((secondlyProducer 2).run (interruption false)).2.map (·.discontinuity) = [false, false] := by
    decide +kernel
  have mixed : (secondlyProducer 2).filtered (interruption false) ≠
      (secondlyProducer 2).filtered [toneFrame 2 2, toneFrame 44100 1] ++
        (secondlyProducer 2).filtered [toneFrame 2 2] := by
    decide +kernel
  refine ⟨create_secondly_two, resumption false, outputs, fun marks => ?_, mixed⟩
  have bound : 1 < ((secondlyProducer 2).run (interruption false)).2.length := by
    rw [← List.length_map (·.discontinuity), outputs]
    decide
  have flagged := marks.flagged _ _ _ (resumption false) (by decide +kernel) 1 bound (by decide +kernel)
    (by decide +kernel)
  have unflagged : (((secondlyProducer 2).run (interruption false)).2.map (·.discontinuity))[1]? = some false := by
    rw [outputs]
    rfl
  rw [List.getElem?_map, List.getElem?_eq_getElem bound, Option.map_some, flagged] at unflagged
  contradiction

end SttStreamProducer

end VoxMesh.Dsp
