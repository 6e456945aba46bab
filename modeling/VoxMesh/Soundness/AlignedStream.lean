import VoxMesh.Proofs.Placement

/-! # The aligned stream accounts for every sample

One call pushes an optional silence frame and then the captured frame, so over a run the real
frames are exactly the captured ones, the sequence numbers have no hole, and the counters agree
with what was pushed. Nothing here depends on how the timeline arithmetic is stored: timestamps
that overflow the machine's words move the silence, never the audio.
-/

namespace VoxMesh.Audio

open FixedWidth

/-- Explicit silence in the configured format: zero-filled, flagged, not empty, within the cap. -/
structure IsSilence (config : ClockSyncConfig) (frame : AudioFrame) : Prop where
  zero : ∀ byte ∈ frame.payload, byte = 0
  flagged : frame.discontinuity = true
  sampleRate : frame.sampleRate = config.sampleRate
  channels : frame.channels = config.channels
  format : frame.format = config.format
  nonempty : 0 < frame.sampleCountPerChannel
  capped : (frame.sampleCountPerChannel * kNanosPerSecond : ℤ) ≤ config.cap * config.sampleRate

/-- Every synthesized frame has a real frame right after it. -/
def SilencePrecedesReal (outputs : List AlignedFrame) : Prop :=
  ∀ i (bound : i < outputs.length), outputs[i].synthesized →
    ∃ next : i + 1 < outputs.length, ¬ outputs[i + 1].synthesized

theorem SilencePrecedesReal.append {first second : List AlignedFrame}
    (left : SilencePrecedesReal first) (right : SilencePrecedesReal second) :
    SilencePrecedesReal (first ++ second) := by
  intro i bound synthesized
  by_cases inFirst : i < first.length
  · rw [List.getElem_append_left inFirst] at synthesized
    obtain ⟨next, real⟩ := left i inFirst synthesized
    exact ⟨by rw [List.length_append]; omega, by rwa [List.getElem_append_left next]⟩
  · rw [List.getElem_append_right (by omega)] at synthesized
    obtain ⟨next, real⟩ := right (i - first.length) (by rw [List.length_append] at bound; omega) synthesized
    refine ⟨by rw [List.length_append]; omega, ?_⟩
    rw [List.getElem_append_right (by omega)]
    simpa only [show i + 1 - first.length = i - first.length + 1 by omega] using real

namespace TrackSynchronizer

variable (arith : Arithmetic)

theorem silenceFrame_samples (sync : TrackSynchronizer) (frame : AudioFrame) (samples : ℕ) :
    (sync.silenceFrame arith frame samples).sampleCountPerChannel = samples := by
  apply AudioFrame.sampleCountPerChannel_of_length sync.config.channels_pos
  simp [silenceFrame, makeSilenceFrame]

/-- The silence of a placement never lasts longer than the cap. -/
theorem placement_silence_le [Arithmetic.Truncating arith] (sync : TrackSynchronizer) (frame : AudioFrame)
    (some : 0 < (sync.placement arith frame).silence) :
    ((sync.placement arith frame).silence * kNanosPerSecond : ℤ) ≤ sync.config.cap * sync.config.sampleRate := by
  have rounded : ∀ duration : ℤ, 0 < sync.durationToSamples arith duration →
      (sync.durationToSamples arith duration * kNanosPerSecond : ℤ) ≤ duration * sync.config.sampleRate := by
    intro duration positive
    unfold durationToSamples at positive ⊢
    split at positive
    · omega
    next late =>
      rw [if_neg late]
      have whole := Nat.div_mul_le_self (arith.unsigned (duration.toNat * sync.config.sampleRate)) kNanosPerSecond
      have stored :
          arith.unsigned (duration.toNat * sync.config.sampleRate) ≤ duration.toNat * sync.config.sampleRate :=
        Arithmetic.Truncating.unsigned_le _
      have length : (duration.toNat : ℤ) = duration := Int.toNat_of_nonneg (by omega)
      calc ((arith.unsigned (duration.toNat * sync.config.sampleRate) / kNanosPerSecond : ℕ) : ℤ) * kNanosPerSecond
          ≤ (duration.toNat * sync.config.sampleRate : ℕ) := by exact_mod_cast whole.trans stored
        _ = duration * sync.config.sampleRate := by rw [Nat.cast_mul, length]
  have capped : min (sync.delta arith frame) sync.config.cap * sync.config.sampleRate ≤
      sync.config.cap * sync.config.sampleRate :=
    Int.mul_le_mul_of_nonneg_right (min_le_right _ _) (Int.natCast_nonneg _)
  unfold placement at some ⊢
  split_ifs at some ⊢
  all_goals first
    | exact absurd some (Nat.lt_irrefl 0)
    | exact (rounded _ some).trans capped

section Call

variable (sync : TrackSynchronizer) (frame : AudioFrame)

theorem process_reals :
    (((sync.process arith frame).2.filter (!·.synthesized)).map (·.frame.unlabeled)) = [frame.unlabeled] := by
  rw [process_output, silences]
  split <;> rfl

theorem process_sequences : (sync.process arith frame).2.map (·.frame.sequence) =
    List.range' sync.nextOutputSequence ((sync.placement arith frame).inserted + 1) := by
  rw [process_output, silences, Placement.inserted]
  split
  next some => simp [emitted, Placement.inserted, some, silenceFrame, makeSilenceFrame, List.range'_succ]
  next none => simp [emitted, Placement.inserted, none]

theorem process_length :
    (sync.process arith frame).2.length = (sync.placement arith frame).inserted + 1 := by
  have sequences := congrArg List.length (process_sequences arith sync frame)
  simpa only [List.length_map, List.length_range'] using sequences

theorem process_silences [Arithmetic.Truncating arith] :
    ∀ output ∈ (sync.process arith frame).2, output.synthesized → IsSilence sync.config output.frame := by
  intro output member synthesized
  rw [process_output, silences, List.mem_append] at member
  rcases member with member | member
  · split at member
    next some =>
      obtain rfl := List.mem_singleton.mp member
      have length := silenceFrame_samples arith sync frame (sync.placement arith frame).silence
      refine ⟨?_, rfl, rfl, rfl, rfl, ?_, ?_⟩
      · intro byte zero
        exact (List.mem_replicate.mp zero).2
      · rw [length]
        exact some
      · rw [length]
        exact placement_silence_le arith sync frame some
    next none => exact absurd member List.not_mem_nil
  · obtain rfl := List.mem_singleton.mp member
    contradiction

theorem process_precedes : SilencePrecedesReal (sync.process arith frame).2 := by
  rw [process_output, silences]
  intro i bound synthesized
  split at bound
  next some =>
    simp only [some, ↓reduceIte, List.singleton_append] at synthesized bound ⊢
    rcases i with _ | _ | i
    · exact ⟨by simp, by simp⟩
    · simp at synthesized
    · exact absurd bound (Nat.not_lt.mpr (Nat.le_add_left _ i))
  next none => simp_all

theorem process_synthesized_count :
    (sync.process arith frame).2.countP (·.synthesized) = (sync.placement arith frame).inserted := by
  rw [process_output, silences, Placement.inserted]
  split <;> rfl

theorem process_silence_samples :
    (((sync.process arith frame).2.filter (·.synthesized)).map AlignedFrame.samples).sum =
      (sync.placement arith frame).silence := by
  rw [process_output, silences]
  split
  · simp [AlignedFrame.samples, silenceFrame_samples]
  · simp; omega

end Call

/-- The real frames of a run are the captured frames, in order. -/
theorem run_reals (sync : TrackSynchronizer) (frames : List AudioFrame) :
    ((sync.run arith frames).2.filter (!·.synthesized)).map (·.frame.unlabeled) =
      frames.map (·.unlabeled) := by
  induction frames generalizing sync with
  | nil => rfl
  | cons frame rest ih =>
    simp only [run, List.filter_append, List.map_append, process_reals, ih, List.map_cons, List.singleton_append]

/-- The sequence numbers of a run continue without a hole. -/
theorem run_sequences (sync : TrackSynchronizer) (frames : List AudioFrame) :
    (sync.run arith frames).2.map (·.frame.sequence) =
      List.range' sync.nextOutputSequence (sync.run arith frames).2.length := by
  induction frames generalizing sync with
  | nil => rfl
  | cons frame rest ih =>
    simp only [run, List.map_append, List.length_append, process_sequences, ih, process_length,
      process_nextOutputSequence]
    rw [Nat.add_assoc sync.nextOutputSequence, List.range'_append_1]

@[simp] theorem run_config (sync : TrackSynchronizer) (frames : List AudioFrame) :
    (sync.run arith frames).1.config = sync.config := by
  induction frames generalizing sync with
  | nil => rfl
  | cons frame rest ih => simp only [run, ih, process_config]

/-- Everything synthesized in a run is explicit silence. -/
theorem run_silences [Arithmetic.Truncating arith] (sync : TrackSynchronizer) (frames : List AudioFrame) :
    ∀ output ∈ (sync.run arith frames).2, output.synthesized → IsSilence sync.config output.frame := by
  induction frames generalizing sync with
  | nil => intro output member; exact absurd member List.not_mem_nil
  | cons frame rest ih =>
    intro output member
    rcases List.mem_append.mp member with here | later
    · exact process_silences arith sync frame output here
    · exact process_config arith sync frame ▸ ih _ output later

theorem run_precedes (sync : TrackSynchronizer) (frames : List AudioFrame) :
    SilencePrecedesReal (sync.run arith frames).2 := by
  induction frames generalizing sync with
  | nil => intro i bound; simp [run] at bound
  | cons frame rest ih => exact (process_precedes arith sync frame).append (ih _)

/-- The counters of a run, relative to those it started from. -/
theorem run_stats (sync : TrackSynchronizer) (frames : List AudioFrame) :
    let outputs := (sync.run arith frames).2
    let stats := (sync.run arith frames).1.stats
    stats.framesProcessed = sync.stats.framesProcessed + frames.length ∧
    stats.framesSynthesized = sync.stats.framesSynthesized + outputs.countP (·.synthesized) ∧
    stats.silenceSamplesInserted =
      sync.stats.silenceSamplesInserted + ((outputs.filter (·.synthesized)).map AlignedFrame.samples).sum ∧
    sync.stats.gapsHealed + sync.stats.gapsTruncated + outputs.countP (·.synthesized) ≤
      stats.gapsHealed + stats.gapsTruncated := by
  induction frames generalizing sync with
  | nil => simp [run]
  | cons frame rest ih =>
    obtain ⟨processed, synthesized, inserted, gaps⟩ := ih (sync.process arith frame).1
    have gap := (sync.placement arith frame).inserted_le_gaps
    simp only [process_stats, ClockSyncStats.record] at processed synthesized inserted gaps
    simp only [run, List.countP_append, List.filter_append, List.map_append, List.sum_append,
      process_synthesized_count, process_silence_samples, List.length_cons]
    omega

end TrackSynchronizer

/-- No audio is lost, altered, duplicated or reordered, and the statistics account for every
output frame, whatever the timestamps, flags, sequence numbers and payloads. -/
theorem aligned_stream_lossless (config : ClockSyncConfig) (frames : List AudioFrame) :
    let outputs := ((TrackSynchronizer.create config).run .machine frames).2
    let stats := ((TrackSynchronizer.create config).run .machine frames).1.stats
    (outputs.filter (!·.synthesized)).map (·.frame.unlabeled) = frames.map (·.unlabeled) ∧
    outputs.map (·.frame.sequence) = List.range outputs.length ∧
    (∀ output ∈ outputs, output.synthesized → IsSilence config output.frame) ∧
    SilencePrecedesReal outputs ∧
    stats.framesProcessed = frames.length ∧
    stats.framesSynthesized = outputs.countP (·.synthesized) ∧
    stats.silenceSamplesInserted = ((outputs.filter (·.synthesized)).map AlignedFrame.samples).sum ∧
    stats.framesSynthesized ≤ stats.gapsHealed + stats.gapsTruncated := by
  obtain ⟨processed, synthesized, inserted, gaps⟩ :=
    TrackSynchronizer.run_stats .machine (TrackSynchronizer.create config) frames
  refine ⟨TrackSynchronizer.run_reals _ _ _, ?_, TrackSynchronizer.run_silences _ _ _,
    TrackSynchronizer.run_precedes _ _ _, processed.trans (Nat.zero_add _),
    synthesized.trans (Nat.zero_add _), inserted.trans (Nat.zero_add _), ?_⟩
  · rw [TrackSynchronizer.run_sequences, List.range_eq_range']
    rfl
  · rw [synthesized]
    simpa only [TrackSynchronizer.create, Nat.zero_add] using gaps

end VoxMesh.Audio
