import VoxMesh.Proofs.SttStreamProducer

/-! # The transcription stream against its reference

The reference pipeline drops the frames of another format, cuts the rest before every flagged frame, mixes each
segment down to one channel and decimates it with a fresh filter. `FollowsReference` says what the producer's
outputs have to do with the reference stream. A frame of the output is flagged exactly when it holds the first
sample that is decimated since some flagged frame arrived.
-/

namespace VoxMesh.Dsp

open VoxMesh.Audio FixedWidth Blocks

/-- Cut a list before every element that starts a new piece: the first piece and the later ones. -/
def splitBefore {α : Type*} (starts : α → Bool) : List α → List α × List (List α)
  | [] => ([], [])
  | a :: rest =>
      let (first, later) := splitBefore starts rest
      if starts a then ([], (a :: first) :: later) else (a :: first, later)

section Reference

variable (config : SttStreamConfig)

/-- The whole samples of a frame, interleaved. -/
def interleaved (frame : AudioFrame) : List Sample :=
  (pcmSamples frame.payload).take (config.input.channels * frame.sampleCountPerChannel)

/-- One channel out of interleaved samples. -/
def downmixed (samples : List Sample) : List Sample :=
  if config.input.channels = 2 then SttStreamProducer.downmix samples else samples

/-- The samples of each segment: the accepted frames are cut before every flagged one. -/
def segments (producer : SttStreamProducer) (frames : List AudioFrame) : List (List Sample) :=
  let (first, later) := splitBefore (·.discontinuity) (producer.accepted frames)
  (first :: later).map (·.flatMap (interleaved producer.config))

/-- The reference stream: every segment is decimated on its own. -/
def reference (filter : FirDecimator) (segments : List (List Sample)) : List Sample :=
  segments.flatMap fun segment => (filter.process (downmixed config segment)).2

end Reference

/-- What the outputs of a producer have to do with the reference stream of its input. -/
structure FollowsReference (producer : SttStreamProducer) (frames outputs : List AudioFrame)
    (stats : SttStreamStats) : Prop where
  payload : let whole := reference producer.config producer.decimator (segments producer frames)
    outputs.flatMap (·.payload) =
      pcmBytes (whole.take (whole.length / producer.samplesPerOutputFrame * producer.samplesPerOutputFrame))
  size : ∀ output ∈ outputs, output.sampleCountPerChannel = producer.samplesPerOutputFrame
  sequence : ∀ k (bound : k < outputs.length), outputs[k].sequence = k
  timestamp : ∀ k (bound : k < outputs.length),
    let product := k * producer.samplesPerOutputFrame * kNanosPerSecond
    let elapsed := product / producer.config.output.sampleRate
    ∃ first, (producer.accepted frames).head? = some first ∧
      (product < 2 ^ 64 → elapsed < 2 ^ 63 → InInt64 (first.timestamp + elapsed) →
        outputs[k].timestamp = first.timestamp + elapsed)
  format : ∀ output ∈ outputs, output.track = .sttStream ∧
    (⟨output.sampleRate, output.channels, output.format⟩ : TrackFormat) = producer.config.output
  calls : stats.framesIn + stats.rejectedFrames = frames.length
  framesOut : stats.framesOut = outputs.length

section Samples

theorem pcmSamples_length (bytes : List Byte) : (pcmSamples bytes).length = bytes.length / 2 := by
  fun_induction pcmSamples bytes with
  | case1 low high rest ih =>
    simp only [List.length_cons, ih]
    omega
  | case2 bytes short =>
    rcases bytes with _ | ⟨only, _ | ⟨second, rest⟩⟩
    · rfl
    · simp
    · exact absurd rfl (short only second rest)

private theorem downmix_append {first : List Sample} (second : List Sample) (even : 2 ∣ first.length) :
    SttStreamProducer.downmix (first ++ second) =
      SttStreamProducer.downmix first ++ SttStreamProducer.downmix second := by
  fun_induction SttStreamProducer.downmix first with
  | case1 left right rest ih =>
    simp only [List.length_cons] at even
    simp only [List.cons_append, SttStreamProducer.downmix, ih (by omega)]
  | case2 samples short =>
    rcases samples with _ | ⟨only, _ | ⟨other, rest⟩⟩
    · rfl
    · simp at even
    · exact absurd rfl (short only other rest)

end Samples

section Segments

variable {designLowPass : ℕ → ℚ → List ℚ} {config : SttStreamConfig} {producer : SttStreamProducer}

theorem sampleCount_of_accepts (created : SttStreamProducer.Created designLowPass config producer)
    {frame : AudioFrame} (matching : producer.accepts frame = true) :
    frame.sampleCountPerChannel = frame.payload.length / (2 * config.input.channels) := by
  have input := created.input
  have channels := created.channels
  obtain rfl := created.producer
  simp only [SttStreamProducer.accepts, Bool.and_eq_true, beq_iff_eq, input] at matching
  obtain ⟨⟨format, -⟩, same⟩ := matching
  rw [AudioFrame.sampleCountPerChannel, format, same, if_neg]
  · rfl
  · change 2 * config.input.channels ≠ 0
    omega

/-- One frame down to one channel. -/
private theorem mono_eq (created : SttStreamProducer.Created designLowPass config producer) (frame : AudioFrame) :
    SttStreamProducer.mono config frame = downmixed config (interleaved config frame) := by
  rw [SttStreamProducer.mono, downmixed, interleaved]
  rcases created.channels with single | double
  · rw [single, if_neg (by decide), if_neg (by decide), Nat.one_mul]
  · rw [double, if_pos rfl, if_pos rfl]

private theorem downmixed_append (created : SttStreamProducer.Created designLowPass config producer)
    {frame : AudioFrame} (matching : producer.accepts frame = true) (later : List Sample) :
    downmixed config (interleaved config frame ++ later) =
      downmixed config (interleaved config frame) ++ downmixed config later := by
  have count := sampleCount_of_accepts created matching
  unfold downmixed
  split
  next double =>
    apply downmix_append
    rw [interleaved, List.length_take, pcmSamples_length, count, double]
    omega
  next => rfl

/-- A segment may be mixed down frame by frame. -/
private theorem downmixed_segment (created : SttStreamProducer.Created designLowPass config producer)
    {segment : List AudioFrame} (matching : ∀ frame ∈ segment, producer.accepts frame = true) :
    downmixed config (segment.flatMap (interleaved config)) = segment.flatMap (SttStreamProducer.mono config) := by
  induction segment with
  | nil =>
    rw [downmixed]
    split <;> rfl
  | cons frame rest ih =>
    rw [List.flatMap_cons, List.flatMap_cons, downmixed_append created (matching frame (List.mem_cons_self ..)),
      ih (fun other member => matching other (List.mem_cons_of_mem _ member)), mono_eq created]

/-- Every piece of a cut consists of elements of the list. -/
private theorem mem_of_splitBefore {α : Type*} {starts : α → Bool} {list piece : List α} {a : α}
    (cut : piece ∈ (splitBefore starts list).1 :: (splitBefore starts list).2) (member : a ∈ piece) : a ∈ list := by
  induction list generalizing piece with
  | nil =>
    obtain rfl := List.mem_singleton.mp cut
    exact member
  | cons head rest ih =>
    have first (inside : a ∈ head :: (splitBefore starts rest).1) : a ∈ head :: rest :=
      List.mem_cons.mpr ((List.mem_cons.mp inside).imp_right (ih (List.mem_cons_self ..)))
    have later {other : List α} (inside : other ∈ (splitBefore starts rest).2) (found : a ∈ other) :
        a ∈ head :: rest := List.mem_cons_of_mem _ (ih (List.mem_cons_of_mem _ inside) found)
    by_cases begins : starts head = true
    · simp only [splitBefore, begins, ↓reduceIte, List.mem_cons] at cut
      rcases cut with rfl | rfl | inside
      · exact absurd member List.not_mem_nil
      · exact first member
      · exact later inside member
    · simp only [splitBefore, begins, Bool.false_eq_true, ↓reduceIte, List.mem_cons] at cut
      rcases cut with rfl | inside
      · exact first member
      · exact later inside member

/-- Decimating frame by frame, with a reset at every flag, decimates every segment after the first afresh. -/
private theorem decimate_split (config : SttStreamConfig) (decimator : FirDecimator) (frames : List AudioFrame) :
    (decimate config decimator frames).2 =
      (decimator.process ((splitBefore (·.discontinuity) frames).1.flatMap (SttStreamProducer.mono config))).2 ++
        (splitBefore (·.discontinuity) frames).2.flatMap fun segment =>
          (decimator.reset.process (segment.flatMap (SttStreamProducer.mono config))).2 := by
  induction frames generalizing decimator with
  | nil => simp [splitBefore]
  | cons frame rest ih =>
    simp only [splitBefore, decimate]
    by_cases flagged : frame.discontinuity = true
    · have later := ih (decimator.reset.process (SttStreamProducer.mono config frame)).1
      simp only [FirDecimator.reset_process, FirDecimator.reset_reset] at later
      simp only [flagged, ↓reduceIte, later, List.flatMap_cons, List.flatMap_nil, FirDecimator.process_nil,
        FirDecimator.process_append_output, List.nil_append, List.append_assoc]
    · have later := ih (decimator.process (SttStreamProducer.mono config frame)).1
      simp only [FirDecimator.reset_process] at later
      simp only [flagged, Bool.false_eq_true, ↓reduceIte, later, List.flatMap_cons, FirDecimator.process_append_output,
        List.append_assoc]

/-- The producer's stream is the reference stream. -/
private theorem stream_eq_reference (created : SttStreamProducer.Created designLowPass config producer)
    (frames : List AudioFrame) :
    producer.stream frames = reference producer.config producer.decimator (segments producer frames) := by
  have fresh : producer.decimator.reset = producer.decimator := by
    rw [created.producer]
    exact FirDecimator.reset_create designLowPass _ 63
  have same : producer.config = config := by rw [created.producer]
  have mixed : ∀ piece ∈ (splitBefore (·.discontinuity) (producer.accepted frames)).1 ::
      (splitBefore (·.discontinuity) (producer.accepted frames)).2,
      downmixed config (piece.flatMap (interleaved config)) = piece.flatMap (SttStreamProducer.mono config) :=
    fun piece cut => downmixed_segment created fun frame member =>
      (List.mem_filter.mp (mem_of_splitBefore cut member)).2
  rw [SttStreamProducer.stream, decimate_split, fresh, reference, segments, List.flatMap_map, List.flatMap_cons, same]
  congr 1
  · rw [mixed _ (List.mem_cons_self ..)]
  · exact List.flatMap_congr fun piece cut => by rw [mixed _ (List.mem_cons_of_mem _ cut)]

end Segments

section Outputs

variable {designLowPass : ℕ → ℚ → List ℚ} {config : SttStreamConfig} {producer : SttStreamProducer}

theorem released_payload (producer : SttStreamProducer) (frames : List AudioFrame) :
    (producer.released frames).flatMap (·.payload) = pcmBytes ((producer.stream frames).take
      ((producer.stream frames).length / producer.samplesPerOutputFrame * producer.samplesPerOutputFrame)) := by
  rw [← flatten_blocks, SttStreamProducer.released, List.flatMap_map, pcmBytes, List.flatten_eq_flatMap,
    List.flatMap_assoc, List.flatMap_map]
  rfl

theorem getElem_released (producer : SttStreamProducer) (frames : List AudioFrame) {k : ℕ}
    (bound : k < (producer.released frames).length) :
    (producer.released frames)[k] = producer.outputFrame ((producer.anchored frames).getD 0) (producer.stream frames)
      (producer.marked frames) k := by
  simp [SttStreamProducer.released]

theorem length_released (producer : SttStreamProducer) (frames : List AudioFrame) :
    (producer.released frames).length = (producer.stream frames).length / producer.samplesPerOutputFrame := by
  rw [SttStreamProducer.released, List.length_map, List.length_range]

/-- An output frame has the configured format and length. -/
private theorem outputFrame_format (created : SttStreamProducer.Created designLowPass config producer)
    {anchor : ℤ} {stream : List Sample} {marks : List ℕ} {k : ℕ}
    (full : (k + 1) * producer.samplesPerOutputFrame ≤ stream.length) :
    let output := producer.outputFrame anchor stream marks k
    output.sampleCountPerChannel = producer.samplesPerOutputFrame ∧ output.track = .sttStream ∧
      (⟨output.sampleRate, output.channels, output.format⟩ : TrackFormat) = producer.config.output := by
  have channels : producer.config.output.channels = 1 := by
    rw [created.producer]
    exact created.output
  have format : producer.config.output.format = .pcmS16Le := by
    rw [created.producer]
    exact created.outputFormat
  refine ⟨AudioFrame.sampleCountPerChannel_of_length ?_ ?_, rfl, ?_⟩
  · change 0 < producer.config.output.channels
    omega
  · change (pcmBytes _).length = _ * producer.config.output.channels * 2
    rw [pcmBytes_length, length_block full, channels]
    omega
  · change (⟨producer.config.output.sampleRate, producer.config.output.channels, .pcmS16Le⟩ : TrackFormat) = _
    rw [← format]

private theorem exists_first {frames : List AudioFrame} {k : ℕ} (bound : k < (producer.released frames).length) :
    ∃ first, (producer.accepted frames).head? = some first ∧
      producer.anchored frames = some first.timestamp := by
  cases some : producer.accepted frames with
  | nil => simp [length_released, SttStreamProducer.stream, some] at bound
  | cons first rest => exact ⟨first, rfl, by rw [SttStreamProducer.anchored, some]; rfl⟩

theorem follows_of_produces (created : SttStreamProducer.Created designLowPass config producer)
    {frames outputs : List AudioFrame} {after : SttStreamProducer}
    (produces : producer.Produces frames after outputs) :
    FollowsReference producer frames outputs after.stats := by
  obtain rfl := produces.outputs
  have formats : ∀ output ∈ producer.released frames, output.sampleCountPerChannel = producer.samplesPerOutputFrame ∧
      output.track = .sttStream ∧
      (⟨output.sampleRate, output.channels, output.format⟩ : TrackFormat) = producer.config.output := by
    intro output member
    obtain ⟨k, inside, rfl⟩ := List.mem_map.mp member
    exact outputFrame_format created
      ((Nat.mul_le_mul_right _ (List.mem_range.mp inside)).trans (Nat.div_mul_le_self _ _))
  constructor
  · rw [← stream_eq_reference created]
    exact released_payload producer frames
  · exact fun output member => (formats output member).1
  · intro k bound
    rw [getElem_released]
    rfl
  · intro k bound product elapsed
    obtain ⟨first, head, anchor⟩ := exists_first bound
    refine ⟨first, head, fun fits small clock => ?_⟩
    have range : InInt64 (elapsed : ℤ) :=
      ⟨(by decide : (-2 ^ 63 : ℤ) ≤ 0).trans (Int.natCast_nonneg _), by exact_mod_cast small⟩
    rw [getElem_released, anchor, ← int64_of_inInt64 clock]
    change int64 (first.timestamp + int64 (uint64 product / producer.config.output.sampleRate : ℕ)) = _
    rw [uint64_of_lt fits, int64_of_inInt64 range]
  · exact fun output member => (formats output member).2
  · exact produces.calls
  · rw [produces.output.framesOut, length_released]

end Outputs

/-- Every run of a producer follows the reference, and how a segment is cut into frames does not show in any
payload. A timestamp is exact while its product fits an unsigned word, and the elapsed time and its sum with the first
frame's timestamp fit signed ones. -/
theorem follows_reference {designLowPass : ℕ → ℚ → List ℚ} {config : SttStreamConfig} {producer : SttStreamProducer}
    (created : SttStreamProducer.create designLowPass config = some producer) (frames : List AudioFrame) :
    FollowsReference producer frames (producer.run frames).2 (producer.run frames).1.stats ∧
      ∀ other, segments producer other = segments producer frames →
        (producer.run other).2.map (·.payload) = (producer.run frames).2.map (·.payload) := by
  have created := SttStreamProducer.created_of_create created
  refine ⟨follows_of_produces created (created.run frames), fun other recut => ?_⟩
  have same : producer.stream other = producer.stream frames := by
    rw [stream_eq_reference created, stream_eq_reference created, recut]
  rw [(created.run other).outputs, (created.run frames).outputs, SttStreamProducer.released,
    SttStreamProducer.released, same, List.map_map, List.map_map]
  rfl

/-- A design that averages over all taps. -/
def averaging (taps : ℕ) (_ : ℚ) : List ℚ := List.replicate taps (1 / taps)

/-- Frames of a second, from samples at the given rate to one sample a second. -/
def secondly (rate : ℕ) : SttStreamConfig where
  input := { sampleRate := rate, format := .pcmS16Le }
  output := { sampleRate := 1, format := .pcmS16Le }
  frameDuration := 1000

def secondlyProducer (rate : ℕ) : SttStreamProducer where
  config := secondly rate
  decimator := FirDecimator.create averaging rate
  samplesPerOutputFrame := 1

private theorem create_secondly_one : SttStreamProducer.create averaging (secondly 1) = some (secondlyProducer 1) := rfl

theorem create_secondly_two : SttStreamProducer.create averaging (secondly 2) = some (secondlyProducer 2) := rfl

def toneFrame (rate samples : ℕ) : AudioFrame where
  sampleRate := rate
  channels := 1
  payload := List.replicate (2 * samples) 1

/-- Two samples in, one sample out. -/
theorem follows_reference_halving :
    FollowsReference (secondlyProducer 2) [toneFrame 2 3, { toneFrame 2 2 with discontinuity := true }]
      ((secondlyProducer 2).run [toneFrame 2 3, { toneFrame 2 2 with discontinuity := true }]).2
      ((secondlyProducer 2).run [toneFrame 2 3, { toneFrame 2 2 with discontinuity := true }]).1.stats :=
  (follows_reference create_secondly_two _).1

/-- Without a reduction of the rate, every sample is kept. -/
private theorem process_length_of_factor_one {decimator : FirDecimator} (factor : decimator.factor = 1)
    (phase : decimator.phase = 0) (samples : List Sample) : (decimator.process samples).2.length = samples.length := by
  induction samples generalizing decimator with
  | nil => rfl
  | cons sample rest ih =>
    have same : (decimator.feed sample).1.factor = 1 := factor
    have next : (decimator.feed sample).1.phase = 0 := by simp [FirDecimator.feed, factor, Nat.mod_one]
    have here : (decimator.feed sample).2.length = 1 := by simp [FirDecimator.feed, phase]
    rw [FirDecimator.process, List.length_append, here, ih same next, List.length_cons, Nat.add_comm]

private theorem toneFrame_stream (samples : ℕ) :
    ((secondlyProducer 1).stream [toneFrame 1 samples]).length = samples := by
  have count : (toneFrame 1 samples).sampleCountPerChannel = samples :=
    AudioFrame.sampleCountPerChannel_of_length Nat.one_pos
      (by rw [toneFrame, List.length_replicate, Nat.mul_one, Nat.mul_comm]; rfl)
  have mono : (SttStreamProducer.mono (secondly 1) (toneFrame 1 samples)).length = samples := by
    rw [SttStreamProducer.mono, if_neg (by decide), count, List.length_take, pcmSamples_length, toneFrame,
      List.length_replicate]
    omega
  change (((secondlyProducer 1).decimator.process _).2 ++ []).length = samples
  rw [List.append_nil, process_length_of_factor_one rfl rfl]
  exact mono

/-- At one sample a second, the elapsed time of a late frame fits 64 bits but not a signed word: after
`2 ^ 63` nanoseconds the timestamps jump back. -/
theorem follows_reference_wrapped : ∃ producer frames, SttStreamProducer.create averaging (secondly 1) = some producer ∧
    ∃ (k : ℕ) (bound : k < (producer.run frames).2.length) (first : AudioFrame),
      (producer.accepted frames).head? = some first ∧
      k * producer.samplesPerOutputFrame * kNanosPerSecond < 2 ^ 64 ∧
      (producer.run frames).2[k].timestamp ≠ first.timestamp +
        (k * producer.samplesPerOutputFrame * kNanosPerSecond / producer.config.output.sampleRate : ℕ) := by
  let late := 9223372037
  let frame := toneFrame 1 (late + 1)
  have produced := ((SttStreamProducer.created_of_create create_secondly_one).run [frame]).outputs
  have length : ((secondlyProducer 1).released [frame]).length = late + 1 := by
    rw [length_released, toneFrame_stream]
    exact Nat.div_one _
  have bound : late < ((secondlyProducer 1).run [frame]).2.length := by
    rw [produced, length]
    exact Nat.lt_succ_self late
  refine ⟨secondlyProducer 1, [frame], rfl, late, bound, frame, rfl, by decide, ?_⟩
  have stamp : ((secondlyProducer 1).run [frame]).2[late].timestamp =
      int64 (0 + int64 (uint64 (late * 1 * kNanosPerSecond) / 1 : ℕ)) := by
    simp only [produced, getElem_released, SttStreamProducer.outputFrame]
    congr 1
  rw [stamp]
  decide

/-- Decimated so far, released or pending. -/
def SttStreamProducer.samplesDecimated (producer : SttStreamProducer) : ℕ :=
  producer.samplesEmitted + producer.pending.length

theorem samplesDecimated_eq {start producer : SttStreamProducer} {frames outputs : List AudioFrame}
    (produces : start.Produces frames producer outputs) :
    producer.samplesDecimated = (start.stream frames).length := by
  have within := produces.output.within
  rw [SttStreamProducer.samplesDecimated, produces.output.emitted, produces.output.pending, length_rest]
  omega

private theorem accepted_of_matching {producer : SttStreamProducer} {frames : List AudioFrame}
    (matching : ∀ frame ∈ frames, producer.accepts frame = true) : producer.accepted frames = frames :=
  List.filter_eq_self.mpr matching

/-- An output frame is flagged exactly when the first sample decimated since some flagged frame arrived lies
in it. -/
theorem flagged_iff {designLowPass : ℕ → ℚ → List ℚ} {config : SttStreamConfig} {producer : SttStreamProducer}
    (created : SttStreamProducer.create designLowPass config = some producer) (frames : List AudioFrame)
    (matching : ∀ frame ∈ frames, producer.accepts frame = true) (k : ℕ)
    (bound : k < (producer.run frames).2.length) :
    (producer.run frames).2[k].discontinuity = true ↔
      ∃ (i : ℕ) (inside : i < frames.length), frames[i].discontinuity = true ∧
        let since := (producer.run (frames.take i)).1.samplesDecimated
        k * producer.samplesPerOutputFrame ≤ since ∧ since < (k + 1) * producer.samplesPerOutputFrame := by
  have created := SttStreamProducer.created_of_create created
  have arrival (i : ℕ) : (producer.run (frames.take i)).1.samplesDecimated =
      (decimate producer.config producer.decimator (frames.take i)).2.length := by
    rw [samplesDecimated_eq (created.run (frames.take i)), SttStreamProducer.stream, accepted_of_matching]
    exact fun frame member => matching frame (List.mem_of_mem_take member)
  simp only [(created.run frames).outputs, getElem_released, SttStreamProducer.outputFrame,
    SttStreamProducer.marked, accepted_of_matching matching, List.any_eq_true, mem_marks_iff, Bool.and_eq_true,
    decide_eq_true_eq, arrival]
  constructor
  · rintro ⟨mark, ⟨i, inside, flagged, rfl⟩, within⟩
    exact ⟨i, inside, flagged, within⟩
  · rintro ⟨i, inside, flagged, within⟩
    exact ⟨_, ⟨i, inside, flagged, rfl⟩, within⟩

/-- An empty flagged frame between two others: its flag reaches the second output. -/
theorem flagged_iff_empty :
    let frames := [toneFrame 2 1, { toneFrame 2 0 with discontinuity := true }, toneFrame 2 2]
    ((secondlyProducer 2).run frames).2.map (·.discontinuity) = [false, true] ∧
      ∃ bound : 1 < ((secondlyProducer 2).run frames).2.length,
        (((secondlyProducer 2).run frames).2[1].discontinuity = true ↔
          ∃ (i : ℕ) (inside : i < frames.length), frames[i].discontinuity = true ∧
            let since := ((secondlyProducer 2).run (frames.take i)).1.samplesDecimated
            1 * (secondlyProducer 2).samplesPerOutputFrame ≤ since ∧
              since < (1 + 1) * (secondlyProducer 2).samplesPerOutputFrame) := by
  intro frames
  have outputs : ((secondlyProducer 2).run frames).2.map (·.discontinuity) = [false, true] := by decide +kernel
  have bound : 1 < ((secondlyProducer 2).run frames).2.length := by
    rw [← List.length_map (·.discontinuity), outputs]
    decide
  exact ⟨outputs, bound, flagged_iff create_secondly_two frames (by decide) 1 bound⟩

end VoxMesh.Dsp
