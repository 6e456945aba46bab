import VoxMesh.Math.Blocks
import VoxMesh.Proofs.FirDecimator
import Mathlib.Data.List.Induction

/-! # What the transcription producer makes of its input

The accepted frames determine a stream of decimated samples and, in it, the positions at which flagged frames
arrived (`marks`). Both determine every output frame (`outputFrame`): frame `k` holds block `k` of the stream
and is flagged when a mark falls into the block. `Produces` ties the state of the producer to them, and every
call keeps it.
-/

namespace VoxMesh.Dsp

open VoxMesh.Audio FixedWidth Blocks

/-- What the decimator makes of accepted frames, from the given state of the filter on. -/
def decimate (config : SttStreamConfig) : FirDecimator → List AudioFrame → FirDecimator × List Sample
  | decimator, [] => (decimator, [])
  | decimator, frame :: rest =>
      let start := if frame.discontinuity then decimator.reset else decimator
      let (decimator, samples) := start.process (SttStreamProducer.mono config frame)
      let (decimator, more) := decimate config decimator rest
      (decimator, samples ++ more)

/-- How many samples have been decimated when each flagged frame arrives. -/
def marks (config : SttStreamConfig) : FirDecimator → ℕ → List AudioFrame → List ℕ
  | _, _, [] => []
  | decimator, position, frame :: rest =>
      let (next, samples) := decimate config decimator [frame]
      (if frame.discontinuity then [position] else []) ++ marks config next (position + samples.length) rest

section Decimate

variable (config : SttStreamConfig) (decimator : FirDecimator)

@[simp] theorem decimate_nil : decimate config decimator [] = (decimator, []) := rfl

theorem decimate_append_state (first second : List AudioFrame) :
    (decimate config decimator (first ++ second)).1 =
      (decimate config (decimate config decimator first).1 second).1 := by
  induction first generalizing decimator with
  | nil => rfl
  | cons frame rest ih => exact ih _

theorem decimate_append_output (first second : List AudioFrame) :
    (decimate config decimator (first ++ second)).2 =
      (decimate config decimator first).2 ++ (decimate config (decimate config decimator first).1 second).2 := by
  induction first generalizing decimator with
  | nil => rfl
  | cons frame rest ih => simp only [List.cons_append, decimate, ih, List.append_assoc]

theorem marks_append (position : ℕ) (first second : List AudioFrame) :
    marks config decimator position (first ++ second) = marks config decimator position first ++
      marks config (decimate config decimator first).1 (position + (decimate config decimator first).2.length)
        second := by
  induction first generalizing decimator position with
  | nil => rfl
  | cons frame rest ih =>
    simp only [List.cons_append, marks, ih, List.append_assoc, decimate, List.append_nil, List.length_append,
      Nat.add_assoc]

/-- The marks of a sequence, each with the flagged frame that left it. -/
theorem mem_marks_iff {frames : List AudioFrame} {mark : ℕ} :
    mark ∈ marks config decimator 0 frames ↔ ∃ (i : ℕ) (bound : i < frames.length),
      frames[i].discontinuity = true ∧ mark = (decimate config decimator (frames.take i)).2.length := by
  induction frames using List.reverseRecOn with
  | nil => simp [marks]
  | append_singleton earlier frame ih =>
    rw [marks_append, List.mem_append, ih, Nat.zero_add]
    constructor
    · rintro (⟨i, bound, flagged, rfl⟩ | last)
      · refine ⟨i, by rw [List.length_append]; omega, ?_, ?_⟩
        · rwa [List.getElem_append_left bound]
        · rw [List.take_append_of_le_length bound.le]
      · have flagged : frame.discontinuity = true := by
          by_contra unflagged
          simp [marks, unflagged] at last
        simp only [marks, flagged, ↓reduceIte, List.append_nil, List.mem_singleton] at last
        refine ⟨earlier.length, by simp, ?_, ?_⟩
        · simpa using flagged
        · rw [List.take_left, last]
    · rintro ⟨i, bound, flagged, rfl⟩
      rw [List.length_append, List.length_singleton] at bound
      rcases Nat.lt_succ_iff_lt_or_eq.mp bound with inner | rfl
      · refine .inl ⟨i, inner, ?_, ?_⟩
        · rwa [List.getElem_append_left inner] at flagged
        · rw [List.take_append_of_le_length inner.le]
      · rw [List.getElem_append_right (le_refl _)] at flagged
        simp only [Nat.sub_self, List.getElem_cons_zero] at flagged
        simp [marks, flagged]

end Decimate

namespace SttStreamProducer

/-- Successive calls, with all their output frames. -/
def run (producer : SttStreamProducer) : List AudioFrame → SttStreamProducer × List AudioFrame
  | [] => (producer, [])
  | frame :: rest =>
      let (producer, output) := producer.process frame
      let (producer, outputs) := producer.run rest
      (producer, output ++ outputs)

theorem run_append (producer : SttStreamProducer) (first second : List AudioFrame) :
    producer.run (first ++ second) =
      (((producer.run first).1.run second).1, (producer.run first).2 ++ ((producer.run first).1.run second).2) := by
  induction first generalizing producer with
  | nil => rfl
  | cons frame rest ih => simp only [List.cons_append, run, ih, List.append_assoc]

/-- Output frame `k`, from the decimated stream and its marks. -/
def outputFrame (producer : SttStreamProducer) (anchor : ℤ) (stream : List Sample) (marks : List ℕ) (k : ℕ) :
    AudioFrame where
  track := .sttStream
  sequence := k
  timestamp := int64 (anchor +
    int64 (uint64 (k * producer.samplesPerOutputFrame * kNanosPerSecond) / producer.config.output.sampleRate : ℕ))
  sampleRate := producer.config.output.sampleRate
  channels := producer.config.output.channels
  format := .pcmS16Le
  discontinuity := marks.any fun mark =>
    k * producer.samplesPerOutputFrame ≤ mark && mark < (k + 1) * producer.samplesPerOutputFrame
  payload := pcmBytes (block producer.samplesPerOutputFrame stream k)

/-- The output side of a producer that has released `count` frames of the stream. -/
structure Released (producer : SttStreamProducer) (stream : List Sample) (marks : List ℕ) (count : ℕ) : Prop where
  within : count * producer.samplesPerOutputFrame ≤ stream.length
  pending : producer.pending = rest producer.samplesPerOutputFrame stream count
  sequence : producer.nextSequence = count
  emitted : producer.samplesEmitted = count * producer.samplesPerOutputFrame
  framesOut : producer.stats.framesOut = count
  flag : producer.pendingDiscontinuity = marks.any fun mark => count * producer.samplesPerOutputFrame ≤ mark
  reported : ∀ mark ∈ marks, mark < (count + 1) * producer.samplesPerOutputFrame

/-- The parts of a producer that the output loop leaves alone. -/
structure SameInput (before after : SttStreamProducer) : Prop where
  config : after.config = before.config
  size : after.samplesPerOutputFrame = before.samplesPerOutputFrame
  decimator : after.decimator = before.decimator
  anchor : after.anchor = before.anchor
  framesIn : after.stats.framesIn = before.stats.framesIn
  rejectedFrames : after.stats.rejectedFrames = before.stats.rejectedFrames

section Emit

variable {producer : SttStreamProducer} {anchor : ℤ} {stream : List Sample} {marks : List ℕ} {count : ℕ}

private theorem emit_output (released : producer.Released stream marks count) :
    (producer.emit anchor).2 = producer.outputFrame anchor stream marks count := by
  have flag : producer.pendingDiscontinuity = marks.any fun mark =>
      count * producer.samplesPerOutputFrame ≤ mark && mark < (count + 1) * producer.samplesPerOutputFrame := by
    rw [released.flag, Bool.eq_iff_iff, List.any_eq_true, List.any_eq_true]
    refine exists_congr fun mark => and_congr_right fun member => ?_
    simp only [released.reported mark member, decide_true, Bool.and_true]
  rw [emit, outputFrame, ← flag, released.sequence, released.emitted, released.pending, take_rest]

private theorem emit_released (released : producer.Released stream marks count)
    (full : producer.samplesPerOutputFrame ≤ producer.pending.length) :
    (producer.emit anchor).1.Released stream marks (count + 1) := by
  have within := released.within
  rw [released.pending, length_rest] at full
  constructor
  · change (count + 1) * producer.samplesPerOutputFrame ≤ stream.length
    rw [Nat.succ_mul]
    omega
  · change producer.pending.drop producer.samplesPerOutputFrame = _
    rw [released.pending, drop_rest]
    rfl
  · exact congrArg (· + 1) released.sequence
  · change producer.samplesEmitted + producer.samplesPerOutputFrame = _
    rw [released.emitted, ← Nat.succ_mul]
    rfl
  · exact congrArg (· + 1) released.framesOut
  · symm
    change (marks.any fun mark => (count + 1) * producer.samplesPerOutputFrame ≤ mark) = false
    rw [List.any_eq_false]
    intro mark member
    simpa using released.reported mark member
  · intro mark member
    have earlier := released.reported mark member
    change mark < (count + 1 + 1) * producer.samplesPerOutputFrame
    rw [Nat.succ_mul]
    omega

/-- A producer with less than a frame pending has released every frame. -/
private theorem count_of_short (released : producer.Released stream marks count)
    (short : producer.pending.length < producer.samplesPerOutputFrame) :
    count = stream.length / producer.samplesPerOutputFrame := by
  rw [released.pending] at short
  exact count_eq released.within short

/-- The output loop releases every full frame. -/
theorem emitAll_spec (anchor : ℤ) {fuel : ℕ} (size : 0 < producer.samplesPerOutputFrame)
    (released : producer.Released stream marks count) (enough : producer.pending.length ≤ fuel) :
    let after := (emitAll anchor fuel producer).1
    let total := stream.length / producer.samplesPerOutputFrame
    producer.SameInput after ∧ after.Released stream marks total ∧
      after.pending.length < producer.samplesPerOutputFrame ∧
      (List.range count).map (producer.outputFrame anchor stream marks) ++ (emitAll anchor fuel producer).2 =
        (List.range total).map (producer.outputFrame anchor stream marks) := by
  induction fuel generalizing producer count with
  | zero =>
    have short : producer.pending.length < producer.samplesPerOutputFrame := by omega
    have done := count_of_short released short
    exact ⟨⟨rfl, rfl, rfl, rfl, rfl, rfl⟩, done ▸ released, short, by rw [← done]; exact List.append_nil _⟩
  | succ fuel ih =>
    rw [emitAll]
    split
    next short =>
      have done := count_of_short released short
      exact ⟨⟨rfl, rfl, rfl, rfl, rfl, rfl⟩, done ▸ released, short, by rw [← done]; exact List.append_nil _⟩
    next full =>
      rw [Nat.not_lt] at full
      have fewer : (producer.emit anchor).1.pending.length ≤ fuel := by
        change (producer.pending.drop producer.samplesPerOutputFrame).length ≤ fuel
        rw [List.length_drop]
        omega
      have positive : 0 < (producer.emit anchor).1.samplesPerOutputFrame := size
      have here : (producer.emit anchor).2 = producer.outputFrame anchor stream marks count := emit_output released
      obtain ⟨same, after, short, outputs⟩ := ih positive (emit_released released full) fewer
      refine ⟨⟨same.config, same.size, same.decimator, same.anchor, same.framesIn, same.rejectedFrames⟩, after, short,
        ?_⟩
      rw [List.range_succ, List.map_append, List.map_singleton, List.append_assoc] at outputs
      change _ ++ (producer.emit anchor).2 :: _ = _
      rw [here]
      exact outputs

end Emit

/-- The frames that a producer accepts are those of its input format. -/
theorem accepts_iff {producer : SttStreamProducer} {frame : AudioFrame} :
    producer.accepts frame = true ↔ frame.trackFormat = producer.config.input := by
  cases input : producer.config.input
  simp only [accepts, AudioFrame.trackFormat, input, Bool.and_eq_true, beq_iff_eq, TrackFormat.mk.injEq]
  tauto

section Runs

variable (start : SttStreamProducer) (frames : List AudioFrame)

/-- The frames that have the input format. -/
def accepted : List AudioFrame := frames.filter (start.accepts ·)

/-- The decimated samples of all frames. -/
def stream : List Sample := (decimate start.config start.decimator (start.accepted frames)).2

/-- Where the flagged frames arrived in the stream. -/
def marked : List ℕ := marks start.config start.decimator 0 (start.accepted frames)

/-- The first accepted frame's timestamp. -/
def anchored : Option ℤ := (start.accepted frames).head?.map (·.timestamp)

/-- The outputs that a run releases. -/
def released : List AudioFrame :=
  (List.range ((start.stream frames).length / start.samplesPerOutputFrame)).map
    (start.outputFrame ((start.anchored frames).getD 0) (start.stream frames) (start.marked frames))

/-- The state and the outputs of a producer after the given frames. -/
structure Produces (producer : SttStreamProducer) (outputs : List AudioFrame) : Prop where
  config : producer.config = start.config
  size : producer.samplesPerOutputFrame = start.samplesPerOutputFrame
  decimator : producer.decimator = (decimate start.config start.decimator (start.accepted frames)).1
  anchor : producer.anchor = start.anchored frames
  output : producer.Released (start.stream frames) (start.marked frames)
    ((start.stream frames).length / start.samplesPerOutputFrame)
  short : producer.pending.length < start.samplesPerOutputFrame
  outputs : outputs = start.released frames
  framesIn : producer.stats.framesIn = (start.accepted frames).length
  calls : producer.stats.framesIn + producer.stats.rejectedFrames = frames.length

end Runs

section Step

variable {start producer : SttStreamProducer} {frames outputs : List AudioFrame} {frame : AudioFrame}

private theorem accepted_snoc (matching : start.accepts frame = true) :
    start.accepted (frames ++ [frame]) = start.accepted frames ++ [frame] := by
  simp [accepted, List.filter_append, matching]

private theorem accepted_snoc_of_rejected (mismatched : start.accepts frame = false) :
    start.accepted (frames ++ [frame]) = start.accepted frames := by
  simp [accepted, List.filter_append, mismatched]

/-- A released frame does not change when the stream grows. -/
private theorem outputFrame_append {stream more : List Sample} {marks late : List ℕ} {anchor : ℤ} {k : ℕ}
    (full : (k + 1) * start.samplesPerOutputFrame ≤ stream.length) (after : ∀ mark ∈ late, stream.length ≤ mark) :
    start.outputFrame anchor (stream ++ more) (marks ++ late) k = start.outputFrame anchor stream marks k := by
  have none : (late.any fun mark => k * start.samplesPerOutputFrame ≤ mark &&
      mark < (k + 1) * start.samplesPerOutputFrame) = false := by
    rw [List.any_eq_false]
    intro mark member
    have := after mark member
    simp only [Bool.and_eq_true, decide_eq_true_eq, not_and, not_lt]
    omega
  rw [outputFrame, outputFrame, block_append full, List.any_append, none, Bool.or_false]

/-- The producer once an accepted frame is decimated, before its output loop. -/
private def fill (producer : SttStreamProducer) (frame : AudioFrame) : SttStreamProducer :=
  let received := producer.receive frame
  let (decimator, samples) := received.decimator.process (mono producer.config frame)
  { received with decimator := decimator, pending := received.pending ++ samples }

private theorem process_of_accepts (matching : producer.accepts frame = true) :
    producer.process frame =
      emitAll ((producer.fill frame).anchor.getD 0) (producer.fill frame).pending.length (producer.fill frame) := by
  rw [process, matching]
  rfl

private theorem process_of_rejects (mismatched : producer.accepts frame = false) :
    producer.process frame = ({ producer with
      stats := { producer.stats with rejectedFrames := producer.stats.rejectedFrames + 1 } }, []) := by
  rw [process, mismatched]
  rfl

private theorem fill_spec (producer : SttStreamProducer) (frame : AudioFrame) :
    producer.fill frame = { producer with
      stats := { producer.stats with framesIn := producer.stats.framesIn + 1 }
      anchor := some (producer.anchor.getD frame.timestamp)
      pendingDiscontinuity := frame.discontinuity || producer.pendingDiscontinuity
      decimator := (decimate producer.config producer.decimator [frame]).1
      pending := producer.pending ++ (decimate producer.config producer.decimator [frame]).2 } := by
  cases flag : frame.discontinuity <;> simp [fill, receive, decimate, flag]

private theorem anchored_snoc (matching : start.accepts frame = true) :
    start.anchored (frames ++ [frame]) = some ((start.anchored frames).getD frame.timestamp) := by
  rw [anchored, anchored, accepted_snoc matching]
  cases start.accepted frames <;> rfl

/-- The output side of the producer when the loop starts. -/
private theorem fill_released (produces : start.Produces frames producer outputs) (frame : AudioFrame) :
    let samples := (decimate producer.config producer.decimator [frame]).2
    let late := if frame.discontinuity then [(start.stream frames).length] else []
    (producer.fill frame).Released (start.stream frames ++ samples) (start.marked frames ++ late)
      ((start.stream frames).length / start.samplesPerOutputFrame) := by
  intro samples late
  have output := produces.output
  have within := output.within
  have short := produces.short
  rw [output.pending, length_rest, produces.size] at short
  rw [produces.size] at within
  have flag := output.flag
  have reported := output.reported
  rw [fill_spec]
  constructor
  · change _ * producer.samplesPerOutputFrame ≤ (start.stream frames ++ samples).length
    rw [List.length_append, produces.size]
    omega
  · change producer.pending ++ samples = _
    rw [rest_append output.within, output.pending]
  · exact output.sequence
  · exact output.emitted
  · exact output.framesOut
  · change (frame.discontinuity || producer.pendingDiscontinuity) = _
    rw [List.any_append, ← flag]
    cases flagged : frame.discontinuity with
    | false => simp [late, flagged]
    | true => simp [late, flagged, produces.size, within]
  · intro mark member
    rcases List.mem_append.mp member with earlier | here
    · exact reported mark earlier
    · change mark < _ * producer.samplesPerOutputFrame
      rw [produces.size, Nat.succ_mul]
      cases flagged : frame.discontinuity with
      | false => simp [late, flagged] at here
      | true =>
        simp only [late, flagged, ↓reduceIte, List.mem_singleton] at here
        omega

/-- A frame of another format is counted and dropped. -/
private theorem process_produces_of_rejected (produces : start.Produces frames producer outputs)
    (mismatched : start.accepts frame = false) :
    start.Produces (frames ++ [frame]) (producer.process frame).1 (outputs ++ (producer.process frame).2) := by
  have rejected : producer.accepts frame = false := by rwa [accepts, produces.config]
  have same : start.accepted (frames ++ [frame]) = start.accepted frames := accepted_snoc_of_rejected mismatched
  have calls := produces.calls
  rw [process_of_rejects rejected, List.append_nil]
  constructor
  · exact produces.config
  · exact produces.size
  · rw [same]
    exact produces.decimator
  · rw [anchored, same]
    exact produces.anchor
  · rw [stream, marked, same]
    exact ⟨produces.output.within, produces.output.pending, produces.output.sequence, produces.output.emitted,
      produces.output.framesOut, produces.output.flag, produces.output.reported⟩
  · exact produces.short
  · rw [released, stream, marked, anchored, same]
    exact produces.outputs
  · rw [same]
    exact produces.framesIn
  · rw [List.length_append, List.length_singleton]
    change producer.stats.framesIn + (producer.stats.rejectedFrames + 1) = _
    omega

private theorem stream_snoc (produces : start.Produces frames producer outputs)
    (matching : start.accepts frame = true) : start.stream (frames ++ [frame]) =
      start.stream frames ++ (decimate producer.config producer.decimator [frame]).2 := by
  rw [stream, accepted_snoc matching, decimate_append_output, produces.config, produces.decimator]
  rfl

private theorem marked_snoc (matching : start.accepts frame = true) :
    start.marked (frames ++ [frame]) =
      start.marked frames ++ if frame.discontinuity then [(start.stream frames).length] else [] := by
  rw [marked, accepted_snoc matching, marks_append, Nat.zero_add]
  simp [marks, marked, stream]

/-- The outputs released so far do not depend on what comes later. -/
private theorem released_snoc (size : 0 < start.samplesPerOutputFrame)
    (produces : start.Produces frames producer outputs) (matching : start.accepts frame = true) :
    outputs = (List.range ((start.stream frames).length / start.samplesPerOutputFrame)).map
      (start.outputFrame ((start.anchored (frames ++ [frame])).getD 0) (start.stream (frames ++ [frame]))
        (start.marked (frames ++ [frame]))) := by
  rw [produces.outputs]
  refine List.map_congr_left fun k member => ?_
  have full : (k + 1) * start.samplesPerOutputFrame ≤ (start.stream frames).length :=
    (Nat.mul_le_mul_right _ (List.mem_range.mp member)).trans (Nat.div_mul_le_self _ _)
  have first : (start.anchored (frames ++ [frame])).getD 0 = (start.anchored frames).getD 0 := by
    rw [anchored_snoc matching]
    cases earlier : start.accepted frames with
    | nil =>
      simp only [stream, earlier, decimate_nil, List.length_nil, Nat.succ_mul] at full
      omega
    | cons first rest => simp [anchored, earlier]
  rw [stream_snoc produces matching, marked_snoc matching, first, outputFrame_append full]
  intro mark member
  cases flagged : frame.discontinuity with
  | false => simp [flagged] at member
  | true =>
    simp only [flagged, ↓reduceIte, List.mem_singleton] at member
    exact member.ge

private theorem outputFrame_congr (config : producer.config = start.config)
    (size : producer.samplesPerOutputFrame = start.samplesPerOutputFrame) :
    producer.outputFrame = start.outputFrame := by
  funext anchor stream marks k
  rw [outputFrame, outputFrame, config, size]

private theorem process_produces_of_accepted (size : 0 < start.samplesPerOutputFrame)
    (produces : start.Produces frames producer outputs) (matching : start.accepts frame = true) :
    start.Produces (frames ++ [frame]) (producer.process frame).1 (outputs ++ (producer.process frame).2) := by
  have accepts : producer.accepts frame = true := by rwa [SttStreamProducer.accepts, produces.config]
  have anchor : (producer.fill frame).anchor = start.anchored (frames ++ [frame]) := by
    rw [fill_spec, anchored_snoc matching, produces.anchor]
  have config : (producer.fill frame).config = start.config := by rw [fill_spec, produces.config]
  have sizes : (producer.fill frame).samplesPerOutputFrame = start.samplesPerOutputFrame := by
    rw [fill_spec, produces.size]
  have filled := fill_released produces frame
  dsimp only at filled
  rw [← stream_snoc produces matching, ← marked_snoc matching] at filled
  obtain ⟨same, output, short, outputs⟩ :=
    emitAll_spec ((producer.fill frame).anchor.getD 0) (sizes.symm ▸ size) filled (le_refl _)
  have calls := produces.calls
  have framesIn : (producer.fill frame).stats.framesIn = producer.stats.framesIn + 1 := by rw [fill_spec]
  have rejected : (producer.fill frame).stats.rejectedFrames = producer.stats.rejectedFrames := by rw [fill_spec]
  rw [process_of_accepts accepts]
  constructor
  · exact same.config.trans config
  · exact same.size.trans sizes
  · rw [same.decimator, fill_spec, accepted_snoc matching, decimate_append_state, produces.config,
      produces.decimator]
  · exact same.anchor.trans anchor
  · rwa [sizes] at output
  · rwa [sizes] at short
  · rw [outputFrame_congr config sizes, anchor, ← released_snoc size produces matching, sizes] at outputs
    rw [anchor, outputs]
    rfl
  · rw [same.framesIn, framesIn, accepted_snoc matching, List.length_append, produces.framesIn, List.length_singleton]
  · rw [same.framesIn, same.rejectedFrames, framesIn, rejected, List.length_append, List.length_singleton]
    omega

/-- One call keeps the producer in step with its input. -/
theorem process_produces (size : 0 < start.samplesPerOutputFrame)
    (produces : start.Produces frames producer outputs) (frame : AudioFrame) :
    start.Produces (frames ++ [frame]) (producer.process frame).1 (outputs ++ (producer.process frame).2) := by
  cases matching : start.accepts frame with
  | true => exact process_produces_of_accepted size produces matching
  | false => exact process_produces_of_rejected produces matching

/-- A whole run keeps it, too. -/
theorem run_produces (size : 0 < start.samplesPerOutputFrame)
    (produces : start.Produces frames producer outputs) (more : List AudioFrame) :
    start.Produces (frames ++ more) (producer.run more).1 (outputs ++ (producer.run more).2) := by
  induction more generalizing frames producer outputs with
  | nil =>
    rw [run, List.append_nil, List.append_nil]
    exact produces
  | cons frame rest ih =>
    have later := ih (process_produces size produces frame)
    rw [List.append_assoc, List.append_assoc, List.singleton_append] at later
    exact later

end Step

section Create

variable {designLowPass : ℕ → ℚ → List ℚ} {config : SttStreamConfig} {producer : SttStreamProducer}

/-- What `create` has checked, and the producer it returns. -/
structure Created (designLowPass : ℕ → ℚ → List ℚ) (config : SttStreamConfig) (producer : SttStreamProducer) :
    Prop where
  input : config.input.format = .pcmS16Le
  outputFormat : config.output.format = .pcmS16Le
  channels : config.input.channels = 1 ∨ config.input.channels = 2
  output : config.output.channels = 1
  inputRate : 0 < config.input.sampleRate
  outputRate : 0 < config.output.sampleRate
  ratio : config.output.sampleRate ∣ config.input.sampleRate
  size : 0 < producer.samplesPerOutputFrame
  producer : producer = {
    config := config
    decimator := FirDecimator.create designLowPass (config.input.sampleRate / config.output.sampleRate)
    samplesPerOutputFrame := samplesPerChannel config.output.sampleRate config.frameDuration }

theorem created_of_create (created : create designLowPass config = some producer) :
    Created designLowPass config producer := by
  simp only [create] at created
  split at created
  next => contradiction
  next accepted =>
    obtain rfl := Option.some.inj created
    simp only [Bool.or_eq_true, not_or, Bool.not_eq_true', Bool.not_eq_false, Bool.and_eq_true, beq_iff_eq,
      decide_eq_true_eq] at accepted
    obtain ⟨⟨⟨⟨input, outputFormat⟩, ⟨channels, output⟩⟩, ⟨⟨inputRate, outputRate⟩, ratio⟩⟩, size⟩ := accepted
    exact ⟨input, outputFormat, channels, output, inputRate, outputRate, Nat.dvd_of_mod_eq_zero ratio,
      Nat.pos_of_ne_zero size, rfl⟩

/-- A new producer has produced nothing. -/
theorem Created.produces (created : Created designLowPass config producer) : producer.Produces [] producer [] := by
  have size := created.size
  obtain rfl := created.producer
  refine ⟨rfl, rfl, rfl, rfl, ⟨?_, ?_, ?_, ?_, ?_, rfl, nofun⟩, size, ?_, rfl, rfl⟩
  all_goals simp [stream, accepted, released]

/-- Every run of a new producer. -/
theorem Created.run (created : Created designLowPass config producer) (frames : List AudioFrame) :
    producer.Produces frames (producer.run frames).1 (producer.run frames).2 :=
  run_produces created.size created.produces frames

end Create

end SttStreamProducer

end VoxMesh.Dsp
