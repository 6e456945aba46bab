import VoxMesh.Soundness.MasterTimeline
import VoxMesh.Soundness.SttStream

/-! # Timestamps of the transcription stream

The producer stamps its output by counting from the first frame's timestamp, so its output stays on the master
timeline as long as the aligned stream does not leave the timeline of its first frame, and every `factor` samples
in make one sample out. A truncated gap or an overlap moves the aligned stream away for good, and a flagged frame
that cuts off a decimation phase moves the output ahead by up to `factor - 1` samples. While no frame does the
first and the phases cut off stay below the jitter tolerance, every output frame is stamped to within twice the
tolerance.
-/

namespace VoxMesh.Audio

open FixedWidth

/-- The frames follow each other on one timeline, from the given number of samples after its anchor on. -/
def Follows (config : ClockSyncConfig) (anchor : ℤ) : ℕ → List AlignedFrame → Prop
  | _, [] => True
  | position, output :: rest =>
      |output.frame.timestamp - anchor - config.offset position| ≤ max config.tolerance config.samplePeriod ∧
        Follows config anchor (position + output.samples) rest

/-- Without further anchors, the timeline is the one of the latest anchor. -/
theorem AllOnTimeline.follows {config : ClockSyncConfig} {anchor : ℤ} {position : ℕ} {outputs : List MarkedFrame}
    (all : AllOnTimeline config (some (anchor, position)) outputs)
    (plain : ∀ marked ∈ outputs, marked.anchor = false) : Follows config anchor position (outputs.map (·.output)) := by
  induction outputs generalizing position with
  | nil => trivial
  | cons marked rest ih =>
    obtain ⟨here, later⟩ := all
    have unmarked := plain marked (List.mem_cons_self ..)
    rw [sinceAnchor, unmarked] at later
    refine ⟨?_, ih later fun other member => plain other (List.mem_cons_of_mem _ member)⟩
    cases made : marked.output.synthesized with
    | true =>
      obtain ⟨_, _, same, stamp⟩ := here.silence made
      obtain ⟨rfl, rfl⟩ := Prod.mk.inj (Option.some.inj same)
      rw [stamp, show anchor + config.offset position - anchor - config.offset position = 0 by ring, abs_zero]
      exact le_max_of_le_right (Int.natCast_nonneg _)
    | false =>
      obtain ⟨_, _, same, near⟩ := here.real made
      rw [unmarked] at same
      obtain ⟨rfl, rfl⟩ := Prod.mk.inj (Option.some.inj same)
      exact near

/-- The position on the timeline is the time of capture, up to the jitter and a lead of some samples. -/
def Leads (config : ClockSyncConfig) (anchor : ℤ) (ahead position : ℕ) (captured : ℤ) : Prop :=
  captured ≤ anchor + config.offset position + max config.tolerance config.samplePeriod ∧
    anchor + config.offset position ≤
      captured + max config.tolerance config.samplePeriod + config.offset ahead + 2

theorem Leads.mono {config : ClockSyncConfig} {anchor captured : ℤ} {ahead more position : ℕ}
    (leads : Leads config anchor ahead position captured) (le : ahead ≤ more) :
    Leads config anchor more position captured := by
  have further := Rescale.rescale_mono (a := kNanosPerSecond) (b := config.sampleRate) le
  refine ⟨leads.1, leads.2.trans ?_⟩
  simp only [ClockSyncConfig.offset]
  omega

/-- A sample's time follows from its frame's. -/
theorem leads_of_near {config : ClockSyncConfig} {anchor timestamp : ℤ} {position : ℕ}
    (near : |timestamp - anchor - config.offset position| ≤ max config.tolerance config.samplePeriod) (ahead i : ℕ) :
    Leads config anchor ahead (position + ahead + i) (timestamp + config.offset i) := by
  obtain ⟨early, late⟩ := abs_le.mp near
  have first := Rescale.add_le_rescale (a := kNanosPerSecond) (b := config.sampleRate) (position + ahead) i
  have second := Rescale.add_le_rescale (a := kNanosPerSecond) (b := config.sampleRate) position ahead
  have third := Rescale.rescale_le_add (a := kNanosPerSecond) config.rate_pos (position + ahead) i
  have fourth := Rescale.rescale_le_add (a := kNanosPerSecond) config.rate_pos position ahead
  simp only [Leads, ClockSyncConfig.offset] at early late ⊢
  omega

namespace TrackSynchronizer

/-- No frame after the first is early enough for an overlap, or late enough for a truncated gap. -/
def InStep (sync : TrackSynchronizer) : List AudioFrame → Prop
  | [] => True
  | frame :: rest =>
      (sync.anchored = true → -sync.config.tolerance ≤ sync.delta .machine frame ∧
        sync.delta .machine frame ≤ sync.config.cap) ∧ (sync.process .machine frame).1.InStep rest

instance decidableInStep : (sync : TrackSynchronizer) → (frames : List AudioFrame) → Decidable (sync.InStep frames)
  | _, [] => isTrue trivial
  | sync, frame :: rest =>
      haveI := decidableInStep (sync.process .machine frame).1 rest
      inferInstanceAs (Decidable (_ ∧ _))

variable {sync : TrackSynchronizer}

/-- A run in step has no further anchor. -/
theorem markedRun_plain {frames : List AudioFrame} (anchored : sync.anchored = true)
    (started : sync.stats.framesProcessed ≠ 0) (inStep : sync.InStep frames) :
    ∀ marked ∈ sync.markedRun .machine frames, marked.anchor = false := by
  induction frames generalizing sync with
  | nil => nofun
  | cons frame rest ih =>
    obtain ⟨here, later⟩ := inStep
    obtain ⟨early, late⟩ := here anchored
    intro marked member
    rcases List.mem_append.mp member with now | after
    · obtain ⟨output, made, rfl⟩ := List.mem_map.mp now
      have placed : (sync.placement .machine frame).truncatedCount = 0 ∧
          (sync.placement .machine frame).overlapCount = 0 := by
        cases placed : sync.placement .machine frame with
        | first | continuous | healed _ => exact ⟨rfl, rfl⟩
        | truncated _ => exact absurd (of_placement_truncated placed) (not_lt.mpr late)
        | overlap => exact absurd (of_placement_overlap placed) (not_lt.mpr early)
      simp [isAnchor, ClockSyncStats.record, placed, started]
    · refine ih (process_anchored ..) ?_ later marked after
      rw [process_stats]
      exact Nat.succ_ne_zero _

/-- A run in step stays on the timeline of its first frame. -/
theorem run_follows (config : ClockSyncConfig) (first : AudioFrame) (rest : List AudioFrame)
    (tolerance : 0 ≤ config.tolerance) (fits : (create config).Fits (first :: rest))
    (inStep : (create config).InStep (first :: rest)) :
    Follows config first.timestamp 0 ((create config).run .machine (first :: rest)).2 := by
  have all := run_on_timeline tolerance (Tracks.create config) (first :: rest)
  rw [← markedRun_machine (.refl _) fits] at all
  have head : (create config).markedProcess .machine first = [⟨⟨{ first with sequence := 0 }, false⟩, true⟩] := rfl
  have plain := markedRun_plain (process_anchored ..) (by simp [ClockSyncStats.record]) inStep.2
  rw [markedRun, head, List.singleton_append] at all
  have later := AllOnTimeline.follows all.2 plain
  rw [markedRun_output] at later
  refine ⟨?_, ?_⟩
  · change |first.timestamp - first.timestamp - config.offset 0| ≤ _
    simp [ClockSyncConfig.offset]
  · rw [Nat.zero_add]
    exact later

/-- Frames of the synchronizer's own format are put out in that format. -/
theorem run_trackFormat {frames : List AudioFrame} {format : TrackFormat}
    (own : format = ⟨sync.config.sampleRate, sync.config.channels, sync.config.format⟩)
    (formats : ∀ frame ∈ frames, frame.trackFormat = format) :
    ∀ output ∈ (sync.run .machine frames).2, output.frame.trackFormat = format := by
  induction frames generalizing sync with
  | nil => nofun
  | cons frame rest ih =>
    have here := formats frame (List.mem_cons_self ..)
    have still : format = ⟨(sync.process .machine frame).1.config.sampleRate,
        (sync.process .machine frame).1.config.channels, (sync.process .machine frame).1.config.format⟩ := by
      rw [process_config]
      exact own
    intro output member
    rcases List.mem_append.mp member with now | later
    · exact (process_trackFormat .machine sync frame (here.trans own) output now).trans here
    · exact ih still (fun other member => formats other (List.mem_cons_of_mem _ member)) output later

end TrackSynchronizer

end VoxMesh.Audio

namespace VoxMesh.Dsp

open VoxMesh.Audio FixedWidth

/-- The samples of a frame, each with the time of its capture. -/
def timed (config : SttStreamConfig) (frame : AudioFrame) : List (Sample × ℤ) :=
  (SttStreamProducer.mono config frame).zipIdx.map fun (sample, i) =>
    (sample, frame.timestamp + Rescale.rescale kNanosPerSecond config.input.sampleRate i)

/-- Decimated samples, each with the capture time of the sample that it was decimated from. -/
def decimateTimed (config : SttStreamConfig) : FirDecimator → List AudioFrame → List (Sample × ℤ)
  | _, [] => []
  | decimator, frame :: rest =>
      let start := if frame.discontinuity then decimator.reset else decimator
      let (decimator, samples) := start.trace (timed config frame)
      samples ++ decimateTimed config decimator rest

/-- The input samples that flagged frames take away from the decimation in progress. -/
def cutOff (config : SttStreamConfig) : FirDecimator → List AudioFrame → ℕ
  | _, [] => 0
  | decimator, frame :: rest =>
      (if frame.discontinuity then decimator.untilOutput else 0) +
        cutOff config (decimate config decimator [frame]).1 rest

theorem timed_samples (config : SttStreamConfig) (frame : AudioFrame) :
    (timed config frame).map Prod.fst = SttStreamProducer.mono config frame := by
  rw [timed, List.map_map]
  exact List.zipIdx_map_fst ..

theorem timed_getElem (config : SttStreamConfig) (frame : AudioFrame) {i : ℕ}
    (bound : i < (SttStreamProducer.mono config frame).length) : ((timed config frame).map Prod.snd)[i]? =
      some (frame.timestamp + Rescale.rescale kNanosPerSecond config.input.sampleRate i) := by
  simp [timed, bound]

/-- Without the times, it is what the decimator makes of the frames. -/
theorem decimateTimed_samples (config : SttStreamConfig) (decimator : FirDecimator) (frames : List AudioFrame) :
    (decimateTimed config decimator frames).map Prod.fst = (decimate config decimator frames).2 := by
  induction frames generalizing decimator with
  | nil => rfl
  | cons frame rest ih =>
    simp only [decimateTimed, decimate, List.map_append, ih, FirDecimator.trace_samples, FirDecimator.trace_state,
      timed_samples]

theorem downmix_length (samples : List Sample) :
    (SttStreamProducer.downmix samples).length = samples.length / 2 := by
  fun_induction SttStreamProducer.downmix samples with
  | case1 left right rest ih =>
    simp only [List.length_cons, ih]
    omega
  | case2 samples short =>
    rcases samples with _ | ⟨only, _ | ⟨second, rest⟩⟩
    · rfl
    · simp
    · exact absurd rfl (short only second rest)

variable {designLowPass : ℕ → ℚ → List ℚ} {config : SttStreamConfig} {producer : SttStreamProducer}

/-- An accepted frame is downmixed to one sample for each of its samples. -/
theorem mono_length (created : SttStreamProducer.Created designLowPass config producer) {frame : AudioFrame}
    (matching : producer.accepts frame = true) :
    (SttStreamProducer.mono config frame).length = frame.sampleCountPerChannel := by
  rw [SttStreamProducer.mono, sampleCount_of_accepts created matching]
  rcases created.channels with single | double
  · rw [single, if_neg (by decide), List.length_take, pcmSamples_length]
    omega
  · rw [double, if_pos rfl, downmix_length, List.length_take, pcmSamples_length]
    omega

variable {sync : ClockSyncConfig} {anchor : ℤ}

/-- The decimator once it has taken note of a frame's flag. -/
private def starting (decimator : FirDecimator) (frame : AudioFrame) : FirDecimator :=
  if frame.discontinuity then decimator.reset else decimator

private theorem starting_phase {decimator : FirDecimator} (small : decimator.phase < decimator.factor)
    (frame : AudioFrame) : (starting decimator frame).factor = decimator.factor ∧
      (starting decimator frame).phase < decimator.factor ∧ decimator.untilOutput =
        (if frame.discontinuity then decimator.untilOutput else 0) + (starting decimator frame).untilOutput := by
  rw [starting]
  split
  next => exact ⟨rfl, Nat.zero_lt_of_lt small, by simp⟩
  next => exact ⟨rfl, small, (Nat.zero_add _).symm⟩

/-- Every decimated sample lies on the timeline, ahead of it by no more than what was cut off. -/
theorem decimateTimed_leads (rate : config.input.sampleRate = sync.sampleRate) {decimator : FirDecimator}
    (small : decimator.phase < decimator.factor) {outputs : List AlignedFrame} {position made ahead : ℕ}
    (phase : decimator.factor * made = position + ahead + decimator.untilOutput)
    (follows : Follows sync anchor position outputs)
    (lengths : ∀ output ∈ outputs, (SttStreamProducer.mono config output.frame).length = output.samples)
    {j : ℕ} {captured : ℤ}
    (sampled : ((decimateTimed config decimator (outputs.map (·.frame))).map Prod.snd)[j]? = some captured) :
    Leads sync anchor (ahead + cutOff config decimator (outputs.map (·.frame))) (decimator.factor * (made + j))
      captured := by
  induction outputs generalizing decimator position made ahead j with
  | nil => simp [decimateTimed] at sampled
  | cons output rest ih =>
    obtain ⟨near, later⟩ := follows
    have length := lengths output (List.mem_cons_self ..)
    obtain ⟨factor, startSmall, cut⟩ := starting_phase small output.frame
    generalize started : starting decimator output.frame = start at factor startSmall cut
    rw [← factor] at startSmall
    have unfolded : decimateTimed config decimator ((output :: rest).map (·.frame)) =
        (start.trace (timed config output.frame)).2 ++
          decimateTimed config (start.process (SttStreamProducer.mono config output.frame)).1
            (rest.map (·.frame)) := by
      simp only [← started, List.map_cons, decimateTimed, FirDecimator.trace_state, timed_samples]
      rfl
    have total : cutOff config decimator ((output :: rest).map (·.frame)) =
        (if output.frame.discontinuity then decimator.untilOutput else 0) +
          cutOff config (start.process (SttStreamProducer.mono config output.frame)).1 (rest.map (·.frame)) := by
      rw [← started]
      rfl
    generalize (if output.frame.discontinuity then decimator.untilOutput else 0) = taken at cut total
    have count : ((start.trace (timed config output.frame)).2.map Prod.snd).length =
        (start.process (SttStreamProducer.mono config output.frame)).2.length := by
      have samples := congrArg List.length (start.trace_samples (timed config output.frame))
      rwa [List.length_map, timed_samples, ← List.length_map Prod.snd] at samples
    rw [unfolded, List.map_append] at sampled
    rw [total, ← Nat.add_assoc]
    rcases Nat.lt_or_ge j (start.process (SttStreamProducer.mono config output.frame)).2.length with here | after
    · rw [List.getElem?_append_left (count ▸ here), FirDecimator.trace_outputs startSmall] at sampled
      obtain ⟨bound, -⟩ := List.getElem?_eq_some_iff.mp sampled
      rw [List.length_map, ← List.length_map Prod.fst, timed_samples] at bound
      rw [timed_getElem config output.frame bound, rate, Option.some.injEq] at sampled
      have leads := leads_of_near near (ahead + taken) (start.untilOutput + start.factor * j)
      have place : position + (ahead + taken) + (start.untilOutput + start.factor * j) =
          decimator.factor * (made + j) := by
        rw [Nat.mul_add, factor]
        omega
      rw [place] at leads
      rw [← sampled]
      exact leads.mono (Nat.le_add_right _ _)
    · rw [List.getElem?_append_right (count ▸ after), count] at sampled
      have consumed := FirDecimator.process_length startSmall (SttStreamProducer.mono config output.frame)
      have place : made + (start.process (SttStreamProducer.mono config output.frame)).2.length +
          (j - (start.process (SttStreamProducer.mono config output.frame)).2.length) = made + j := by omega
      have next : Leads sync anchor
          (ahead + taken + cutOff config (start.process (SttStreamProducer.mono config output.frame)).1
            (rest.map (·.frame)))
          ((start.process (SttStreamProducer.mono config output.frame)).1.factor *
            (made + (start.process (SttStreamProducer.mono config output.frame)).2.length +
              (j - (start.process (SttStreamProducer.mono config output.frame)).2.length))) captured := by
        refine ih ?_ ?_ later (fun other member => lengths other (List.mem_cons_of_mem _ member)) sampled
        · rw [FirDecimator.process_factor, FirDecimator.process_phase _ _ startSmall]
          exact Nat.mod_lt _ (Nat.zero_lt_of_lt startSmall)
        · rw [FirDecimator.process_factor, factor, Nat.mul_add, ← length]
          rw [factor] at consumed
          omega
      rwa [FirDecimator.process_factor, factor, place] at next

/-- For each sample of the producer's stream, the capture time of the sample that it was decimated from. -/
def SttStreamProducer.captureTimes (producer : SttStreamProducer) (frames : List AudioFrame) : List ℤ :=
  (decimateTimed producer.config producer.decimator (producer.accepted frames)).map Prod.snd

theorem captureTimes_length (producer : SttStreamProducer) (frames : List AudioFrame) :
    (producer.captureTimes frames).length = (producer.stream frames).length := by
  have samples := congrArg List.length (decimateTimed_samples producer.config producer.decimator
    (producer.accepted frames))
  rwa [List.length_map, ← List.length_map Prod.snd] at samples

/-- A new decimator makes an output sample of its first sample. -/
theorem create_phase (designLowPass : ℕ → ℚ → List ℚ) {factor : ℕ} (positive : 0 < factor) :
    (FirDecimator.create designLowPass factor).factor = factor ∧
      (FirDecimator.create designLowPass factor).phase < (FirDecimator.create designLowPass factor).factor ∧
      (FirDecimator.create designLowPass factor).untilOutput = 0 := by
  have same : (FirDecimator.create designLowPass factor).factor = factor := if_neg positive.ne'
  refine ⟨same, ?_, Nat.mod_self _⟩
  rw [same]
  exact positive

/-- Time on the input's clock and on the output's. -/
private theorem offset_decimated {rate : ℕ} (config : ClockSyncConfig) (divides : rate ∣ config.sampleRate)
    (samples : ℕ) :
    config.offset (config.sampleRate / rate * samples) = samples * kNanosPerSecond / rate := by
  obtain ⟨factor, same⟩ := divides
  have positive := config.rate_pos
  rw [same] at positive
  have rate_pos : 0 < rate := Nat.pos_of_mul_pos_right positive
  have factor_pos : 0 < factor := Nat.pos_of_mul_pos_left positive
  rw [ClockSyncConfig.offset, Rescale.rescale, same, Nat.mul_div_cancel_left _ rate_pos, Nat.mul_comm rate,
    Nat.mul_assoc, Nat.mul_div_mul_left _ _ factor_pos]

section Aligned

open TrackSynchronizer

variable {config : ClockSyncConfig} {settings : SttStreamConfig} {frames : List AudioFrame}

/-- The aligned frames all have the producer's input format. -/
private theorem accepts_aligned (created : SttStreamProducer.Created designLowPass settings producer)
    (input : settings.input = ⟨config.sampleRate, config.channels, config.format⟩)
    (formats : ∀ frame ∈ frames, frame.trackFormat = settings.input) :
    ∀ output ∈ ((TrackSynchronizer.create config).run .machine frames).2, producer.accepts output.frame = true := by
  intro output member
  rw [SttStreamProducer.accepts_iff, show producer.config = settings by rw [created.producer]]
  exact run_trackFormat input formats output member

private theorem accepted_aligned (created : SttStreamProducer.Created designLowPass settings producer)
    (input : settings.input = ⟨config.sampleRate, config.channels, config.format⟩)
    (formats : ∀ frame ∈ frames, frame.trackFormat = settings.input) :
    producer.accepted (alignedFrames config frames) = alignedFrames config frames := by
  refine List.filter_eq_self.mpr fun frame member => ?_
  obtain ⟨output, made, rfl⟩ := List.mem_map.mp member
  exact accepts_aligned created input formats output made

/-- What the producer decimates from a run in step lies on the timeline of the first frame. -/
private theorem captureTimes_leads (created : SttStreamProducer.Created designLowPass settings producer)
    (input : settings.input = ⟨config.sampleRate, config.channels, config.format⟩) {first : AudioFrame}
    {rest : List AudioFrame} (formats : ∀ frame ∈ first :: rest, frame.trackFormat = settings.input)
    (tolerance : 0 ≤ config.tolerance) (fits : (TrackSynchronizer.create config).Fits (first :: rest))
    (inStep : (TrackSynchronizer.create config).InStep (first :: rest)) {m : ℕ} {captured : ℤ}
    (sampled : (producer.captureTimes (alignedFrames config (first :: rest)))[m]? = some captured) :
    Leads config first.timestamp (cutOff settings producer.decimator (alignedFrames config (first :: rest)))
      (config.sampleRate / settings.output.sampleRate * m) captured := by
  have inputRate : settings.input.sampleRate = config.sampleRate := by rw [input]
  have same : producer.config = settings := by rw [created.producer]
  obtain ⟨factor, small, due⟩ := create_phase designLowPass
    (Nat.div_pos (Nat.le_of_dvd created.inputRate created.ratio) created.outputRate)
  have decimator : producer.decimator = FirDecimator.create designLowPass
    (settings.input.sampleRate / settings.output.sampleRate) := by rw [created.producer]
  rw [SttStreamProducer.captureTimes, accepted_aligned created input formats, same, decimator] at sampled
  have lengths := fun output member => mono_length created (accepts_aligned created input formats output member)
  have origin :
      (FirDecimator.create designLowPass (settings.input.sampleRate / settings.output.sampleRate)).factor * 0 =
      0 + 0 + (FirDecimator.create designLowPass
        (settings.input.sampleRate / settings.output.sampleRate)).untilOutput := by rw [due]; rfl
  have leads := decimateTimed_leads inputRate small origin (run_follows config first rest tolerance fits inStep) lengths
    sampled
  rwa [factor, Nat.zero_add, Nat.zero_add, ← decimator, inputRate] at leads

end Aligned

/-- Every output frame is stamped with the capture time of its first sample up to twice the jitter tolerance, as
long as no frame overlaps the one before or comes too late for its gap to be filled, and the flagged frames cut off
less than 20 ms of decimation in progress. The frames have the input format, and the 64-bit results are in range, that
of the timestamp included. -/
theorem timestamps_on_timeline (designLowPass : ℕ → ℚ → List ℚ) (config : ClockSyncConfig)
    (settings : SttStreamConfig) (producer : SttStreamProducer) (frames : List AudioFrame)
    (rate : config.sampleRate = 48000) (jitter : config.jitterTolerance = 20)
    (input : settings.input = ⟨config.sampleRate, config.channels, config.format⟩)
    (created : SttStreamProducer.create designLowPass settings = some producer)
    (formats : ∀ frame ∈ frames, frame.trackFormat = settings.input)
    (fits : (TrackSynchronizer.create config).Fits frames)
    (inStep : (TrackSynchronizer.create config).InStep frames)
    (whole : cutOff settings producer.decimator (TrackSynchronizer.alignedFrames config frames) < 960)
    (k : ℕ) (bound : k < (producer.run (TrackSynchronizer.alignedFrames config frames)).2.length)
    (elapsed : k * producer.samplesPerOutputFrame * kNanosPerSecond < 2 ^ 63)
    (clock : ∀ first ∈ frames.head?, InInt64 (first.timestamp +
      (k * producer.samplesPerOutputFrame * kNanosPerSecond / producer.config.output.sampleRate : ℕ))) :
    ∃ captured, (producer.captureTimes (TrackSynchronizer.alignedFrames config frames))[
        k * producer.samplesPerOutputFrame]? = some captured ∧
      |(producer.run (TrackSynchronizer.alignedFrames config frames)).2[k].timestamp - captured| ≤
        2 * config.tolerance := by
  have created := SttStreamProducer.created_of_create created
  have inputRate : settings.input.sampleRate = config.sampleRate := by rw [input]
  have outputRate : producer.config.output.sampleRate = settings.output.sampleRate := by rw [created.producer]
  have divides : settings.output.sampleRate ∣ config.sampleRate := inputRate ▸ created.ratio
  have tolerance : config.tolerance = 20000000 := by rw [ClockSyncConfig.tolerance, jitter]; rfl
  have period : config.samplePeriod = 20834 := by rw [ClockSyncConfig.samplePeriod, rate]; rfl
  have outputs := (created.run (TrackSynchronizer.alignedFrames config frames)).outputs
  have stamps := (follows_of_produces created (created.run (TrackSynchronizer.alignedFrames config frames))).timestamp
  have inside : k * producer.samplesPerOutputFrame <
      (producer.captureTimes (TrackSynchronizer.alignedFrames config frames)).length := by
    rw [outputs, length_released] at bound
    rw [captureTimes_length]
    have size := created.size
    have full := (Nat.le_div_iff_mul_le size).mp (Nat.succ_le_of_lt bound)
    rw [Nat.succ_mul] at full
    omega
  have sampled := List.getElem?_eq_getElem inside
  refine ⟨_, sampled, ?_⟩
  cases frames with
  | nil => exact absurd bound (Nat.not_lt_zero k)
  | cons first rest =>
    obtain ⟨head, isHead, stamp⟩ := stamps k bound
    rw [accepted_aligned created input formats] at isHead
    obtain rfl : { first with sequence := 0 } = head := Option.some.inj isHead
    have stamp := stamp (by omega) (Nat.lt_of_le_of_lt (Nat.div_le_self _ _) elapsed) (clock first rfl)
    obtain ⟨early, late⟩ := captureTimes_leads created input formats (by omega) fits inStep sampled
    have lead : config.offset (cutOff settings producer.decimator
        (TrackSynchronizer.alignedFrames config (first :: rest))) ≤ config.offset 959 :=
      Rescale.rescale_mono (Nat.le_of_lt_succ whole)
    have most : config.offset 959 = 19979166 := by rw [ClockSyncConfig.offset, rate]; rfl
    rw [offset_decimated config divides, ← outputRate] at early late
    rw [tolerance, period] at early late
    have stamped : _ = first.timestamp + _ := stamp
    rw [stamped, tolerance, abs_le]
    have close := lead.trans_eq most
    generalize k * producer.samplesPerOutputFrame * kNanosPerSecond / producer.config.output.sampleRate = elapsed
      at early late ⊢
    omega

private def boxFilter (taps : ℕ) (_ : ℚ) : List ℚ := List.replicate taps (1 / taps)

/-- Output frames of one millisecond. -/
private def briefFrames : SttStreamConfig where
  input := { format := .pcmS16Le }
  frameDuration := 1

private def briefProducer : SttStreamProducer where
  config := briefFrames
  decimator := FirDecimator.create boxFilter 3
  samplesPerOutputFrame := 16

private theorem create_brief : SttStreamProducer.create boxFilter briefFrames = some briefProducer := rfl

/-- A millisecond recorded at the given time, except for some samples at its end. -/
private def millisecond (timestamp : ℤ) (short : ℕ) (flagged : Bool) : AudioFrame where
  timestamp := timestamp
  sampleRate := 48000
  channels := 1
  discontinuity := flagged
  payload := List.replicate (2 * (48 - short)) 1

/-- After a rewind, what was captured at the start of the clock is stamped with more than a second. -/
theorem timestamps_on_timeline_rewound : ∃ config settings producer frames captured,
    config.sampleRate = 48000 ∧ config.jitterTolerance = 20 ∧
    settings.input = ⟨config.sampleRate, config.channels, config.format⟩ ∧
    SttStreamProducer.create boxFilter settings = some producer ∧
    (∀ frame ∈ frames, frame.trackFormat = settings.input) ∧ (TrackSynchronizer.create config).Fits frames ∧
    ∃ bound : 1 < (producer.run (TrackSynchronizer.alignedFrames config frames)).2.length,
      (producer.captureTimes (TrackSynchronizer.alignedFrames config frames))[
        1 * producer.samplesPerOutputFrame]? = some captured ∧
      ¬ |(producer.run (TrackSynchronizer.alignedFrames config frames)).2[1].timestamp - captured| ≤
        2 * config.tolerance := by
  let frames := [millisecond 1000000000 0 false, millisecond 0 0 false]
  have outputs : (briefProducer.run (TrackSynchronizer.alignedFrames {} frames)).2.map (·.timestamp) =
      [1000000000, 1001000000] := by decide +kernel
  have bound : 1 < (briefProducer.run (TrackSynchronizer.alignedFrames {} frames)).2.length := by
    rw [← List.length_map (·.timestamp), outputs]
    decide
  have captured : (briefProducer.captureTimes (TrackSynchronizer.alignedFrames {} frames))[
      1 * briefProducer.samplesPerOutputFrame]? = some 0 := by decide +kernel
  refine ⟨{}, briefFrames, briefProducer, frames, 0, rfl, rfl, rfl, create_brief, by decide, by decide +kernel, bound,
    captured, ?_⟩
  generalize (briefProducer.run (TrackSynchronizer.alignedFrames {} frames)).2 = emitted at outputs bound ⊢
  have second : (emitted.map (·.timestamp))[1]? = some 1001000000 := by rw [outputs]; rfl
  rw [List.getElem?_map, List.getElem?_eq_getElem bound, Option.map_some, Option.some.injEq] at second
  rw [second]
  decide

/-- A flagged frame one millisecond late, of which the producer cuts off one sample. -/
theorem timestamps_on_timeline_flagged :
    let frames := [millisecond 0 1 false, millisecond 2000000 0 true]
    cutOff briefFrames briefProducer.decimator (TrackSynchronizer.alignedFrames {} frames) = 1 ∧
    ∃ bound : 2 < (briefProducer.run (TrackSynchronizer.alignedFrames {} frames)).2.length,
    ∃ captured, (briefProducer.captureTimes (TrackSynchronizer.alignedFrames {} frames))[
        2 * briefProducer.samplesPerOutputFrame]? = some captured ∧
      |(briefProducer.run (TrackSynchronizer.alignedFrames {} frames)).2[2].timestamp - captured| ≤
        2 * ClockSyncConfig.tolerance {} := by
  intro frames
  have cut : cutOff briefFrames briefProducer.decimator (TrackSynchronizer.alignedFrames {} frames) = 1 := by
    decide +kernel
  have bound : 2 < (briefProducer.run (TrackSynchronizer.alignedFrames {} frames)).2.length := by decide +kernel
  exact ⟨cut, bound, timestamps_on_timeline boxFilter {} briefFrames briefProducer frames rfl rfl rfl create_brief
    (by decide) (by decide +kernel) (by decide +kernel) (by omega) 2 bound (by decide) (by decide)⟩

end VoxMesh.Dsp
