import VoxMesh.Proofs.CaptureStream
import VoxMesh.Proofs.Healing
import VoxMesh.Proofs.RingBuffer

/-! # The capture pipeline accounts for every loss

A frame can be lost in the device, by a restart, or at a full ring, depending on how draining interleaves
with emission. Whatever the interleaving, the drained frames are the accepted ones in order, and the
silence that the synchronizer inserts stands for exactly what is missing between them.
-/

namespace VoxMesh.Audio.CapturePipeline

open FixedWidth Testing SpscRingBuffer TrackSynchronizer

variable {capacity : ℕ}

/-- The parts of the pipeline agree with each other. -/
structure Piped (capture : CaptureConfig) (config : ClockSyncConfig) (state : State capacity) : Prop where
  delivering : Delivering capture state.stream state.sink.accepted
  ring : ∃ queue, Holds state.sink.buffer queue ∧ state.sink.accepted = state.drained ++ queue
  drains : state.drains = (TrackSynchronizer.create config).drains .machine state.drained
  synchronizer : state.synchronizer = ((TrackSynchronizer.create config).run .machine state.drained).1

namespace Piped

variable {capture : CaptureConfig} {config : ClockSyncConfig} {state : State capacity}

theorem start (capture : CaptureConfig) (config : ClockSyncConfig) (sampleAt : ℕ → Sample) :
    Piped capture config (initial capacity capture sampleAt config) where
  delivering := Delivering.create capture sampleAt
  ring := ⟨[], holds_create, rfl⟩
  drains := rfl
  synchronizer := rfl

/-- A step that touches the stream alone. -/
private theorem with_stream (piped : Piped capture config state) {stream : FakeCaptureStream}
    (delivering : Delivering capture stream state.sink.accepted) :
    Piped capture config { state with stream := stream } :=
  ⟨delivering, piped.ring, piped.drains, piped.synchronizer⟩

private theorem emitFrames (piped : Piped capture config state) (channels : 0 < capture.channels) (count : ℕ) :
    Piped capture config { state with
      stream := (state.stream.emitFrames RingSink.onFrame state.sink count).1
      sink := (state.stream.emitFrames RingSink.onFrame state.sink count).2 } := by
  refine emitFrames_invariant
    (J := fun stream sink => Piped capture config { state with stream := stream, sink := sink })
    ?_ ?_ piped count
  · intro stream sink before
    obtain ⟨queue, holds, split⟩ := before.ring
    obtain ⟨answer, after⟩ := holds.tryPush stream.nextFrame
    simp only [FakeCaptureStream.emitFrame, RingSink.onFrame]
    by_cases room : queue.length < capacity
    · rw [BoundedQueue.push_room room] at answer after
      rw [answer]
      refine ⟨before.delivering.deliver channels, ⟨_, after, ?_⟩, before.drains, before.synchronizer⟩
      simp only [↓reduceIte] at split ⊢
      rw [split, List.append_assoc]
      rfl
    · rw [BoundedQueue.push_full (by have := holds.length_le; omega)] at answer after
      rw [answer]
      exact ⟨before.delivering.reject, ⟨_, after, split⟩, before.drains, before.synchronizer⟩
  · intro stream sink before
    exact ⟨before.delivering.publish, before.ring, before.drains, before.synchronizer⟩

theorem drained_append (drains : List Drain) (drain : Drain) :
    (drains ++ [drain]).map (·.frame) = drains.map (·.frame) ++ [drain.frame] := by
  rw [List.map_append, List.map_singleton]

private theorem drain (piped : Piped capture config state) :
    Piped capture config (CapturePipeline.drain state) := by
  obtain ⟨queue, holds, split⟩ := piped.ring
  obtain ⟨answer, after⟩ := holds.tryPop
  unfold CapturePipeline.drain
  split
  next buffer popped =>
    rw [popped] at answer after
    cases queue with
    | nil => exact ⟨piped.delivering, ⟨[], after, split⟩, piped.drains, piped.synchronizer⟩
    | cons first rest => cases answer
  next frame buffer popped =>
    rw [popped] at answer after
    cases queue with
    | nil => cases answer
    | cons first rest =>
      obtain rfl : frame = first := Option.some.inj answer
      refine ⟨piped.delivering, ⟨rest, after, ?_⟩, ?_, ?_⟩
      · rw [State.drained, drained_append, List.append_assoc]
        exact split
      · rw [State.drained, drained_append]
        rw [drains_append, ← State.drained, ← piped.drains, ← piped.synchronizer]
        rfl
      · rw [State.drained, drained_append, run_append_state, ← State.drained, ← piped.synchronizer]
        rfl

theorem keeps {next : State capacity} {label : Label} (piped : Piped capture config state)
    (channels : 0 < capture.channels) (taken : step state label = some next) : Piped capture config next := by
  cases label with
  | emitFrames count => exact Option.some.inj taken ▸ piped.emitFrames channels count
  | skipFrames count => exact Option.some.inj taken ▸ piped.with_stream (piped.delivering.skipFrames count)
  | restart gap => exact Option.some.inj taken ▸ piped.with_stream (piped.delivering.restart gap)
  | stop => exact Option.some.inj taken ▸ piped.with_stream piped.delivering.stop
  | drain => exact Option.some.inj taken ▸ piped.drain

end Piped

/-- What end-to-end loss accounting says of a state of the pipeline. -/
structure LossAccounted (capture : CaptureConfig) (config : ClockSyncConfig) (state : State capacity) : Prop where
  drained_prefix : state.drained <+: state.sink.accepted
  /-- The real part of the aligned stream is the drained frames, each once, in order. -/
  real : (state.aligned.filter (!·.synthesized)).map (·.frame.unlabeled) = state.drained.map (·.unlabeled)
  /-- The output before a frame is as long as the device's time since the first one. -/
  position : ∀ before drain after, state.drains = before ++ drain :: after → ∀ first ∈ state.drained.head?,
    |((samplesOf (before.flatMap (·.output)) + drain.silence : ℕ) * kNanosPerSecond : ℤ) -
      config.sampleRate * (drain.frame.timestamp - first.timestamp)| < 2 * kNanosPerSecond
  /-- The silence between two frames is as long as what is missing between them. -/
  missing : ∀ before earlier drain after, state.drains = before ++ earlier :: drain :: after →
    |(drain.silence * kNanosPerSecond : ℤ) - config.sampleRate *
      (drain.frame.timestamp - earlier.frame.timestamp - capture.frameInterval)| < 2 * kNanosPerSecond
  /-- An unflagged frame has nothing missing before it and no silence. -/
  seamless : ∀ before earlier drain after, state.drains = before ++ earlier :: drain :: after →
    drain.frame.discontinuity = false → drain.silence = 0 ∧
      drain.frame.timestamp = earlier.frame.timestamp + capture.frameInterval

theorem cadence_of_capture {capture : CaptureConfig} {config : ClockSyncConfig}
    (rate : capture.sampleRate ≤ 384000) (whole : 1000 ∣ capture.sampleRate * capture.frameDuration)
    (same : config.sampleRate = capture.sampleRate) (tolerance : config.samplePeriod ≤ config.tolerance) :
    Cadence config capture.frameInterval capture.samplesPerFrame := by
  refine ⟨?_, ?_, tolerance⟩
  · obtain ⟨samples, product⟩ := whole
    have length : capture.samplesPerFrame = samples := by
      rw [CaptureConfig.samplesPerFrame, samplesPerChannel, product]
      exact Nat.mul_div_cancel_left _ (by decide)
    have cast : (capture.sampleRate * capture.frameDuration : ℤ) = 1000 * samples := by exact_mod_cast product
    rw [length, same, CaptureConfig.frameInterval, millisToNanos, ← mul_assoc, cast]
    simp only [kNanosPerSecond]
    push_cast
    ring
  · rw [same, kNanosPerSecond]
    omega

/-- The first drained frame needs no silence, and all later ones are on the device's time. -/
theorem drains_of_first {config : ClockSyncConfig} {interval : ℤ} {samples : ℕ} {first : AudioFrame}
    {rest : List AudioFrame} (cadence : Cadence config interval samples)
    (lengths : ∀ frame ∈ first :: rest, frame.sampleCountPerChannel = samples)
    (chain : (first :: rest).IsChain (Spans config interval)) :
    ∃ head later, (TrackSynchronizer.create config).drains .exact (first :: rest) = head :: later ∧
      head.frame = first ∧ head.silence = 0 ∧
      AllOnDeviceTime config interval first.timestamp head.frame (0 + samplesOf head.output) later := by
  have length := lengths first (List.mem_cons_self ..)
  have synced := synced_first (TrackSynchronizer.create config) cadence rfl length
  have configured : ((TrackSynchronizer.create config).process .exact first).1.config = config := process_config ..
  have none : ((TrackSynchronizer.create config).placement .exact first).silence = 0 := by
    rw [placement_eq_first_iff.mpr rfl]
    rfl
  refine ⟨_, _, rfl, rfl, ?_, ?_⟩
  · rw [silence_of_process, none]
  · have later := synced.drains_onTime (by rwa [configured])
      (fun frame member => lengths frame (List.mem_cons_of_mem _ member)) (by rwa [configured])
    rwa [configured, ← length, ← Nat.zero_add first.sampleCountPerChannel, ← none, ← samplesOf_process,
      ← Nat.zero_add (samplesOf _)] at later

theorem Piped.accounted {capture : CaptureConfig} {config : ClockSyncConfig} {state : State capacity}
    (piped : Piped capture config state) (cadence : Cadence config capture.frameInterval capture.samplesPerFrame)
    (spans : state.sink.accepted.IsChain fun earlier later =>
      WithinCap config (later.timestamp - earlier.timestamp - capture.frameInterval))
    (fits : (TrackSynchronizer.create config).Fits state.drained) : LossAccounted capture config state := by
  obtain ⟨queue, -, split⟩ := piped.ring
  have inside : state.drained <+: state.sink.accepted := split ▸ List.prefix_append _ _
  have chain : state.drained.IsChain (Spans config capture.frameInterval) := by
    rw [split] at spans
    have follows := split ▸ piped.delivering.chain
    rw [List.isChain_iff_forall_rel_of_append_cons_cons]
    intro earlier later before after same
    exact ⟨List.isChain_iff_forall_rel_of_append_cons_cons.mp follows.left_of_append same,
      List.isChain_iff_forall_rel_of_append_cons_cons.mp spans.left_of_append same⟩
  have lengths : ∀ frame ∈ state.drained, frame.sampleCountPerChannel = capture.samplesPerFrame :=
    fun frame member => piped.delivering.samples frame (inside.subset member)
  have exact : state.drains = (TrackSynchronizer.create config).drains .exact state.drained :=
    piped.drains.trans (drains_machine (.refl _) fits)
  have onTime : ∀ before earlier drain after, state.drains = before ++ earlier :: drain :: after →
      ∀ first ∈ state.drained.head?, OnDeviceTime config capture.frameInterval first.timestamp earlier.frame
        (samplesOf ((before ++ [earlier]).flatMap (·.output))) drain := by
    intro before earlier drain after here first member
    cases frames : state.drained with
    | nil => simp [frames] at member
    | cons head rest =>
      obtain rfl : head = first := by simpa [frames] using member
      rw [frames] at exact lengths chain
      obtain ⟨headDrain, later, listed, -, -, onTime⟩ := drains_of_first cadence lengths chain
      have found := onTime.of_split (listed.symm.trans (exact.symm.trans here))
      rwa [Nat.zero_add] at found
  have quietFirst : ∀ head later, state.drains = head :: later → head.silence = 0 := by
    intro head later here
    cases frames : state.drained with
    | nil => simp [State.drained, here] at frames
    | cons first rest =>
      rw [frames] at exact lengths chain
      obtain ⟨headDrain, _, listed, -, none, -⟩ := drains_of_first cadence lengths chain
      obtain ⟨rfl, -⟩ := List.cons.inj (here.symm.trans (exact.trans listed))
      exact none
  refine ⟨inside, ?_, ?_, ?_, ?_⟩
  · rw [State.aligned, piped.drains, drains_output]
    exact run_reals _ _ _
  · intro before drain after here first member
    rcases List.eq_nil_or_concat before with rfl | ⟨earlier, last, rfl⟩
    · obtain rfl : drain.frame = first := by simpa [State.drained, here] using member
      simp [quietFirst drain after here, samplesOf]
    · have found := onTime earlier last drain after (by simpa using here) first member
      simpa using found.position
  · intro before earlier drain after here
    obtain ⟨first, member⟩ : ∃ first, first ∈ state.drained.head? :=
      Option.isSome_iff_exists.mp (by simp [State.drained, here])
    exact (onTime before earlier drain after here first member).missing
  · intro before earlier drain after here unflagged
    obtain ⟨first, member⟩ : ∃ first, first ∈ state.drained.head? :=
      Option.isSome_iff_exists.mp (by simp [State.drained, here])
    have adjacent : state.drained = before.map (·.frame) ++ earlier.frame :: drain.frame :: after.map (·.frame) := by
      simp [State.drained, here]
    have follows := (List.isChain_iff_forall_rel_of_append_cons_cons.mp chain adjacent).1
    exact ⟨(onTime before earlier drain after here first member).quiet unflagged, follows.seamless unflagged⟩

/-- Every loss is accounted for under any interleaving of emission, device loss, restarts and draining,
as long as each missing span fits under the silence cap. -/
theorem capture_pipeline_accounted (capture : CaptureConfig) (config : ClockSyncConfig) (capacity : ℕ)
    (sampleAt : ℕ → Sample) (schedule : List Label) (state : State capacity)
    (rate : 4000 ≤ capture.sampleRate ∧ capture.sampleRate ≤ 384000)
    (whole : 0 < capture.frameDuration ∧ 1000 ∣ capture.sampleRate * capture.frameDuration)
    (format : config.sampleRate = capture.sampleRate ∧ config.channels = capture.channels ∧
      config.format = .pcmS16Le)
    (tolerance : config.samplePeriod ≤ config.tolerance)
    (run : Machine.Run step (initial capacity capture sampleAt config) schedule state)
    (spans : state.sink.accepted.IsChain fun earlier later =>
      WithinCap config (later.timestamp - earlier.timestamp - capture.frameInterval))
    (fits : (TrackSynchronizer.create config).Fits state.drained) : LossAccounted capture config state := by
  have channels : 0 < capture.channels := format.2.1 ▸ config.channels_pos
  have piped : Piped capture config state := run.invariant
    (fun _ _ _ piped taken => piped.keeps channels taken) (Piped.start capture config sampleAt)
  exact piped.accounted (cadence_of_capture rate.2 whole.2 format.1 tolerance) spans fits

/-- A ring of two frames rejects one of three, the device loses three more, and a restart adds 700 µs. -/
def lossySchedule : List Label :=
  [.emitFrames 3, .drain, .drain, .skipFrames 3, .emitFrames 1, .drain, .restart 700000, .emitFrames 1, .drain]

theorem capture_pipeline_accounted_lossy : ∃ state : State 2,
    Machine.Run step (initial 2 { sampleRate := 4000, frameDuration := 1 } (fun n => BitVec.ofNat 16 n)
      { sampleRate := 4000 }) lossySchedule state ∧
    state.drains.map Drain.silence = [0, 0, 16, 2] ∧
    LossAccounted { sampleRate := 4000, frameDuration := 1 } { sampleRate := 4000 } state := by
  have outcome : (Machine.exec step (initial 2 { sampleRate := 4000, frameDuration := 1 }
      (fun n => BitVec.ofNat 16 n) { sampleRate := 4000 }) lossySchedule).map (fun state =>
        (state.drains.map Drain.silence,
          decide (state.sink.accepted.IsChain fun earlier later => WithinCap { sampleRate := 4000 }
            (later.timestamp - earlier.timestamp -
              CaptureConfig.frameInterval { sampleRate := 4000, frameDuration := 1 })),
          decide ((TrackSynchronizer.create { sampleRate := 4000 }).Fits state.drained))) =
      some ([0, 0, 16, 2], true, true) := by
    decide +kernel
  obtain ⟨state, run, same⟩ := Option.map_eq_some_iff.mp outcome
  simp only [Prod.mk.injEq, decide_eq_true_eq] at same
  exact ⟨state, run, same.1, capture_pipeline_accounted _ _ 2 _ lossySchedule state (by decide) (by decide)
    (by decide) (by decide) run same.2.1 same.2.2⟩

end VoxMesh.Audio.CapturePipeline
