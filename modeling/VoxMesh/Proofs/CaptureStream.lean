import VoxMesh.Model.FakeBackend
import Mathlib.Data.List.Chain

/-! # What a capture stream delivers

A frame `Follows` the previously delivered one when it starts no earlier than that one ends, and exactly
there unless it is flagged. `Delivering` says that the frames a sink has accepted follow one another, and
that the next frame of the stream would follow the last of them. Every operation of the stream keeps it,
whatever the sink answers.
-/

namespace VoxMesh.Audio.Testing

open VoxMesh.Audio

/-- The later frame starts where the earlier one ends, or is flagged and starts later. -/
structure Follows (interval : ℤ) (earlier later : AudioFrame) : Prop where
  order : earlier.timestamp + interval ≤ later.timestamp
  seamless : later.discontinuity = false → later.timestamp = earlier.timestamp + interval

structure Delivering (capture : CaptureConfig) (stream : FakeCaptureStream) (accepted : List AudioFrame) : Prop where
  configured : stream.config = capture
  channels : stream.generator.channels = capture.channels
  samples : ∀ frame ∈ accepted, frame.sampleCountPerChannel = capture.samplesPerFrame
  chain : accepted.IsChain (Follows capture.frameInterval)
  next : ∀ last ∈ accepted.getLast?, Follows capture.frameInterval last stream.nextFrame

namespace SignalGenerator

theorem generate_length (generator : SignalGenerator) {frames : ℕ} (channels : 0 < generator.channels) :
    (generator.generate (frames * generator.channels)).1.length = frames * generator.channels := by
  have positive : max 1 generator.channels = generator.channels := by omega
  simp [generate, positive, Nat.mul_div_cancel _ channels, List.length_flatMap]

end SignalGenerator

namespace Delivering

variable {capture : CaptureConfig} {stream : FakeCaptureStream} {accepted : List AudioFrame}

theorem create (capture : CaptureConfig) (sampleAt : ℕ → Sample) :
    Delivering capture (FakeCaptureStream.create capture sampleAt) [] :=
  ⟨rfl, rfl, nofun, .nil, nofun⟩

theorem nextFrame_samples (delivering : Delivering capture stream accepted) (channels : 0 < capture.channels) :
    stream.nextFrame.sampleCountPerChannel = capture.samplesPerFrame := by
  have same : stream.nextFrame.channels = capture.channels := congrArg CaptureConfig.channels delivering.configured
  apply AudioFrame.sampleCountPerChannel_of_length (same ▸ channels)
  have generated : stream.generated.1.length = capture.samplesPerFrame * capture.channels := by
    rw [FakeCaptureStream.generated, delivering.configured, ← delivering.channels]
    exact SignalGenerator.generate_length _ (delivering.channels ▸ channels)
  have length : stream.nextFrame.payload.length = 2 * (capture.samplesPerFrame * capture.channels) := by
    rw [← generated]
    exact pcmBytes_length _
  rw [length, same]
  exact Nat.mul_comm _ _

/-- Time passes without a delivery, and the flag is raised. -/
theorem elapse (delivering : Delivering capture stream accepted) {later : FakeCaptureStream}
    (configs : later.config = stream.config) (channels : later.generator.channels = stream.generator.channels)
    (time : stream.nextTimestamp ≤ later.nextTimestamp) (flag : later.pendingDiscontinuity = true) :
    Delivering capture later accepted := by
  refine ⟨configs.trans delivering.configured, channels.trans delivering.channels, delivering.samples,
    delivering.chain, ?_⟩
  intro last member
  have order := (delivering.next last member).order
  refine ⟨order.trans time, ?_⟩
  intro unflagged
  exact absurd (flag.symm.trans unflagged) nofun

/-- A delivered frame follows the last one, and the next frame will follow it. -/
theorem deliver (delivering : Delivering capture stream accepted) (channels : 0 < capture.channels) :
    Delivering capture (({ stream with generator := stream.generated.2 } : FakeCaptureStream).account true).advance
      (accepted ++ [stream.nextFrame]) := by
  refine ⟨delivering.configured, delivering.channels, ?_, ?_, ?_⟩
  · intro frame member
    rcases List.mem_append.mp member with earlier | here
    · exact delivering.samples frame earlier
    · exact List.mem_singleton.mp here ▸ delivering.nextFrame_samples channels
  · apply delivering.chain.append (.singleton _)
    intro last lastMember first firstMember
    obtain rfl : stream.nextFrame = first := Option.some.inj firstMember
    exact delivering.next last lastMember
  · intro last member
    obtain rfl : stream.nextFrame = last := by simpa using member
    have interval : stream.config.frameInterval = capture.frameInterval := by rw [delivering.configured]
    have starts : ∀ flag : Bool, (({ stream with generator := stream.generated.2 } :
        FakeCaptureStream).account flag).advance.nextTimestamp = stream.nextTimestamp + capture.frameInterval := by
      intro flag
      cases flag <;> exact congrArg (stream.nextTimestamp + ·) interval
    exact ⟨(starts true).ge, fun _ => starts true⟩

private theorem interval_nonneg (config : CaptureConfig) : 0 ≤ config.frameInterval := by
  have := Int.natCast_nonneg config.frameDuration
  unfold CaptureConfig.frameInterval millisToNanos
  omega

theorem reject (delivering : Delivering capture stream accepted) :
    Delivering capture (({ stream with generator := stream.generated.2 } : FakeCaptureStream).account false).advance
      accepted := by
  refine delivering.elapse ?_ ?_ ?_ ?_
  · rfl
  · rfl
  · have interval := interval_nonneg stream.config
    change stream.nextTimestamp ≤ stream.nextTimestamp + stream.config.frameInterval
    omega
  · rfl

theorem publish (delivering : Delivering capture stream accepted) : Delivering capture stream.publish accepted :=
  ⟨delivering.configured, delivering.channels, delivering.samples, delivering.chain, delivering.next⟩

theorem stop (delivering : Delivering capture stream accepted) : Delivering capture stream.stop accepted :=
  ⟨delivering.configured, delivering.channels, delivering.samples, delivering.chain, delivering.next⟩

private theorem skipLoop_elapses (count : ℕ) (stream : FakeCaptureStream) :
    (FakeCaptureStream.skipLoop count stream).config = stream.config ∧
      (FakeCaptureStream.skipLoop count stream).generator = stream.generator ∧
      stream.nextTimestamp ≤ (FakeCaptureStream.skipLoop count stream).nextTimestamp := by
  induction count generalizing stream with
  | zero => exact ⟨rfl, rfl, le_rfl⟩
  | succ count ih =>
    obtain ⟨config, generator, time⟩ := ih stream.advance
    have interval := interval_nonneg stream.config
    have step : stream.advance.nextTimestamp = stream.nextTimestamp + stream.config.frameInterval := rfl
    exact ⟨config, generator, le_trans (by omega) time⟩

theorem skipFrames (delivering : Delivering capture stream accepted) (count : ℕ) :
    Delivering capture (stream.skipFrames count) accepted := by
  unfold FakeCaptureStream.skipFrames
  split
  next => exact delivering
  next =>
    obtain ⟨configs, generator, time⟩ := skipLoop_elapses count stream
    exact delivering.elapse configs (congrArg SignalGenerator.channels generator) time rfl

theorem restart (delivering : Delivering capture stream accepted) (gap : ℕ) :
    Delivering capture (stream.restart gap) accepted := by
  unfold FakeCaptureStream.restart
  split
  next => exact delivering
  next =>
    refine delivering.elapse ?_ ?_ ?_ ?_
    · rfl
    · rfl
    · change stream.nextTimestamp ≤ stream.nextTimestamp + gap
      omega
    · rfl

end Delivering

section Loop

variable {σ : Type*} {onFrame : σ → AudioFrame → Bool × σ} {J : FakeCaptureStream → σ → Prop}

/-- What one pass of the loop preserves, a whole call preserves. -/
theorem emitFrames_invariant (pass : ∀ stream sink, J stream sink →
      J (stream.emitFrame onFrame sink).1 (stream.emitFrame onFrame sink).2)
    (publish : ∀ stream sink, J stream sink → J stream.publish sink) {stream : FakeCaptureStream} {sink : σ}
    (start : J stream sink) (count : ℕ) :
    J (stream.emitFrames onFrame sink count).1 (stream.emitFrames onFrame sink count).2 := by
  have loop : ∀ count stream sink, J stream sink → J (FakeCaptureStream.emitLoop onFrame count stream sink).1
      (FakeCaptureStream.emitLoop onFrame count stream sink).2 := by
    intro count
    induction count with
    | zero => exact fun _ _ start => start
    | succ count ih => exact fun stream sink start => ih _ _ (pass stream sink start)
  unfold FakeCaptureStream.emitFrames
  split
  next => exact start
  next => exact publish _ _ (loop count stream sink start)

end Loop

end VoxMesh.Audio.Testing
