import VoxMesh.Proofs.PausedStream
import VoxMesh.Soundness.RecorderLifecycle
import VoxMesh.Soundness.SttStream

/-! # Pauses in the transcription stream

A pause does not reach the producer. The cut is marked, and the filter starts empty after it, only when the producer
is at a cut as the recording is paused, or is fed a flagged frame before anything is decimated (`CutAt`). Otherwise the
filter goes on with what was captured before the pause.
-/

namespace VoxMesh.Dsp.SttStreamProducer

open VoxMesh.Audio

/-- The producer with its filter emptied. -/
def severed (producer : SttStreamProducer) : SttStreamProducer :=
  { producer with decimator := producer.decimator.reset }

/-- Nothing was decimated since the last flagged frame, and the flag is still to be reported. -/
def AtCut (producer : SttStreamProducer) : Prop :=
  producer.pendingDiscontinuity = true ∧ producer.decimator.reset = producer.decimator

/-- Nothing is decimated from the frames. -/
def Idles (producer : SttStreamProducer) (fed : List AudioFrame) : Prop :=
  (producer.run fed).1.samplesDecimated = producer.samplesDecimated

/-- The producer is at a cut, or nothing is decimated from the frames until there is a flagged one. -/
def CutAt (producer : SttStreamProducer) (fed : List AudioFrame) : Prop :=
  producer.AtCut ∨ producer.Idles fed ∨ ∃ skipped frame rest, fed = skipped ++ frame :: rest ∧
    producer.Idles skipped ∧ producer.accepts frame = true ∧ frame.discontinuity = true

instance (producer : SttStreamProducer) : Decidable producer.AtCut := inferInstanceAs (Decidable (_ ∧ _))

variable {start producer after : SttStreamProducer} {earlier fed outputs released : List AudioFrame}

/-- A flagged frame empties the filter by itself. -/
theorem run_severed (producer : SttStreamProducer) (fed : List AudioFrame)
    (flagged : ∀ first ∈ (producer.accepted fed).head?, first.discontinuity = true) :
    (producer.severed.run fed).2 = (producer.run fed).2 ∧
      (producer.severed.run fed).1.pending = (producer.run fed).1.pending := by
  induction fed generalizing producer with
  | nil => exact ⟨rfl, rfl⟩
  | cons frame rest ih =>
    cases accepts : producer.accepts frame with
    | false =>
      have same : producer.severed.process frame = ((producer.process frame).1.severed, []) := by
        simp only [process, accepts, show producer.severed.accepts frame = false from accepts]
        rfl
      have none : (producer.process frame).2 = [] := by simp [process, accepts]
      have later : (producer.process frame).1.accepted rest = producer.accepted (frame :: rest) := by
        rw [accepted, accepted, List.filter_cons_of_neg (by simp [accepts])]
        simp only [SttStreamProducer.accepts, process_config]
      have tail := ih (producer.process frame).1 (later ▸ flagged)
      simpa only [run, same, none, List.nil_append] using tail
    | true =>
      have first : frame.discontinuity = true :=
        flagged frame (by simp [accepted, List.filter_cons_of_pos, accepts])
      have received : producer.severed.receive frame = producer.receive frame := by
        simp [receive, severed, first, FirDecimator.reset_reset]
      have same : producer.severed.process frame = producer.process frame := by
        simp only [process, received, accepts, show producer.severed.accepts frame = true from accepts]
        rfl
      simp only [run, same, and_self]

/-- The output frame in which the cut falls is flagged. -/
theorem flagged_at_cut (before : start.Produces earlier producer outputs)
    (produces : start.Produces (earlier ++ fed) after released)
    (marked : (∀ first ∈ (start.accepted fed).head?, first.discontinuity = true) ∨ producer.pendingDiscontinuity = true)
    (k : ℕ) (bound : k < released.length) (begins : k * producer.samplesPerOutputFrame ≤ producer.samplesDecimated)
    (ends : producer.samplesDecimated < (k + 1) * producer.samplesPerOutputFrame) :
    released[k].discontinuity = true := by
  have position := samplesDecimated_eq before
  have size := before.size
  have grown : start.accepted (earlier ++ fed) = start.accepted earlier ++ start.accepted fed := List.filter_append ..
  have marks : start.marked (earlier ++ fed) = start.marked earlier ++ Dsp.marks start.config
      (decimate start.config start.decimator (start.accepted earlier)).1 (0 + (start.stream earlier).length)
        (start.accepted fed) := by
    rw [SttStreamProducer.marked, grown, marks_append]
    rfl
  obtain rfl := produces.outputs
  rw [size, position] at begins ends
  rw [getElem_released, outputFrame, List.any_eq_true, marks]
  rcases marked with flagged | waiting
  · cases fresh : start.accepted fed with
    | nil =>
      rw [length_released, SttStreamProducer.stream, grown, fresh, List.append_nil] at bound
      have size : 0 < start.samplesPerOutputFrame := Nat.pos_of_lt_mul_left (Nat.zero_lt_of_lt ends)
      have full := (Nat.le_div_iff_mul_le size).mp (Nat.succ_le_of_lt bound)
      exact absurd ends (not_lt.mpr full)
    | cons first rest =>
      rw [fresh] at flagged
      have here : first.discontinuity = true := flagged first rfl
      refine ⟨(start.stream earlier).length, ?_, by simp [begins, ends]⟩
      simp [Dsp.marks, here]
  · have report := before.output.flag
    rw [waiting, eq_comm, List.any_eq_true] at report
    obtain ⟨mark, member, late⟩ := report
    have soon := before.output.reported mark member
    have same : (start.stream earlier).length / start.samplesPerOutputFrame = k :=
      Nat.div_eq_of_lt_le begins ends
    rw [size, same] at soon
    rw [size, same, decide_eq_true_eq] at late
    exact ⟨mark, List.mem_append_left _ member, by simp [late, soon]⟩

/-- Where nothing is decimated, nothing is put out. -/
theorem Idles.none_out (size : 0 < start.samplesPerOutputFrame) (produces : start.Produces earlier producer outputs)
    (idles : producer.Idles fed) : (producer.run fed).2 = [] := by
  have continued := run_produces size produces fed
  have same : (start.stream (earlier ++ fed)).length = (start.stream earlier).length := by
    rw [← samplesDecimated_eq continued, idles, samplesDecimated_eq produces]
  have lengths := congrArg List.length continued.outputs
  rw [List.length_append, produces.outputs, length_released, length_released, same] at lengths
  exact List.eq_nil_of_length_eq_zero (by omega)

/-- With a cut, what is put out comes from a filter that was emptied after it, and the frame in which the cut falls is
flagged. -/
theorem CutAt.severs (size : 0 < start.samplesPerOutputFrame) (produces : start.Produces earlier producer outputs)
    (cut : producer.CutAt fed) : ∃ skipped kept, fed = skipped ++ kept ∧ producer.Idles skipped ∧
      (producer.run fed).2 = ((producer.run skipped).1.severed.run kept).2 ∧
      (producer.run fed).1.pending = ((producer.run skipped).1.severed.run kept).1.pending ∧
      ∀ (k : ℕ) (bound : k < (outputs ++ (producer.run fed).2).length),
        k * producer.samplesPerOutputFrame ≤ producer.samplesDecimated →
        producer.samplesDecimated < (k + 1) * producer.samplesPerOutputFrame →
        (outputs ++ (producer.run fed).2)[k].discontinuity = true := by
  have later := run_produces size produces fed
  rcases cut with atCut | idles | ⟨skipped, frame, rest, rfl, idles, accepts, flagged⟩
  · refine ⟨[], fed, rfl, rfl, ?_, ?_, flagged_at_cut produces later (.inr atCut.1)⟩
    all_goals rw [show (run producer []).1 = producer from rfl, severed, atCut.2]
  · refine ⟨fed, [], (List.append_nil _).symm, idles, idles.none_out size produces, rfl, fun k bound _ ends => ?_⟩
    -- The cut falls into a frame that is not full yet.
    rw [idles.none_out size produces, List.append_nil, produces.outputs, length_released,
      ← samplesDecimated_eq produces, ← produces.size] at bound
    have full := (Nat.le_div_iff_mul_le (produces.size ▸ size)).mp (Nat.succ_le_of_lt bound)
    exact absurd ends (not_lt.mpr full)
  · have middle := run_produces size produces skipped
    have none := idles.none_out size produces
    have again : (producer.run skipped).1.accepts frame = true := by
      rwa [accepts_iff, middle.config, ← produces.config, ← accepts_iff]
    have first : ∀ other ∈ ((producer.run skipped).1.accepted (frame :: rest)).head?, other.discontinuity = true := by
      rw [accepted, List.filter_cons_of_pos again]
      rintro other ⟨⟩
      exact flagged
    obtain ⟨severed, pending⟩ := run_severed (producer.run skipped).1 (frame :: rest) first
    refine ⟨skipped, frame :: rest, rfl, idles, ?_, ?_, ?_⟩
    · rw [run_append, none, List.nil_append, severed]
    · rw [run_append, pending]
    · intro k bound begins ends
      rw [none, List.append_nil] at middle
      have whole : start.Produces ((earlier ++ skipped) ++ frame :: rest) (producer.run (skipped ++ frame :: rest)).1
          (outputs ++ (producer.run (skipped ++ frame :: rest)).2) := by rwa [List.append_assoc]
      have sizes : (producer.run skipped).1.samplesPerOutputFrame = producer.samplesPerOutputFrame :=
        middle.size.trans produces.size.symm
      have head : ∀ other ∈ (start.accepted (frame :: rest)).head?, other.discontinuity = true := by
        have same : start.accepted (frame :: rest) = producer.accepted (frame :: rest) := by
          simp only [accepted, SttStreamProducer.accepts, produces.config]
        rw [same, accepted, List.filter_cons_of_pos accepts]
        rintro other ⟨⟩
        exact flagged
      exact flagged_at_cut middle whole (.inl head) k bound (by rwa [sizes, idles]) (by rwa [sizes, idles])

end VoxMesh.Dsp.SttStreamProducer

namespace VoxMesh.App

open VoxMesh.Audio VoxMesh.Media VoxMesh.Dsp Machine

/-- What `stop` does up to the end of the last drain. -/
def RecorderController.stopping (drained : List FfmpegAnswer) : Ui Unit := do
  let _ ← RecorderController.handle .stop
  RecorderController.stopStreams drained

namespace Recorder

open Thread

variable {designLowPass : ℕ → ℚ → List ℚ} {producer : SttStreamProducer} {client : SttClient} {before : History}

/-- The recorder is in a session. -/
def Ongoing (recorder : Recorder) (_ : Label) : Prop := recorder.controller.session ≠ .idle

instance (recorder : Recorder) (label : Label) : Decidable (Ongoing recorder label) :=
  inferInstanceAs (Decidable (_ ≠ _))

/-- Until the session ends, the transcription stream goes on, and the last drain of `stop` is part of it. -/
theorem run_continues {paused middle last : Recorder} {later : List Label} (settled : paused.outline.Settled)
    (inv : Continues producer client before paused.core) (run : Run (step designLowPass) paused later middle)
    (ongoing : Along (step designLowPass) Ongoing paused later)
    (active : middle.controller.session ≠ .idle)
    (ended : last = middle ∨ ∃ drained agenda,
      (RecorderController.stopping drained).run agenda middle = some ((), last)) :
    Continues producer client before last.core := by
  have sustained : Sustained fun seen => Continues producer client before seen.core := Continues.sustained
  have kept := run.invariant_along (I := fun seen => seen.outline.Settled ∧
    (seen.controller.session ≠ .idle → Continues producer client before seen.core)) ?_ ongoing ⟨settled, fun _ => inv⟩
  · obtain ⟨settled, inv⟩ := kept
    rcases ended with rfl | ⟨drained, agenda, ended⟩
    · exact inv active
    · have handled : Ensures (Under middle.outline fun recorder => Continues producer client before recorder.core)
          (RecorderController.handle .stop) fun _ recorder => Continues producer client before recorder.core :=
        (sustained.handle_keeps .stop).conseq (fun _ => And.right) fun _ _ holds => holds
      have stopped : Ensures (Under middle.outline fun recorder => Continues producer client before recorder.core)
          (RecorderController.stopping drained) fun _ recorder => Continues producer client before recorder.core :=
        Ensures.bind_eq _ (Steady.under_of_shows (RecorderController.handle_shows .stop) handled)
          (sustained.stopStreams (o := middle.outline.handle .stop) settled.opening drained)
      exact stopped.run ended ⟨rfl, inv active⟩
  · rintro seen label next ⟨settled, inv⟩ active taken
    exact ⟨(step_settled settled taken).1,
      sustained.step Continues.opensStreams settled active taken (inv active)⟩

/-- A pause is a visible cut in the transcription stream if the producer is at a cut as the recording is paused, or is
fed a flagged frame since before anything is decimated. All that was captured before is drained. The frames fed since
are all that was aligned for the stream, in the order in which it was drained. Of those before the flag nothing is put
out; what is put out, until the session ends, is what a producer with an emptied filter makes of the others, and the
frame in which the cut falls is flagged. -/
theorem pauses_marked (designLowPass : ℕ → ℚ → List ℚ) (outputDirectory : String) (before later : List Label)
    (paused middle last : Recorder) (producer : SttStreamProducer) (client : SttClient)
    (run : Run (step designLowPass) (init outputDirectory) before paused)
    (isPaused : paused.controller.session = .paused)
    (hasProducer : paused.controller.sttProducer = some producer)
    (hasClient : paused.controller.sttClient = some client)
    (after : Run (step designLowPass) paused later middle)
    (ongoing : Along (step designLowPass) Ongoing paused later)
    (active : middle.controller.session ≠ .idle)
    (ended : last = middle ∨ ∃ drained agenda,
      (RecorderController.stopping drained).run agenda middle = some ((), last))
    (condition : producer.CutAt (last.history.fedSince paused.history)) :
    (∀ track, paused.controller.pipelines track = none) ∧
    ∃ producer' client' skipped kept, last.controller.sttProducer = some producer' ∧
      last.controller.sttClient = some client' ∧
      last.history.fed = paused.history.fed ++ skipped ++ kept ∧ producer.Idles skipped ∧
      client'.frames = client.frames ++ ((producer.run skipped).1.severed.run kept).2 ∧
      producer'.pending = ((producer.run skipped).1.severed.run kept).1.pending ∧
      ∀ (k : ℕ) (bound : k < client'.frames.length),
        k * producer.samplesPerOutputFrame ≤ producer.samplesDecimated →
        producer.samplesDecimated < (k + 1) * producer.samplesPerOutputFrame →
        client'.frames[k].discontinuity = true := by
  have settled := run_settled run (settled_init outputDirectory)
  obtain ⟨start, earlier, size, produces⟩ :=
    Uploads.enduring.run run (show Uploads _ from nofun) producer client hasProducer hasClient
  have here : Continues producer client paused.history paused.core :=
    ⟨[], (List.append_nil _).symm, hasProducer, hasClient.trans (by rw [SttStreamProducer.run, List.append_nil])⟩
  obtain ⟨fed, grown, hasProducer', hasClient'⟩ := run_continues settled here after ongoing active ended
  replace grown : last.history.fed = paused.history.fed ++ fed := grown
  rw [History.fedSince, grown, List.drop_left] at condition
  obtain ⟨skipped, kept, rfl, idles, frames, pending, marked⟩ := condition.severs size produces
  rw [← List.append_assoc] at grown
  exact ⟨fun track => pipelines_eq_none.mp (settled.paused isPaused track), _, _, skipped, kept, hasProducer',
    hasClient', grown, idles, congrArg (client.frames ++ ·) frames, pending, marked⟩

/-- A filter that averages over its taps. -/
private def meanFilter (taps : ℕ) (_ : ℚ) : List ℚ := List.replicate taps (1 / taps)

/-- A microphone frame of equal samples. -/
private def hum (timestamp : ℤ) (samples : ℕ) (flagged : Bool) : AudioFrame where
  timestamp := timestamp
  sampleRate := 48000
  channels := 1
  discontinuity := flagged
  payload := List.replicate (2 * samples) 1

/-- The microphone delivers the frames, and the drain thread makes a round. -/
private def heard (frames : List AudioFrame) : List Label :=
  frames.map (.environment <| .capture .microphone ·) ++ List.replicate (frames.length + 3) (.environment (.drain []))

/-- Ten milliseconds are recorded and transcribed, and the recording is paused. -/
def pausedRecording : List Label :=
  [.operation (.setSttEndpoint "localhost:50051") [],
    .operation (.refreshDevices [{ id := "m", name := "Microphone", isDefault := true }]) [],
    .operation (.start {}) []] ++ heard [hum 0 480 false] ++ [.operation (.pause []) []]

/-- The paused recording is resumed, and the new stream delivers the frames. -/
def resumedRecording (frames : List AudioFrame) : List Label :=
  .operation (.resume fun _ => none) [] :: heard frames

/-- Ninety milliseconds from one minute later on, in three frames without a flag. -/
private def unflagged : List AudioFrame :=
  [hum 60000000000 1440 false, hum 60030000000 1440 false, hum 60060000000 1440 false]

/-- The streams deliver no flag, and the output frame that spans the pause is not flagged. -/
theorem pauses_unmarked : ∃ paused last producer client,
    Run (step meanFilter) (init "recordings") pausedRecording paused ∧
    paused.controller.session = .paused ∧ paused.controller.sttProducer = some producer ∧
    Run (step meanFilter) paused (resumedRecording unflagged) last ∧ last.controller.session = .recording ∧
    (last.history.accepted .microphone).head?.map (·.discontinuity) = some false ∧
    last.controller.sttClient = some client ∧
    0 < producer.samplesDecimated ∧ producer.samplesDecimated < producer.samplesPerOutputFrame ∧
    ∃ bound : 0 < client.frames.length, client.frames[0].discontinuity = false := by
  have outcome : ((exec (step meanFilter) (init "recordings") pausedRecording).bind fun paused =>
      paused.controller.sttProducer.bind fun producer =>
        (exec (step meanFilter) paused (resumedRecording unflagged)).bind fun last =>
          last.controller.sttClient.map fun client => ((paused.controller.session, last.controller.session),
            (producer.samplesDecimated, producer.samplesPerOutputFrame),
            (last.history.accepted .microphone).head?.map (·.discontinuity), client.frames.map (·.discontinuity))) =
      some ((.paused, .recording), (160, 1600), some false, [false]) := by decide +kernel
  simp only [Option.bind_eq_some_iff, Option.map_eq_some_iff, Prod.mk.injEq] at outcome
  obtain ⟨paused, run, producer, hasProducer, last, later, client, hasClient, ⟨isPaused, recording⟩,
    ⟨position, size⟩, first, flags⟩ := outcome
  have bound : 0 < client.frames.length := by
    rw [← List.length_map (·.discontinuity), flags]
    decide
  refine ⟨paused, last, producer, client, run, isPaused, hasProducer, later, recording,
    Option.map_eq_some_iff.mpr first, hasClient, by omega, by omega, bound, ?_⟩
  have first : (client.frames.map (·.discontinuity))[0]? = some false := by rw [flags]; rfl
  rwa [List.getElem?_map, List.getElem?_eq_getElem bound, Option.map_some, Option.some.injEq] at first

/-- Ten milliseconds are recorded, and an empty flagged frame after them, before the recording is paused. -/
def cutRecording : List Label :=
  [.operation (.setSttEndpoint "localhost:50051") [],
    .operation (.refreshDevices [{ id := "m", name := "Microphone", isDefault := true }]) [],
    .operation (.start {}) []] ++ heard [hum 0 480 false, hum 10000000 0 true] ++ [.operation (.pause []) []]

/-- The steps of the other threads end no session. -/
private theorem heard_ongoing {recorder last : Recorder} {frames : List AudioFrame}
    (run : Run (step designLowPass) recorder (heard frames) last) (active : last.controller.session ≠ .idle) :
    Along (step designLowPass) Ongoing recorder (heard frames) := by
  have others : ∀ label ∈ heard frames, ∃ event, label = .environment event := by
    intro label member
    rcases List.mem_append.mp member with captured | drained
    · obtain ⟨frame, -, rfl⟩ := List.mem_map.mp captured
      exact ⟨_, rfl⟩
    · exact ⟨_, List.eq_of_mem_replicate drained⟩
  suffices same : recorder.controller.session = last.controller.session ∧
      Along (step designLowPass) Ongoing recorder (heard frames) from same.2
  generalize heard frames = labels at others run
  induction labels generalizing recorder with
  | nil => exact ⟨congrArg (·.controller.session) (Run.nil_iff.mp run).symm, trivial⟩
  | cons label rest ih =>
    obtain ⟨⟨event, rfl⟩, later⟩ := List.forall_mem_cons.mp others
    obtain ⟨next, taken, run⟩ := Run.cons_iff.mp run
    have kept : next.controller.session = recorder.controller.session :=
      congrArg Outline.session (@environment_outline recorder next event taken)
    obtain ⟨same, along⟩ := ih later run
    refine ⟨kept.symm.trans same, by rwa [Ongoing, ← kept, same], fun other again => ?_⟩
    obtain rfl := Option.some.inj (taken.symm.trans again)
    exact along

/-- No stream delivers a flagged frame first, and the output frame that spans the pause is flagged. -/
theorem pauses_marked_cut : ∃ paused last producer client producer' client' skipped kept,
    Run (step meanFilter) (init "recordings") cutRecording paused ∧
    Run (step meanFilter) paused (resumedRecording unflagged) last ∧
    last.history.fed.map (·.discontinuity) = [false, true, false, false, false] ∧ paused.history.fed.length = 2 ∧
    paused.controller.sttProducer = some producer ∧ paused.controller.sttClient = some client ∧
    producer.AtCut ∧ producer.samplesDecimated = 160 ∧ producer.samplesPerOutputFrame = 1600 ∧
    last.controller.sttProducer = some producer' ∧ last.controller.sttClient = some client' ∧
    last.history.fed = paused.history.fed ++ skipped ++ kept ∧ producer.Idles skipped ∧
    client'.frames = client.frames ++ ((producer.run skipped).1.severed.run kept).2 ∧
    ∃ bound : 0 < client'.frames.length, client'.frames[0].discontinuity = true := by
  let later := resumedRecording unflagged
  have outcome : ((exec (step meanFilter) (init "recordings") cutRecording).bind fun paused =>
      paused.controller.sttProducer.bind fun producer => paused.controller.sttClient.bind fun client =>
        (exec (step meanFilter) paused later).bind fun last => last.controller.sttClient.map fun client' =>
          ((paused.controller.session, last.controller.session, producer.samplesDecimated,
            producer.samplesPerOutputFrame),
            decide producer.AtCut, (last.history.fed.map (·.discontinuity), paused.history.fed.length),
            client'.frames.length)) =
      some ((.paused, .recording, 160, 1600), true, ([false, true, false, false, false], 2), 1) := by
    decide +kernel
  simp only [Option.bind_eq_some_iff, Option.map_eq_some_iff, Prod.mk.injEq, decide_eq_true_eq] at outcome
  obtain ⟨paused, run, producer, hasProducer, client, hasClient, last, after, client₁, hasClient₁,
    ⟨isPaused, recording, position, size⟩, atCut, ⟨flags, before⟩, count⟩ := outcome
  have active : last.controller.session ≠ .idle := by simp [recording]
  have along : Along (step meanFilter) Ongoing paused later := by
    obtain ⟨resumed, taken, run⟩ := Run.cons_iff.mp after
    refine ⟨by simp [Ongoing, isPaused], fun next again => ?_⟩
    obtain rfl := Option.some.inj (taken.symm.trans again)
    exact heard_ongoing run active
  obtain ⟨-, producer', client', skipped, kept, hasProducer', hasClient', fed, idles, frames, -, marked⟩ :=
    pauses_marked meanFilter "recordings" cutRecording later paused last last producer client run isPaused
      hasProducer hasClient after along active (.inl rfl) (.inl atCut)
  obtain rfl := Option.some.inj (hasClient₁.symm.trans hasClient')
  have bound : 0 < client₁.frames.length := by omega
  exact ⟨paused, last, producer, client, producer', client₁, skipped, kept, run, after, flags, before, hasProducer,
    hasClient, atCut, position, size, hasProducer', hasClient', fed, idles, frames, bound,
    marked 0 bound (by omega) (by omega)⟩

end Recorder

end VoxMesh.App
