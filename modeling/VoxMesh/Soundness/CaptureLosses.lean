import VoxMesh.Machine.LossLedger
import VoxMesh.Model.WasapiCapture
import VoxMesh.Proofs.CaptureStream

/-! # Capture streams flag every loss

Both capture streams keep a loss ledger: the next sequence number and the pending flag. What a recording sink
sees of them is a run of the ledger, whatever the device delivers and whatever the sink answers, so the ledger's
guarantees hold of the frames that a consumer gets.
-/

namespace VoxMesh.Audio

open Machine

variable {σ : Type*}

/-- The sink, which also records the offered frames and its answers. -/
def recording (onFrame : σ → AudioFrame → Bool × σ) (sink : σ × List (AudioFrame × Bool)) (frame : AudioFrame) :
    Bool × σ × List (AudioFrame × Bool) :=
  let (accepted, inner) := onFrame sink.1 frame
  (accepted, inner, sink.2 ++ [(frame, accepted)])

/-- An offer, and whether the device reported a loss with it. -/
def offerEvent (reported : Bool) (offer : AudioFrame × Bool) : LossEvent :=
  .offered offer.1.sequence offer.1.discontinuity reported offer.2

end VoxMesh.Audio

namespace VoxMesh.Platform.Windows.WasapiCaptureStream

open VoxMesh.Audio Machine

/-- The packets that the inner loop gets. -/
def packetsOf : List Poll → List Packet
  | [] | .sizeFailed :: _ | .bufferFailed :: _ => []
  | .packet packet :: rest => packet :: packetsOf rest

/-- Whether the inner loop ends with a packet size of zero. -/
def drains : List Poll → Bool
  | [] => true
  | .sizeFailed :: _ | .bufferFailed :: _ => false
  | .packet _ :: rest => drains rest

/-- The packets that the loop gets before it returns. -/
def packets : List Wait → List Packet
  | [] | .stopRequested :: _ | .failed :: _ => []
  | .woken polls :: rest => packetsOf polls ++ if drains polls then packets rest else []

section Loop

variable {σ : Type*} {onFrame : σ → AudioFrame → Bool × σ} {J : WasapiCaptureStream → σ → List Packet → Prop}

theorem drainPackets_invariant (keeps : ∀ stream sink before packet, J stream sink before →
      J (stream.capturePacket onFrame sink packet).1 (stream.capturePacket onFrame sink packet).2 (before ++ [packet]))
    (polls : List Poll) {stream : WasapiCaptureStream} {sink : σ} {before : List Packet}
    (start : J stream sink before) :
    (drainPackets onFrame polls stream sink).1 = drains polls ∧ J (drainPackets onFrame polls stream sink).2.1
      (drainPackets onFrame polls stream sink).2.2 (before ++ packetsOf polls) := by
  induction polls generalizing stream sink before with
  | nil => exact ⟨rfl, by rwa [packetsOf, List.append_nil]⟩
  | cons poll rest ih =>
    cases poll with
    | sizeFailed | bufferFailed => exact ⟨rfl, by rwa [packetsOf, List.append_nil]⟩
    | packet packet =>
      have next := ih (keeps stream sink before packet start)
      rw [List.append_assoc] at next
      exact next

/-- What one packet preserves, the capture loop preserves. -/
theorem captureLoop_invariant (keeps : ∀ stream sink before packet, J stream sink before →
      J (stream.capturePacket onFrame sink packet).1 (stream.capturePacket onFrame sink packet).2 (before ++ [packet]))
    (waits : List Wait) {stream : WasapiCaptureStream} {sink : σ} {before : List Packet}
    (start : J stream sink before) : J (captureLoop onFrame waits stream sink).1
      (captureLoop onFrame waits stream sink).2 (before ++ packets waits) := by
  induction waits generalizing stream sink before with
  | nil => rwa [packets, List.append_nil]
  | cons wait rest ih =>
    cases wait with
    | stopRequested | failed => rwa [packets, List.append_nil]
    | woken polls =>
      obtain ⟨ended, drained⟩ := drainPackets_invariant keeps polls start
      rw [captureLoop, packets, ← ended, ← List.append_assoc]
      revert drained
      rcases drainPackets onFrame polls stream sink with ⟨goesOn, next, sink⟩
      intro drained
      cases goesOn with
      | false => simpa using drained
      | true => exact ih drained

end Loop

/-- The events that the sink's record and the packets make up. -/
def lossEvents (packets : List Packet) (offers : List (AudioFrame × Bool)) : List LossEvent :=
  List.zipWith offerEvent (packets.map Packet.dataDiscontinuity) offers

/-- The stream is a loss ledger of the packets so far, and its counters add up. -/
private structure Ledgered {σ : Type*} (stream : WasapiCaptureStream) (sink : σ × List (AudioFrame × Bool))
    (packets : List Packet) : Prop where
  offered : sink.2.length = packets.length
  run : Run LossLedger.step {} (lossEvents packets sink.2) ⟨stream.nextSequence, stream.pendingDiscontinuity⟩
  counted : stream.framesEmitted + stream.framesDropped = stream.nextSequence

private theorem Ledgered.capturePacket {σ : Type*} {onFrame : σ → AudioFrame → Bool × σ} {stream : WasapiCaptureStream}
    {sink : σ × List (AudioFrame × Bool)} {before : List Packet} (ledgered : Ledgered stream sink before)
    (packet : Packet) : Ledgered (stream.capturePacket (recording onFrame) sink packet).1
      (stream.capturePacket (recording onFrame) sink packet).2 (before ++ [packet]) := by
  have counted := ledgered.counted
  have lengths : (before.map Packet.dataDiscontinuity).length = sink.2.length := by
    rw [List.length_map, ledgered.offered]
  have events (accepted : Bool) : lossEvents (before ++ [packet]) (sink.2 ++ [(stream.frameOf packet, accepted)]) =
      lossEvents before sink.2 ++ [offerEvent packet.dataDiscontinuity (stream.frameOf packet, accepted)] := by
    rw [lossEvents, List.map_append, List.zipWith_append lengths]
    rfl
  have outcome : stream.capturePacket (recording onFrame) sink packet =
      (stream.account (onFrame sink.1 (stream.frameOf packet)).1, (onFrame sink.1 (stream.frameOf packet)).2,
        sink.2 ++ [(stream.frameOf packet, (onFrame sink.1 (stream.frameOf packet)).1)]) := rfl
  rw [outcome]
  generalize (onFrame sink.1 (stream.frameOf packet)).1 = accepted
  constructor
  · simp only [List.length_append, ledgered.offered, List.length_singleton]
  · rw [events accepted]
    apply Run.snoc_iff.mpr
    refine ⟨_, ledgered.run, ?_⟩
    cases accepted <;> simp [offerEvent, frameOf, account, LossLedger.step]
  · cases accepted <;> simp only [account, Bool.false_eq_true, ↓reduceIte] <;> omega

end VoxMesh.Platform.Windows.WasapiCaptureStream

namespace VoxMesh.Audio.Testing

open Machine

/-- The calls that the owner of a stream makes. -/
inductive StreamCall where
  | emitFrames (count : ℕ)
  | skipFrames (count : ℕ)
  | restart (gap : ℕ)
  | stop
deriving DecidableEq, Repr

namespace FakeCaptureStream

variable {σ : Type*} (onFrame : σ → AudioFrame → Bool × σ)

/-- A call, with the events that it makes up. -/
def call (stream : FakeCaptureStream) (sink : σ) : StreamCall → FakeCaptureStream × σ × List LossEvent
  | .emitFrames count =>
      let (stream, sink, offers) := stream.emitFrames (recording onFrame) (sink, []) count
      (stream, sink, offers.map (offerEvent false))
  | .skipFrames count => (stream.skipFrames count, sink, if stream.stopped || count == 0 then [] else [.lost count])
  | .restart gap => (stream.restart gap, sink, if stream.stopped then [] else [.interrupted])
  | .stop => (stream.stop, sink, [])

def calls : FakeCaptureStream → σ → List StreamCall → FakeCaptureStream × σ × List LossEvent
  | stream, sink, [] => (stream, sink, [])
  | stream, sink, first :: rest =>
      let (stream, sink, events) := stream.call onFrame sink first
      let (stream, sink, later) := stream.calls sink rest
      (stream, sink, events ++ later)

/-- The ledger that the stream keeps. -/
private def ledger (stream : FakeCaptureStream) : LossLedger := ⟨stream.nextSequence, stream.pendingDiscontinuity⟩

/-- The counters add up. -/
private def Counted (stream : FakeCaptureStream) : Prop :=
  stream.stats.framesEmitted + stream.stats.framesDropped = stream.nextSequence

variable {onFrame}

/-- The offers of a pass are a run of the ledger. -/
private theorem emitFrame_run {start stream : FakeCaptureStream} {sink : σ × List (AudioFrame × Bool)}
    (holds : Run LossLedger.step start.ledger (sink.2.map (offerEvent false)) stream.ledger ∧ stream.Counted) :
    Run LossLedger.step start.ledger ((stream.emitFrame (recording onFrame) sink).2.2.map (offerEvent false))
        (stream.emitFrame (recording onFrame) sink).1.ledger ∧
      (stream.emitFrame (recording onFrame) sink).1.Counted := by
  obtain ⟨run, counted⟩ := holds
  have outcome : stream.emitFrame (recording onFrame) sink =
      ((({ stream with generator := stream.generated.2 } : FakeCaptureStream).account
        (onFrame sink.1 stream.nextFrame).1).advance, (onFrame sink.1 stream.nextFrame).2,
        sink.2 ++ [(stream.nextFrame, (onFrame sink.1 stream.nextFrame).1)]) := rfl
  rw [outcome]
  generalize (onFrame sink.1 stream.nextFrame).1 = accepted
  refine ⟨?_, ?_⟩
  · rw [List.map_append]
    apply Run.snoc_iff.mpr
    refine ⟨_, run, ?_⟩
    cases accepted <;> simp [offerEvent, nextFrame, ledger, account, advance, LossLedger.step]
  · unfold Counted at counted ⊢
    cases accepted <;> simp only [account, advance, Bool.false_eq_true, ↓reduceIte] <;> omega

/-- The stream is a loss ledger of the events so far, and its counters add up. -/
private structure Ledgered (start : FakeCaptureStream) (events : List LossEvent) (stream : FakeCaptureStream) :
    Prop where
  run : Run LossLedger.step start.ledger events stream.ledger
  counted : stream.Counted
  published : stream.stats.nextSequence = stream.nextSequence

private theorem emitFrames_ledgered {stream : FakeCaptureStream} (counted : stream.Counted)
    (published : stream.stats.nextSequence = stream.nextSequence) (sink : σ) (count : ℕ) :
    stream.Ledgered ((stream.emitFrames (recording onFrame) (sink, []) count).2.2.map (offerEvent false))
      (stream.emitFrames (recording onFrame) (sink, []) count).1 := by
  have kept : Run LossLedger.step stream.ledger
        ((stream.emitFrames (recording onFrame) (sink, []) count).2.2.map (offerEvent false))
        (stream.emitFrames (recording onFrame) (sink, []) count).1.ledger ∧
      (stream.emitFrames (recording onFrame) (sink, []) count).1.Counted :=
    emitFrames_invariant (J := fun next (sink : σ × List (AudioFrame × Bool)) =>
        Run LossLedger.step stream.ledger (sink.2.map (offerEvent false)) next.ledger ∧ next.Counted)
      (fun _ _ => emitFrame_run) (fun _ _ holds => holds) ⟨Run.nil_iff.mpr rfl, counted⟩ count
  refine ⟨kept.1, kept.2, ?_⟩
  unfold emitFrames
  split
  next => exact published
  next => rfl

private theorem skipLoop_eq (count : ℕ) (stream : FakeCaptureStream) :
    (skipLoop count stream).nextSequence = stream.nextSequence + count ∧
      (skipLoop count stream).stats = stream.stats := by
  induction count generalizing stream with
  | zero => exact ⟨rfl, rfl⟩
  | succ count ih =>
    obtain ⟨sequence, stats⟩ := ih stream.advance
    have first : stream.advance.nextSequence = stream.nextSequence + 1 := rfl
    refine ⟨?_, stats⟩
    rw [skipLoop, sequence]
    omega

private theorem skipFrames_ledgered {stream : FakeCaptureStream} (counted : stream.Counted)
    (published : stream.stats.nextSequence = stream.nextSequence) (count : ℕ) :
    stream.Ledgered (if stream.stopped || count == 0 then [] else [.lost count]) (stream.skipFrames count) := by
  unfold skipFrames
  split
  next => exact ⟨Run.nil_iff.mpr rfl, counted, published⟩
  next passed =>
    have some : count ≠ 0 := by
      rintro rfl
      simp at passed
    obtain ⟨sequence, stats⟩ := skipLoop_eq count stream
    refine ⟨?_, ?_, rfl⟩
    · apply Run.cons_iff.mpr
      refine ⟨_, if_neg some, Run.nil_iff.mpr ?_⟩
      simp [ledger, publish, sequence]
    · unfold Counted at counted ⊢
      simp only [publish, sequence, stats]
      omega

private theorem restart_ledgered {stream : FakeCaptureStream} (counted : stream.Counted)
    (published : stream.stats.nextSequence = stream.nextSequence) (gap : ℕ) :
    stream.Ledgered (if stream.stopped then [] else [.interrupted]) (stream.restart gap) := by
  unfold restart
  split
  next => exact ⟨Run.nil_iff.mpr rfl, counted, published⟩
  next => exact ⟨Run.cons_iff.mpr ⟨_, rfl, Run.nil_iff.mpr rfl⟩, counted, published⟩

private theorem call_ledgered {stream : FakeCaptureStream} (counted : stream.Counted)
    (published : stream.stats.nextSequence = stream.nextSequence) (sink : σ) (request : StreamCall) :
    stream.Ledgered (stream.call onFrame sink request).2.2 (stream.call onFrame sink request).1 := by
  cases request with
  | emitFrames count => exact emitFrames_ledgered counted published sink count
  | skipFrames count => exact skipFrames_ledgered counted published count
  | restart gap => exact restart_ledgered counted published gap
  | stop => exact ⟨Run.nil_iff.mpr rfl, counted, published⟩

private theorem calls_ledgered {stream : FakeCaptureStream} (counted : stream.Counted)
    (published : stream.stats.nextSequence = stream.nextSequence) (sink : σ) (requests : List StreamCall) :
    stream.Ledgered (stream.calls onFrame sink requests).2.2 (stream.calls onFrame sink requests).1 := by
  induction requests generalizing stream sink with
  | nil => exact ⟨Run.nil_iff.mpr rfl, counted, published⟩
  | cons request rest ih =>
    have first := @call_ledgered _ onFrame _ counted published sink request
    have later := ih first.counted first.published (stream.call onFrame sink request).2.1
    exact ⟨first.run.append later.run, later.counted, later.published⟩

/-- Inside a call of `emitFrames`. -/
private theorem emitLoop_counted {stream : FakeCaptureStream} (counted : stream.Counted) (sink : σ) (passes : ℕ) :
    (stream.emitLoop onFrame passes sink).1.Counted := by
  induction passes generalizing stream sink with
  | zero => exact counted
  | succ passes ih =>
    refine ih ?_ _
    unfold Counted at counted ⊢
    simp only [advance, account]
    split <;> simp only <;> omega

end FakeCaptureStream

open FakeCaptureStream Platform.Windows WasapiCaptureStream in
/-- Whatever the devices deliver and the sinks answer, no loss goes unflagged, and the counters add up after every
packet of the one stream and after every call and inside every `emitFrames` of the other. -/
theorem capture_flags_every_loss {σ : Type*} (onFrame : σ → AudioFrame → Bool × σ) (sink : σ) (capture : CaptureConfig)
    (sampleAt : ℕ → Sample) (waits : List Wait) (requests : List StreamCall) (passes : ℕ) :
    let captured := captureLoop (recording onFrame) waits { config := capture } (sink, [])
    let faked := (FakeCaptureStream.create capture sampleAt).calls onFrame sink requests
    let between := faked.1.emitLoop onFrame passes faked.2.1
    (captured.2.2.length = (packets waits).length ∧
      LossLedger.FlagsEveryLoss (lossEvents (packets waits) captured.2.2) ∧
      captured.1.stats.framesEmitted + captured.1.stats.framesDropped = captured.1.stats.nextSequence) ∧
    LossLedger.FlagsEveryLoss faked.2.2 ∧
    faked.1.stats.framesEmitted + faked.1.stats.framesDropped = faked.1.stats.nextSequence ∧
    between.1.stats.framesEmitted + between.1.stats.framesDropped = between.1.nextSequence := by
  intro captured faked between
  refine ⟨?_, ?_⟩
  · have start : Ledgered { config := capture } (sink, []) [] := ⟨rfl, Run.nil_iff.mpr rfl, rfl⟩
    have ledgered : Ledgered captured.1 captured.2 (packets waits) :=
      captureLoop_invariant (fun _ _ _ packet ledgered => ledgered.capturePacket packet) waits start
    exact ⟨ledgered.offered, LossLedger.run_flags ledgered.run, ledgered.counted⟩
  · have fresh : (FakeCaptureStream.create capture sampleAt).Counted := rfl
    have ledgered : FakeCaptureStream.Ledgered _ faked.2.2 faked.1 := calls_ledgered fresh rfl sink requests
    exact ⟨LossLedger.run_flags ledgered.run, ledgered.counted.trans ledgered.published.symm,
      emitLoop_counted ledgered.counted ..⟩

end VoxMesh.Audio.Testing
