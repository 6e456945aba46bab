import VoxMesh.Machine.Progress
import VoxMesh.Proofs.TranscriptionLink

/-! # A transcription session from end to end

Whatever the threads of the client, the transport and the handler do, the handler reads a beginning of what the session
has accepted, and the callback is given a beginning of what the handler's loop answers to that
(`link_in_order`). If the connection stands until `stop` has returned, both are given all of it. And `stop` does
return: `remaining` bounds the steps that everyone else can make before it does, apart from the audio thread, which may
go on to send frames (`stop_returns`).
-/

namespace VoxMesh.Stt

namespace Testing

/-- What the server has counted before does not matter to its answers. -/
theorem serve_segments (options : MockSttServerOptions) (session : ServerSession) (first second : MockSttServerStats)
    (receptions : List Reception) :
    (serve options session first receptions).1 = (serve options session second receptions).1 := by
  induction receptions generalizing session first second with
  | nil => rfl
  | cons reception rest ih =>
    have same : (pass options session first reception).session = (pass options session second reception).session ∧
        (pass options session first reception).response = (pass options session second reception).response ∧
        (pass options session first reception).goesOn = (pass options session second reception).goesOn := by
      unfold pass
      dsimp only
      split
      next => exact ⟨rfl, rfl, rfl⟩
      next =>
        split
        next => exact ⟨rfl, rfl, rfl⟩
        next => split <;> exact ⟨rfl, rfl, rfl⟩
    obtain ⟨session', response, goesOn⟩ := same
    rw [serve_cons, serve_cons]
    dsimp only
    rw [session', response, goesOn]
    split
    next => exact congrArg (_ ++ ·) (ih ..)
    next => rfl

end Testing

namespace Link

open Testing Machine

variable {options : MockSttServerOptions} {link next : Link}

/-- The handler's answers to what it has read in the current session. -/
def answers (options : MockSttServerOptions) (link : Link) : List TranscriptUpdate :=
  (streamTranscription options {} link.receptions).1.map (toUpdate ·.toTranscriptSegment)

/-- A session has ended with both its threads, and its connection has stood. -/
def Concluded (link : Link) : Prop :=
  link.client.control = .idle ∧ link.client.writer = .exited ∧ link.client.reader = .exited ∧ link.lost = false

instance (link : Link) : Decidable link.Concluded := inferInstanceAs (Decidable (_ ∧ _ ∧ _ ∧ _))

/-- What the handler has written are all its answers so far. -/
theorem Served.written_eq (served : link.Served options) :
    link.written = (streamTranscription options {} link.receptions).1 := by
  obtain ⟨start, soFar⟩ := served
  rw [streamTranscription, serve_segments options {} _ start]
  cases handler : link.handler with
  | none =>
    simp only [handler] at soFar
    exact (congrArg Prod.fst soFar).symm
  | some session =>
    simp only [handler] at soFar
    have now := congrArg Prod.fst (soFar [])
    rw [List.append_nil] at now
    exact (now.trans (List.append_nil _)).symm

/-- The handler has read a beginning of what the session has accepted. -/
theorem Standing.read_prefix (standing : link.Standing options) :
    link.receptions.map (·.request) <+: link.client.log.session.accepted := by
  obtain ⟨sent, failed, closed, rest, shape, -⟩ := standing.sound.ordered.coupled.orderly
  have passed : link.receptions.map (·.request) ++ link.requests = sent := standing.carries.sent.trans shape.sent
  rw [shape.accepted, ← passed, List.append_assoc, List.append_assoc]
  exact List.prefix_append ..

/-- The callback was given a beginning of the answers. -/
theorem Standing.given_prefix (standing : link.Standing options) :
    link.client.log.session.delivered <+: link.answers options := by
  obtain ⟨read, written, delivered⟩ := standing.carries.answered
  rw [delivered]
  split
  next =>
    rw [answers, ← standing.served.written_eq, written]
    exact (List.prefix_append ..).map _
  next => exact List.nil_prefix

/-- In every run, the handler has read a beginning of what the session has accepted, and the callback was given a
beginning of the answers. When the session is over and the connection has stood, the handler has read all but what was
accepted during the stop, and the callback was given all the answers. -/
theorem link_in_order (options : MockSttServerOptions) (config : GrpcSttClientConfig) (labels : List Label)
    (link : Link) (run : Run (step options) (initial config) labels link) :
    link.receptions.map (·.request) <+: link.client.log.session.accepted ∧
      link.client.log.session.delivered <+: link.answers options ∧
      (link.Concluded →
        (∃ late, link.client.log.session.accepted = link.receptions.map (·.request) ++ late ∧
          late.length ≤ link.client.log.session.acceptedStopping) ∧
        link.client.log.session.delivered = if link.listening then link.answers options else []) := by
  have standing := standing_of_run run
  obtain ⟨sent, failed, closed, rest, shape, within⟩ := standing.sound.ordered.coupled.orderly
  obtain ⟨read, written, delivered⟩ := standing.carries.answered
  have passed : link.receptions.map (·.request) ++ link.requests = sent := standing.carries.sent.trans shape.sent
  refine ⟨standing.read_prefix, standing.given_prefix, ?_⟩
  rintro ⟨control, exited, ended, stands⟩
  have half := standing.closing.exited exited (by simp [control])
  have finished := (standing.closing.closed half).2
  obtain ⟨done, none⟩ := (standing.closing.heard ended (by simp [control]) (by simp [control])).resolve_left
    (by simp [stands])
  obtain ⟨empty, -⟩ := (standing.closing.handled done).resolve_left (by simp [stands])
  obtain rfl : failed = Option.none := by
    cases failed with
    | none => rfl
    | some request => exact absurd (by simp [shape.wire]) (standing.closing.unfailed stands request)
  obtain rfl : closed = true := by
    by_contra opened
    simp [shape.wire, opened] at finished
  rw [empty, List.append_nil] at passed
  refine ⟨⟨rest, by simp [shape.accepted, passed], within rfl rfl⟩, ?_⟩
  rw [none, List.append_nil] at written
  rw [delivered, answers, ← standing.served.written_eq, written]

/-- The options and the frame of the examples. -/
private def quick : MockSttServerOptions where
  framesPerUpdate := 1
  revisionsPerSegment := 2

private def spoken : Audio.AudioFrame where
  sampleRate := 16000
  channels := 1

/-- The answers to the first two spoken frames. -/
private def firstAnswers : List TranscriptSegment :=
  (streamTranscription quick {} [⟨toRequest {} 0 spoken, 0, true⟩, ⟨toRequest {} 0 spoken, 0, true⟩]).1.map
    (·.toTranscriptSegment)

/-- A frame is sent, and the writer thread takes it and writes it. -/
private def sendFrame : List Streaming.Label :=
  [.send spoken, .sender 0, .sender 0, .writer true, .writer true, .writer true]

/-- A session of one frame, up to the call of `stop`. -/
private def oneFrame : List Label :=
  ([.start true .opened, .control, .control, .control] ++ sendFrame : List Streaming.Label).map .client ++
    .handle 0 true :: (firstAnswers.take 1).map (.client <| .reader <| some ·) ++ [.client .stop]

/-- A session of two frames that are both on the wire before the handler reads one, up to the call of `stop`. -/
private def twoFrames : List Label :=
  ([.start true .opened, .control, .control, .control] ++ sendFrame ++ sendFrame : List Streaming.Label).map .client ++
    [.handle 0 true, .handle 0 true] ++ firstAnswers.map (.client <| .reader <| some ·) ++ [.client .stop]

/-- How `stop` ends the session. -/
private def ending : List Label :=
  ([.writer true, .writer true, .control] : List Streaming.Label).map .client ++
    (.handlerEnds :: ([.reader none, .control, .control, .control] : List Streaming.Label).map .client)

theorem link_in_order_concluded : ∃ link : Link, Run (step quick) (initial {}) (twoFrames ++ ending) link ∧
    link.Concluded ∧ link.receptions.length = 2 ∧ link.client.log.session.delivered.length = 2 ∧
    link.client.log.session.delivered = link.answers quick := by
  have outcome : (exec (step quick) (initial {}) (twoFrames ++ ending)).map (fun link =>
      (decide link.Concluded, link.receptions.length, link.client.log.session.delivered.length, link.listening)) =
        some (true, 2, 2, true) := by decide +kernel
  obtain ⟨link, run, same⟩ := Option.map_eq_some_iff.mp outcome
  simp only [Prod.mk.injEq, decide_eq_true_eq] at same
  obtain ⟨concluded, two, given, listening⟩ := same
  obtain ⟨-, -, whole⟩ := link_in_order quick {} (twoFrames ++ ending) link run
  have delivered := (whole concluded).2
  rw [listening, if_pos rfl] at delivered
  exact ⟨link, run, concluded, two, given, delivered⟩

section Stop

/-- Inside `stop`, behind the request to end. -/
def stopping : Streaming.Control → Bool
  | .joiningWriter | .joiningReader | .finishing | .clearing => true
  | _ => false

/-- Steps that the thread inside `stop` has to make. -/
def controlSteps : Streaming.Control → ℕ
  | .joiningWriter => 4
  | .joiningReader => 3
  | .finishing => 2
  | .clearing => 1
  | _ => 0

/-- Steps of the audio thread, and what they put on the queue for the others. -/
def senderSteps : Streaming.Sender → ℕ
  | .idle => 0
  | .called _ => 7
  | .notifying => 1

/-- Steps of the writer thread on what it has taken, and what they put on the wire for the others. -/
def writerSteps : Streaming.Writer → ℕ
  | .waiting => 2
  | .popped _ => 6
  | .sent => 3
  | .failed => 2
  | .closing => 1
  | .unstarted | .exited => 0

def readerSteps : Streaming.Reader → ℕ
  | .reading => 1
  | .unstarted | .exited => 0

/-- Steps until `stop` has returned, at most. -/
def remaining (link : Link) : ℕ :=
  controlSteps link.client.control + senderSteps link.client.sender + writerSteps link.client.writer +
    readerSteps link.client.reader + 5 * link.client.client.queue.length + 2 * link.requests.length +
    link.responses.length + link.handler.isSome.toNat + (!link.lost).toNat

/-- The steps that a label makes room for: those of another call of `sendFrame`. -/
def Label.pays : Label → ℕ
  | .client (.send _) => 8
  | _ => 0

theorem response_le (options : MockSttServerOptions) (session : ServerSession) (stats : MockSttServerStats)
    (reception : Reception) : (pass options session stats reception).response.toList.length ≤ 1 := by
  cases (pass options session stats reception).response <;> simp

/-- The thread inside `stop` has one step less to make. -/
theorem control_falls (inside : stopping link.client.control = true)
    (taken : step options link (.client .control) = some next) : next.remaining + 1 ≤ link.remaining := by
  obtain ⟨client, made, moved⟩ := Option.bind_eq_some_iff.mp taken
  cases Streaming.taken_of_step made with
  | markRunning control | startWriter control | startReader control => simp [stopping, control] at inside
  | joinWriter control _ | joinReader control =>
    simp only [transport, control] at moved
    obtain rfl := Option.some.inj moved
    simp only [remaining, controlSteps, control]
    omega
  | finish control =>
    simp only [transport, control] at moved
    split at moved
    next =>
      obtain rfl := Option.some.inj moved
      simp only [remaining, controlSteps, control]
      omega
    next => cases moved
  | markStopped control =>
    simp only [transport, control] at moved
    obtain rfl := Option.some.inj moved
    simp only [remaining, controlSteps, control, GrpcSttStreamClient.markStopped, List.length_nil]
    omega

/-- What the writer thread puts on the wire it has taken from the queue. -/
theorem writer_falls {ok : Bool} (taken : step options link (.client (.writer ok)) = some next) :
    next.remaining + 1 ≤ link.remaining := by
  obtain ⟨client, made, moved⟩ := Option.bind_eq_some_iff.mp taken
  cases Streaming.taken_of_step made with
  | pop _ request rest writer queue =>
    simp only [transport, writer] at moved
    obtain rfl := Option.some.inj moved
    simp only [remaining, writerSteps, writer, queue, List.length_cons]
    omega
  | drain _ writer | count _ writer | writesDone _ writer =>
    simp only [transport, writer] at moved
    obtain rfl := Option.some.inj moved
    simp only [remaining, writerSteps, writer]
    omega
  | breakStream _ writer =>
    simp only [transport, writer] at moved
    obtain rfl := Option.some.inj moved
    simp only [remaining, writerSteps, writer, GrpcSttStreamClient.breakStream, List.length_nil]
    omega
  | written request writer =>
    simp only [transport, writer, if_true] at moved
    obtain rfl := Option.some.inj moved
    simp only [remaining, writerSteps, writer, List.length_append, List.length_singleton]
    omega
  | refused request writer =>
    simp only [transport, writer, Bool.false_eq_true, if_false] at moved
    split at moved
    next =>
      obtain rfl := Option.some.inj moved
      simp only [remaining, writerSteps, writer]
      omega
    next => cases moved

/-- The reader thread takes an answer from the wire, or ends. -/
theorem reader_falls {response : Option TranscriptSegment}
    (taken : step options link (.client (.reader response)) = some next) : next.remaining + 1 ≤ link.remaining := by
  obtain ⟨client, made, moved⟩ := Option.bind_eq_some_iff.mp taken
  cases response with
  | none =>
    obtain ⟨active, rfl⟩ := Streaming.readEnded_eq made
    simp only [transport] at moved
    split at moved
    next =>
      obtain rfl := Option.some.inj moved
      simp only [remaining, readerSteps, active]
      omega
    next => cases moved
  | some segment =>
    obtain ⟨-, rfl⟩ := Streaming.received_eq made
    simp only [transport] at moved
    split at moved
    next => cases moved
    next response rest responses =>
      split at moved
      next =>
        obtain rfl := Option.some.inj moved
        simp only [remaining, responses, List.length_cons]
        omega
      next => cases moved

/-- The handler answers a request at most once. -/
theorem handle_falls {unixMs : ℤ} {written : Bool} (taken : step options link (.handle unixMs written) = some next) :
    next.remaining + 1 ≤ link.remaining := by
  obtain ⟨session, request, rest, handler, requests, -, rfl⟩ := handle_eq taken
  have few := response_le options session link.stats ⟨request, unixMs, written⟩
  have less : (if (pass options session link.stats ⟨request, unixMs, written⟩).goesOn = true then
      some (pass options session link.stats ⟨request, unixMs, written⟩).session else none).isSome.toNat ≤ 1 :=
    Bool.toNat_le _
  simp only [remaining, handler, requests, List.length_append, List.length_cons, Option.isSome_some, Bool.toNat_true]
  omega

/-- Inside `stop` every step takes from what remains. -/
theorem remaining_falls {label : Label} (inside : stopping link.client.control = true)
    (taken : step options link label = some next) : next.remaining + 1 ≤ link.remaining + label.pays := by
  cases label with
  | client inner =>
    cases inner with
    | control => exact Nat.le_add_right_of_le (control_falls inside taken)
    | writer ok => exact Nat.le_add_right_of_le (writer_falls taken)
    | reader response => exact Nat.le_add_right_of_le (reader_falls taken)
    | start callback connection =>
      obtain ⟨client, made, -⟩ := Option.bind_eq_some_iff.mp taken
      simp [stopping, Streaming.idle_of_start made] at inside
    | stop =>
      obtain ⟨client, made, -⟩ := Option.bind_eq_some_iff.mp taken
      simp [stopping, Streaming.idle_of_stop made] at inside
    | send frame =>
      obtain ⟨client, made, moved⟩ := Option.bind_eq_some_iff.mp taken
      obtain rfl := Option.some.inj moved
      cases Streaming.taken_of_step made with
      | send _ sender =>
        simp only [remaining, senderSteps, sender, Label.pays]
        omega
    | sender capturedAtUnixMs =>
      obtain ⟨client, made, moved⟩ := Option.bind_eq_some_iff.mp taken
      obtain rfl := Option.some.inj moved
      cases Streaming.taken_of_step made with
      | drop _ _ sender | accept _ _ sender | notified _ sender =>
        simp only [remaining, senderSteps, sender, Label.pays, List.length_append, List.length_singleton]
        omega
  | handle unixMs written => exact Nat.le_add_right_of_le (handle_falls taken)
  | handlerEnds =>
    obtain ⟨session, handler, -, rfl⟩ := handlerEnds_eq taken
    simp only [remaining, handler, Option.isSome_some, Option.isSome_none, Bool.toNat_true, Bool.toNat_false,
      Label.pays]
    omega
  | lose =>
    obtain ⟨stands, rfl⟩ := lose_eq taken
    simp only [remaining, stands, Bool.not_false, Bool.not_true, Bool.toNat_true, Bool.toNat_false, Label.pays]
    omega

/-- `stop` goes on until it returns. -/
theorem stopping_keeps {label : Label} (inside : stopping link.client.control = true)
    (taken : step options link label = some next) :
    stopping next.client.control = true ∨ next.client.control = .idle := by
  rcases client_of_step taken with ⟨inner, -, made, -⟩ | same
  · generalize next.client = client at made
    cases Streaming.taken_of_step made with
    | markRunning control | startWriter control | startReader control | opened _ control | requestStop control =>
      simp [stopping, control] at inside
    | joinWriter | joinReader | finish => exact .inl rfl
    | markStopped => exact .inr rfl
    | _ => exact .inl inside
  · exact .inl (same ▸ inside)

/-- Someone other than the audio thread can go on, without the connection being lost. -/
theorem stopping_enabled (standing : link.Standing options) (inside : stopping link.client.control = true) :
    ∃ label : Label, (label ≠ .lose ∧ label.pays = 0) ∧ (step options link label).isSome = true := by
  have phase := standing.sound.coherent.phase
  have reading := standing.sound.reading
  cases control : link.client.control with
  | idle | opened | flagged | writerStarted => simp [stopping, control] at inside
  | joiningWriter =>
    simp only [Streaming.Phase, control] at phase
    cases writer : link.client.writer with
    | unstarted => simp [writer, Streaming.Writer.working, Streaming.Writer.done] at phase
    | waiting =>
      refine ⟨.client (.writer true), ⟨by simp, rfl⟩, ?_⟩
      cases queue : link.client.client.queue <;>
        simp [step, Streaming.step, Streaming.writerStep, transport, writer, queue, phase.2.1]
    | popped request | sent | failed | closing =>
      exact ⟨.client (.writer true), ⟨by simp, rfl⟩, by
        simp [step, Streaming.step, Streaming.writerStep, transport, writer]⟩
    | exited =>
      exact ⟨.client .control, ⟨by simp, rfl⟩, by
        simp [step, Streaming.step, Streaming.controlStep, transport, control, writer]⟩
  | joiningReader =>
    simp only [Streaming.Phase, control] at phase
    simp only [Streaming.Reading, control] at reading
    cases reader : link.client.reader with
    | unstarted => exact absurd reader reading
    | exited =>
      exact ⟨.client .control, ⟨by simp, rfl⟩, by
        simp [step, Streaming.step, Streaming.controlStep, transport, control, reader]⟩
    | reading =>
      cases responses : link.responses with
      | cons response rest =>
        exact ⟨.client (.reader (some response.toTranscriptSegment)), ⟨by simp, rfl⟩, by
          simp [step, Streaming.step, Streaming.readerStep, transport, reader, responses]⟩
      | nil =>
        cases handler : link.handler with
        | none =>
          exact ⟨.client (.reader none), ⟨by simp, rfl⟩, by
            simp [step, Streaming.step, Streaming.readerStep, transport, responsesEnd, reader, handler, responses]⟩
        | some session =>
          have half := standing.closing.exited phase.2.2 (by simp [control])
          cases requests : link.requests with
          | nil =>
            exact ⟨.handlerEnds, ⟨by simp, rfl⟩, by simp [step, handlerEnds, requestsEnd, handler, half, requests]⟩
          | cons request rest => exact ⟨.handle 0 true, ⟨by simp, rfl⟩, by simp [step, handle, handler, requests]⟩
  | finishing =>
    simp only [Streaming.Reading, control] at reading
    have gone : link.handlerGone = true := by
      rcases standing.closing.heard reading (by simp [control]) (by simp [control]) with lost | ⟨done, -⟩
      · simp [Link.handlerGone, lost]
      · simp [Link.handlerGone, done]
    exact ⟨.client .control, ⟨by simp, rfl⟩, by
      simp [step, Streaming.step, Streaming.controlStep, transport, control, gone]⟩
  | clearing =>
    exact ⟨.client .control, ⟨by simp, rfl⟩, by simp [step, Streaming.step, Streaming.controlStep, transport, control]⟩

/-- In every run, a `stop` that has begun can return whatever has happened, without another call of `sendFrame` and
without the loss of the connection; and however the threads, the transport and the handler take turns, the steps until
it returns are bounded by what remained when it began and by the number of such calls. -/
theorem stop_returns (options : MockSttServerOptions) (config : GrpcSttClientConfig) (labels : List Label) (link : Link)
    (run : Run (step options) (initial config) labels link) (inside : stopping link.client.control = true) :
    (∃ more last, Run (step options) link more last ∧ (∀ label ∈ more, label ≠ .lose ∧ label.pays = 0) ∧
        last.client.control = .idle) ∧
      ∀ more last, Run (step options) link more last →
        Along (step options) (fun link _ => link.client.control ≠ .idle) link more →
        more.length + last.remaining ≤ link.remaining + (more.map Label.pays).sum := by
  have ranked : Ranked (step options)
      (fun link : Link => link.Standing options ∧ stopping link.client.control = true)
      (fun link => link.client.control = .idle) remaining Label.pays := by
    refine ⟨?_, fun link label next holds taken => remaining_falls holds.2 taken⟩
    rintro link label next ⟨standing, inside⟩ taken
    exact (stopping_keeps inside taken).imp_left fun still => ⟨standing.keeps taken, still⟩
  have start := And.intro (standing_of_run run) inside
  refine ⟨ranked.reaches (fun link holds _ => stopping_enabled holds.1 holds.2) link start, ?_⟩
  intro more last later short
  exact ranked.length_le later start short

theorem stop_returns_quick : ∃ link : Link, Run (step quick) (initial {}) oneFrame link ∧
    (∃ more last, Run (step quick) link more last ∧ (∀ label ∈ more, label ≠ .lose ∧ label.pays = 0) ∧
      last.client.control = .idle) ∧ link.remaining = 9 := by
  have outcome : (exec (step quick) (initial {}) oneFrame).map (fun link =>
      (stopping link.client.control, link.remaining)) = some (true, 9) := by decide +kernel
  obtain ⟨link, run, same⟩ := Option.map_eq_some_iff.mp outcome
  obtain ⟨inside, remaining⟩ := Prod.mk.inj same
  exact ⟨link, run, (stop_returns quick {} oneFrame link run inside).1, remaining⟩

end Stop

end Link

end VoxMesh.Stt
