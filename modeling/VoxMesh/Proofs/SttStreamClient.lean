import VoxMesh.Model.SttStreamClient

/-! # What one step of the client's threads does

`Taken` lists the transitions by name, each with its guard, and `taken_of_step` inverts the step
function once. `Phase` ties the shared flags to the control thread's position and to the life of the
writer thread, and `Phase.keeps` carries it over every step.
-/

namespace VoxMesh.Stt.Streaming

open VoxMesh.Audio (AudioFrame)

inductive Taken (state : State) : Label → State → Prop
  | alreadyStarted (callback : Bool) (connection : Connection) : Taken state (.start callback connection) state
  | alreadyStopped : Taken state .stop state
  | unreachable (callback : Bool) (connection : Connection) :
      Taken state (.start callback connection) { state with client := { state.client with callback := callback } }
  | opened (callback : Bool) (control : state.control = .idle) (running : state.client.running = false) :
      Taken state (.start callback .opened)
        { state with client := { state.client with callback := callback }, control := .opened }
  | markRunning (control : state.control = .opened) : Taken state .control { state with
      control := .flagged
      client := state.client.markRunning
      log := { state.log with finished := state.log.finished ++ [state.log.session], session := {} } }
  | startWriter (control : state.control = .flagged) :
      Taken state .control { state with control := .writerStarted, writer := .waiting }
  | startReader (control : state.control = .writerStarted) :
      Taken state .control { state with control := .idle, reader := .reading }
  | requestStop (control : state.control = .idle) (running : state.client.running = true) :
      Taken state .stop { state with
      control := .joiningWriter
      client := { state.client with stopRequested := true } }
  | joinWriter (control : state.control = .joiningWriter) (writer : state.writer = .exited) :
      Taken state .control { state with control := .joiningReader }
  | joinReader (control : state.control = .joiningReader) : Taken state .control { state with control := .finishing }
  | finish (control : state.control = .finishing) : Taken state .control { state with control := .clearing }
  | markStopped (control : state.control = .clearing) :
      Taken state .control { state with control := .idle, client := state.client.markStopped }
  | send (frame : AudioFrame) (sender : state.sender = .idle) : Taken state (.send frame) { state with
      sender := .called frame
      log := { state.log with calls := state.log.calls + 1 } }
  | drop (frame : AudioFrame) (capturedAtUnixMs : ℤ) (sender : state.sender = .called frame)
      (rejects : state.client.rejects = true) :
      Taken state (.sender capturedAtUnixMs) { state with
        sender := .idle
        client := { state.client with framesDropped := state.client.framesDropped + 1 } }
  | accept (frame : AudioFrame) (capturedAtUnixMs : ℤ) (sender : state.sender = .called frame)
      (room : state.client.rejects = false) : Taken state (.sender capturedAtUnixMs) { state with
        sender := .notifying
        client := { state.client with
          queue := state.client.queue ++ [toRequest state.client.config.session capturedAtUnixMs frame] }
        log := { state.log with
          late := state.log.late + state.drained.toNat
          session := { state.log.session with
            accepted := state.log.session.accepted ++ [toRequest state.client.config.session capturedAtUnixMs frame]
            acceptedStopping := state.log.session.acceptedStopping + state.client.stopRequested.toNat } } }
  | notified (capturedAtUnixMs : ℤ) (sender : state.sender = .notifying) :
      Taken state (.sender capturedAtUnixMs) { state with sender := .idle }
  | pop (ok : Bool) (request : StreamTranscriptionRequest) (rest : List StreamTranscriptionRequest)
      (writer : state.writer = .waiting) (queue : state.client.queue = request :: rest) :
      Taken state (.writer ok) { state with
        writer := .popped request
        client := { state.client with queue := rest } }
  | drain (ok : Bool) (writer : state.writer = .waiting) (queue : state.client.queue = [])
      (requested : state.client.stopRequested = true) : Taken state (.writer ok) { state with writer := .closing }
  | written (request : StreamTranscriptionRequest) (writer : state.writer = .popped request) :
      Taken state (.writer true) { state with writer := .sent, log := onWire state.log (.write request true) }
  | refused (request : StreamTranscriptionRequest) (writer : state.writer = .popped request) :
      Taken state (.writer false) { state with writer := .failed, log := onWire state.log (.write request false) }
  | count (ok : Bool) (writer : state.writer = .sent) : Taken state (.writer ok) { state with
      writer := .waiting
      client := { state.client with framesSent := state.client.framesSent + 1 } }
  | breakStream (ok : Bool) (writer : state.writer = .failed) :
      Taken state (.writer ok) { state with writer := .closing, client := state.client.breakStream }
  | writesDone (ok : Bool) (writer : state.writer = .closing) :
      Taken state (.writer ok) { state with writer := .exited, log := onWire state.log .writesDone }
  | received (segment : TranscriptSegment) (delivered : List TranscriptUpdate) :
      Taken state (.reader (some segment)) { state with
      client := { state.client with updatesReceived := state.client.updatesReceived + 1 }
      log := { state.log with session := { state.log.session with delivered := delivered } } }
  | readEnded : Taken state (.reader none) { state with reader := .exited }

private theorem taken_of_start {state next : State} {callback : Bool} {connection : Connection}
    (taken : start state callback connection = some next) : Taken state (.start callback connection) next := by
  unfold start at taken
  split at taken
  next control =>
    split at taken
    next => exact Option.some.inj taken ▸ .alreadyStarted callback connection
    next running =>
      have running : state.client.running = false := Bool.eq_false_iff.mpr running
      cases connection with
      | opened => exact Option.some.inj taken ▸ .opened callback control running
      | unreachable => exact Option.some.inj taken ▸ .unreachable callback _
      | noStream => exact Option.some.inj taken ▸ .unreachable callback _
  next => cases taken

private theorem taken_of_stop {state next : State} (taken : stop state = some next) : Taken state .stop next := by
  unfold stop at taken
  split at taken
  next control =>
    split at taken
    next running => exact Option.some.inj taken ▸ .requestStop control running
    next => exact Option.some.inj taken ▸ .alreadyStopped
  next => cases taken

private theorem taken_of_control {state next : State} (taken : controlStep state = some next) :
    Taken state .control next := by
  unfold controlStep at taken
  split at taken
  next => cases taken
  next control => exact Option.some.inj taken ▸ .markRunning control
  next control => exact Option.some.inj taken ▸ .startWriter control
  next control => exact Option.some.inj taken ▸ .startReader control
  next control =>
    split at taken
    next writer => exact Option.some.inj taken ▸ .joinWriter control writer
    next => cases taken
  next control =>
    split at taken
    next => exact Option.some.inj taken ▸ .joinReader control
    next => cases taken
  next control => exact Option.some.inj taken ▸ .finish control
  next control => exact Option.some.inj taken ▸ .markStopped control

private theorem taken_of_sender {state next : State} {capturedAtUnixMs : ℤ}
    (taken : senderStep state capturedAtUnixMs = some next) : Taken state (.sender capturedAtUnixMs) next := by
  unfold senderStep at taken
  split at taken
  next => cases taken
  next frame sender =>
    unfold GrpcSttStreamClient.enqueue at taken
    by_cases rejects : state.client.rejects = true
    · rw [if_pos rejects] at taken
      exact Option.some.inj taken ▸ .drop frame capturedAtUnixMs sender rejects
    · rw [if_neg rejects] at taken
      exact Option.some.inj taken ▸ .accept frame capturedAtUnixMs sender (Bool.eq_false_iff.mpr rejects)
  next sender => exact Option.some.inj taken ▸ .notified capturedAtUnixMs sender

private theorem taken_of_writer {state next : State} {ok : Bool} (taken : writerStep state ok = some next) :
    Taken state (.writer ok) next := by
  unfold writerStep at taken
  split at taken
  next => cases taken
  next writer =>
    split at taken
    next request rest queue => exact Option.some.inj taken ▸ .pop ok request rest writer queue
    next queue =>
      split at taken
      next requested => exact Option.some.inj taken ▸ .drain ok writer queue requested
      next => cases taken
  next request writer =>
    cases ok with
    | true => exact Option.some.inj taken ▸ .written request writer
    | false => exact Option.some.inj taken ▸ .refused request writer
  next writer => exact Option.some.inj taken ▸ .count ok writer
  next writer => exact Option.some.inj taken ▸ .breakStream ok writer
  next writer => exact Option.some.inj taken ▸ .writesDone ok writer
  next => cases taken

private theorem taken_of_reader {state next : State} {response : Option TranscriptSegment}
    (taken : readerStep state response = some next) : Taken state (.reader response) next := by
  unfold readerStep at taken
  split at taken
  next segment _ =>
    split at taken
    next => exact Option.some.inj taken ▸ .received segment _
    next => exact Option.some.inj taken ▸ .received segment state.log.session.delivered
  next => exact Option.some.inj taken ▸ .readEnded
  next => cases taken

theorem taken_of_step {state next : State} {label : Label} (taken : step state label = some next) :
    Taken state label next := by
  cases label with
  | start callback connection => exact taken_of_start taken
  | stop => exact taken_of_stop taken
  | control => exact taken_of_control taken
  | send frame =>
    simp only [step] at taken
    split at taken
    next sender => exact Option.some.inj taken ▸ .send frame sender
    next => cases taken
  | sender capturedAtUnixMs => exact taken_of_sender taken
  | writer ok => exact taken_of_writer taken
  | reader response => exact taken_of_reader taken

/-- No writer thread: not started yet, or joined. -/
def Writer.inactive : Writer → Bool
  | .unstarted | .exited => true
  | _ => false

/-- The writer loop is still taking frames or handling a failed write. -/
def Writer.working : Writer → Bool
  | .waiting | .popped _ | .sent | .failed => true
  | _ => false

/-- Between `start` and the final block of `stop` there is a writer thread, and without a request to
stop only a broken stream ends its loop. -/
def Phase (client : GrpcSttStreamClient) (writer : Writer) : Control → Prop
  | .idle =>
      if client.running then
        client.stopRequested = false ∧ (writer.working = true ∨ writer.done = true ∧ client.streamBroken = true)
      else writer.inactive = true
  | .opened => client.running = false ∧ writer.inactive = true
  | .flagged => client.running = true ∧ client.stopRequested = false ∧ client.streamBroken = false ∧
      writer.inactive = true
  | .writerStarted => client.running = true ∧ client.stopRequested = false ∧
      (writer.working = true ∨ writer.done = true ∧ client.streamBroken = true)
  | .joiningWriter => client.running = true ∧ client.stopRequested = true ∧
      (writer.working = true ∨ writer.done = true)
  | .joiningReader | .finishing | .clearing => client.running = true ∧ client.stopRequested = true ∧
      writer = .exited

structure Coherent (state : State) : Prop where
  phase : Phase state.client state.writer state.control
  stopped : state.client.running = false → state.client.queue = []
  broken : state.client.streamBroken = true → state.client.queue = []
  bounded : state.client.queue.length ≤ state.client.config.sendQueueCapacity
  working : state.writer.working = true → state.client.streamBroken = false

theorem Phase.running_of_working {client : GrpcSttStreamClient} {writer : Writer} {control : Control}
    (phase : Phase client writer control) (working : writer.working = true) : client.running = true := by
  have notInactive : writer.inactive = false := by
    cases writer <;> simp_all [Writer.inactive, Writer.working]
  cases control with
  | idle =>
    by_contra stopped
    simp [Phase, stopped, notInactive] at phase
  | opened => simp [Phase, notInactive] at phase
  | _ => exact phase.1

/-- A step of the working writer that leaves the flags alone. -/
theorem Phase.writer_keeps {client after : GrpcSttStreamClient} {writer moved : Writer} {control : Control}
    (phase : Phase client writer control) (working : writer.working = true)
    (running : after.running = client.running) (requested : after.stopRequested = client.stopRequested)
    (ends : moved.working = true ∨ moved.done = true ∧ (after.streamBroken = true ∨ client.stopRequested = true)) :
    Phase after moved control := by
  have alive := phase.running_of_working working
  have notInactive : writer.inactive = false := by
    cases writer <;> simp_all [Writer.inactive, Writer.working]
  cases control with
  | idle =>
    simp only [Phase, alive, running, requested, ↓reduceIte] at phase ⊢
    simpa [phase.1] using ends
  | opened => simp [Phase, alive] at phase
  | flagged => simp [Phase, notInactive] at phase
  | writerStarted =>
    simp only [Phase, running, requested] at phase ⊢
    simpa [phase.1, phase.2.1] using ends
  | joiningWriter =>
    simp only [Phase, running, requested] at phase ⊢
    simpa [phase.1, phase.2.1] using ends
  | joiningReader | finishing | clearing =>
    obtain ⟨-, -, rfl⟩ := phase
    cases working

theorem Phase.exits {client : GrpcSttStreamClient} {control : Control} (phase : Phase client .closing control) :
    Phase client .exited control := by
  cases control <;> simp_all [Phase, Writer.inactive, Writer.working, Writer.done]

theorem Coherent.start (config : GrpcSttClientConfig) : Coherent (initial config) :=
  ⟨rfl, fun _ => rfl, fun _ => rfl, Nat.zero_le _, nofun⟩

theorem rejects_eq_false {client : GrpcSttStreamClient} (room : client.rejects = false) :
    client.running = true ∧ client.streamBroken = false ∧
      client.queue.length < client.config.sendQueueCapacity := by
  simpa [GrpcSttStreamClient.rejects, and_assoc] using room

theorem Coherent.keeps {state next : State} {label : Label} (inv : Coherent state) (taken : Taken state label next) :
    Coherent next := by
  have phase := inv.phase
  cases taken with
  | alreadyStarted callback connection => exact inv
  | alreadyStopped => exact inv
  | unreachable callback connection => exact { inv with }
  | opened callback control running =>
    simp only [Phase, control, running, Bool.false_eq_true, ↓reduceIte] at phase
    exact { inv with phase := ⟨running, phase⟩ }
  | markRunning control =>
    simp only [Phase, control] at phase
    have empty := inv.stopped phase.1
    exact ⟨⟨rfl, rfl, rfl, phase.2⟩, nofun, nofun, inv.bounded, fun _ => rfl⟩
  | startWriter control =>
    simp only [Phase, control] at phase
    exact { inv with phase := ⟨phase.1, phase.2.1, .inl rfl⟩, working := fun _ => phase.2.2.1 }
  | startReader control =>
    simp only [Phase, control] at phase
    refine { inv with phase := ?_ }
    simpa only [Phase, phase.1, ↓reduceIte] using phase.2
  | requestStop control running =>
    simp only [Phase, control, running, ↓reduceIte] at phase
    exact { inv with phase := ⟨running, rfl, phase.2.imp_right And.left⟩ }
  | joinWriter control writer =>
    simp only [Phase, control] at phase
    exact { inv with phase := ⟨phase.1, phase.2.1, writer⟩ }
  | joinReader control =>
    simp only [Phase, control] at phase
    exact { inv with phase := phase }
  | finish control =>
    simp only [Phase, control] at phase
    exact { inv with phase := phase }
  | markStopped control =>
    simp only [Phase, control] at phase
    refine ⟨?_, fun _ => rfl, fun _ => rfl, Nat.zero_le _, inv.working⟩
    simp [Phase, GrpcSttStreamClient.markStopped, phase.2.2, Writer.inactive]
  | send frame sender => exact { inv with }
  | drop frame capturedAtUnixMs sender rejects => exact { inv with }
  | accept frame capturedAtUnixMs sender room =>
    obtain ⟨running, unbroken, room⟩ := rejects_eq_false room
    refine { inv with stopped := ?_, broken := ?_, bounded := ?_ }
    · intro stopped
      exact absurd (running.symm.trans stopped) nofun
    · intro broken
      exact absurd (broken.symm.trans unbroken) nofun
    · rw [List.length_append]
      exact room
  | notified capturedAtUnixMs sender => exact { inv with }
  | pop ok request rest writer queue =>
    have working : state.writer.working = true := writer ▸ rfl
    have bounded := inv.bounded
    rw [queue, List.length_cons] at bounded
    refine ⟨phase.writer_keeps working rfl rfl (.inl rfl), ?_, ?_, Nat.le_of_succ_le bounded, ?_⟩
    · intro stopped
      exact absurd ((phase.running_of_working working).symm.trans stopped) nofun
    · intro broken
      exact absurd (broken.symm.trans (inv.working working)) nofun
    · exact fun _ => inv.working working
  | drain ok writer queue requested =>
    have working : state.writer.working = true := writer ▸ rfl
    exact { inv with phase := phase.writer_keeps working rfl rfl (.inr ⟨rfl, .inr requested⟩), working := nofun }
  | written request writer =>
    have working : state.writer.working = true := writer ▸ rfl
    exact { inv with phase := phase.writer_keeps working rfl rfl (.inl rfl), working := fun _ => inv.working working }
  | refused request writer =>
    have working : state.writer.working = true := writer ▸ rfl
    exact { inv with phase := phase.writer_keeps working rfl rfl (.inl rfl), working := fun _ => inv.working working }
  | count ok writer =>
    have working : state.writer.working = true := writer ▸ rfl
    exact { inv with phase := phase.writer_keeps working rfl rfl (.inl rfl), working := fun _ => inv.working working }
  | breakStream ok writer =>
    have working : state.writer.working = true := writer ▸ rfl
    exact ⟨phase.writer_keeps working rfl rfl (.inr ⟨rfl, .inl rfl⟩), fun _ => rfl, fun _ => rfl, Nat.zero_le _, nofun⟩
  | writesDone ok writer => exact { inv with phase := Phase.exits (writer ▸ phase), working := nofun }
  | received segment delivered => exact { inv with }
  | readEnded => exact { inv with }

end VoxMesh.Stt.Streaming
