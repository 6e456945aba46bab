import VoxMesh.Proofs.SttStreamClient

/-! # Order and uniqueness of uploads

Within a session the wire carries the accepted frames in order: successful writes, then at most one
failed write, then at most the half-close. `Shape` splits the accepted frames of a session into those
written, the one whose write failed and the rest, and `Coupled` says where the rest is at each position
of the writer loop: on the queue, or in the writer's hands. A new session starts with an empty queue, so
no frame crosses from one session to the next.
-/

namespace VoxMesh.Stt.Streaming

open VoxMesh.Audio (AudioFrame)

def WireEvent.request? : WireEvent → Option StreamTranscriptionRequest
  | .write request _ => some request
  | .writesDone => none

/-- Nothing may be written after this event. -/
def WireEvent.ends : WireEvent → Bool
  | .write _ ok => !ok
  | .writesDone => true

/-- The frames passed to the transport, in order. -/
def Session.passed (session : Session) : List StreamTranscriptionRequest :=
  session.wire.filterMap WireEvent.request?

/-- The frame the writer has taken from the queue and not passed on yet. -/
def Writer.taken : Writer → List StreamTranscriptionRequest
  | .popped request => [request]
  | _ => []

structure Session.InOrder (session : Session) : Prop where
  /-- What is written is a prefix of what was accepted, each frame at most once. -/
  passed_prefix : session.passed <+: session.accepted
  /-- Nothing is written after a failed write or after the half-close. -/
  silent : ∀ before event after, session.wire = before ++ event :: after → event.ends = true →
    ∀ later ∈ after, later.request? = none
  /-- Without a failure and without frames accepted during the stop, the half-close comes after all of them. -/
  complete : (∀ request, .write request false ∉ session.wire) → session.acceptedStopping = 0 →
    .writesDone ∈ session.wire → session.wire = session.accepted.map (.write · true) ++ [.writesDone]

structure UploadsInOrder (state : State) : Prop where
  sessions : ∀ session ∈ state.log.finished ++ [state.log.session], session.InOrder
  /-- Whatever is still to be written was accepted in the current session, after everything written. -/
  current : ∃ earlier, state.log.session.accepted = earlier ++ state.writer.taken ++ state.client.queue
  bounded : state.client.queue.length ≤ state.client.config.sendQueueCapacity

/-- The accepted frames of a session, by what became of them. -/
structure Shape (session : Session) (sent : List StreamTranscriptionRequest)
    (failed : Option StreamTranscriptionRequest) (closed : Bool) (rest : List StreamTranscriptionRequest) : Prop where
  wire : session.wire = sent.map (.write · true) ++ failed.toList.map (.write · false) ++
    (if closed then [.writesDone] else [])
  accepted : session.accepted = sent ++ failed.toList ++ rest

def Orderly (session : Session) : Prop := ∃ sent failed closed rest, Shape session sent failed closed rest ∧
  (closed = true → failed = none → rest.length ≤ session.acceptedStopping)

/-- The writer loop is over: by a failure, or with nothing left on the queue that came before the stop. -/
def Ended (client : GrpcSttStreamClient) (session : Session) (closed : Bool) : Prop :=
  ∃ sent failed rest, Shape session sent failed closed rest ∧
    (failed ≠ none → client.streamBroken = true) ∧
    (failed = none → rest = client.queue ∧ rest.length ≤ session.acceptedStopping ∧ client.stopRequested = true)

def Progress (client : GrpcSttStreamClient) (session : Session) : Writer → Prop
  | .unstarted => False
  | .waiting | .sent => ∃ sent, Shape session sent none false client.queue
  | .popped request => ∃ sent, Shape session sent none false (request :: client.queue)
  | .failed => ∃ sent request, Shape session sent (some request) false client.queue
  | .closing => Ended client session false
  | .exited => Ended client session true

def Coupled (state : State) : Prop :=
  if state.client.running = false then Orderly state.log.session
  else if state.control = .flagged then
    state.log.session.wire = [] ∧ state.log.session.accepted = state.client.queue
  else Progress state.client state.log.session state.writer

structure Ordered (state : State) : Prop where
  finished : ∀ session ∈ state.log.finished, Orderly session
  coupled : Coupled state

theorem Orderly.empty : Orderly {} := ⟨[], none, false, [], ⟨rfl, rfl⟩, nofun⟩

theorem Ended.orderly {client : GrpcSttStreamClient} {session : Session} {closed : Bool}
    (ended : Ended client session closed) : Orderly session := by
  obtain ⟨sent, failed, rest, shape, -, drained⟩ := ended
  exact ⟨sent, failed, closed, rest, shape, fun _ none => (drained none).2.1⟩

theorem Progress.orderly {client : GrpcSttStreamClient} {session : Session} {writer : Writer}
    (progress : Progress client session writer) : Orderly session := by
  cases writer with
  | unstarted => cases progress
  | waiting | sent | popped request =>
    obtain ⟨sent, shape⟩ := progress
    exact ⟨sent, none, false, _, shape, nofun⟩
  | failed =>
    obtain ⟨sent, request, shape⟩ := progress
    exact ⟨sent, some request, false, _, shape, nofun⟩
  | closing | exited => exact Ended.orderly progress

theorem Coupled.orderly {state : State} (coupled : Coupled state) : Orderly state.log.session := by
  unfold Coupled at coupled
  split at coupled
  next => exact coupled
  next =>
    split at coupled
    next => exact ⟨[], none, false, _, ⟨coupled.1, rfl⟩, nofun⟩
    next => exact coupled.orderly

/-- Accepting a frame extends the rest. -/
theorem Shape.accept {session : Session} {sent rest : List StreamTranscriptionRequest}
    {failed : Option StreamTranscriptionRequest} {closed : Bool} (shape : Shape session sent failed closed rest)
    (request : StreamTranscriptionRequest) (stopping : ℕ) :
    Shape { session with accepted := session.accepted ++ [request], acceptedStopping := stopping }
      sent failed closed (rest ++ [request]) :=
  ⟨shape.wire, by simp only [shape.accepted, List.append_assoc]⟩

theorem Progress.accept {client : GrpcSttStreamClient} {session : Session} {writer : Writer}
    (progress : Progress client session writer) (unbroken : client.streamBroken = false)
    (request : StreamTranscriptionRequest) :
    Progress { client with queue := client.queue ++ [request] }
      { session with
        accepted := session.accepted ++ [request]
        acceptedStopping := session.acceptedStopping + client.stopRequested.toNat } writer := by
  have ended : ∀ closed, Ended client session closed → Ended { client with queue := client.queue ++ [request] }
      { session with
        accepted := session.accepted ++ [request]
        acceptedStopping := session.acceptedStopping + client.stopRequested.toNat } closed := by
    rintro closed ⟨sent, failed, rest, shape, broken, drained⟩
    obtain rfl : failed = none := by
      by_contra some
      exact absurd ((broken some).symm.trans unbroken) nofun
    obtain ⟨rfl, stopping, requested⟩ := drained rfl
    refine ⟨sent, none, _, shape.accept request _, nofun, fun _ => ⟨rfl, ?_, requested⟩⟩
    simpa [requested] using stopping
  cases writer with
  | unstarted => cases progress
  | waiting | sent | popped _ =>
    obtain ⟨sent, shape⟩ := progress
    exact ⟨sent, shape.accept request _⟩
  | failed =>
    obtain ⟨sent, failed, shape⟩ := progress
    exact ⟨sent, failed, shape.accept request _⟩
  | closing | exited => exact ended _ progress

/-- Progress reads the queue, the flags that end the loop and what the session has accepted and written. -/
theorem Progress.congr {client after : GrpcSttStreamClient} {session later : Session} {writer : Writer}
    (progress : Progress client session writer) (queue : after.queue = client.queue)
    (broken : client.streamBroken = true → after.streamBroken = true)
    (requested : client.stopRequested = true → after.stopRequested = true)
    (wire : later.wire = session.wire) (accepted : later.accepted = session.accepted)
    (stopping : later.acceptedStopping = session.acceptedStopping) : Progress after later writer := by
  have shape : ∀ {sent failed closed rest}, Shape session sent failed closed rest →
      Shape later sent failed closed rest :=
    fun shape => ⟨wire.trans shape.wire, accepted.trans shape.accepted⟩
  cases writer with
  | unstarted => cases progress
  | waiting | sent | popped _ =>
    obtain ⟨sent, before⟩ := progress
    exact ⟨sent, queue ▸ shape before⟩
  | failed =>
    obtain ⟨sent, failed, before⟩ := progress
    exact ⟨sent, failed, queue ▸ shape before⟩
  | closing | exited =>
    obtain ⟨sent, failed, rest, before, failure, drained⟩ := progress
    refine ⟨sent, failed, rest, shape before, fun some => broken (failure some), fun none => ?_⟩
    obtain ⟨rfl, within, asked⟩ := drained none
    exact ⟨queue.symm, stopping ▸ within, requested asked⟩

theorem Coupled.congr {state : State} (coupled : Coupled state) {client : GrpcSttStreamClient} {session : Session}
    (running : client.running = state.client.running) (queue : client.queue = state.client.queue)
    (broken : client.streamBroken = state.client.streamBroken)
    (requested : client.stopRequested = state.client.stopRequested) (wire : session.wire = state.log.session.wire)
    (accepted : session.accepted = state.log.session.accepted)
    (stopping : session.acceptedStopping = state.log.session.acceptedStopping) :
    Coupled { state with client := client, log := { state.log with session := session } } := by
  simp only [Coupled, running, queue, wire, accepted] at coupled ⊢
  split_ifs at coupled ⊢
  next =>
    obtain ⟨sent, failed, closed, rest, shape, within⟩ := coupled
    exact ⟨sent, failed, closed, rest, ⟨wire.trans shape.wire, accepted.trans shape.accepted⟩, stopping ▸ within⟩
  next => exact coupled
  next => exact coupled.congr queue (broken ▸ id) (requested ▸ id) wire accepted stopping

theorem Ordered.start (config : GrpcSttClientConfig) : Ordered (initial config) :=
  ⟨nofun, Orderly.empty⟩

/-- Away from the start of a session the coupling reads only the writer's side. -/
theorem Ordered.progress {state : State} (inv : Ordered state) (running : state.client.running = true)
    (spawned : state.control ≠ .flagged) : Progress state.client state.log.session state.writer := by
  have coupled := inv.coupled
  rwa [Coupled, if_neg (by simp [running]), if_neg spawned] at coupled

theorem coupled_of_progress {state : State} (running : state.client.running = true)
    (spawned : state.control ≠ .flagged) (progress : Progress state.client state.log.session state.writer) :
    Coupled state := by
  rwa [Coupled, if_neg (by simp [running]), if_neg spawned]

theorem Phase.spawned_of_working {client : GrpcSttStreamClient} {writer : Writer} {control : Control}
    (phase : Phase client writer control) (working : writer.inactive = false) : control ≠ .flagged := by
  rintro rfl
  simp [Phase, working] at phase

theorem Phase.running_of_active {client : GrpcSttStreamClient} {writer : Writer} {control : Control}
    (phase : Phase client writer control) (active : writer.inactive = false) : client.running = true := by
  cases control with
  | idle =>
    by_contra stopped
    simp [Phase, stopped, active] at phase
  | opened => simp [Phase, active] at phase
  | _ => exact phase.1

/-- A step of the writer thread is judged by the progress it makes. -/
theorem Ordered.writer_keeps {state : State} (inv : Ordered state) (coherent : Coherent state)
    (active : state.writer.inactive = false) {client : GrpcSttStreamClient} {writer : Writer} {session : Session}
    (running : client.running = state.client.running)
    (progress : Progress state.client state.log.session state.writer → Progress client session writer) :
    Ordered { state with client := client, writer := writer, log := { state.log with session := session } } := by
  have alive := coherent.phase.running_of_active active
  have spawned := coherent.phase.spawned_of_working active
  exact ⟨inv.finished, coupled_of_progress (running.trans alive) spawned (progress (inv.progress alive spawned))⟩

theorem Ordered.keeps {state next : State} {label : Label} (inv : Ordered state) (coherent : Coherent state)
    (taken : Taken state label next) : Ordered next := by
  have phase := coherent.phase
  cases taken with
  | alreadyStarted callback connection => exact inv
  | alreadyStopped => exact inv
  | unreachable callback connection =>
    exact ⟨inv.finished, inv.coupled.congr rfl rfl rfl rfl rfl rfl rfl⟩
  | opened callback control running =>
    have coupled := inv.coupled.orderly
    exact ⟨inv.finished, by rwa [Coupled, if_pos running]⟩
  | markRunning control =>
    simp only [Phase, control] at phase
    refine ⟨?_, ?_⟩
    · intro session member
      rcases List.mem_append.mp member with earlier | last
      · exact inv.finished session earlier
      · exact List.mem_singleton.mp last ▸ inv.coupled.orderly
    · exact ⟨rfl, (coherent.stopped phase.1).symm⟩
  | startWriter control =>
    simp only [Phase, control] at phase
    have coupled := inv.coupled
    rw [Coupled, if_neg (by simp [phase.1]), if_pos control] at coupled
    exact ⟨inv.finished, coupled_of_progress phase.1 (by simp) ⟨[], coupled.1, coupled.2⟩⟩
  | startReader control =>
    simp only [Phase, control] at phase
    exact ⟨inv.finished, coupled_of_progress phase.1 (by simp) (inv.progress phase.1 (by simp [control]))⟩
  | requestStop control running =>
    have progress := inv.progress running (by simp [control])
    exact ⟨inv.finished, coupled_of_progress running (by simp) (progress.congr rfl id (fun _ => rfl) rfl rfl rfl)⟩
  | joinWriter control writer =>
    simp only [Phase, control] at phase
    exact ⟨inv.finished, coupled_of_progress phase.1 (by simp) (inv.progress phase.1 (by simp [control]))⟩
  | joinReader control =>
    simp only [Phase, control] at phase
    exact ⟨inv.finished, coupled_of_progress phase.1 (by simp) (inv.progress phase.1 (by simp [control]))⟩
  | finish control =>
    simp only [Phase, control] at phase
    exact ⟨inv.finished, coupled_of_progress phase.1 (by simp) (inv.progress phase.1 (by simp [control]))⟩
  | markStopped control => exact ⟨inv.finished, inv.coupled.orderly⟩
  | send frame sender => exact { inv with }
  | drop frame capturedAtUnixMs sender rejects =>
    exact ⟨inv.finished, inv.coupled.congr rfl rfl rfl rfl rfl rfl rfl⟩
  | accept frame capturedAtUnixMs sender room =>
    obtain ⟨running, unbroken, -⟩ := rejects_eq_false room
    have coupled := inv.coupled
    rw [Coupled, if_neg (by simp [running])] at coupled
    refine ⟨inv.finished, ?_⟩
    rw [Coupled, if_neg (by simp [running])]
    split at coupled
    next flagged =>
      rw [if_pos flagged]
      exact ⟨coupled.1, congrArg (· ++ _) coupled.2⟩
    next spawned =>
      rw [if_neg spawned]
      exact coupled.accept unbroken _
  | notified capturedAtUnixMs sender => exact { inv with }
  | pop ok request rest writer queue =>
    refine inv.writer_keeps coherent (writer ▸ rfl) rfl ?_
    rw [writer]
    rintro ⟨sent, shape⟩
    exact ⟨sent, queue ▸ shape⟩
  | drain ok writer queue requested =>
    refine inv.writer_keeps coherent (writer ▸ rfl) rfl ?_
    rw [writer]
    rintro ⟨sent, shape⟩
    exact ⟨sent, none, _, shape, fun failed => absurd rfl failed, fun _ => ⟨rfl, queue ▸ Nat.zero_le _, requested⟩⟩
  | written request writer =>
    refine inv.writer_keeps coherent (writer ▸ rfl) rfl ?_
    rw [writer]
    rintro ⟨sent, wire, accepted⟩
    refine ⟨sent ++ [request], ?_, ?_⟩
    · simp [wire]
    · simpa using accepted
  | refused request writer =>
    refine inv.writer_keeps coherent (writer ▸ rfl) rfl ?_
    rw [writer]
    rintro ⟨sent, wire, accepted⟩
    refine ⟨sent, request, ?_, ?_⟩
    · simp [wire]
    · simpa using accepted
  | count ok writer =>
    refine inv.writer_keeps coherent (writer ▸ rfl) rfl ?_
    rw [writer]
    exact id
  | breakStream ok writer =>
    refine inv.writer_keeps coherent (writer ▸ rfl) rfl ?_
    rw [writer]
    rintro ⟨sent, request, shape⟩
    exact ⟨sent, some request, _, shape, fun _ => rfl, fun sound => by cases sound⟩
  | writesDone ok writer =>
    refine inv.writer_keeps coherent (writer ▸ rfl) rfl ?_
    rw [writer]
    rintro ⟨sent, failed, rest, ⟨wire, accepted⟩, broken, drained⟩
    refine ⟨sent, failed, rest, ⟨?_, accepted⟩, broken, drained⟩
    simp [wire]
  | received segment delivered =>
    exact ⟨inv.finished, inv.coupled.congr rfl rfl rfl rfl rfl rfl rfl⟩
  | readEnded => exact { inv with }

private theorem filterMap_writes (requests : List StreamTranscriptionRequest) (ok : Bool) :
    (requests.map (.write · ok)).filterMap WireEvent.request? = requests := by
  simp [List.filterMap_map, Function.comp_def, WireEvent.request?]

theorem Shape.passed {session : Session} {sent rest : List StreamTranscriptionRequest}
    {failed : Option StreamTranscriptionRequest} {closed : Bool} (shape : Shape session sent failed closed rest) :
    session.passed = sent ++ failed.toList := by
  rw [Session.passed, shape.wire, List.filterMap_append, List.filterMap_append, filterMap_writes, filterMap_writes]
  cases closed <;> simp [WireEvent.request?]

private theorem tail_silent (failed : Option StreamTranscriptionRequest) (closed : Bool) :
    ∀ later ∈ (failed.toList.map (WireEvent.write · false) ++ (if closed then [WireEvent.writesDone] else [])).tail,
      later.request? = none := by
  cases failed <;> cases closed <;> simp [WireEvent.request?]

/-- The tail of a wire after an event that ends it holds no write. -/
private theorem silent_of_shape {session : Session} {sent rest : List StreamTranscriptionRequest}
    {failed : Option StreamTranscriptionRequest} {closed : Bool} (shape : Shape session sent failed closed rest) :
    ∀ before event after, session.wire = before ++ event :: after → event.ends = true →
      ∀ later ∈ after, later.request? = none := by
  intro before event after split ends
  rw [shape.wire, List.append_assoc] at split
  have tail : ∀ before event after, failed.toList.map (WireEvent.write · false) ++
      (if closed then [WireEvent.writesDone] else []) = before ++ event :: after →
      ∀ later ∈ after, later.request? = none := by
    intro before event after split later member
    have inside : later ∈ (failed.toList.map (WireEvent.write · false) ++
        (if closed then [WireEvent.writesDone] else [])).tail := by
      rw [split]
      cases before <;> simp [member]
    exact tail_silent failed closed later inside
  rcases List.append_eq_append_iff.mp split with ⟨middle, rfl, rest⟩ | ⟨middle, inside, rest⟩
  · exact tail _ _ _ rest
  · cases middle with
    | nil => exact tail [] event after (by simpa using rest.symm)
    | cons first middle =>
      obtain ⟨rfl, -⟩ := List.cons.inj rest
      have member : event ∈ sent.map (WireEvent.write · true) := inside ▸ by simp
      obtain ⟨request, -, rfl⟩ := List.mem_map.mp member
      cases ends

theorem Orderly.inOrder {session : Session} (orderly : Orderly session) : session.InOrder := by
  obtain ⟨sent, failed, closed, rest, shape, within⟩ := orderly
  refine ⟨?_, silent_of_shape shape, ?_⟩
  · rw [shape.passed, shape.accepted]
    exact List.prefix_append _ _
  · intro unfailed timely done
    obtain rfl : failed = none := by
      cases failed with
      | none => rfl
      | some request => exact absurd (by simp [shape.wire]) (unfailed request)
    obtain rfl : closed = true := by
      by_contra opened
      simp [shape.wire, opened] at done
    have none : rest = [] := List.eq_nil_of_length_eq_zero (by have := within rfl rfl; omega)
    simp [shape.wire, shape.accepted, none]

private theorem taken_of_inactive {writer : Writer} (inactive : writer.inactive = true) : writer.taken = [] := by
  cases writer <;> simp_all [Writer.inactive, Writer.taken]

theorem Progress.current {client : GrpcSttStreamClient} {session : Session} {writer : Writer}
    (progress : Progress client session writer) (broken : client.streamBroken = true → client.queue = []) :
    ∃ earlier, session.accepted = earlier ++ writer.taken ++ client.queue := by
  cases writer with
  | unstarted => cases progress
  | waiting | sent =>
    obtain ⟨sent, shape⟩ := progress
    exact ⟨sent, shape.accepted⟩
  | popped request =>
    obtain ⟨sent, shape⟩ := progress
    exact ⟨sent, by simp [shape.accepted, Writer.taken]⟩
  | failed =>
    obtain ⟨sent, request, shape⟩ := progress
    exact ⟨sent ++ [request], by simp [shape.accepted, Writer.taken]⟩
  | closing | exited =>
    obtain ⟨sent, failed, rest, shape, failure, drained⟩ := progress
    cases failed with
    | none =>
      obtain ⟨rfl, -⟩ := drained rfl
      exact ⟨sent, shape.accepted⟩
    | some request =>
      have empty := broken (failure nofun)
      exact ⟨session.accepted, by simp [empty, Writer.taken]⟩

/-- What the queue and the writer hold comes after everything written in the session. -/
theorem Ordered.current {state : State} (inv : Ordered state) (coherent : Coherent state) :
    ∃ earlier, state.log.session.accepted = earlier ++ state.writer.taken ++ state.client.queue := by
  by_cases active : state.writer.inactive = true
  · have none := taken_of_inactive active
    cases running : state.client.running with
    | false => exact ⟨state.log.session.accepted, by simp [none, coherent.stopped running]⟩
    | true =>
      by_cases flagged : state.control = .flagged
      · have coupled := inv.coupled
        rw [Coupled, if_neg (by simp [running]), if_pos flagged] at coupled
        exact ⟨[], by simp [none, coupled.2]⟩
      · exact (inv.progress running flagged).current coherent.broken
  · have active : state.writer.inactive = false := Bool.eq_false_iff.mpr active
    have running := coherent.phase.running_of_active active
    have spawned := coherent.phase.spawned_of_working active
    exact (inv.progress running spawned).current coherent.broken

/-- For every capacity and every schedule the uploads of each session are in order. -/
theorem uploads_in_order (config : GrpcSttClientConfig) (schedule : List Label) (state : State)
    (run : Machine.Run step (initial config) schedule state) : UploadsInOrder state := by
  obtain ⟨coherent, ordered⟩ : Coherent state ∧ Ordered state := by
    refine run.invariant (I := fun state => Coherent state ∧ Ordered state) ?_
      ⟨Coherent.start config, Ordered.start config⟩
    rintro before label after ⟨coherent, ordered⟩ taken
    have taken := taken_of_step taken
    exact ⟨coherent.keeps taken, ordered.keeps coherent taken⟩
  refine ⟨?_, ordered.current coherent, coherent.bounded⟩
  intro session member
  rcases List.mem_append.mp member with earlier | last
  · exact (ordered.finished session earlier).inOrder
  · exact List.mem_singleton.mp last ▸ ordered.coupled.orderly.inOrder

/-- Two sessions: the first breaks at its second frame, the second writes the only frame it accepts. -/
def brokenThenFine : List Label :=
  ([.start true .opened, .control, .control, .control] : List Label) ++
    ([.send {}, .sender 0, .sender 0, .send {}, .sender 1, .sender 0, .send {}, .sender 2, .sender 0] : List Label) ++
    ([.writer true, .writer true, .writer true, .writer true, .writer false, .writer true,
      .writer true] : List Label) ++
    ([.stop, .reader none, .control, .control, .control, .control] : List Label) ++
    ([.start true .opened, .control, .control, .control, .send {}, .sender 3, .sender 0] : List Label) ++
    ([.writer true, .writer true, .writer true, .stop, .writer true, .writer true] : List Label)

theorem uploads_in_order_restart : ∃ state : State, Machine.Run step (initial {}) brokenThenFine state ∧
    state.log.finished.map (·.wire.length) = [0, 3] ∧ state.log.session.wire.length = 2 ∧ UploadsInOrder state := by
  have outcome : (Machine.exec step (initial {}) brokenThenFine).map (fun state =>
      (state.log.finished.map (·.wire.length), state.log.session.wire.length)) = some ([0, 3], 2) := by
    decide +kernel
  obtain ⟨state, run, same⟩ := Option.map_eq_some_iff.mp outcome
  obtain ⟨finished, session⟩ := Prod.mk.inj same
  exact ⟨state, run, finished, session, uploads_in_order {} brokenThenFine state run⟩

end VoxMesh.Stt.Streaming
