import VoxMesh.Model.TranscriptionLink
import VoxMesh.Soundness.SttUploadOrder

/-! # What the transport and the handler keep

`Reading` ties the reader thread to the control thread as `Phase` does for the writer thread. `Carries` says where the
requests of a session are, between the writer thread and the handler, and where the responses are, between the handler
and the callback; what the handler has written is what its loop makes of the requests it has read.
-/

namespace VoxMesh.Stt

namespace Testing

/-- The loop pass by pass. -/
theorem serve_cons (options : MockSttServerOptions) (session : ServerSession) (stats : MockSttServerStats)
    (reception : Reception) (rest : List Reception) : serve options session stats (reception :: rest) =
      let pass := pass options session stats reception
      if pass.goesOn then
        (pass.response.toList ++ (serve options pass.session pass.stats rest).1,
          (serve options pass.session pass.stats rest).2)
      else ([], pass.stats) := by
  rw [serve, pass]
  dsimp only
  split
  next => rfl
  next =>
    split
    next => rfl
    next => split <;> rfl

/-- The pass that ends the loop has written nothing. -/
theorem response_of_ended {options : MockSttServerOptions} {session : ServerSession} {stats : MockSttServerStats}
    {reception : Reception} (ended : (pass options session stats reception).goesOn = false) :
    (pass options session stats reception).response = none := by
  unfold pass at ended ⊢
  dsimp only at ended ⊢
  split at ended
  next => cases ended
  next =>
    split at ended
    next => cases ended
    next =>
      split at ended
      next => simp_all
      next => cases ended

/-- A pass ends the loop only by a failed write. -/
theorem written_of_ended {options : MockSttServerOptions} {session : ServerSession} {stats : MockSttServerStats}
    {reception : Reception} (ended : (pass options session stats reception).goesOn = false) :
    reception.written = false := by
  unfold pass at ended
  dsimp only at ended
  split at ended
  next => cases ended
  next =>
    split at ended
    next => cases ended
    next =>
      split at ended
      next failed => simpa using failed
      next => cases ended

end Testing

namespace Streaming

/-- The requests that were written successfully. -/
def WireEvent.sent? : WireEvent → Option StreamTranscriptionRequest
  | .write request true => some request
  | _ => none

def Session.sent (session : Session) : List StreamTranscriptionRequest := session.wire.filterMap WireEvent.sent?

theorem Shape.sent {session : Session} {sent rest : List StreamTranscriptionRequest}
    {failed : Option StreamTranscriptionRequest} {closed : Bool} (shape : Shape session sent failed closed rest) :
    session.sent = sent := by
  rw [Session.sent, shape.wire, List.filterMap_append, List.filterMap_append, List.filterMap_map, List.filterMap_map]
  cases failed <;> cases closed <;> simp [Function.comp_def, WireEvent.sent?]

/-- Where the reader thread is at each position of the control thread. -/
def Reading (client : GrpcSttStreamClient) (reader : Reader) : Control → Prop
  | .idle => if client.running then reader ≠ .unstarted else reader ≠ .reading
  | .opened | .flagged | .writerStarted => reader ≠ .reading
  | .joiningWriter | .joiningReader => reader ≠ .unstarted
  | .finishing | .clearing => reader = .exited

theorem idle_of_stop {state next : State} (taken : stop state = some next) : state.control = .idle := by
  unfold stop at taken
  split at taken
  next control => exact control
  next => cases taken

/-- `start` does nothing while the client runs. -/
theorem start_eq {state next : State} {callback : Bool} {connection : Connection}
    (taken : start state callback connection = some next) : next = state ∨ state.client.running = false ∧
      ∃ control, next = { state with client := { state.client with callback := callback }, control := control } := by
  unfold start at taken
  split at taken
  next control =>
    split at taken
    next => exact .inl (Option.some.inj taken).symm
    next stopped =>
      refine .inr ⟨Bool.eq_false_iff.mpr stopped, ?_⟩
      cases connection with
      | opened => exact ⟨.opened, (Option.some.inj taken).symm⟩
      | unreachable | noStream => exact ⟨state.control, (Option.some.inj taken).symm⟩
  next => cases taken

theorem idle_of_start {state next : State} {callback : Bool} {connection : Connection}
    (taken : start state callback connection = some next) : state.control = .idle := by
  unfold start at taken
  split at taken
  next control => exact control
  next => cases taken

theorem exited_of_join {state next : State} (control : state.control = .joiningReader)
    (taken : controlStep state = some next) : state.reader = .exited := by
  simp only [controlStep, control] at taken
  split at taken
  next reader => exact reader
  next => cases taken

theorem received_eq {state next : State} {segment : TranscriptSegment}
    (taken : readerStep state (some segment) = some next) : state.reader = .reading ∧ next = { state with
      client := { state.client with updatesReceived := state.client.updatesReceived + 1 }
      log := if state.client.callback then { state.log with session := { state.log.session with
        delivered := state.log.session.delivered ++ [toUpdate segment] } } else state.log } := by
  cases reader : state.reader with
  | reading =>
    simp only [readerStep, reader] at taken
    exact ⟨rfl, (Option.some.inj taken).symm⟩
  | unstarted | exited =>
    simp only [readerStep, reader] at taken
    cases taken

theorem readEnded_eq {state next : State} (taken : readerStep state none = some next) :
    state.reader = .reading ∧ next = { state with reader := .exited } := by
  cases reader : state.reader with
  | reading =>
    simp only [readerStep, reader] at taken
    exact ⟨rfl, (Option.some.inj taken).symm⟩
  | unstarted | exited =>
    simp only [readerStep, reader] at taken
    cases taken

/-- The reader runs only between the start and the end of a session. -/
theorem running_of_reading {state : State} (coherent : Coherent state)
    (reading : Reading state.client state.reader state.control) (active : state.reader = .reading) :
    state.client.running = true ∧ state.control ≠ .opened := by
  have phase := coherent.phase
  cases control : state.control with
  | idle =>
    refine ⟨?_, by simp⟩
    by_contra stopped
    simp [Reading, control, stopped, active] at reading
  | joiningWriter | joiningReader =>
    simp only [Phase, control] at phase
    exact ⟨phase.1, by simp⟩
  | _ => simp [Reading, control, active] at reading

theorem Reading.keeps {state next : State} {label : Label} (coherent : Coherent state)
    (reading : Reading state.client state.reader state.control) (taken : step state label = some next) :
    Reading next.client next.reader next.control := by
  cases label with
  | reader response =>
    cases response with
    | some segment =>
      obtain ⟨-, rfl⟩ := received_eq taken
      exact reading
    | none =>
      obtain ⟨active, rfl⟩ := readEnded_eq taken
      obtain ⟨running, -⟩ := running_of_reading coherent reading active
      cases control : state.control <;> simp_all [Reading]
  | control =>
    have phase := coherent.phase
    have exited := fun control => exited_of_join control taken
    cases taken_of_step taken with
    | joinReader control => simpa [Reading] using exited control
    | markRunning control | startWriter control | startReader control | joinWriter control _ | finish control
    | markStopped control => simp_all [Reading, Phase, GrpcSttStreamClient.markStopped]
  | start callback connection =>
    cases taken_of_step taken with
    | alreadyStarted | unreachable => exact reading
    | opened _ control running => simpa [Reading, control, running] using reading
  | stop =>
    cases taken_of_step taken with
    | alreadyStopped => exact reading
    | requestStop control running => simpa [Reading, control, running] using reading
  | send frame =>
    cases taken_of_step taken
    exact reading
  | sender capturedAtUnixMs => cases taken_of_step taken <;> exact reading
  | writer ok =>
    cases taken_of_step taken <;> exact reading

/-- What holds of the client by itself. -/
structure Sound (state : State) : Prop where
  coherent : Coherent state
  ordered : Ordered state
  reading : Reading state.client state.reader state.control

theorem Sound.start (config : GrpcSttClientConfig) : Sound (initial config) :=
  ⟨Coherent.start config, Ordered.start config, by simp [Reading, initial]⟩

theorem Sound.keeps {state next : State} {label : Label} (sound : Sound state) (taken : step state label = some next) :
    Sound next where
  coherent := sound.coherent.keeps (taken_of_step taken)
  ordered := sound.ordered.keeps sound.coherent (taken_of_step taken)
  reading := sound.reading.keeps sound.coherent taken

end Streaming

namespace Link

open Testing
open Streaming (Sound)

variable {options : MockSttServerOptions} {link next : Link} {client : Streaming.State}

theorem transport_client {label : Streaming.Label} (moved : link.transport client label = some next) :
    next.client = client := by
  unfold transport at moved
  repeat' split at moved
  all_goals first | cases moved; rfl | cases moved

/-- The handler reads the next request, and what it answers can be written unless the connection is lost. -/
theorem handle_eq {unixMs : ℤ} {written : Bool} (taken : link.handle options unixMs written = some next) :
    ∃ session request rest, link.handler = some session ∧ link.requests = request :: rest ∧
      (written || link.lost) = true ∧ next = { link with
        handler := if (pass options session link.stats ⟨request, unixMs, written⟩).goesOn then
          some (pass options session link.stats ⟨request, unixMs, written⟩).session else none
        stats := (pass options session link.stats ⟨request, unixMs, written⟩).stats
        requests := rest
        responses := link.responses ++ (pass options session link.stats ⟨request, unixMs, written⟩).response.toList
        receptions := link.receptions ++ [⟨request, unixMs, written⟩]
        written := link.written ++ (pass options session link.stats ⟨request, unixMs, written⟩).response.toList } := by
  unfold handle at taken
  split at taken
  next session request rest handler requests =>
    obtain ⟨stands, taken⟩ := Option.ite_none_right_eq_some.mp taken
    exact ⟨session, request, rest, handler, requests, stands, (Option.some.inj taken).symm⟩
  next => cases taken

/-- The handler ends where the stream was closed and everything read, or the connection is lost. -/
theorem handlerEnds_eq (taken : link.handlerEnds = some next) : ∃ session, link.handler = some session ∧
    (link.lost = true ∨ link.halfClosed = true ∧ link.requests = []) ∧ next = { link with handler := none } := by
  obtain ⟨stops, taken⟩ := Option.ite_none_right_eq_some.mp taken
  obtain ⟨present, ends⟩ := Bool.and_eq_true_iff.mp stops
  obtain ⟨session, handler⟩ := Option.isSome_iff_exists.mp present
  refine ⟨session, handler, ?_, (Option.some.inj taken).symm⟩
  rcases Bool.or_eq_true_iff.mp ends with lost | whole
  · exact .inl lost
  · obtain ⟨half, empty⟩ := Bool.and_eq_true_iff.mp whole
    exact .inr ⟨half, List.isEmpty_iff.mp empty⟩

theorem lose_eq (taken : step options link .lose = some next) :
    link.lost = false ∧ next = { link with lost := true } := by
  obtain ⟨stands, taken⟩ := Option.ite_none_left_eq_some.mp taken
  exact ⟨Bool.eq_false_iff.mpr stands, (Option.some.inj taken).symm⟩

/-- A step of the link is one of the client or leaves the client alone. -/
theorem client_of_step {label : Label} (taken : step options link label = some next) :
    (∃ inner, label = .client inner ∧ Streaming.step link.client inner = some next.client ∧
      link.transport next.client inner = some next) ∨ next.client = link.client := by
  cases label with
  | client inner =>
    obtain ⟨client, made, moved⟩ := Option.bind_eq_some_iff.mp taken
    obtain rfl := transport_client moved
    exact .inl ⟨inner, rfl, made, moved⟩
  | handle unixMs written =>
    obtain ⟨session, request, rest, -, -, -, rfl⟩ := handle_eq taken
    exact .inr rfl
  | handlerEnds =>
    obtain ⟨session, -, -, rfl⟩ := handlerEnds_eq taken
    exact .inr rfl
  | lose =>
    obtain ⟨-, rfl⟩ := lose_eq taken
    exact .inr rfl

theorem sound_keeps {label : Label} (sound : Sound link.client) (taken : step options link label = some next) :
    Sound next.client := by
  rcases client_of_step taken with ⟨inner, -, made, -⟩ | same
  · exact sound.keeps made
  · exact same ▸ sound

/-- What the handler has written is what its loop makes of the requests that it has read. -/
def Served (options : MockSttServerOptions) (link : Link) : Prop := ∃ start,
  match link.handler with
  | some session => ∀ rest, serve options {} start (link.receptions ++ rest) =
      (link.written ++ (serve options session link.stats rest).1, (serve options session link.stats rest).2)
  | none => serve options {} start link.receptions = (link.written, link.stats)

theorem Served.handle {unixMs : ℤ} {written : Bool} (served : link.Served options)
    (taken : link.handle options unixMs written = some next) : next.Served options := by
  obtain ⟨start, soFar⟩ := served
  obtain ⟨session, request, rest, handler, -, -, rfl⟩ := handle_eq taken
  rw [handler] at soFar
  refine ⟨start, ?_⟩
  cases goesOn : (pass options session link.stats ⟨request, unixMs, written⟩).goesOn with
  | true =>
    intro more
    simp only [List.append_assoc, List.singleton_append, soFar, serve_cons, goesOn, if_true]
  | false =>
    have ended := soFar [⟨request, unixMs, written⟩]
    have none : (pass options session link.stats ⟨request, unixMs, written⟩).response = none :=
      response_of_ended goesOn
    simpa only [serve_cons, goesOn, none, Bool.false_eq_true, if_false, Option.toList_none, List.append_nil]
      using ended

theorem Served.handlerEnds (served : link.Served options) (taken : link.handlerEnds = some next) :
    next.Served options := by
  obtain ⟨start, soFar⟩ := served
  obtain ⟨session, handler, -, rfl⟩ := handlerEnds_eq taken
  rw [handler] at soFar
  exact ⟨start, by simpa [serve] using soFar []⟩

theorem Served.transport {label : Streaming.Label} (served : link.Served options)
    (moved : link.transport client label = some next) : next.Served options := by
  unfold Link.transport at moved
  repeat' split at moved
  all_goals first
    | (obtain rfl := Option.some.inj moved; exact served)
    | (obtain rfl := Option.some.inj moved; exact ⟨_, fun rest => rfl⟩)
    | cases moved

/-- Where the requests and the responses of the session are. -/
structure Carries (link : Link) : Prop where
  sent : link.receptions.map (·.request) ++ link.requests = link.client.log.session.sent
  answered : ∃ read, link.written = read ++ link.responses ∧ link.client.log.session.delivered =
    if link.listening then read.map (toUpdate ·.toTranscriptSegment) else []
  heard : link.client.client.running = true → link.client.client.callback = link.listening

/-- Client steps that neither write nor read leave the transport alone. -/
theorem Carries.congr (carries : link.Carries) (wire : client.log.session.wire = link.client.log.session.wire)
    (delivered : client.log.session.delivered = link.client.log.session.delivered)
    (heard : client.client.running = true → link.client.client.running = true ∧
      client.client.callback = link.client.client.callback) : Carries { link with client := client } where
  sent := by rw [carries.sent, Streaming.Session.sent, Streaming.Session.sent, wire]
  answered := by rw [delivered]; exact carries.answered
  heard running := (heard running).2.trans (carries.heard (heard running).1)

theorem Carries.control (carries : link.Carries) (sound : Sound link.client)
    (made : Streaming.controlStep link.client = some client) (moved : link.transport client .control = some next) :
    next.Carries := by
  have phase := sound.coherent.phase
  have taken : Streaming.step link.client .control = some client := made
  cases Streaming.taken_of_step taken with
  | markRunning control =>
    simp only [transport, control] at moved
    obtain rfl := Option.some.inj moved
    exact ⟨rfl, ⟨[], rfl, (ite_self _).symm⟩, fun _ => rfl⟩
  | startWriter control | startReader control | joinWriter control _ | joinReader control =>
    simp only [transport, control] at moved
    obtain rfl := Option.some.inj moved
    exact carries.congr rfl rfl fun running => ⟨running, rfl⟩
  | finish control =>
    simp only [transport, control] at moved
    split at moved
    next =>
      obtain rfl := Option.some.inj moved
      exact carries.congr rfl rfl fun running => ⟨running, rfl⟩
    next => cases moved
  | markStopped control =>
    simp only [transport, control] at moved
    obtain rfl := Option.some.inj moved
    exact carries.congr rfl rfl nofun

theorem Carries.writer {ok : Bool} (carries : link.Carries) (made : Streaming.writerStep link.client ok = some client)
    (moved : link.transport client (.writer ok) = some next) : next.Carries := by
  have taken : Streaming.step link.client (.writer ok) = some client := made
  cases Streaming.taken_of_step taken with
  | pop _ request rest writer | drain _ writer | count _ writer | breakStream _ writer =>
    simp only [transport, writer] at moved
    obtain rfl := Option.some.inj moved
    exact carries.congr rfl rfl fun running => ⟨running, rfl⟩
  | written request writer =>
    simp only [transport, writer, if_true] at moved
    obtain rfl := Option.some.inj moved
    refine { carries with sent := ?_ }
    rw [← List.append_assoc, carries.sent]
    simp [Streaming.Session.sent, Streaming.onWire, Streaming.WireEvent.sent?]
  | refused request writer =>
    simp only [transport, writer, Bool.false_eq_true, if_false] at moved
    split at moved
    next =>
      obtain rfl := Option.some.inj moved
      refine { carries with sent := ?_ }
      rw [carries.sent]
      simp [Streaming.Session.sent, Streaming.onWire, Streaming.WireEvent.sent?]
    next => cases moved
  | writesDone _ writer =>
    simp only [transport, writer] at moved
    obtain rfl := Option.some.inj moved
    refine { carries with sent := ?_ }
    rw [carries.sent]
    simp [Streaming.Session.sent, Streaming.onWire, Streaming.WireEvent.sent?]

theorem Carries.reader {response : Option TranscriptSegment} (carries : link.Carries) (sound : Sound link.client)
    (made : Streaming.readerStep link.client response = some client)
    (moved : link.transport client (.reader response) = some next) : next.Carries := by
  cases response with
  | none =>
    obtain ⟨-, rfl⟩ := Streaming.readEnded_eq made
    simp only [transport] at moved
    split at moved
    next =>
      obtain rfl := Option.some.inj moved
      exact carries.congr rfl rfl fun running => ⟨running, rfl⟩
    next => cases moved
  | some segment =>
    obtain ⟨active, rfl⟩ := Streaming.received_eq made
    obtain ⟨running, -⟩ := Streaming.running_of_reading sound.coherent sound.reading active
    obtain ⟨read, written, delivered⟩ := carries.answered
    simp only [transport] at moved
    split at moved
    next => cases moved
    next response rest responses =>
      split at moved
      next same =>
        obtain rfl := Option.some.inj moved
        refine ⟨?_, ⟨read ++ [response], by rw [written, responses]; simp, ?_⟩, carries.heard⟩
        · rw [carries.sent]
          dsimp only
          split <;> rfl
        · rw [carries.heard running]
          cases listening : link.listening with
          | true => simp only [listening, if_true] at delivered ⊢; simp [delivered, same]
          | false => simpa [listening] using delivered
      next => cases moved

theorem Carries.keeps {label : Label} (carries : link.Carries) (sound : Sound link.client)
    (taken : step options link label = some next) : next.Carries := by
  cases label with
  | client inner =>
    obtain ⟨client, made, moved⟩ := Option.bind_eq_some_iff.mp taken
    cases inner with
    | control => exact carries.control sound made moved
    | writer ok => exact carries.writer made moved
    | reader response => exact carries.reader sound made moved
    | start callback connection =>
      obtain rfl := Option.some.inj moved
      obtain rfl | ⟨stopped, control, rfl⟩ := Streaming.start_eq made
      · exact carries
      · exact carries.congr rfl rfl fun running => absurd (stopped.symm.trans running) nofun
    | stop =>
      obtain rfl := Option.some.inj moved
      have taken : Streaming.step link.client .stop = some client := made
      cases Streaming.taken_of_step taken with
      | alreadyStopped => exact carries
      | requestStop => exact carries.congr rfl rfl fun running => ⟨running, rfl⟩
    | send frame =>
      obtain rfl := Option.some.inj moved
      cases Streaming.taken_of_step made
      exact carries.congr rfl rfl fun running => ⟨running, rfl⟩
    | sender capturedAtUnixMs =>
      obtain rfl := Option.some.inj moved
      have taken : Streaming.step link.client (.sender capturedAtUnixMs) = some client := made
      cases Streaming.taken_of_step taken with
      | drop | accept | notified => exact carries.congr rfl rfl fun running => ⟨running, rfl⟩
  | handle unixMs written =>
    obtain ⟨session, request, rest, -, requests, -, rfl⟩ := handle_eq taken
    obtain ⟨read, written, delivered⟩ := carries.answered
    refine ⟨?_, ⟨read, by rw [written, List.append_assoc], delivered⟩, carries.heard⟩
    rw [← carries.sent, requests]
    simp
  | handlerEnds =>
    obtain ⟨session, -, -, rfl⟩ := handlerEnds_eq taken
    exact { carries with }
  | lose =>
    obtain ⟨-, rfl⟩ := lose_eq taken
    exact { carries with }

/-- How the two sides of the stream end. -/
structure Closing (link : Link) : Prop where
  fresh : link.client.control = .flagged → link.halfClosed = false
  closed : link.halfClosed = true → link.client.writer = .exited ∧ .writesDone ∈ link.client.log.session.wire
  exited : link.client.writer = .exited → link.client.control ≠ .flagged → link.halfClosed = true
  handled : link.handler = none →
    link.lost = true ∨ link.requests = [] ∧
      (link.halfClosed = true ∨ link.client.writer = .unstarted ∧ link.client.control ≠ .flagged)
  heard : link.client.reader = .exited → link.client.control ≠ .flagged → link.client.control ≠ .writerStarted →
    link.lost = true ∨ link.handler = none ∧ link.responses = []
  unfailed : link.lost = false → ∀ request, .write request false ∉ link.client.log.session.wire

/-- The handler of a connection that stands is not done while there is a writer thread. -/
theorem Closing.lost (closing : link.Closing) (active : link.client.writer.inactive = false)
    (gone : link.handlerGone = true) : link.lost = true := by
  rcases Bool.or_eq_true_iff.mp gone with lost | done
  · exact lost
  · rcases closing.handled (Option.isNone_iff_eq_none.mp done) with lost | ⟨-, closed | ⟨unstarted, -⟩⟩
    · exact lost
    · simp [(closing.closed closed).1, Streaming.Writer.inactive] at active
    · simp [unstarted, Streaming.Writer.inactive] at active

/-- A client step that leaves the writer and the reader alone, as well as what they and the start look at. -/
theorem Closing.congr (closing : link.Closing) (writer : client.writer = link.client.writer)
    (reader : client.reader = link.client.reader) (wire : client.log.session.wire = link.client.log.session.wire)
    (flagged : client.control = .flagged ↔ link.client.control = .flagged)
    (started : client.control ≠ .writerStarted → link.client.reader = .exited → link.client.control ≠ .writerStarted) :
    Closing { link with client := client } where
  fresh control := closing.fresh (flagged.mp control)
  closed half := by rw [writer, wire]; exact closing.closed half
  exited gone control := closing.exited (writer ▸ gone) (mt flagged.mpr control)
  handled done := by rw [writer, ne_eq, flagged]; exact closing.handled done
  heard gone control apart := closing.heard (reader ▸ gone) (mt flagged.mpr control) (started apart (reader ▸ gone))
  unfailed stands := by rw [wire]; exact closing.unfailed stands

theorem Closing.control (closing : link.Closing) (sound : Sound link.client)
    (made : Streaming.controlStep link.client = some client) (moved : link.transport client .control = some next) :
    next.Closing := by
  have phase := sound.coherent.phase
  have taken : Streaming.step link.client .control = some client := made
  cases Streaming.taken_of_step taken with
  | markRunning control =>
    simp only [transport, control] at moved
    obtain rfl := Option.some.inj moved
    exact ⟨fun _ => rfl, nofun, fun _ apart => absurd rfl apart, nofun, fun _ apart => absurd rfl apart, by
      simp [opened]⟩
  | startWriter control =>
    simp only [transport, control] at moved
    obtain rfl := Option.some.inj moved
    have fresh := closing.fresh control
    refine ⟨nofun, fun half => absurd (fresh.symm.trans half) nofun, nofun, fun done => ?_,
      fun _ _ apart => absurd rfl apart, closing.unfailed⟩
    rcases closing.handled done with lost | ⟨-, half | ⟨-, apart⟩⟩
    · exact .inl lost
    · exact absurd (fresh.symm.trans half) nofun
    · exact absurd control apart
  | startReader control =>
    simp only [transport, control] at moved
    obtain rfl := Option.some.inj moved
    exact { closing with
      fresh := nofun
      exited := fun gone _ => closing.exited gone (by simp [control])
      handled := fun done => (closing.handled done).imp_right fun ⟨empty, ends⟩ =>
        ⟨empty, ends.imp_right fun unstarted => ⟨unstarted.1, nofun⟩⟩
      heard := nofun }
  | joinWriter control _ | joinReader control =>
    simp only [transport, control] at moved
    obtain rfl := Option.some.inj moved
    exact closing.congr rfl rfl rfl (by simp [control]) (by simp [control])
  | finish control =>
    simp only [transport, control] at moved
    split at moved
    next =>
      obtain rfl := Option.some.inj moved
      exact closing.congr rfl rfl rfl (by simp [control]) (by simp [control])
    next => cases moved
  | markStopped control =>
    simp only [transport, control] at moved
    obtain rfl := Option.some.inj moved
    exact closing.congr rfl rfl rfl (by simp [control]) (by simp [control])

theorem Closing.writer {ok : Bool} (closing : link.Closing) (sound : Sound link.client)
    (made : Streaming.writerStep link.client ok = some client)
    (moved : link.transport client (.writer ok) = some next) : next.Closing := by
  have spawned (active : link.client.writer.inactive = false) : link.client.control ≠ .flagged :=
    sound.coherent.phase.spawned_of_working active
  have unclosed (active : link.client.writer.inactive = false) : ¬ link.halfClosed = true := by
    intro half
    simp [(closing.closed half).1, Streaming.Writer.inactive] at active
  have standing (active : link.client.writer.inactive = false) (done : link.handler = none) : link.lost = true :=
    closing.lost active (Bool.or_eq_true_iff.mpr (.inr (Option.isNone_iff_eq_none.mpr done)))
  have taken : Streaming.step link.client (.writer ok) = some client := made
  cases Streaming.taken_of_step taken with
  | pop _ request rest writer | drain _ writer | count _ writer | breakStream _ writer =>
    have active : link.client.writer.inactive = false := by rw [writer]; rfl
    simp only [transport, writer] at moved
    obtain rfl := Option.some.inj moved
    exact { closing with
      closed := fun half => absurd half (unclosed active)
      exited := by simp
      handled := fun done => .inl (standing active done) }
  | written request writer =>
    have active : link.client.writer.inactive = false := by rw [writer]; rfl
    simp only [transport, writer, if_true] at moved
    obtain rfl := Option.some.inj moved
    exact { closing with
      closed := fun half => absurd half (unclosed active)
      exited := by simp
      handled := fun done => .inl (standing active done)
      unfailed := fun stands other => by simpa [Streaming.onWire] using closing.unfailed stands other }
  | refused request writer =>
    have active : link.client.writer.inactive = false := by rw [writer]; rfl
    simp only [transport, writer, Bool.false_eq_true, if_false] at moved
    split at moved
    next gone =>
      obtain rfl := Option.some.inj moved
      exact { closing with
        closed := fun half => absurd half (unclosed active)
        exited := by simp
        handled := fun done => .inl (standing active done)
        unfailed := fun stands => by simp [closing.lost active gone] at stands }
    next => cases moved
  | writesDone _ writer =>
    have active : link.client.writer.inactive = false := by rw [writer]; rfl
    simp only [transport, writer] at moved
    obtain rfl := Option.some.inj moved
    exact { closing with
      fresh := fun control => absurd control (spawned active)
      closed := fun _ => ⟨rfl, by simp [Streaming.onWire]⟩
      exited := fun _ _ => rfl
      handled := fun done => .inl (standing active done)
      unfailed := fun stands other => by simpa [Streaming.onWire] using closing.unfailed stands other }

theorem Closing.reader {response : Option TranscriptSegment} (closing : link.Closing)
    (made : Streaming.readerStep link.client response = some client)
    (moved : link.transport client (.reader response) = some next) : next.Closing := by
  cases response with
  | none =>
    obtain ⟨-, rfl⟩ := Streaming.readEnded_eq made
    simp only [transport] at moved
    split at moved
    next gone =>
      obtain rfl := Option.some.inj moved
      refine { closing with heard := fun _ _ _ => ?_ }
      simpa [responsesEnd, Bool.or_eq_true_iff, Option.isNone_iff_eq_none, List.isEmpty_iff] using gone
    next => cases moved
  | some segment =>
    obtain ⟨active, rfl⟩ := Streaming.received_eq made
    simp only [transport] at moved
    split at moved
    next => cases moved
    next response rest responses =>
      split at moved
      next =>
        obtain rfl := Option.some.inj moved
        refine { closing with
          closed := ?_, unfailed := ?_, heard := fun ended => absurd (active.symm.trans ended) nofun }
        · dsimp only
          split <;> exact closing.closed
        · dsimp only
          split <;> exact closing.unfailed
      next => cases moved

theorem Closing.keeps {label : Label} (closing : link.Closing) (sound : Sound link.client)
    (taken : step options link label = some next) : next.Closing := by
  cases label with
  | client inner =>
    obtain ⟨client, made, moved⟩ := Option.bind_eq_some_iff.mp taken
    cases inner with
    | control => exact closing.control sound made moved
    | writer ok => exact closing.writer sound made moved
    | reader response => exact closing.reader made moved
    | start callback connection =>
      obtain rfl := Option.some.inj moved
      have idle := Streaming.idle_of_start made
      have taken : Streaming.step link.client (.start callback connection) = some client := made
      cases Streaming.taken_of_step taken with
      | alreadyStarted | unreachable => exact { closing with }
      | opened _ control => exact closing.congr rfl rfl rfl (by simp [control]) (by simp [control])
    | stop =>
      obtain rfl := Option.some.inj moved
      have taken : Streaming.step link.client .stop = some client := made
      cases Streaming.taken_of_step taken with
      | alreadyStopped => exact closing
      | requestStop control => exact closing.congr rfl rfl rfl (by simp [control]) (by simp [control])
    | send frame =>
      obtain rfl := Option.some.inj moved
      cases Streaming.taken_of_step made
      exact { closing with }
    | sender capturedAtUnixMs =>
      obtain rfl := Option.some.inj moved
      have taken : Streaming.step link.client (.sender capturedAtUnixMs) = some client := made
      cases Streaming.taken_of_step taken with
      | drop | accept | notified => exact { closing with }
  | handle unixMs written =>
    obtain ⟨session, request, rest, handler, -, stands, rfl⟩ := handle_eq taken
    refine { closing with handled := fun done => ?_, heard := fun ended control apart => ?_ }
    · dsimp only at done
      split at done
      next => cases done
      next ended =>
        have failed : written = false := written_of_ended (Bool.eq_false_iff.mpr ended)
        rw [failed, Bool.false_or] at stands
        exact .inl stands
    · rcases closing.heard ended control apart with lost | ⟨done, -⟩
      · exact .inl lost
      · exact absurd (handler.symm.trans done) nofun
  | handlerEnds =>
    obtain ⟨session, -, ends, rfl⟩ := handlerEnds_eq taken
    refine { closing with handled := fun _ => ?_, heard := fun ended control apart => ?_ }
    · rcases ends with lost | ⟨half, empty⟩
      · exact .inl lost
      · exact .inr ⟨empty, .inl half⟩
    · rcases closing.heard ended control apart with lost | ⟨-, none⟩
      · exact .inl lost
      · exact .inr ⟨rfl, none⟩
  | lose =>
    obtain ⟨-, rfl⟩ := lose_eq taken
    exact { closing with handled := fun _ => .inl rfl, heard := fun _ _ _ => .inl rfl, unfailed := nofun }

/-- What holds of every link that a run has led to. -/
structure Standing (options : MockSttServerOptions) (link : Link) : Prop where
  sound : Sound link.client
  served : link.Served options
  carries : link.Carries
  closing : link.Closing

theorem Standing.init (options : MockSttServerOptions) (config : GrpcSttClientConfig) :
    (initial config).Standing options where
  sound := .start config
  served := ⟨{}, rfl⟩
  carries := ⟨rfl, ⟨[], rfl, rfl⟩, nofun⟩
  closing := ⟨nofun, nofun, nofun, fun _ => .inr ⟨rfl, .inr ⟨rfl, nofun⟩⟩, nofun, fun _ _ => List.not_mem_nil⟩

theorem Standing.keeps {label : Label} (standing : link.Standing options)
    (taken : step options link label = some next) : next.Standing options where
  sound := sound_keeps standing.sound taken
  served := by
    cases label with
    | client inner =>
      obtain ⟨client, -, moved⟩ := Option.bind_eq_some_iff.mp taken
      exact standing.served.transport moved
    | handle unixMs written => exact standing.served.handle taken
    | handlerEnds => exact standing.served.handlerEnds taken
    | lose =>
      obtain ⟨-, rfl⟩ := lose_eq taken
      exact standing.served
  carries := standing.carries.keeps standing.sound taken
  closing := standing.closing.keeps standing.sound taken

theorem standing_of_run {config : GrpcSttClientConfig} {labels : List Label}
    (run : Machine.Run (step options) (initial config) labels link) : link.Standing options :=
  run.invariant (fun _ _ _ standing taken => standing.keeps taken) (.init options config)

end Link

end VoxMesh.Stt
