import VoxMesh.Machine.Run
import VoxMesh.Model.Types

/-! # The streaming transcription client

`GrpcSttStreamClient` holds the members that its threads share. Four threads take turns: the control
thread that calls `start` and `stop`, the audio thread that calls `sendFrame`, the writer thread and the
reader thread. Each block under the queue mutex is one step, and so is each call into the transport,
whose answer the label chooses. The writer's condition variable is a guard: its step out of the wait is
enabled when the predicate of the wait holds.

`Log` records what the calls accepted and what went onto the wire, by session. No step reads it.
-/

namespace VoxMesh.Stt

open VoxMesh.Audio (AudioFrame Byte)

/-- Session identity attached to every uploaded frame. -/
structure SttSessionInfo where
  tenantId : String := "local"
  meetingId : String := ""
  sessionId : String := ""
  trackId : String := "stt"
  provider : String := "desktop"
deriving DecidableEq, Repr

structure GrpcSttClientConfig where
  endpoint : String := ""
  session : SttSessionInfo := {}
  sendQueueCapacity : ℕ := 64
  connectTimeoutMs : ℤ := 2000
deriving DecidableEq, Repr

inductive AudioEncoding where
  | encodingUnspecified
  | pcmS16le
  | pcmF32le
  | flac
  | opus
deriving DecidableEq, Repr

/-- The frame message of the media contract, as far as the client fills it in. -/
structure MediaFrame where
  tenantId : String
  meetingId : String
  sessionId : String
  trackId : String
  provider : String
  sequence : ℕ
  capturedAtUnixMs : ℤ
  monotonicTimestampNs : ℤ
  sampleRateHz : ℕ
  channels : ℕ
  encoding : AudioEncoding
  payload : List Byte
  discontinuity : Bool
deriving DecidableEq, Repr

structure StreamTranscriptionRequest where
  frame : MediaFrame
deriving DecidableEq, Repr

inductive SegmentStatus where
  | statusUnspecified
  | statusPartial
  | statusFinal
deriving DecidableEq, Repr

/-- The transcript message, as far as the client reads it. -/
structure TranscriptSegment where
  segmentId : String
  revision : ℕ
  status : SegmentStatus
  stableText : String
  mutableText : String
  audioStartMs : ℤ
  audioEndMs : ℤ
deriving DecidableEq, Repr

structure TranscriptUpdate where
  segmentId : String := ""
  revision : ℕ := 0
  isFinal : Bool := false
  stableText : String := ""
  mutableText : String := ""
  audioStartMs : ℤ := 0
  audioEndMs : ℤ := 0
deriving DecidableEq, Repr

def toRequest (session : SttSessionInfo) (capturedAtUnixMs : ℤ) (frame : AudioFrame) :
    StreamTranscriptionRequest where
  frame := {
    tenantId := session.tenantId
    meetingId := session.meetingId
    sessionId := session.sessionId
    trackId := session.trackId
    provider := session.provider
    sequence := frame.sequence
    capturedAtUnixMs := capturedAtUnixMs
    monotonicTimestampNs := frame.timestamp
    sampleRateHz := frame.sampleRate
    channels := frame.channels
    encoding := .pcmS16le
    payload := frame.payload
    discontinuity := frame.discontinuity }

def toUpdate (segment : TranscriptSegment) : TranscriptUpdate where
  segmentId := segment.segmentId
  revision := segment.revision
  isFinal := segment.status == .statusFinal
  stableText := segment.stableText
  mutableText := segment.mutableText
  audioStartMs := segment.audioStartMs
  audioEndMs := segment.audioEndMs

structure GrpcSttStreamClient where
  config : GrpcSttClientConfig
  /-- A callback is registered. -/
  callback : Bool := false
  queue : List StreamTranscriptionRequest := []
  running : Bool := false
  stopRequested : Bool := false
  streamBroken : Bool := false
  framesSent : ℕ := 0
  framesDropped : ℕ := 0
  updatesReceived : ℕ := 0
deriving DecidableEq

namespace GrpcSttStreamClient

/-- The block of `start` under the mutex. -/
def markRunning (client : GrpcSttStreamClient) : GrpcSttStreamClient :=
  { client with stopRequested := false, streamBroken := false, running := true }

/-- The condition on which `sendFrame` rejects. -/
def rejects (client : GrpcSttStreamClient) : Bool :=
  !client.running || client.streamBroken || client.config.sendQueueCapacity ≤ client.queue.length

/-- The block of `sendFrame` under the mutex. -/
def enqueue (client : GrpcSttStreamClient) (capturedAtUnixMs : ℤ) (frame : AudioFrame) :
    Bool × GrpcSttStreamClient :=
  if client.rejects then (false, { client with framesDropped := client.framesDropped + 1 })
  else (true, { client with queue := client.queue ++ [toRequest client.config.session capturedAtUnixMs frame] })

/-- The block of the writer loop under the mutex after a failed write. -/
def breakStream (client : GrpcSttStreamClient) : GrpcSttStreamClient :=
  { client with
    streamBroken := true
    framesDropped := client.framesDropped + (client.queue.length + 1)
    queue := [] }

/-- The last block of `stop` under the mutex. -/
def markStopped (client : GrpcSttStreamClient) : GrpcSttStreamClient :=
  { client with running := false, queue := [] }

end GrpcSttStreamClient

namespace Streaming

/-- Where the control thread is, inside `start` or inside `stop`. -/
inductive Control where
  | idle
  | opened
  | flagged
  | writerStarted
  | joiningWriter
  | joiningReader
  | finishing
  | clearing
deriving DecidableEq, Repr

/-- Where the audio thread is inside `sendFrame`. -/
inductive Sender where
  | idle
  | called (frame : AudioFrame)
  | notifying
deriving DecidableEq, Repr

inductive Writer where
  | unstarted
  | waiting
  | popped (request : StreamTranscriptionRequest)
  | sent
  | failed
  | closing
  | exited
deriving DecidableEq, Repr

inductive Reader where
  | unstarted
  | reading
  | exited
deriving DecidableEq, Repr

/-- How far opening the stream gets. -/
inductive Connection where
  | unreachable
  | noStream
  | opened
deriving DecidableEq, Repr

inductive WireEvent where
  | write (request : StreamTranscriptionRequest) (ok : Bool)
  | writesDone
deriving DecidableEq, Repr

/-- What happened between a start that opened a stream and the next one. -/
structure Session where
  accepted : List StreamTranscriptionRequest := []
  /-- How many were accepted after `stop` had requested the end. -/
  acceptedStopping : ℕ := 0
  wire : List WireEvent := []
  delivered : List TranscriptUpdate := []
deriving DecidableEq, Repr

structure Log where
  /-- Number of `sendFrame` calls since construction. -/
  calls : ℕ := 0
  finished : List Session := []
  session : Session := {}
  /-- Frames accepted after the writer loop had ended. -/
  late : ℕ := 0
deriving DecidableEq, Repr

structure State where
  client : GrpcSttStreamClient
  control : Control := .idle
  sender : Sender := .idle
  writer : Writer := .unstarted
  reader : Reader := .unstarted
  log : Log := {}
deriving DecidableEq

/-- A step of the schedule: a call begins, or a thread takes its next step. -/
inductive Label where
  | start (callback : Bool) (connection : Connection)
  | stop
  | control
  | send (frame : AudioFrame)
  | sender (capturedAtUnixMs : ℤ)
  | writer (ok : Bool)
  | reader (response : Option TranscriptSegment)
deriving DecidableEq, Repr

/-- The writer loop is over: nothing takes from the queue any more. -/
def Writer.done : Writer → Bool
  | .closing | .exited => true
  | _ => false

/-- A frame accepted now, with the end requested and the writer loop over, will never be taken. -/
def State.drained (state : State) : Bool := state.client.stopRequested && state.writer.done

def start (state : State) (callback : Bool) (connection : Connection) : Option State :=
  match state.control with
  | .idle =>
      if state.client.running then some state
      else
        let client := { state.client with callback := callback }
        match connection with
        | .unreachable | .noStream => some { state with client := client }
        | .opened => some { state with client := client, control := .opened }
  | _ => none

def stop (state : State) : Option State :=
  match state.control with
  | .idle =>
      if state.client.running then some { state with
        control := .joiningWriter
        client := { state.client with stopRequested := true } }
      else some state
  | _ => none

def controlStep (state : State) : Option State :=
  match state.control with
  | .idle => none
  | .opened => some { state with
      control := .flagged
      client := state.client.markRunning
      log := { state.log with finished := state.log.finished ++ [state.log.session], session := {} } }
  | .flagged => some { state with control := .writerStarted, writer := .waiting }
  | .writerStarted => some { state with control := .idle, reader := .reading }
  | .joiningWriter =>
      match state.writer with
      | .exited => some { state with control := .joiningReader }
      | _ => none
  | .joiningReader =>
      match state.reader with
      | .exited => some { state with control := .finishing }
      | _ => none
  | .finishing => some { state with control := .clearing }
  | .clearing => some { state with control := .idle, client := state.client.markStopped }

def senderStep (state : State) (capturedAtUnixMs : ℤ) : Option State :=
  match state.sender with
  | .idle => none
  | .called frame =>
      let (accepted, client) := state.client.enqueue capturedAtUnixMs frame
      if accepted then some { state with
        sender := .notifying
        client := client
        log := { state.log with
          late := state.log.late + state.drained.toNat
          session := { state.log.session with
            accepted := state.log.session.accepted ++ [toRequest state.client.config.session capturedAtUnixMs frame]
            acceptedStopping := state.log.session.acceptedStopping + state.client.stopRequested.toNat } } }
      else some { state with sender := .idle, client := client }
  | .notifying => some { state with sender := .idle }

def onWire (log : Log) (event : WireEvent) : Log :=
  { log with session := { log.session with wire := log.session.wire ++ [event] } }

def writerStep (state : State) (ok : Bool) : Option State :=
  match state.writer with
  | .unstarted => none
  | .waiting =>
      match state.client.queue with
      | request :: rest => some { state with
          writer := .popped request
          client := { state.client with queue := rest } }
      | [] => if state.client.stopRequested then some { state with writer := .closing } else none
  | .popped request => some { state with
      writer := if ok then .sent else .failed
      log := onWire state.log (.write request ok) }
  | .sent => some { state with
      writer := .waiting
      client := { state.client with framesSent := state.client.framesSent + 1 } }
  | .failed => some { state with writer := .closing, client := state.client.breakStream }
  | .closing => some { state with writer := .exited, log := onWire state.log .writesDone }
  | .exited => none

def readerStep (state : State) (response : Option TranscriptSegment) : Option State :=
  match state.reader, response with
  | .reading, some segment => some { state with
      client := { state.client with updatesReceived := state.client.updatesReceived + 1 }
      log := if state.client.callback then { state.log with session := { state.log.session with
        delivered := state.log.session.delivered ++ [toUpdate segment] } } else state.log }
  | .reading, none => some { state with reader := .exited }
  | _, _ => none

def step (state : State) : Label → Option State
  | .start callback connection => start state callback connection
  | .stop => stop state
  | .control => controlStep state
  | .send frame =>
      match state.sender with
      | .idle => some { state with
          sender := .called frame
          log := { state.log with calls := state.log.calls + 1 } }
      | _ => none
  | .sender capturedAtUnixMs => senderStep state capturedAtUnixMs
  | .writer ok => writerStep state ok
  | .reader response => readerStep state response

/-- A client just constructed. -/
def initial (config : GrpcSttClientConfig) : State := { client := { config := config } }

/-- Not started, or `stop` has returned, and no `sendFrame` is in progress. -/
def State.Quiescent (state : State) : Prop :=
  state.control = .idle ∧ state.client.running = false ∧ state.sender = .idle

instance (state : State) : Decidable state.Quiescent :=
  inferInstanceAs (Decidable (_ ∧ _ ∧ _))

/-- A `sendFrame` that is about to put its frame on a queue that nobody reads any more. -/
def LateAcceptance (state : State) (label : Label) : Prop :=
  (∃ capturedAtUnixMs, label = .sender capturedAtUnixMs) ∧ (∃ frame, state.sender = .called frame) ∧
    state.client.rejects = false ∧ state.drained = true

end Streaming

end VoxMesh.Stt
