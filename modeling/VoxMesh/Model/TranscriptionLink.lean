import VoxMesh.Model.MockSttServer

/-! # The transcription link

The client, the transport and the handler with which the server serves the client's call. The transport carries
requests one way and responses the other, in order, and loses nothing until the connection is lost. From then on
either side may be told so in any call: the handler's `Read` and `Write` and the client's `Write` and `Read` may fail.
Without a loss the handler's `Read` fails only after the half-close, with nothing left to read, and the client's calls
fail only once the handler is done, which is also what `Finish` waits for.

The stream is opened with the block of `start` that marks the client running; nothing uses it before. A handler that a
lost connection leaves behind is not followed once the client opens another stream.
-/

namespace VoxMesh.Stt

namespace Testing

/-- What one pass of the server's loop makes of the frame it has read. -/
structure Pass where
  session : ServerSession
  stats : MockSttServerStats
  response : Option ScriptedSegment := none
  goesOn : Bool := true

def pass (options : MockSttServerOptions) (session : ServerSession) (stats : MockSttServerStats)
    (reception : Reception) : Pass :=
  let session := { session with framesInSession := FixedWidth.uint64 (session.framesInSession + 1) }
  let stats := { stats with framesReceived := stats.framesReceived + 1 }
  let frame := reception.request.frame
  if !validSttFrame frame then { session, stats := { stats with invalidFrames := stats.invalidFrames + 1 } }
  else if session.framesInSession % options.framesPerUpdate ≠ 0 then { session, stats }
  else if !reception.written then { session, stats, goesOn := false }
  else
    { session := session.advance options
      stats := { stats with updatesSent := stats.updatesSent + 1 }
      response := some (session.segment options frame reception.unixMs) }

end Testing

open Testing

/-- A call of the client, with what the transport holds for each side. -/
structure Link where
  client : Streaming.State
  /-- The handler's variables, until it is done. -/
  handler : Option ServerSession := none
  stats : MockSttServerStats := {}
  requests : List StreamTranscriptionRequest := []
  halfClosed : Bool := false
  responses : List ScriptedSegment := []
  lost : Bool := false
  /-- What the handler has read and written since the stream was opened, and whether the client had a callback then;
  no step reads them. -/
  receptions : List Reception := []
  written : List ScriptedSegment := []
  listening : Bool := false

namespace Link

inductive Label where
  | client (label : Streaming.Label)
  /-- The handler reads a request and handles it. -/
  | handle (unixMs : ℤ) (written : Bool)
  /-- The handler's `Read` fails. -/
  | handlerEnds
  | lose
deriving DecidableEq, Repr

/-- Assumed of gRPC: only now may a `Write` of the client fail, and `Finish` return. The handler is done, or cannot be
heard of. -/
def handlerGone (link : Link) : Bool := link.lost || link.handler.isNone

/-- Assumed of gRPC: only now may a `Read` of the client fail. The handler is done, and all its responses are read. -/
def responsesEnd (link : Link) : Bool := link.lost || (link.handler.isNone && link.responses.isEmpty)

/-- Assumed of gRPC: only now may a `Read` of the handler fail. The client has half-closed the stream, and all its
requests are read. -/
def requestsEnd (link : Link) : Bool := link.lost || (link.halfClosed && link.requests.isEmpty)

/-- Assumed of gRPC: only now may a `Write` of the handler fail. -/
def writesFail (link : Link) : Bool := link.lost

/-- The client has opened a stream, and the server handles it. -/
def opened (link : Link) (client : Streaming.State) : Link where
  client := client
  handler := some {}
  stats := { link.stats with sessionsServed := link.stats.sessionsServed + 1 }
  listening := client.client.callback

/-- What a step of the client does to the transport, if the transport lets it. -/
def transport (link : Link) (client : Streaming.State) : Streaming.Label → Option Link
  | .writer ok =>
      match link.client.writer with
      | .popped request =>
          if ok then some { link with client := client, requests := link.requests ++ [request] }
          else if link.handlerGone then some { link with client := client } else none
      | .closing => some { link with client := client, halfClosed := true }
      | _ => some { link with client := client }
  | .reader (some segment) =>
      match link.responses with
      | [] => none
      | response :: rest =>
          if response.toTranscriptSegment = segment then some { link with client := client, responses := rest }
          else none
  | .reader none =>
      if link.responsesEnd then some { link with client := client }
      else none
  | .control =>
      match link.client.control with
      | .opened => some (link.opened client)
      | .finishing => if link.handlerGone then some { link with client := client } else none
      | _ => some { link with client := client }
  | _ => some { link with client := client }

variable (options : MockSttServerOptions)

def handle (link : Link) (unixMs : ℤ) (written : Bool) : Option Link :=
  match link.handler, link.requests with
  | some session, request :: rest =>
      if written || link.writesFail then
        let reception : Reception := { request, unixMs, written }
        let pass := pass options session link.stats reception
        some { link with
          handler := if pass.goesOn then some pass.session else none
          stats := pass.stats
          requests := rest
          responses := link.responses ++ pass.response.toList
          receptions := link.receptions ++ [reception]
          written := link.written ++ pass.response.toList }
      else none
  | _, _ => none

def handlerEnds (link : Link) : Option Link :=
  if link.handler.isSome && link.requestsEnd then
    some { link with handler := none }
  else none

def step (link : Link) : Label → Option Link
  | .client label => (Streaming.step link.client label).bind fun client => link.transport client label
  | .handle unixMs written => link.handle options unixMs written
  | .handlerEnds => link.handlerEnds
  | .lose => if link.lost then none else some { link with lost := true }

/-- A client just constructed, and a server that has served nobody. -/
def initial (config : GrpcSttClientConfig) : Link := { client := Streaming.initial config }

end Link

end VoxMesh.Stt
