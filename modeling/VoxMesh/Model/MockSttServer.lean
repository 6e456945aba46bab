import VoxMesh.Math.FixedWidth
import VoxMesh.Model.SttStreamClient

/-! # The scripted transcription server

The loop in which the server handles one stream: it reads frames, and every few of them it answers with the next
revision of the current segment. A `Reception` is one frame read, with what the surroundings answer in the same
pass of the loop: the clock, and whether the response can be written.
-/

namespace VoxMesh.Stt.Testing

open FixedWidth

/-- The scripted vocabulary. -/
def kWords : List String :=
  ["voxmesh", "records", "meetings", "and", "transcribes", "them", "with", "partial", "results", "under", "one",
    "second"]

def scriptedWord (index : ℕ) : String := kWords.getD (index % kWords.length) ""

structure MockSttServerOptions where
  framesPerUpdate : ℕ := 5
  revisionsPerSegment : ℕ := 3
deriving DecidableEq, Repr

structure MockSttServerStats where
  framesReceived : ℕ := 0
  invalidFrames : ℕ := 0
  updatesSent : ℕ := 0
  sessionsServed : ℕ := 0
deriving DecidableEq, Repr

/-- The segment message of a response. Its confidence is a constant and is left out. -/
structure ScriptedSegment extends TranscriptSegment where
  tenantId : String
  meetingId : String
  sessionId : String
  language : String := "en-US"
  modelProvider : String := "mock"
  modelVersion : String := "phase-2"
  producedAtUnixMs : ℤ
deriving DecidableEq, Repr

structure Reception where
  request : StreamTranscriptionRequest
  unixMs : ℤ := 0
  written : Bool := true
deriving DecidableEq, Repr

/-- The variables of the loop; the revision counts from zero within the segment. -/
structure ServerSession where
  framesInSession : ℕ := 0
  segmentIndex : ℕ := 0
  revision : ℕ := 0
  segmentStartMs : ℤ := 0
deriving DecidableEq, Repr

def validSttFrame (frame : MediaFrame) : Bool :=
  frame.sampleRateHz == 16000 && frame.channels == 1 && frame.encoding == .pcmS16le

/-- The format `seg-%04zu`, printed into sixteen bytes. -/
def segmentId (index : ℕ) : String :=
  let digits := Nat.toDigits 10 index
  String.ofList (("seg-".toList ++ (List.replicate (4 - digits.length) '0' ++ digits)).take 15)

/-- A word is separated from the text before it. -/
def appendWord (text word : String) : String := (if text.isEmpty then text else text ++ " ") ++ word

/-- The first words from a place of the script on. -/
def stableWords (wordBase : ℕ) : ℕ → String
  | 0 => ""
  | count + 1 => appendWord (stableWords wordBase count) (scriptedWord (uint64 (wordBase + count)))

namespace ServerSession

variable (options : MockSttServerOptions) (session : ServerSession)

def isFinal : Bool := session.revision + 1 ≥ options.revisionsPerSegment

def frameMs : ℤ := int64 (int64 options.framesPerUpdate * 100)

/-- The message about the current revision. -/
def segment (frame : MediaFrame) (unixMs : ℤ) : ScriptedSegment :=
  let wordBase := uint64 (session.segmentIndex * options.revisionsPerSegment)
  let stable := stableWords wordBase session.revision
  let word := scriptedWord (uint64 (wordBase + session.revision))
  let isFinal := session.isFinal options
  { tenantId := frame.tenantId
    meetingId := frame.meetingId
    sessionId := frame.sessionId
    segmentId := segmentId session.segmentIndex
    revision := (session.revision + 1) % 2 ^ 32
    status := if isFinal then .statusFinal else .statusPartial
    stableText := if isFinal then appendWord stable word else stable
    mutableText := if isFinal then "" else word
    audioStartMs := session.segmentStartMs
    audioEndMs := int64 (session.segmentStartMs + int64 (int64 (session.revision + 1) * frameMs options))
    producedAtUnixMs := unixMs }

/-- The variables after an update. -/
def advance : ServerSession :=
  if session.isFinal options then
    { session with
      segmentStartMs := int64 (session.segmentStartMs + int64 (int64 options.revisionsPerSegment * frameMs options))
      segmentIndex := session.segmentIndex + 1
      revision := 0 }
  else { session with revision := session.revision + 1 }

end ServerSession

/-- The loop, with the responses that it writes. -/
def serve (options : MockSttServerOptions) :
    ServerSession → MockSttServerStats → List Reception → List ScriptedSegment × MockSttServerStats
  | _, stats, [] => ([], stats)
  | session, stats, reception :: rest =>
      let session := { session with framesInSession := uint64 (session.framesInSession + 1) }
      let stats := { stats with framesReceived := stats.framesReceived + 1 }
      let frame := reception.request.frame
      if !validSttFrame frame then
        serve options session { stats with invalidFrames := stats.invalidFrames + 1 } rest
      else if session.framesInSession % options.framesPerUpdate ≠ 0 then
        serve options session stats rest
      else if !reception.written then ([], stats)
      else
        let (segments, final) :=
          serve options (session.advance options) { stats with updatesSent := stats.updatesSent + 1 } rest
        (session.segment options frame reception.unixMs :: segments, final)

def streamTranscription (options : MockSttServerOptions) (stats : MockSttServerStats) (receptions : List Reception) :
    List ScriptedSegment × MockSttServerStats :=
  serve options {} { stats with sessionsServed := stats.sessionsServed + 1 } receptions

end VoxMesh.Stt.Testing
