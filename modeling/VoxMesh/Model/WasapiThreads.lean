import VoxMesh.Model.Recorder
import VoxMesh.Model.WasapiCapture

/-! # The threads of a WASAPI capture stream

`WasapiCaptureStream::start` creates the events and the capture thread, which initializes the device, reports the result
and then captures until it is stopped. The thread that starts, stops and destroys the stream and the capture thread take
their system calls one at a time, in any order. What the system answers is in the labels.

COM references and the apartment have destructors and are left to them. Where the capture thread cannot be created, the
constructor of `std::thread` throws and `start` with it, past the closing of `initDone`.
-/

namespace VoxMesh.Platform.Windows

open VoxMesh.Audio

abbrev HResult := BitVec 32

/-- `FAILED` -/
def failed (hr : HResult) : Bool := hr.msb

def mapInitializeError (hr : HResult) : CaptureError :=
  -- AUDCLNT_E_UNSUPPORTED_FORMAT, E_ACCESSDENIED
  if hr = 0x88890008 then .formatNotSupported
  else if hr = 0x80070005 then .permissionDenied
  -- AUDCLNT_E_DEVICE_INVALIDATED, AUDCLNT_E_DEVICE_IN_USE, AUDCLNT_E_ENDPOINT_CREATE_FAILED
  else if hr = 0x88890004 ∨ hr = 0x8889000A ∨ hr = 0x8889000F then .deviceUnavailable
  else .backendFailure

/-- Zero is success. -/
def encode (error : CaptureError) : ℕ := 1 + error.code

/-- The conversion of a number to the enumeration. From 5 on there is only one enumerator. -/
def captureError : ℕ → CaptureError
  | 0 => .deviceNotFound
  | 1 => .deviceUnavailable
  | 2 => .formatNotSupported
  | 3 => .permissionDenied
  | 4 => .alreadyStopped
  | _ => .backendFailure

theorem captureError_code (error : CaptureError) : captureError error.code = error := by
  cases error <;> rfl

/-- The calls of the initialization that can fail. -/
inductive InitCall where
  | createEnumerator
  | getDevice
  | activate
  | initializeClient
  | createDataEvent
  | setEventHandle
  | getService
  | start
deriving DecidableEq, Repr

/-- The error of a call that answers so. -/
def InitCall.failure (call : InitCall) (hr : HResult) : Option CaptureError :=
  if failed hr then
    match call with
    | .getDevice => some .deviceNotFound
    | .activate | .initializeClient => some (mapInitializeError hr)
    | .createEnumerator | .createDataEvent | .setEventHandle | .getService | .start => some .backendFailure
  else none

/-- The error of the first call that failed. -/
def initError (calls : List (InitCall × HResult)) : Option CaptureError :=
  calls.findSome? fun (call, hr) => call.failure hr

/-- A handle: null, that of an object, or one that was closed. -/
inductive SystemHandle where
  | null
  | live (signalled : Bool)
  | closed
deriving DecidableEq, Repr

namespace SystemHandle

/-- `CreateEventW` -/
def create (made : Bool) : SystemHandle := if made then .live false else .null

/-- `SetEvent`, and whether the handle may be used. -/
def set : SystemHandle → SystemHandle × Bool
  | .live _ => (.live true, true)
  | handle => (handle, false)

/-- `CloseHandle`, and whether the handle may be closed. It refuses null. -/
def close : SystemHandle → SystemHandle × Bool
  | .null => (.null, true)
  | .live _ => (.closed, true)
  | .closed => (.closed, false)

/-- `SetEvent`, unless the handle is null. -/
def notify (handle : SystemHandle) : SystemHandle × Bool := if handle = .null then (handle, true) else handle.set

/-- `CloseHandle`, unless the handle is null. -/
def release (handle : SystemHandle) : SystemHandle × Bool := if handle = .null then (handle, true) else handle.close

/-- Nothing is left to close. -/
def Released (handle : SystemHandle) : Prop := handle = .null ∨ handle = .closed

@[simp] theorem create_ne_closed (made : Bool) : create made ≠ .closed := by
  cases made <;> simp [create]

@[simp] theorem set_live (signalled : Bool) : set (.live signalled) = (.live true, true) := rfl

@[simp] theorem close_live (signalled : Bool) : close (.live signalled) = (.closed, true) := rfl

theorem exists_live {handle : SystemHandle} (present : handle ≠ .null) (unclosed : handle ≠ .closed) :
    ∃ signalled, handle = .live signalled := by
  cases handle with
  | null => exact absurd rfl present
  | live signalled => exact ⟨signalled, rfl⟩
  | closed => exact absurd rfl unclosed

theorem close_released {handle : SystemHandle} (unclosed : handle ≠ .closed) :
    handle.close.1.Released ∧ handle.close.2 = true := by
  cases handle with
  | null => exact ⟨.inl rfl, rfl⟩
  | live signalled => exact ⟨.inr rfl, rfl⟩
  | closed => exact absurd rfl unclosed

theorem notify_unclosed {handle : SystemHandle} (unclosed : handle ≠ .closed) :
    (handle.notify.1 = .null ∧ handle = .null ∨ handle.notify.1 = .live true ∧ handle ≠ .null) ∧
      handle.notify.2 = true := by
  cases handle with
  | null => exact ⟨.inl ⟨rfl, rfl⟩, rfl⟩
  | live signalled => exact ⟨.inr ⟨rfl, by simp⟩, rfl⟩
  | closed => exact absurd rfl unclosed

theorem release_released {handle : SystemHandle} (unclosed : handle ≠ .closed) :
    handle.release.1.Released ∧ handle.release.2 = true := by
  unfold release
  split
  next null => exact ⟨.inl null, rfl⟩
  next => exact close_released unclosed

end SystemHandle

/-- Why the destructor runs: the owner is done with the stream, or `start` returns an error or throws. -/
inductive Ending where
  | destroyed
  | refused (error : CaptureError)
  | thrown
deriving DecidableEq, Repr

/-- What `stop` is called for: by the owner, or by the destructor. -/
inductive Purpose where
  | stop
  | destroy (ending : Ending)
deriving DecidableEq, Repr

/-- Where the thread is that starts, stops and destroys the stream. -/
inductive Caller where
  | createStopEvent
  | createInitDone
  | checkEvents
  | createThread
  | awaitInit
  | closeInitDone
  | loadResult
  | joinFailed (error : CaptureError)
  | signalStop (purpose : Purpose)
  | joinThread (purpose : Purpose)
  | closeStopEvent (ending : Ending)
  /-- `start` has returned the stream. -/
  | holding
  /-- The stream is destroyed. -/
  | done (ending : Ending)
deriving DecidableEq, Repr

/-- Where the capture thread is. -/
inductive Worker where
  | unborn
  | initializing (call : InitCall)
  | queryEndpoint
  /-- Closing the data event of a failed initialization. -/
  | abandonDataEvent
  | storeResult (failure : Option CaptureError)
  | signalInitDone (failure : Option CaptureError)
  | registerThread
  | waiting
  | draining
  | stopClient
  | revertThread
  | closeDataEvent
  | finished
deriving DecidableEq, Repr

/-- Where the capture thread goes on from a call that succeeded. -/
def InitCall.answered (loopback : Bool) : InitCall → Worker
  | .createEnumerator => .initializing .getDevice
  | .getDevice => .queryEndpoint
  | .activate => .initializing .initializeClient
  | .initializeClient => if loopback then .initializing .getService else .initializing .createDataEvent
  | .createDataEvent => .initializing .setEventHandle
  | .setEventHandle => .initializing .getService
  | .getService => .initializing .start
  | .start => .storeResult none

/-- Where the capture thread goes on from a call that failed. -/
def InitCall.refused (error : CaptureError) : InitCall → Worker
  | .setEventHandle | .getService | .start => .abandonDataEvent
  | .createEnumerator | .getDevice | .activate | .initializeClient | .createDataEvent => .storeResult (some error)

/-- How a wait for the events ends. -/
inductive Wake where
  | stopRequested
  | failed
  | woken
deriving DecidableEq, Repr

structure CaptureThreads (σ : Type) where
  caller : Caller := .createStopEvent
  worker : Worker := .unborn
  stopEvent : SystemHandle := .null
  initDone : SystemHandle := .null
  /-- The variable of `start`, while it is in scope. -/
  initResult : Option ℕ := none
  /-- The thread is there and was not joined. -/
  joinable : Bool := false
  loopback : Bool := false
  dataEvent : SystemHandle := .null
  mmcss : SystemHandle := .null
  /-- The audio client is started. -/
  running : Bool := false
  stream : WasapiCaptureStream
  sink : σ
  /-- A handle was used or closed after it had been closed, or the variable of `start` out of its scope. -/
  misused : Bool := false
  /-- A record of the answers, which no step reads. -/
  calls : List (InitCall × HResult) := []
  waits : List Wait := []
  polls : List Poll := []

inductive ThreadStep where
  /-- `CreateEventW` of the starting thread. -/
  | create (made : Bool)
  /-- The constructor of `std::thread`. -/
  | spawn (made : Bool)
  | caller
  /-- Calls of the owner. -/
  | stop
  | destroy
  | init (hr : HResult)
  /-- The data flow, if the device tells it. -/
  | endpoint (render : Option Bool)
  | worker
  | register (made : Bool)
  | wait (wake : Wake)
  /-- No packet is pending, or the answers to the calls for one. -/
  | poll (poll : Option Poll)

namespace CaptureThreads

variable {σ : Type} (onFrame : σ → AudioFrame → Bool × σ) (threads : CaptureThreads σ)

def begin (config : CaptureConfig) (sink : σ) : CaptureThreads σ where
  stream := { config := config }
  sink := sink

/-- Record whether what was just done was allowed. -/
def check (allowed : Bool) : CaptureThreads σ := { threads with misused := threads.misused || !allowed }

@[simp] theorem check_true : threads.check true = threads := by
  simp [check]

def stepCreate (made : Bool) : Option (CaptureThreads σ) :=
  match threads.caller with
  | .createStopEvent => some { threads with stopEvent := .create made, caller := .createInitDone }
  | .createInitDone => some { threads with initDone := .create made, caller := .checkEvents }
  | _ => none

/-- A constructor that throws leaves `start` with its variables, and the stream to its destructor. -/
def stepSpawn (made : Bool) : Option (CaptureThreads σ) :=
  match threads.caller with
  | .createThread =>
      if made then
        some { threads with worker := .initializing .createEnumerator, joinable := true, caller := .awaitInit }
      else some { threads with initResult := none, caller := .signalStop (.destroy .thrown) }
  | _ => none

/-- The next step of `start`, of `stop` or of the destructor. -/
def stepCaller : Option (CaptureThreads σ) :=
  match threads.caller with
  | .checkEvents =>
      if threads.stopEvent = .null ∨ threads.initDone = .null then
        let (initDone, allowed) := threads.initDone.release
        some (check { threads with
          initDone := initDone
          caller := .signalStop (.destroy (.refused .backendFailure)) } allowed)
      else some { threads with initResult := some 0, caller := .createThread }
  | .awaitInit =>
      match threads.initDone with
      | .live signalled => if signalled then some { threads with caller := .closeInitDone } else none
      | _ => some (check { threads with caller := .closeInitDone } false)
  | .closeInitDone =>
      let (initDone, allowed) := threads.initDone.close
      some (check { threads with initDone := initDone, caller := .loadResult } allowed)
  | .loadResult =>
      match threads.initResult with
      | some 0 => some { threads with initResult := none, caller := .holding }
      | some result => some { threads with caller := .joinFailed (captureError (result - 1)) }
      | none => some (check { threads with caller := .holding } false)
  | .joinFailed error =>
      if threads.worker = .finished then
        some { threads with
          joinable := false
          initResult := none
          caller := .signalStop (.destroy (.refused error)) }
      else none
  | .signalStop purpose =>
      let (stopEvent, allowed) := threads.stopEvent.notify
      some (check { threads with stopEvent := stopEvent, caller := .joinThread purpose } allowed)
  | .joinThread purpose =>
      if threads.joinable = false ∨ threads.worker = .finished then
        some { threads with
          joinable := false
          caller := match purpose with
            | .stop => .holding
            | .destroy ending => .closeStopEvent ending }
      else none
  | .closeStopEvent ending =>
      let (stopEvent, allowed) := threads.stopEvent.release
      some (check { threads with stopEvent := stopEvent, caller := .done ending } allowed)
  | _ => none

def stepInit (hr : HResult) : Option (CaptureThreads σ) :=
  match threads.worker with
  | .initializing call =>
      let threads := { threads with calls := threads.calls ++ [(call, hr)] }
      match call.failure hr with
      | some error => some { threads with worker := call.refused error }
      | none => some { threads with
          worker := call.answered threads.loopback
          dataEvent := if call = .createDataEvent then .live false else threads.dataEvent
          running := threads.running || call = .start }
  | _ => none

def stepWorker : Option (CaptureThreads σ) :=
  match threads.worker with
  | .abandonDataEvent =>
      let (dataEvent, allowed) := threads.dataEvent.close
      some (check { threads with dataEvent := dataEvent, worker := .storeResult (some .backendFailure) } allowed)
  | .storeResult failure =>
      let threads := threads.check threads.initResult.isSome
      some { threads with
        initResult := threads.initResult.map fun _ => failure.elim 0 encode
        worker := .signalInitDone failure }
  | .signalInitDone failure =>
      let (initDone, allowed) := threads.initDone.set
      some (check { threads with
        initDone := initDone
        worker := if failure.isSome then .finished else .registerThread } allowed)
  | .stopClient => some { threads with running := false, worker := .revertThread }
  | .revertThread =>
      let (mmcss, allowed) := threads.mmcss.release
      some (check { threads with mmcss := mmcss, worker := .closeDataEvent } allowed)
  | .closeDataEvent =>
      let (dataEvent, allowed) := threads.dataEvent.release
      some (check { threads with dataEvent := dataEvent, worker := .finished } allowed)
  | _ => none

/-- A wait on both events ends for the stop event if that is signalled. -/
def stepWait (wake : Wake) : Option (CaptureThreads σ) :=
  match threads.worker with
  | .waiting =>
      let threads := threads.check (threads.dataEvent != .closed)
      match wake, threads.stopEvent with
      | .failed, _ => some { threads with waits := threads.waits ++ [.failed], worker := .stopClient }
      | .stopRequested, .live true =>
          some { threads with waits := threads.waits ++ [.stopRequested], worker := .stopClient }
      | .woken, .live false => some { threads with worker := .draining }
      | _, .live _ => none
      | _, _ => some (check { threads with worker := .stopClient } false)
  | _ => none

/-- One pass of the inner loop. -/
def stepPoll (poll : Option Poll) : Option (CaptureThreads σ) :=
  match threads.worker, poll with
  | .draining, none =>
      some { threads with waits := threads.waits ++ [.woken threads.polls], polls := [], worker := .waiting }
  | .draining, some (.packet packet) =>
      let (stream, sink) := threads.stream.capturePacket onFrame threads.sink packet
      some { threads with stream := stream, sink := sink, polls := threads.polls ++ [.packet packet] }
  | .draining, some failure =>
      some { threads with
        waits := threads.waits ++ [.woken (threads.polls ++ [failure])]
        polls := []
        worker := .stopClient }
  | _, _ => none

def step (threads : CaptureThreads σ) : ThreadStep → Option (CaptureThreads σ)
  | .create made => threads.stepCreate made
  | .spawn made => threads.stepSpawn made
  | .caller => threads.stepCaller
  | .stop => if threads.caller = .holding then some { threads with caller := .signalStop .stop } else none
  | .destroy =>
      if threads.caller = .holding then some { threads with caller := .signalStop (.destroy .destroyed) } else none
  | .init hr => threads.stepInit hr
  | .endpoint render =>
      if threads.worker = .queryEndpoint then
        some { threads with loopback := render.getD threads.loopback, worker := .initializing .activate }
      else none
  | .worker => threads.stepWorker
  | .register made =>
      if threads.worker = .registerThread then some { threads with mmcss := .create made, worker := .waiting } else none
  | .wait wake => threads.stepWait wake
  | .poll poll => threads.stepPoll onFrame poll

/-- The answers to the calls of the loop so far. -/
def answers : List Wait :=
  if threads.worker = .draining then threads.waits ++ [.woken threads.polls] else threads.waits

end CaptureThreads

end VoxMesh.Platform.Windows
