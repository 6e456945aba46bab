import Mathlib.Data.Option.Basic

/-! # The recording session's state machine

The transition table of `RecordingSession`, and `handle`, which applies an event when the table allows it.
-/

namespace VoxMesh.Audio

inductive SessionState where
  | idle
  | recording
  | paused
  | stopping
  | stopped
  | failed
deriving DecidableEq, Repr

inductive SessionEvent where
  | start
  | pause
  | resume
  | stop
  | stopComplete
  | fault
  | reset
deriving DecidableEq, Repr

namespace RecordingSession

def transition (state : SessionState) : SessionEvent → Option SessionState
  | .start => if state = .idle then some .recording else none
  | .pause => if state = .recording then some .paused else none
  | .resume => if state = .paused then some .recording else none
  | .stop => if state = .recording ∨ state = .paused then some .stopping else none
  | .stopComplete => if state = .stopping then some .stopped else none
  | .fault => if state = .stopped ∨ state = .failed then none else some .failed
  | .reset => if state = .stopped ∨ state = .failed then some .idle else none

/-- Whether the event was applied, and the state afterwards. -/
def handle (state : SessionState) (event : SessionEvent) : Bool × SessionState :=
  match transition state event with
  | some next => (true, next)
  | none => (false, state)

end RecordingSession

end VoxMesh.Audio
