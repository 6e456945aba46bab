import VoxMesh.Machine.Outbox
import VoxMesh.Machine.Run
import VoxMesh.Model.Session

/-! # A recording session with a listener

Any threads call `handle` of one session. A call commits its transition under the mutex, in one step, and then calls the
listener without it, in another; a call whose event is illegal returns within the first. A thread is in one call at a
time, and the listener does not call `handle` itself. Calls are numbered in the order in which they take the mutex.
-/

namespace VoxMesh.Audio

open Machine

/-- What the listener is told. -/
structure StateChange where
  fromState : SessionState
  toState : SessionState
  event : SessionEvent
deriving DecidableEq, Repr

inductive SessionLabel (T : Type*) where
  /-- The thread calls `handle`, takes the mutex and lets go of it. -/
  | handle (thread : T) (event : SessionEvent)
  /-- The thread calls the listener, if there is one, and returns from `handle`. -/
  | notify (thread : T)

/-- The session, and what the threads and the listener have seen of it. -/
structure SharedSession (T : Type*) where
  state : SessionState := .idle
  /-- The calls that have taken the mutex. -/
  calls : ℕ := 0
  /-- The changes that were committed, those whose listener call is still to come, and those the listener was told,
  each with the number of its call. -/
  changes : Outbox T StateChange := {}
  /-- What each call has returned. -/
  returned : List (ℕ × Bool) := []

namespace SharedSession

variable {T : Type*} [DecidableEq T]

/-- The step of a session that was constructed with a listener or without one. -/
def step (listener : Bool) (session : SharedSession T) : SessionLabel T → Option (SharedSession T)
  | .handle thread event =>
      if (session.changes.held thread).isSome then none
      else
        match RecordingSession.transition session.state event with
        | none => some { session with
            calls := session.calls + 1
            returned := session.returned ++ [(session.calls, false)] }
        | some next =>
            let change : StateChange := { fromState := session.state, toState := next, event }
            some { session with
              state := next
              calls := session.calls + 1
              changes := session.changes.commit thread (session.calls, change) }
  | .notify thread =>
      (session.changes.held thread).map fun entry => { session with
        changes := if listener then session.changes.deliver thread entry else session.changes.release thread
        returned := session.returned ++ [(entry.1, true)] }

end SharedSession

end VoxMesh.Audio
