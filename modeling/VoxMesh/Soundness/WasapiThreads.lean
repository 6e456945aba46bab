import VoxMesh.Machine.Progress
import VoxMesh.Proofs.WasapiThreads

/-! # Starting and stopping a WASAPI capture stream

In every interleaving of the two threads, whatever the system answers: the threads hand over the event and the result
variable of `start` without one using them behind the other's back, no handle is used behind its closing, `start`
reports the first failure, and a sink gets only frames of a stream that was started and not yet stopped, those of
`captureLoop`. And `start`, `stop` and the destructor return. One handle may stay open: the event of a `start` that
throws.
-/

namespace VoxMesh.Platform.Windows

open VoxMesh.Audio Machine

/-- `start` is on its way out with an exception. -/
def Caller.throws : Caller → Bool
  | .signalStop (.destroy .thrown) | .joinThread (.destroy .thrown) | .closeStopEvent .thrown | .done .thrown => true
  | _ => false

namespace CaptureThreads

variable {σ : Type} {onFrame : σ → AudioFrame → Bool × σ} {config : CaptureConfig} {sink : σ}
variable {threads next : CaptureThreads σ}

/-- The stream has done what its loop does for the answers so far, and nothing without them. -/
def Captured (onFrame : σ → AudioFrame → Bool × σ) (config : CaptureConfig) (sink : σ) (threads : CaptureThreads σ) :
    Prop :=
  match threads.worker with
  | .waiting => threads.polls = [] ∧ ∀ rest,
      WasapiCaptureStream.captureLoop onFrame (threads.waits ++ rest) { config := config } sink =
        WasapiCaptureStream.captureLoop onFrame rest threads.stream threads.sink
  | .draining => ∀ more rest,
      WasapiCaptureStream.captureLoop onFrame (threads.waits ++ .woken (threads.polls ++ more) :: rest)
          { config := config } sink =
        WasapiCaptureStream.captureLoop onFrame (.woken more :: rest) threads.stream threads.sink
  | .stopClient | .revertThread | .closeDataEvent =>
      WasapiCaptureStream.captureLoop onFrame threads.waits { config := config } sink = (threads.stream, threads.sink)
  | .finished =>
      WasapiCaptureStream.captureLoop onFrame threads.waits { config := config } sink = (threads.stream, threads.sink) ∧
      (initError threads.calls ≠ none → threads.sink = sink)
  | _ => threads.waits = [] ∧ threads.polls = [] ∧ threads.stream = { config := config } ∧ threads.sink = sink

theorem captured_begin : Captured onFrame config sink (begin config sink) := ⟨rfl, rfl, rfl, rfl⟩

/-- What has come so far is what the loop makes of the answers. -/
theorem Captured.loop (captured : Captured onFrame config sink threads) :
    WasapiCaptureStream.captureLoop onFrame threads.answers { config := config } sink =
      (threads.stream, threads.sink) := by
  unfold Captured at captured
  unfold answers
  cases place : threads.worker with
  | waiting =>
    simp only [place] at captured
    have now := captured.2 []
    rw [List.append_nil] at now
    rw [if_neg (by simp), now]
    rfl
  | draining =>
    simp only [place] at captured
    have now := captured [] []
    rw [List.append_nil] at now
    rw [if_pos rfl, now]
    rfl
  | stopClient | revertThread | closeDataEvent =>
    simp only [place] at captured
    rw [if_neg (by simp), captured]
  | finished =>
    simp only [place] at captured
    rw [if_neg (by simp), captured.1]
  | unborn | initializing | queryEndpoint | abandonDataEvent | storeResult | signalInitDone | registerThread =>
    simp only [place] at captured
    obtain ⟨waits, -, stream, same⟩ := captured
    rw [if_neg (by simp), waits, stream, same]
    rfl

/-- Only the capture thread's own steps concern what it has captured. -/
theorem Captured.frame (captured : Captured onFrame config sink threads) (worker : next.worker = threads.worker)
    (waits : next.waits = threads.waits) (polls : next.polls = threads.polls) (stream : next.stream = threads.stream)
    (same : next.sink = threads.sink) (calls : next.calls = threads.calls) : Captured onFrame config sink next := by
  unfold Captured at captured ⊢
  rwa [worker, waits, polls, stream, same, calls]

/-- The thread is in none of its calls: `start` failed or the stream is destroyed, or its owner has it. -/
def Resting (threads : CaptureThreads σ) : Prop := threads.caller = .holding ∨ ∃ ending, threads.caller = .done ending

/-- How many of its steps the starting thread has left at most. -/
def callerRank : Caller → ℕ
  | .createStopEvent => 12
  | .createInitDone => 11
  | .checkEvents => 10
  | .createThread => 9
  | .awaitInit => 8
  | .closeInitDone => 7
  | .loadResult => 6
  | .joinFailed _ => 5
  | .signalStop _ => 3
  | .joinThread _ => 2
  | .closeStopEvent _ => 1
  | .holding | .done _ => 0

/-- How many steps the capture thread has left at most when it gets no more packets. -/
def workerRank : Worker → ℕ
  | .unborn | .initializing .createEnumerator => 18
  | .initializing .getDevice => 17
  | .queryEndpoint => 16
  | .initializing .activate => 15
  | .initializing .initializeClient => 14
  | .initializing .createDataEvent => 13
  | .initializing .setEventHandle => 12
  | .initializing .getService => 11
  | .initializing .start => 10
  | .abandonDataEvent => 9
  | .storeResult _ => 8
  | .signalInitDone _ => 7
  | .registerThread | .draining => 6
  | .waiting => 5
  | .stopClient => 3
  | .revertThread => 2
  | .closeDataEvent => 1
  | .finished => 0

def rank (threads : CaptureThreads σ) : ℕ := callerRank threads.caller + workerRank threads.worker

/-- A wake-up for data pays for its wait, and a packet for its pass. -/
def pays : ThreadStep → ℕ
  | .wait .woken => 2
  | .poll (some (.packet _)) => 1
  | _ => 0

/-- A call that the system refuses. -/
def Refuses : ThreadStep → Prop
  | .create made | .spawn made | .register made => made = false
  | .init hr => failed hr = true
  | .wait .failed | .poll (some .sizeFailed) | .poll (some .bufferFailed) => True
  | _ => False

/-- A step of the threads that needs no data and no failure. -/
def OnItsOwn (label : ThreadStep) : Prop := ¬ Refuses label ∧ pays label = 0

/-- What the starting thread leaves to the capture thread. -/
theorem stepCaller_leaves (taken : threads.stepCaller = some next) :
    callerRank next.caller < callerRank threads.caller ∧ next.worker = threads.worker ∧ next.waits = threads.waits ∧
      next.polls = threads.polls ∧ next.stream = threads.stream ∧ next.sink = threads.sink ∧
      next.calls = threads.calls := by
  unfold stepCaller at taken
  cases place : threads.caller with
  | checkEvents =>
    simp only [place] at taken
    split at taken
    · obtain rfl := Option.some.inj taken
      exact ⟨by simp [callerRank, check], rfl, rfl, rfl, rfl, rfl, rfl⟩
    · obtain rfl := Option.some.inj taken
      exact ⟨by simp [callerRank], rfl, rfl, rfl, rfl, rfl, rfl⟩
  | awaitInit =>
    simp only [place] at taken
    split at taken
    · obtain ⟨-, taken⟩ := Option.ite_none_right_eq_some.mp taken
      obtain rfl := Option.some.inj taken
      exact ⟨by simp [callerRank], rfl, rfl, rfl, rfl, rfl, rfl⟩
    · obtain rfl := Option.some.inj taken
      exact ⟨by simp [callerRank, check], rfl, rfl, rfl, rfl, rfl, rfl⟩
  | loadResult =>
    simp only [place] at taken
    split at taken <;> obtain rfl := Option.some.inj taken <;>
      exact ⟨by simp [callerRank, check], rfl, rfl, rfl, rfl, rfl, rfl⟩
  | joinFailed error =>
    simp only [place] at taken
    obtain ⟨-, taken⟩ := Option.ite_none_right_eq_some.mp taken
    obtain rfl := Option.some.inj taken
    exact ⟨by simp [callerRank], rfl, rfl, rfl, rfl, rfl, rfl⟩
  | joinThread purpose =>
    simp only [place] at taken
    obtain ⟨-, taken⟩ := Option.ite_none_right_eq_some.mp taken
    obtain rfl := Option.some.inj taken
    exact ⟨by cases purpose <;> simp [callerRank], rfl, rfl, rfl, rfl, rfl, rfl⟩
  | closeInitDone | signalStop | closeStopEvent =>
    simp only [place] at taken
    obtain rfl := Option.some.inj taken
    exact ⟨by simp [callerRank, check], rfl, rfl, rfl, rfl, rfl, rfl⟩
  | createStopEvent | createInitDone | createThread | holding | done => simp [place] at taken

theorem stepCreate_leaves {made : Bool} (taken : threads.stepCreate made = some next) :
    callerRank next.caller < callerRank threads.caller ∧ next.worker = threads.worker ∧ next.waits = threads.waits ∧
      next.polls = threads.polls ∧ next.stream = threads.stream ∧ next.sink = threads.sink ∧
      next.calls = threads.calls := by
  unfold stepCreate at taken
  cases place : threads.caller with
  | createStopEvent | createInitDone =>
    simp only [place] at taken
    obtain rfl := Option.some.inj taken
    exact ⟨by simp [callerRank], rfl, rfl, rfl, rfl, rfl, rfl⟩
  | _ => simp [place] at taken

theorem stepSpawn_leaves {made : Bool} (taken : threads.stepSpawn made = some next) :
    callerRank next.caller < callerRank threads.caller ∧ threads.caller = .createThread ∧
      (next.worker = threads.worker ∨ next.worker = .initializing .createEnumerator) ∧ next.waits = threads.waits ∧
      next.polls = threads.polls ∧ next.stream = threads.stream ∧ next.sink = threads.sink ∧
      next.calls = threads.calls := by
  unfold stepSpawn at taken
  cases place : threads.caller with
  | createThread =>
    simp only [place] at taken
    cases made
    · obtain rfl := Option.some.inj taken
      exact ⟨by simp [callerRank], rfl, .inl rfl, rfl, rfl, rfl, rfl, rfl⟩
    · obtain rfl := Option.some.inj taken
      exact ⟨by simp [callerRank], rfl, .inr rfl, rfl, rfl, rfl, rfl, rfl⟩
  | _ => simp [place] at taken

/-- No thread is there yet where one is created. -/
theorem Orderly.unborn (orderly : Orderly threads) (place : threads.caller = .createThread) :
    threads.worker = .unborn := by
  have caller := orderly.caller
  simp only [CallerOrder, place] at caller
  exact caller.1

theorem captured_stepPoll {poll : Option Poll} (captured : Captured onFrame config sink threads)
    (taken : threads.stepPoll onFrame poll = some next) : Captured onFrame config sink next := by
  obtain ⟨place, cases⟩ := stepPoll_cases taken
  simp only [Captured, place] at captured
  rcases cases with ⟨-, rfl⟩ | ⟨packet, -, rfl⟩ | ⟨failure, -, rfl | rfl, rfl⟩
  · refine ⟨rfl, fun rest => ?_⟩
    have loops := captured [] rest
    rw [List.append_nil] at loops
    rw [List.append_assoc]
    exact loops
  · simp only [Captured, place]
    intro more rest
    rw [List.append_assoc]
    exact captured (.packet packet :: more) rest
  · exact captured [.sizeFailed] []
  · exact captured [.bufferFailed] []

theorem captured_stepInit {hr : HResult} (captured : Captured onFrame config sink threads)
    (taken : threads.stepInit hr = some next) : Captured onFrame config sink next := by
  obtain ⟨call, place, cases⟩ := stepInit_cases taken
  simp only [Captured, place] at captured
  rcases cases with ⟨error, -, rfl⟩ | ⟨-, rfl⟩
  · cases call <;> exact captured
  · cases flow : threads.loopback <;> cases call <;> exact captured

theorem captured_stepWorker (orderly : Orderly threads) (captured : Captured onFrame config sink threads)
    (taken : threads.stepWorker = some next) : Captured onFrame config sink next := by
  unfold stepWorker at taken
  cases place : threads.worker with
  | abandonDataEvent | storeResult | stopClient | revertThread =>
    simp only [place, Captured] at taken captured
    obtain rfl := Option.some.inj taken
    exact captured
  | signalInitDone failure =>
    simp only [place, Captured] at taken captured
    obtain rfl := Option.some.inj taken
    cases failure with
    | none => exact captured
    | some error =>
      obtain ⟨waits, -, stream, same⟩ := captured
      refine ⟨?_, fun _ => same⟩
      simp only [check, waits, stream, same]
      rfl
  | closeDataEvent =>
    have worker := orderly.worker
    simp only [place, Captured, WorkerOrder] at taken captured worker
    obtain rfl := Option.some.inj taken
    exact ⟨captured, fun failed => absurd worker.2.2.2.1 failed⟩
  | _ => simp [place] at taken

theorem captured_step {label : ThreadStep} (orderly : Orderly threads) (captured : Captured onFrame config sink threads)
    (taken : threads.step onFrame label = some next) : Captured onFrame config sink next := by
  cases label with
  | create made =>
    obtain ⟨-, worker, waits, polls, stream, same, calls⟩ := stepCreate_leaves taken
    exact captured.frame worker waits polls stream same calls
  | spawn made =>
    obtain ⟨-, place, worker | worker, waits, polls, stream, same, calls⟩ := stepSpawn_leaves taken
    · exact captured.frame worker waits polls stream same calls
    · simp only [Captured, orderly.unborn place, worker, waits, polls, stream, same] at captured ⊢
      exact captured
  | caller =>
    obtain ⟨-, worker, waits, polls, stream, same, calls⟩ := stepCaller_leaves taken
    exact captured.frame worker waits polls stream same calls
  | stop =>
    obtain ⟨-, taken⟩ := Option.ite_none_right_eq_some.mp taken
    obtain rfl := Option.some.inj taken
    exact captured.frame rfl rfl rfl rfl rfl rfl
  | destroy =>
    obtain ⟨-, taken⟩ := Option.ite_none_right_eq_some.mp taken
    obtain rfl := Option.some.inj taken
    exact captured.frame rfl rfl rfl rfl rfl rfl
  | init hr => exact captured_stepInit captured taken
  | endpoint render =>
    obtain ⟨place, taken⟩ := Option.ite_none_right_eq_some.mp taken
    obtain rfl := Option.some.inj taken
    simp only [Captured, place] at captured
    exact captured
  | worker => exact captured_stepWorker orderly captured taken
  | register made =>
    obtain ⟨place, taken⟩ := Option.ite_none_right_eq_some.mp taken
    obtain rfl := Option.some.inj taken
    simp only [Captured, place] at captured ⊢
    obtain ⟨waits, polls, stream, same⟩ := captured
    exact ⟨polls, fun rest => by rw [waits, stream, same, List.nil_append]⟩
  | wait wake =>
    obtain ⟨place, cases⟩ := stepWait_cases orderly taken
    simp only [Captured, place] at captured
    obtain ⟨polls, loops⟩ := captured
    rcases cases with ⟨-, rfl⟩ | ⟨-, -, rfl⟩ | ⟨-, -, rfl⟩
    · exact loops [.failed]
    · exact loops [.stopRequested]
    · simp only [Captured, polls]
      exact fun more rest => loops (.woken more :: rest)
  | poll poll => exact captured_stepPoll captured taken

theorem stepInit_falls {hr : HResult} (taken : threads.stepInit hr = some next) : rank next + 1 ≤ rank threads := by
  obtain ⟨call, place, ⟨error, -, rfl⟩ | ⟨-, rfl⟩⟩ := stepInit_cases taken
  · cases call <;> simp [rank, place, workerRank, InitCall.refused]
  · generalize threads.loopback = loopback
    cases loopback <;> cases call <;> simp [rank, place, workerRank, InitCall.answered]

theorem stepWorker_falls (taken : threads.stepWorker = some next) : rank next + 1 ≤ rank threads := by
  unfold stepWorker at taken
  cases place : threads.worker with
  | signalInitDone failure =>
    simp only [place] at taken
    obtain rfl := Option.some.inj taken
    cases failure
    · simp only [rank, place, workerRank, check, Option.isSome_none, Bool.false_eq_true, if_false]
      omega
    · simp only [rank, place, workerRank, check, Option.isSome_some, if_true]
      omega
  | abandonDataEvent | storeResult | stopClient | revertThread | closeDataEvent =>
    simp only [place] at taken
    obtain rfl := Option.some.inj taken
    simp only [rank, place, workerRank, check]
    omega
  | _ => simp [place] at taken

/-- Each step of the threads takes the rank down, up to what the device pays in. -/
theorem step_falls {label : ThreadStep} (orderly : Orderly threads) (busy : ¬ Resting threads)
    (taken : threads.step onFrame label = some next) : rank next + 1 ≤ rank threads + pays label := by
  cases label with
  | create made =>
    obtain ⟨falls, worker, -⟩ := stepCreate_leaves taken
    unfold rank
    rw [worker]
    omega
  | spawn made =>
    obtain ⟨falls, place, worker | worker, -⟩ := stepSpawn_leaves taken
    · unfold rank
      rw [worker]
      omega
    · unfold rank
      rw [worker, orderly.unborn place]
      simp only [workerRank]
      omega
  | caller =>
    obtain ⟨falls, worker, -⟩ := stepCaller_leaves taken
    unfold rank
    rw [worker]
    omega
  | stop => exact absurd (.inl (Option.ite_none_right_eq_some.mp taken).1) busy
  | destroy => exact absurd (.inl (Option.ite_none_right_eq_some.mp taken).1) busy
  | init hr => exact Nat.le_add_right_of_le (stepInit_falls taken)
  | endpoint render =>
    obtain ⟨place, taken⟩ := Option.ite_none_right_eq_some.mp taken
    obtain rfl := Option.some.inj taken
    simp only [rank, place, workerRank, pays]
    omega
  | worker => exact Nat.le_add_right_of_le (stepWorker_falls taken)
  | register made =>
    obtain ⟨place, taken⟩ := Option.ite_none_right_eq_some.mp taken
    obtain rfl := Option.some.inj taken
    simp only [rank, place, workerRank, pays]
    omega
  | wait wake =>
    obtain ⟨place, cases⟩ := stepWait_cases orderly taken
    rcases cases with ⟨rfl, rfl⟩ | ⟨rfl, -, rfl⟩ | ⟨rfl, -, rfl⟩ <;> simp only [rank, place, workerRank, pays] <;> omega
  | poll poll =>
    obtain ⟨place, cases⟩ := stepPoll_cases taken
    rcases cases with ⟨rfl, rfl⟩ | ⟨packet, rfl, rfl⟩ | ⟨failure, rfl, rfl | rfl, rfl⟩ <;>
      simp only [rank, place, workerRank, pays] <;> omega

/-- The capture thread has a step of its own until it waits for data. -/
theorem worker_enabled (onFrame : σ → AudioFrame → Bool × σ) (orderly : Orderly threads)
    (born : threads.worker ≠ .unborn) (alive : threads.worker ≠ .finished)
    (stopped : threads.worker = .waiting → threads.stopEvent = .live true) :
    ∃ label, OnItsOwn label ∧ (threads.step onFrame label).isSome = true := by
  have worker := orderly.worker
  cases place : threads.worker with
  | unborn => exact absurd place born
  | initializing call =>
    refine ⟨.init 0, ⟨by simp [Refuses, failed], rfl⟩, ?_⟩
    simp only [step, stepInit, place]
    split <;> rfl
  | queryEndpoint => exact ⟨.endpoint none, ⟨id, rfl⟩, by simp [step, place]⟩
  | registerThread => exact ⟨.register true, ⟨by simp [Refuses], rfl⟩, by simp [step, place]⟩
  | waiting =>
    refine ⟨.wait .stopRequested, ⟨id, rfl⟩, ?_⟩
    simp [step, stepWait, place, check, stopped place]
  | draining => exact ⟨.poll none, ⟨id, rfl⟩, by simp [step, stepPoll, place]⟩
  | abandonDataEvent | storeResult | signalInitDone | stopClient | revertThread | closeDataEvent =>
    exact ⟨.worker, ⟨id, rfl⟩, by simp [step, stepWorker, place]⟩
  | finished => exact absurd place alive

/-- `start`, `stop` and the destructor do not get stuck. -/
theorem step_enabled (onFrame : σ → AudioFrame → Bool × σ) (orderly : Orderly threads) (busy : ¬ Resting threads) :
    ∃ label, OnItsOwn label ∧ (threads.step onFrame label).isSome = true := by
  have caller := orderly.caller
  have own (steps : threads.stepCaller.isSome = true) :
      ∃ label, OnItsOwn label ∧ (threads.step onFrame label).isSome = true := ⟨.caller, ⟨id, rfl⟩, steps⟩
  cases place : threads.caller with
  | createStopEvent | createInitDone =>
    exact ⟨.create true, ⟨by simp [Refuses], rfl⟩, by simp [step, stepCreate, place]⟩
  | checkEvents =>
    refine own ?_
    simp only [stepCaller, place]
    split <;> rfl
  | createThread => exact ⟨.spawn true, ⟨by simp [Refuses], rfl⟩, by simp [step, stepSpawn, place]⟩
  | awaitInit =>
    simp only [CallerOrder, place] at caller
    cases reporting : threads.worker.reporting with
    | true =>
      refine worker_enabled onFrame orderly caller.1 (fun finished => ?_) fun waiting => ?_
      · simp [finished, Worker.reporting] at reporting
      · simp [waiting, Worker.reporting] at reporting
    | false =>
      refine own ?_
      simp [stepCaller, place, caller.2.2.1, reporting]
  | loadResult =>
    refine own ?_
    simp only [stepCaller, place]
    split <;> rfl
  | joinFailed error =>
    simp only [CallerOrder, place] at caller
    refine own ?_
    have finished := orderly.worker.failed caller.1 (by simp [caller.2.2.2.2.2])
    simp [stepCaller, place, finished]
  | joinThread purpose =>
    by_cases joins : threads.joinable = false ∨ threads.worker = .finished
    · refine own ?_
      simp [stepCaller, place, joins]
    · obtain ⟨joinable, alive⟩ := not_or.mp joins
      have born : threads.worker ≠ .unborn := by
        cases purpose with
        | stop =>
          simp only [CallerOrder, place] at caller
          exact caller.1.1
        | destroy ending =>
          simp only [CallerOrder, place] at caller
          exact fun unborn => joinable (caller.2.2.2.1.2 unborn)
      exact worker_enabled onFrame orderly born alive fun _ => orderly.stopping purpose place born
  | closeInitDone | signalStop | closeStopEvent => exact own (by simp [stepCaller, place])
  | holding => exact absurd (.inl place) busy
  | done ending => exact absurd (.inr ⟨ending, place⟩) busy

/-- The stop event is set for a thread that is waited for at the end, which then gets no data any more. -/
theorem Orderly.unwoken (orderly : Orderly threads) {purpose : Purpose} (place : threads.caller = .joinThread purpose)
    (taken : threads.step onFrame (.wait .woken) = some next) : False := by
  obtain ⟨waiting, cases⟩ := stepWait_cases orderly taken
  have set := orderly.stopping purpose place (by simp [waiting])
  simp [set] at cases

/-- Joining goes on to the end of the call without a wake-up. -/
theorem joining_unwoken {labels : List ThreadStep} {purpose : Purpose} (orderly : Orderly threads)
    (place : threads.caller = .joinThread purpose) (run : Run (step onFrame) threads labels next)
    (busy : Along (step onFrame) (fun now _ => now.caller = .joinThread purpose) threads labels) :
    .wait .woken ∉ labels := by
  induction labels generalizing threads with
  | nil => simp
  | cons label rest ih =>
    obtain ⟨later, taken, tail⟩ := Run.cons_iff.mp run
    have after := busy.2 later taken
    rw [List.mem_cons, not_or]
    refine ⟨?_, ?_⟩
    · rintro rfl
      exact orderly.unwoken place taken
    · cases rest with
      | nil => simp
      | cons other rest => exact ih (step_orderly orderly taken) after.1 tail after

/-- The client was started in an initialization that did not fail. -/
def Started (threads : CaptureThreads σ) : Prop :=
  match threads.worker with
  | .storeResult none | .signalInitDone none | .registerThread | .waiting | .draining | .stopClient | .revertThread
  | .closeDataEvent => .start ∈ threads.calls.map Prod.fst
  | .finished => initError threads.calls = none → .start ∈ threads.calls.map Prod.fst
  | _ => True

theorem Started.frame (started : Started threads) (worker : next.worker = threads.worker)
    (calls : next.calls = threads.calls) : Started next := by
  unfold Started at started ⊢
  rwa [worker, calls]

theorem started_stepInit {hr : HResult} (taken : threads.stepInit hr = some next) : Started next := by
  obtain ⟨call, place, ⟨error, -, rfl⟩ | ⟨-, rfl⟩⟩ := stepInit_cases taken
  · cases call <;> trivial
  · generalize threads.loopback = loopback
    cases loopback <;> cases call <;> simp [Started, InitCall.answered]

theorem started_stepWorker (orderly : Orderly threads) (started : Started threads)
    (taken : threads.stepWorker = some next) : Started next := by
  unfold stepWorker at taken
  cases place : threads.worker with
  | abandonDataEvent =>
    simp only [place] at taken
    obtain rfl := Option.some.inj taken
    trivial
  | storeResult failure =>
    simp only [place, Started] at taken started
    obtain rfl := Option.some.inj taken
    cases failure
    · exact started
    · trivial
  | signalInitDone failure =>
    have worker := orderly.worker
    simp only [place, Started, WorkerOrder] at taken started worker
    obtain rfl := Option.some.inj taken
    cases failure with
    | none => exact started
    | some error => exact fun found => absurd (worker.2.2.2.2.1.symm.trans found) (by simp)
  | stopClient | revertThread =>
    simp only [place, Started] at taken started
    obtain rfl := Option.some.inj taken
    exact started
  | closeDataEvent =>
    simp only [place, Started] at taken started
    obtain rfl := Option.some.inj taken
    exact fun _ => started
  | _ => simp [place] at taken

theorem started_step {label : ThreadStep} (orderly : Orderly threads) (started : Started threads)
    (taken : threads.step onFrame label = some next) : Started next := by
  cases label with
  | create made =>
    obtain ⟨-, worker, -, -, -, -, calls⟩ := stepCreate_leaves taken
    exact started.frame worker calls
  | spawn made =>
    obtain ⟨-, -, worker | worker, -, -, -, -, calls⟩ := stepSpawn_leaves taken
    · exact started.frame worker calls
    · simp [Started, worker]
  | caller =>
    obtain ⟨-, worker, -, -, -, -, calls⟩ := stepCaller_leaves taken
    exact started.frame worker calls
  | stop =>
    obtain ⟨-, taken⟩ := Option.ite_none_right_eq_some.mp taken
    obtain rfl := Option.some.inj taken
    exact started.frame rfl rfl
  | destroy =>
    obtain ⟨-, taken⟩ := Option.ite_none_right_eq_some.mp taken
    obtain rfl := Option.some.inj taken
    exact started.frame rfl rfl
  | init hr => exact started_stepInit taken
  | endpoint render =>
    obtain ⟨-, taken⟩ := Option.ite_none_right_eq_some.mp taken
    obtain rfl := Option.some.inj taken
    trivial
  | worker => exact started_stepWorker orderly started taken
  | register made =>
    obtain ⟨place, taken⟩ := Option.ite_none_right_eq_some.mp taken
    obtain rfl := Option.some.inj taken
    simp only [Started, place] at started ⊢
    exact started
  | wait wake =>
    obtain ⟨place, cases⟩ := stepWait_cases orderly taken
    simp only [Started, place] at started
    rcases cases with ⟨-, rfl⟩ | ⟨-, -, rfl⟩ | ⟨-, -, rfl⟩ <;> exact started
  | poll poll =>
    obtain ⟨place, cases⟩ := stepPoll_cases taken
    rcases cases with ⟨-, rfl⟩ | ⟨packet, -, rfl⟩ | ⟨failure, -, -, rfl⟩
    · simpa only [Started, place] using started
    · exact started.frame rfl rfl
    · simpa only [Started, place] using started

/-- A start that has succeeded has started the client. -/
theorem Started.holding (started : Started threads) (orderly : Orderly threads) (place : threads.caller = .holding) :
    initError threads.calls = none ∧ .start ∈ threads.calls.map Prod.fst := by
  have caller := orderly.caller
  simp only [CallerOrder, place] at caller
  obtain ⟨⟨born, reported⟩, -, -, -, -, found⟩ := caller
  refine ⟨found, ?_⟩
  unfold Started at started
  cases place : threads.worker with
  | unborn => exact absurd place born
  | initializing | queryEndpoint | abandonDataEvent | storeResult | signalInitDone =>
    simp [place, Worker.reporting] at reported
  | registerThread | waiting | draining | stopClient | revertThread | closeDataEvent =>
    simp only [place] at started
    exact started
  | finished =>
    simp only [place] at started
    exact started found

theorem stepCaller_throws (taken : threads.stepCaller = some next) : next.caller.throws = threads.caller.throws := by
  unfold stepCaller at taken
  cases place : threads.caller with
  | checkEvents | loadResult =>
    simp only [place] at taken
    split at taken <;> obtain rfl := Option.some.inj taken <;> rfl
  | awaitInit =>
    simp only [place] at taken
    split at taken
    · obtain ⟨-, taken⟩ := Option.ite_none_right_eq_some.mp taken
      obtain rfl := Option.some.inj taken
      rfl
    · obtain rfl := Option.some.inj taken
      rfl
  | joinFailed error =>
    simp only [place] at taken
    obtain ⟨-, taken⟩ := Option.ite_none_right_eq_some.mp taken
    obtain rfl := Option.some.inj taken
    rfl
  | joinThread purpose =>
    simp only [place] at taken
    obtain ⟨-, taken⟩ := Option.ite_none_right_eq_some.mp taken
    obtain rfl := Option.some.inj taken
    rcases purpose with _ | (_ | _ | _) <;> rfl
  | signalStop purpose =>
    simp only [place] at taken
    obtain rfl := Option.some.inj taken
    rcases purpose with _ | (_ | _ | _) <;> rfl
  | closeStopEvent ending =>
    simp only [place] at taken
    obtain rfl := Option.some.inj taken
    cases ending <;> rfl
  | closeInitDone =>
    simp only [place] at taken
    obtain rfl := Option.some.inj taken
    rfl
  | createStopEvent | createInitDone | createThread | holding | done => simp [place] at taken

/-- The capture thread's steps leave the other thread where it is. -/
theorem stepWorker_caller (taken : threads.stepWorker = some next) : next.caller = threads.caller := by
  unfold stepWorker at taken
  cases place : threads.worker with
  | abandonDataEvent | storeResult | signalInitDone | stopClient | revertThread | closeDataEvent =>
    simp only [place] at taken
    obtain rfl := Option.some.inj taken
    rfl
  | _ => simp [place] at taken

/-- Only a thread that cannot be created makes `start` throw. -/
theorem step_throws {label : ThreadStep} (orderly : Orderly threads) (taken : threads.step onFrame label = some next)
    (throws : next.caller.throws = true) : threads.caller.throws = true ∨ label = .spawn false := by
  cases label with
  | create made =>
    simp only [step, stepCreate] at taken
    split at taken
    · obtain rfl := Option.some.inj taken
      exact absurd throws (by simp [Caller.throws])
    · obtain rfl := Option.some.inj taken
      exact absurd throws (by simp [Caller.throws])
    · simp at taken
  | spawn made =>
    cases made with
    | false => exact .inr rfl
    | true =>
      simp only [step, stepSpawn] at taken
      split at taken
      · obtain rfl := Option.some.inj taken
        exact absurd throws (by simp [Caller.throws])
      · simp at taken
  | caller => exact .inl ((stepCaller_throws taken).symm.trans throws)
  | stop | destroy =>
    obtain ⟨-, taken⟩ := Option.ite_none_right_eq_some.mp taken
    obtain rfl := Option.some.inj taken
    exact absurd throws (by simp [Caller.throws])
  | endpoint | register =>
    obtain ⟨-, taken⟩ := Option.ite_none_right_eq_some.mp taken
    obtain rfl := Option.some.inj taken
    exact .inl throws
  | init hr => obtain ⟨call, -, ⟨error, -, rfl⟩ | ⟨-, rfl⟩⟩ := stepInit_cases taken <;> exact .inl throws
  | worker => exact .inl (stepWorker_caller taken ▸ throws)
  | wait wake =>
    obtain ⟨-, ⟨-, rfl⟩ | ⟨-, -, rfl⟩ | ⟨-, -, rfl⟩⟩ := stepWait_cases orderly taken <;> exact .inl throws
  | poll poll =>
    obtain ⟨-, ⟨-, rfl⟩ | ⟨packet, -, rfl⟩ | ⟨failure, -, -, rfl⟩⟩ := stepPoll_cases taken <;> exact .inl throws

theorem spawn_of_throws {labels : List ThreadStep} (orderly : Orderly threads)
    (run : Run (step onFrame) threads labels next) (throws : next.caller.throws = true) :
    threads.caller.throws = true ∨ .spawn false ∈ labels := by
  induction labels generalizing threads with
  | nil => exact .inl (Run.nil_iff.mp run ▸ throws)
  | cons label rest ih =>
    obtain ⟨later, taken, tail⟩ := Run.cons_iff.mp run
    rcases ih (step_orderly orderly taken) tail with already | member
    · rcases step_throws orderly taken already with before | rfl
      · exact .inl before
      · exact .inr (List.mem_cons_self ..)
    · exact .inr (List.mem_cons_of_mem _ member)

/-- What every interleaving keeps. -/
structure Standing (onFrame : σ → AudioFrame → Bool × σ) (config : CaptureConfig) (sink : σ)
    (threads : CaptureThreads σ) : Prop where
  orderly : Orderly threads
  captured : Captured onFrame config sink threads
  started : Started threads

theorem step_keeps {label : ThreadStep} (standing : Standing onFrame config sink threads)
    (taken : threads.step onFrame label = some next) : Standing onFrame config sink next where
  orderly := step_orderly standing.orderly taken
  captured := captured_step standing.orderly standing.captured taken
  started := started_step standing.orderly standing.started taken

theorem run_keeps {labels : List ThreadStep} (run : Run (step onFrame) (begin config sink) labels threads) :
    Standing onFrame config sink threads :=
  run.invariant (fun _ _ _ standing taken => step_keeps standing taken)
    ⟨orderly_begin config sink, captured_begin, trivial⟩

/-- Nothing is left of a stream that was not started or is destroyed, but the event of a `start` that has thrown. -/
theorem Orderly.released {ending : Ending} (orderly : Orderly threads) (place : threads.caller = .done ending) :
    threads.worker.Gone ∧ threads.running = false ∧ threads.stopEvent.Released ∧ threads.dataEvent.Released ∧
      threads.mmcss.Released ∧ (threads.initDone.Released ↔ ending ≠ .thrown) := by
  have caller := orderly.caller
  have worker := orderly.worker
  simp only [CallerOrder, place] at caller
  obtain ⟨gone, stopEvent, -, reports⟩ := caller
  have initDone : threads.initDone.Released ↔ ending ≠ .thrown := by
    cases ending with
    | destroyed => simp [reports.1]
    | refused error => simp [reports.1]
    | thrown => simp [reports.1, SystemHandle.Released]
  rcases gone with unborn | finished
  · simp only [WorkerOrder, unborn] at worker
    exact ⟨.inl unborn, worker.2.2.1, stopEvent, .inl worker.1, .inl worker.2.1, initDone⟩
  · simp only [WorkerOrder, finished] at worker
    exact ⟨.inr finished, worker.2.2.1, stopEvent, worker.1, worker.2.1, initDone⟩

/-- A thread that was joined is at its end. -/
theorem Orderly.joined (orderly : Orderly threads) (joined : threads.joinable = false)
    (born : threads.worker ≠ .unborn) : threads.worker = .finished := by
  have caller := orderly.caller
  unfold CallerOrder at caller
  cases place : threads.caller with
  | createStopEvent | createInitDone | checkEvents | createThread =>
    simp only [place] at caller
    exact absurd caller.1 born
  | awaitInit | closeInitDone | loadResult =>
    simp only [place] at caller
    exact absurd joined (by simp [caller.2.2.2.2])
  | joinFailed =>
    simp only [place] at caller
    exact absurd joined (by simp [caller.2.2.2.2.1])
  | holding =>
    simp only [place] at caller
    exact caller.2.2.2.2.1 joined
  | signalStop purpose =>
    cases purpose <;> simp only [place] at caller
    · exact caller.2.2.2.2.1 joined
    · exact (caller.2.2.2.1.1 joined).resolve_left born
  | joinThread purpose =>
    cases purpose <;> simp only [place] at caller
    · exact caller.2.2.2.2.1 joined
    · exact (caller.2.2.2.1.1 joined).resolve_left born
  | closeStopEvent | done =>
    simp only [place] at caller
    exact caller.1.resolve_left born

/-- The sink of a thread that has ended gets nothing more. -/
theorem finished_silent {labels : List ThreadStep} (run : Run (step onFrame) threads labels next)
    (orderly : Orderly threads) (finished : threads.worker = .finished) : next.sink = threads.sink := by
  refine (run.invariant (I := fun later => Orderly later ∧ later.worker = .finished ∧ later.sink = threads.sink) ?_
    ⟨orderly, finished, rfl⟩).2.2
  rintro now label later ⟨orderly, finished, same⟩ taken
  refine ⟨step_orderly orderly taken, ?_⟩
  cases label with
  | create made =>
    obtain ⟨-, worker, -, -, -, still, -⟩ := stepCreate_leaves taken
    exact ⟨worker.trans finished, still.trans same⟩
  | spawn made =>
    obtain ⟨-, place, -⟩ := stepSpawn_leaves taken
    exact absurd ((orderly.unborn place).symm.trans finished) (by simp)
  | caller =>
    obtain ⟨-, worker, -, -, -, still, -⟩ := stepCaller_leaves taken
    exact ⟨worker.trans finished, still.trans same⟩
  | stop =>
    obtain ⟨-, taken⟩ := Option.ite_none_right_eq_some.mp taken
    obtain rfl := Option.some.inj taken
    exact ⟨finished, same⟩
  | destroy =>
    obtain ⟨-, taken⟩ := Option.ite_none_right_eq_some.mp taken
    obtain rfl := Option.some.inj taken
    exact ⟨finished, same⟩
  | init | endpoint | worker | register | wait | poll =>
    simp [step, stepInit, stepWorker, stepWait, stepPoll, finished] at taken

theorem ranked : Ranked (step onFrame) (fun threads => Orderly threads ∧ ¬ Resting threads) Resting rank pays where
  keeps s label t standing taken := by
    by_cases resting : Resting t
    · exact .inr resting
    · exact .inl ⟨step_orderly standing.1 taken, resting⟩
  falls s label t standing taken := step_falls standing.1 standing.2 taken

theorem rank_le (threads : CaptureThreads σ) : rank threads ≤ 30 := by
  have caller : callerRank threads.caller ≤ 12 := by cases threads.caller <;> simp [callerRank]
  have worker : workerRank threads.worker ≤ 18 := by
    cases threads.worker with
    | initializing call => cases call <;> simp [workerRank]
    | _ => simp [workerRank]
  unfold rank
  omega

/-- A schedule in which the initialization finds the device in use. -/
def inUse : List ThreadStep :=
  [.create true, .create true, .caller, .spawn true, .init 0, .init 0, .endpoint (some false), .init 0,
    .init 0x8889000A, .worker, .worker, .caller, .caller, .caller, .caller, .caller, .caller, .caller]

/-- A schedule that captures one packet and stops. -/
def onePacket : List ThreadStep :=
  [.create true, .create true, .caller, .spawn true, .init 0, .init 0, .endpoint (some true), .init 0, .init 0, .init 0,
    .init 0, .worker, .worker, .caller, .caller, .register true, .caller, .wait .woken,
    .poll (some (.packet ⟨[], 0, 0, 0⟩)), .stop, .caller, .poll none, .wait .stopRequested, .worker, .worker,
    .worker, .caller]

/-- In every interleaving, whatever the system answers: no handle is used or closed behind its closing, nor the variable
of `start` out of its scope. `start` fails only with the error of the first call that failed, or where it gets no
events, and throws only where it gets no thread; otherwise the client was started. Where it has failed or the stream is
destroyed, the thread is gone and the client stopped, and every handle is closed but the event of a `start` that has
thrown. Of a start that failed or threw the sink has got nothing. -/
theorem start_reports (onFrame : σ → AudioFrame → Bool × σ) (config : CaptureConfig) (sink : σ)
    (labels : List ThreadStep) (threads : CaptureThreads σ)
    (run : Run (step onFrame) (begin config sink) labels threads) :
    threads.misused = false ∧
    (threads.caller = .holding → initError threads.calls = none ∧ .start ∈ threads.calls.map Prod.fst) ∧
    (∀ error, threads.caller = .done (.refused error) → threads.sink = sink ∧
      ((threads.stopEvent = .null ∨ threads.initDone = .null) ∧ error = .backendFailure ∨
        initError threads.calls = some error)) ∧
    (threads.caller = .done .thrown → threads.sink = sink ∧ .spawn false ∈ labels ∧ threads.worker = .unborn) ∧
    ∀ ending, threads.caller = .done ending → threads.worker.Gone ∧ threads.running = false ∧
      threads.stopEvent.Released ∧ threads.dataEvent.Released ∧ threads.mmcss.Released ∧
      (threads.initDone.Released ↔ ending ≠ .thrown) := by
  obtain ⟨orderly, captured, started⟩ := run_keeps run
  refine ⟨orderly.allowed, started.holding orderly, fun error failed => ?_, fun thrown => ?_,
    fun ending => orderly.released⟩
  · have caller := orderly.caller
    simp only [CallerOrder, failed] at caller
    rcases caller.2.2.2.2 with ⟨unborn, missing, same⟩ | ⟨finished, found⟩
    · simp only [Captured, unborn] at captured
      exact ⟨captured.2.2.2, .inl ⟨missing, same⟩⟩
    · simp only [Captured, finished] at captured
      exact ⟨captured.2 (by simp [found]), .inr found⟩
  · have caller := orderly.caller
    simp only [CallerOrder, thrown] at caller
    have unborn : threads.worker = .unborn := caller.2.2.2.2
    simp only [Captured, unborn] at captured
    have spawned := spawn_of_throws (orderly_begin config sink) run (congrArg Caller.throws thrown)
    exact ⟨captured.2.2.2, spawned.resolve_left (by simp [begin, Caller.throws]), unborn⟩

/-- A start on a device that another program has for itself. -/
theorem start_reports_in_use : ∃ threads : CaptureThreads ℕ,
    Run (step fun count _ => (true, count + 1)) (begin {} 0) inUse threads ∧
      threads.caller = .done (.refused .deviceUnavailable) ∧ threads.misused = false ∧ threads.sink = 0 ∧
      threads.worker.Gone ∧ threads.stopEvent.Released := by
  have outcome : (exec (step fun (count : ℕ) _ => (true, count + 1)) (begin {} 0) inUse).map
      (fun threads => threads.caller) = some (.done (.refused .deviceUnavailable)) := by decide +kernel
  obtain ⟨threads, run, failed⟩ := Option.map_eq_some_iff.mp outcome
  obtain ⟨allowed, -, reports, -, releases⟩ := start_reports _ {} 0 inUse threads run
  obtain ⟨gone, -, stopEvent, -⟩ := releases _ failed
  exact ⟨threads, run, failed, allowed, (reports _ failed).1, gone, stopEvent⟩

-- A start that throws leaves its event behind.
example : (exec (step fun (count : ℕ) _ => (true, count + 1)) (begin {} 0)
    [.create true, .create true, .caller, .spawn false, .caller, .caller, .caller]).map
      (fun threads => (threads.caller, threads.stopEvent, threads.initDone)) =
    some (.done .thrown, .closed, .live false) := by decide +kernel

/-- In every interleaving the sink has got what `captureLoop` gives it for the answers so far, and nothing more once the
thread was joined. `start`, `stop` and the destructor return: from wherever they are, steps of the threads lead there
that neither wait for data nor are refused, and no schedule goes on for longer than 30 steps and what the device's
wake-ups and packets pay in. Once the thread is waited for there are no more wake-ups. -/
theorem stop_silences (onFrame : σ → AudioFrame → Bool × σ) (config : CaptureConfig) (sink : σ)
    (labels : List ThreadStep) (threads : CaptureThreads σ)
    (run : Run (step onFrame) (begin config sink) labels threads) :
    WasapiCaptureStream.captureLoop onFrame threads.answers { config := config } sink = (threads.stream, threads.sink) ∧
    (threads.joinable = false → threads.worker ≠ .unborn → ∀ more later, Run (step onFrame) threads more later →
      later.sink = threads.sink) ∧
    (∃ more later, Run (step onFrame) threads more later ∧ (∀ label ∈ more, OnItsOwn label) ∧ Resting later) ∧
    (∀ more later, Run (step onFrame) threads more later →
      Along (step onFrame) (fun now _ => ¬ Resting now) threads more → more.length ≤ 30 + (more.map pays).sum) ∧
    ∀ purpose, threads.caller = .joinThread purpose → ∀ more later, Run (step onFrame) threads more later →
      Along (step onFrame) (fun now _ => now.caller = .joinThread purpose) threads more → .wait .woken ∉ more := by
  obtain ⟨orderly, captured, -⟩ := run_keeps run
  refine ⟨captured.loop, fun joined born more later runs => ?_, ?_, fun more later runs short => ?_,
    fun purpose place more later runs busy => joining_unwoken orderly place runs busy⟩
  · exact finished_silent runs orderly (orderly.joined joined born)
  · by_cases resting : Resting threads
    · exact ⟨[], threads, Run.nil_iff.mpr rfl, by simp, resting⟩
    · exact ranked.reaches (fun now standing _ => step_enabled onFrame standing.1 standing.2) threads ⟨orderly, resting⟩
  · by_cases resting : Resting threads
    · cases more with
      | nil => simp
      | cons label rest => exact absurd resting short.1
    · have bound := ranked.length_le runs ⟨orderly, resting⟩ short
      have most := rank_le threads
      omega

/-- A stream that is stopped behind its first packet. -/
theorem stop_silences_packet : ∃ threads : CaptureThreads ℕ,
    Run (step fun count _ => (true, count + 1)) (begin {} 0) onePacket threads ∧ threads.sink = 1 ∧
      ∀ more later, Run (step fun count _ => (true, count + 1)) threads more later → later.sink = 1 := by
  have outcome : (exec (step fun (count : ℕ) _ => (true, count + 1)) (begin {} 0) onePacket).map (fun threads =>
      ((threads.joinable, threads.worker), threads.sink)) = some ((false, .finished), 1) := by decide +kernel
  obtain ⟨threads, run, same⟩ := Option.map_eq_some_iff.mp outcome
  simp only [Prod.mk.injEq] at same
  obtain ⟨⟨joined, finished⟩, one⟩ := same
  obtain ⟨-, silent, -⟩ := stop_silences _ {} 0 onePacket threads run
  exact ⟨threads, run, one, fun more later runs => (silent joined (by simp [finished]) more later runs).trans one⟩

end CaptureThreads

end VoxMesh.Platform.Windows
