import VoxMesh.Machine.Run
import VoxMesh.Model.WasapiThreads

/-! # The handshake of a WASAPI capture stream

What each of the two threads relies on where it is. The event and the result variable of `start` are the capture
thread's until it signals the event. From then on they are the starting thread's.
-/

namespace VoxMesh.Platform.Windows

open VoxMesh.Audio Machine

/-- The thread has begun and has not reported its result yet. -/
def Worker.reporting : Worker → Bool
  | .initializing _ | .queryEndpoint | .abandonDataEvent | .storeResult _ | .signalInitDone _ => true
  | _ => false

/-- The thread has reported its result. -/
def Worker.Reported (worker : Worker) : Prop := worker ≠ .unborn ∧ worker.reporting = false

/-- There is no thread, or none any more. -/
def Worker.Gone (worker : Worker) : Prop := worker = .unborn ∨ worker = .finished

theorem Worker.Gone.reporting {worker : Worker} (gone : worker.Gone) : worker.reporting = false := by
  rcases gone with rfl | rfl <;> rfl

theorem InitCall.answered_reporting (loopback : Bool) (call : InitCall) :
    (call.answered loopback).reporting = true := by
  cases loopback <;> cases call <;> rfl

theorem Worker.reporting_born {worker : Worker} (reporting : worker.reporting = true) : worker ≠ .unborn := by
  rintro rfl
  simp [Worker.reporting] at reporting

namespace CaptureThreads

variable {σ : Type} {onFrame : σ → AudioFrame → Bool × σ} {threads next : CaptureThreads σ}

/-- The stop event is there as long as the thread may wait for it. -/
def StopStands (threads : CaptureThreads σ) : Prop :=
  threads.stopEvent ≠ .closed ∧ (threads.worker ≠ .unborn → threads.stopEvent ≠ .null)

/-- The thread is there to be joined, or it is gone. -/
def Joins (threads : CaptureThreads σ) : Prop :=
  (threads.joinable = false → threads.worker.Gone) ∧ (threads.worker = .unborn → threads.joinable = false)

/-- What has happened where the destructor runs, and what has become of the event of `start`. -/
def Reports (threads : CaptureThreads σ) : Ending → Prop
  | .refused error => threads.initDone.Released ∧
      (threads.worker = .unborn ∧ (threads.stopEvent = .null ∨ threads.initDone = .null) ∧ error = .backendFailure ∨
        threads.worker = .finished ∧ initError threads.calls = some error)
  | .destroyed => threads.initDone.Released ∧ threads.worker ≠ .unborn ∧ initError threads.calls = none
  | .thrown => threads.initDone = .live false ∧ threads.worker = .unborn

theorem Reports.frame {ending : Ending} (reports : threads.Reports ending)
    (worker : next.worker = threads.worker) (calls : next.calls = threads.calls)
    (stopEvent : threads.stopEvent = .null → next.stopEvent = .null)
    (initDone : next.initDone = threads.initDone) : next.Reports ending := by
  cases ending with
  | destroyed => exact ⟨initDone ▸ reports.1, worker ▸ reports.2.1, calls ▸ reports.2.2⟩
  | refused error =>
    refine ⟨initDone ▸ reports.1, ?_⟩
    rcases reports.2 with ⟨unborn, missing, same⟩ | ⟨finished, found⟩
    · exact .inl ⟨worker.trans unborn, missing.imp stopEvent fun null => initDone.trans null, same⟩
    · exact .inr ⟨worker.trans finished, by rw [calls, found]⟩
  | thrown => exact ⟨initDone.trans reports.1, worker.trans reports.2⟩

/-- What the starting thread relies on. -/
def CallerOrder (threads : CaptureThreads σ) : Prop :=
  match threads.caller with
  | .createStopEvent => threads.worker = .unborn ∧ threads.stopEvent = .null ∧ threads.initDone = .null ∧
      threads.initResult = none ∧ threads.joinable = false
  | .createInitDone => threads.worker = .unborn ∧ StopStands threads ∧ threads.initDone = .null ∧
      threads.initResult = none ∧ threads.joinable = false
  | .checkEvents => threads.worker = .unborn ∧ StopStands threads ∧
      (threads.initDone = .null ∨ threads.initDone = .live false) ∧ threads.initResult = none ∧ threads.joinable = false
  | .createThread => threads.worker = .unborn ∧ StopStands threads ∧ threads.stopEvent ≠ .null ∧
      threads.initDone = .live false ∧ threads.initResult = some 0 ∧ threads.joinable = false
  | .awaitInit => threads.worker ≠ .unborn ∧ StopStands threads ∧
      threads.initDone = .live (!threads.worker.reporting) ∧ threads.initResult.isSome ∧ threads.joinable = true
  | .closeInitDone => threads.worker.Reported ∧ StopStands threads ∧ threads.initDone = .live true ∧
      threads.initResult.isSome ∧ threads.joinable = true
  | .loadResult => threads.worker.Reported ∧ StopStands threads ∧ threads.initDone = .closed ∧
      threads.initResult.isSome ∧ threads.joinable = true
  | .joinFailed error => threads.worker.Reported ∧ StopStands threads ∧ threads.initDone = .closed ∧
      threads.initResult.isSome ∧ threads.joinable = true ∧ initError threads.calls = some error
  | .holding | .signalStop .stop | .joinThread .stop => threads.worker.Reported ∧ StopStands threads ∧
      threads.initDone = .closed ∧ threads.initResult = none ∧ (threads.joinable = false → threads.worker = .finished) ∧
      initError threads.calls = none
  | .signalStop (.destroy ending) | .joinThread (.destroy ending) => threads.worker.reporting = false ∧
      StopStands threads ∧ threads.initResult = none ∧ threads.Joins ∧ threads.Reports ending
  | .closeStopEvent ending => threads.worker.Gone ∧ StopStands threads ∧ threads.initResult = none ∧
      threads.Reports ending
  | .done ending => threads.worker.Gone ∧ threads.stopEvent.Released ∧ threads.initResult = none ∧
      threads.Reports ending

/-- What the capture thread relies on, and what it has found out. -/
def WorkerOrder (threads : CaptureThreads σ) : Prop :=
  match threads.worker with
  | .unborn => threads.dataEvent = .null ∧ threads.mmcss = .null ∧ threads.running = false ∧ threads.calls = []
  | .initializing .createEnumerator | .initializing .getDevice | .queryEndpoint | .initializing .activate
  | .initializing .initializeClient | .initializing .createDataEvent =>
      threads.dataEvent = .null ∧ threads.mmcss = .null ∧ threads.running = false ∧ initError threads.calls = none
  | .initializing .setEventHandle | .initializing .getService | .initializing .start => threads.dataEvent ≠ .closed ∧
      threads.mmcss = .null ∧ threads.running = false ∧ initError threads.calls = none
  | .abandonDataEvent => threads.dataEvent ≠ .closed ∧ threads.mmcss = .null ∧ threads.running = false ∧
      initError threads.calls = some .backendFailure
  | .storeResult failure => (failure = none → threads.dataEvent ≠ .closed) ∧
      (failure ≠ none → threads.dataEvent.Released) ∧ threads.mmcss = .null ∧ threads.running = failure.isNone ∧
      initError threads.calls = failure
  | .signalInitDone failure => (failure = none → threads.dataEvent ≠ .closed) ∧
      (failure ≠ none → threads.dataEvent.Released) ∧ threads.mmcss = .null ∧ threads.running = failure.isNone ∧
      initError threads.calls = failure ∧ threads.initResult = some (failure.elim 0 encode)
  | .registerThread => threads.dataEvent ≠ .closed ∧ threads.mmcss = .null ∧ threads.running = true ∧
      initError threads.calls = none ∧ ∀ result, threads.initResult = some result → result = 0
  | .waiting | .draining | .stopClient => threads.dataEvent ≠ .closed ∧ threads.mmcss ≠ .closed ∧
      threads.running = true ∧ initError threads.calls = none ∧ ∀ result, threads.initResult = some result → result = 0
  | .revertThread => threads.dataEvent ≠ .closed ∧ threads.mmcss ≠ .closed ∧ threads.running = false ∧
      initError threads.calls = none ∧ ∀ result, threads.initResult = some result → result = 0
  | .closeDataEvent => threads.dataEvent ≠ .closed ∧ threads.mmcss.Released ∧ threads.running = false ∧
      initError threads.calls = none ∧ ∀ result, threads.initResult = some result → result = 0
  | .finished => threads.dataEvent.Released ∧ threads.mmcss.Released ∧ threads.running = false ∧
      ∀ result, threads.initResult = some result → result = (initError threads.calls).elim 0 encode

structure Orderly (threads : CaptureThreads σ) : Prop where
  caller : CallerOrder threads
  worker : WorkerOrder threads
  /-- A thread that is waited for at the end was told to stop. -/
  stopping : ∀ purpose, threads.caller = .joinThread purpose → threads.worker ≠ .unborn → threads.stopEvent = .live true
  allowed : threads.misused = false

theorem orderly_begin (config : CaptureConfig) (sink : σ) : Orderly (begin config sink) where
  caller := ⟨rfl, rfl, rfl, rfl, rfl⟩
  worker := ⟨rfl, rfl, rfl, rfl⟩
  stopping := by simp [begin]
  allowed := rfl

/-- The capture thread is not concerned by steps that leave its own things alone, and its result where it waits to be
signalled. -/
theorem WorkerOrder.frame (order : WorkerOrder threads) (worker : next.worker = threads.worker)
    (dataEvent : next.dataEvent = threads.dataEvent) (mmcss : next.mmcss = threads.mmcss)
    (running : next.running = threads.running) (calls : next.calls = threads.calls)
    (result : next.initResult = threads.initResult ∨ threads.worker.reporting = false ∧ next.initResult = none) :
    WorkerOrder next := by
  unfold WorkerOrder at order ⊢
  rw [worker, dataEvent, mmcss, running, calls]
  rcases result with same | ⟨reported, gone⟩
  · rwa [same]
  · cases place : threads.worker with
    | signalInitDone failure => simp [place, Worker.reporting] at reported
    | initializing call => simp [place, Worker.reporting] at reported
    | _ => simp_all [Worker.reporting]

/-- A thread that has reported stored its result. -/
theorem WorkerOrder.result (order : WorkerOrder threads) (reported : threads.worker.Reported) (result : ℕ)
    (stored : threads.initResult = some result) : result = (initError threads.calls).elim 0 encode := by
  unfold WorkerOrder at order
  obtain ⟨born, reported⟩ := reported
  cases place : threads.worker with
  | unborn => exact absurd place born
  | initializing call => simp [place, Worker.reporting] at reported
  | _ => simp_all [Worker.reporting]

/-- A thread that has reported a failure ends. -/
theorem WorkerOrder.failed (order : WorkerOrder threads) (reported : threads.worker.Reported)
    (failure : initError threads.calls ≠ none) : threads.worker = .finished := by
  unfold WorkerOrder at order
  obtain ⟨born, reported⟩ := reported
  cases place : threads.worker with
  | unborn => exact absurd place born
  | finished => rfl
  | initializing | queryEndpoint | abandonDataEvent | storeResult | signalInitDone =>
    simp [place, Worker.reporting] at reported
  | registerThread | waiting | draining | stopClient | revertThread | closeDataEvent =>
    simp only [place] at order
    exact absurd order.2.2.2.1 failure

/-- `start` gives up without a thread where it gets no events. -/
theorem checkEvents_orderly (orderly : Orderly threads) (place : threads.caller = .checkEvents)
    (taken : threads.stepCaller = some next) : Orderly next := by
  obtain ⟨caller, worker, -, allowed⟩ := orderly
  unfold stepCaller at taken
  simp only [place, CallerOrder] at taken caller
  obtain ⟨unborn, stands, initDone, result, joinable⟩ := caller
  split at taken
  next missing =>
    obtain rfl := Option.some.inj taken
    have unclosed : threads.initDone ≠ .closed := by
      rcases initDone with null | live
      · simp [null]
      · simp [live]
    have closes := SystemHandle.release_released unclosed
    refine ⟨⟨?_, stands, result, ⟨fun _ => .inl unborn, fun _ => joinable⟩, closes.1,
        .inl ⟨unborn, missing.imp id fun null => by simp [check, null, SystemHandle.release], rfl⟩⟩,
      worker.frame rfl rfl rfl rfl rfl (.inl rfl), by simp [check], by simp [check, allowed, closes.2]⟩
    exact congrArg Worker.reporting unborn
  next present =>
    obtain rfl := Option.some.inj taken
    obtain ⟨stop, live⟩ := not_or.mp present
    refine ⟨⟨unborn, stands, stop, initDone.resolve_left live, rfl, joinable⟩, ?_, by simp, allowed⟩
    simp only [WorkerOrder, unborn] at worker ⊢
    exact worker

/-- `start` takes its verdict from the result that the thread has stored. -/
theorem loadResult_orderly (orderly : Orderly threads) (place : threads.caller = .loadResult)
    (taken : threads.stepCaller = some next) : Orderly next := by
  obtain ⟨caller, worker, -, allowed⟩ := orderly
  unfold stepCaller at taken
  simp only [place, CallerOrder] at taken caller
  obtain ⟨reported, stands, initDone, result, joinable⟩ := caller
  obtain ⟨result, stored⟩ := Option.isSome_iff_exists.mp result
  have verdict := worker.result reported result stored
  cases found : initError threads.calls with
  | none =>
    obtain rfl : result = 0 := by simpa [found] using verdict
    rw [stored] at taken
    obtain rfl := Option.some.inj taken
    exact ⟨⟨reported, stands, initDone, rfl, by simp [joinable], found⟩,
      worker.frame rfl rfl rfl rfl rfl (.inr ⟨reported.2, rfl⟩), by simp, allowed⟩
  | some error =>
    obtain rfl : result = error.code + 1 := by simpa [found, encode, Nat.add_comm] using verdict
    rw [stored] at taken
    obtain rfl := Option.some.inj taken
    have same : captureError (error.code + 1 - 1) = error := captureError_code error
    exact ⟨⟨reported, stands, initDone, rfl, joinable, found.trans (congrArg some same.symm)⟩,
      worker.frame rfl rfl rfl rfl rfl (.inl stored.symm), by simp, allowed⟩

/-- A thread is told to stop where one was started. -/
theorem signalStop_orderly {purpose : Purpose} (orderly : Orderly threads)
    (place : threads.caller = .signalStop purpose) (taken : threads.stepCaller = some next) : Orderly next := by
  obtain ⟨caller, worker, -, allowed⟩ := orderly
  unfold stepCaller at taken
  simp only [place] at taken
  obtain rfl := Option.some.inj taken
  have stands : StopStands threads := by
    cases purpose <;> simp only [CallerOrder, place] at caller <;> exact caller.2.1
  obtain ⟨notified, permitted⟩ := SystemHandle.notify_unclosed stands.1
  have still : threads.stopEvent.notify.1 ≠ .closed ∧
      (threads.worker ≠ .unborn → threads.stopEvent.notify.1 = .live true) := by
    rcases notified with ⟨same, null⟩ | ⟨live, present⟩
    · exact ⟨by simp [same], fun born => absurd null (stands.2 born)⟩
    · exact ⟨by simp [live], fun _ => live⟩
  have after : StopStands { threads with stopEvent := threads.stopEvent.notify.1 } :=
    ⟨still.1, fun born => by simp [still.2 born]⟩
  refine ⟨?_, worker.frame rfl rfl rfl rfl rfl (.inl rfl), fun _ _ => still.2, by simp [check, allowed, permitted]⟩
  cases purpose with
  | stop =>
    simp only [CallerOrder, place] at caller
    exact ⟨caller.1, after, caller.2.2⟩
  | destroy ending =>
    simp only [CallerOrder, place] at caller
    obtain ⟨reported, -, result, joins, reports⟩ := caller
    exact ⟨reported, after, result, joins,
      reports.frame rfl rfl (fun null => by simp [check, null, SystemHandle.notify]) rfl⟩

/-- The thread that is joined has ended. -/
theorem joinThread_orderly {purpose : Purpose} (orderly : Orderly threads)
    (place : threads.caller = .joinThread purpose) (taken : threads.stepCaller = some next) : Orderly next := by
  obtain ⟨caller, worker, -, allowed⟩ := orderly
  unfold stepCaller at taken
  simp only [place] at taken
  obtain ⟨ended, taken⟩ := Option.ite_none_right_eq_some.mp taken
  obtain rfl := Option.some.inj taken
  cases purpose with
  | stop =>
    simp only [CallerOrder, place] at caller
    obtain ⟨reported, stands, initDone, result, joined, found⟩ := caller
    exact ⟨⟨reported, stands, initDone, result, fun _ => ended.elim joined id, found⟩,
      worker.frame rfl rfl rfl rfl rfl (.inl rfl), by simp, allowed⟩
  | destroy ending =>
    simp only [CallerOrder, place] at caller
    obtain ⟨reported, stands, result, joined, reports⟩ := caller
    exact ⟨⟨ended.elim joined.1 .inr, stands, result, reports.frame rfl rfl id rfl⟩,
      worker.frame rfl rfl rfl rfl rfl (.inl rfl), by simp, allowed⟩

/-- The thread is there, or `start` throws and leaves its event behind. -/
theorem stepSpawn_orderly {made : Bool} (orderly : Orderly threads) (taken : threads.stepSpawn made = some next) :
    Orderly next := by
  obtain ⟨caller, worker, -, allowed⟩ := orderly
  unfold stepSpawn at taken
  cases place : threads.caller with
  | createThread =>
    simp only [place, CallerOrder] at taken caller
    obtain ⟨unborn, stands, stop, initDone, result, joinable⟩ := caller
    cases made with
    | true =>
      obtain rfl := Option.some.inj taken
      simp only [WorkerOrder, unborn] at worker
      obtain ⟨dataEvent, mmcss, running, calls⟩ := worker
      refine ⟨?_, ⟨dataEvent, mmcss, running, by simp [calls, initError]⟩, by simp, allowed⟩
      simp [CallerOrder, initDone, result, Worker.reporting, StopStands, stop, stands.1]
    | false =>
      obtain rfl := Option.some.inj taken
      have quiet : threads.worker.reporting = false := congrArg Worker.reporting unborn
      exact ⟨⟨quiet, stands, rfl, ⟨fun _ => .inl unborn, fun _ => joinable⟩, initDone, unborn⟩,
        worker.frame rfl rfl rfl rfl rfl (.inr ⟨quiet, rfl⟩), by simp, allowed⟩
  | _ => simp [place] at taken

theorem stepCaller_orderly (orderly : Orderly threads) (taken : threads.stepCaller = some next) : Orderly next := by
  have ⟨caller, worker, _, allowed⟩ := orderly
  have moved := taken
  unfold stepCaller at moved
  cases place : threads.caller with
  | createStopEvent => simp [place] at moved
  | createInitDone => simp [place] at moved
  | checkEvents => exact checkEvents_orderly orderly place taken
  | createThread => simp [place] at moved
  | awaitInit =>
    simp only [place, CallerOrder] at moved caller
    obtain ⟨born, stands, initDone, result, joinable⟩ := caller
    rw [initDone] at moved
    obtain ⟨signalled, moved⟩ := Option.ite_none_right_eq_some.mp moved
    obtain rfl := Option.some.inj moved
    have reported : threads.worker.reporting = false := by simpa using signalled
    exact ⟨⟨⟨born, reported⟩, stands, by simp [reported], result, joinable⟩,
      worker.frame rfl rfl rfl rfl rfl (.inl rfl), by simp, allowed⟩
  | closeInitDone =>
    simp only [place, CallerOrder] at moved caller
    obtain ⟨reported, stands, initDone, result, joinable⟩ := caller
    rw [initDone, SystemHandle.close_live] at moved
    obtain rfl := Option.some.inj moved
    exact ⟨⟨reported, stands, rfl, result, joinable⟩, worker.frame rfl rfl rfl rfl rfl (.inl rfl),
      by simp [check], by simp [check, allowed]⟩
  | loadResult => exact loadResult_orderly orderly place taken
  | joinFailed error =>
    simp only [place, CallerOrder] at moved caller
    obtain ⟨reported, stands, initDone, result, joinable, found⟩ := caller
    obtain ⟨finished, moved⟩ := Option.ite_none_right_eq_some.mp moved
    obtain rfl := Option.some.inj moved
    exact ⟨⟨reported.2, stands, rfl, ⟨fun _ => .inr finished, fun _ => rfl⟩, .inr initDone, .inr ⟨finished, found⟩⟩,
      worker.frame rfl rfl rfl rfl rfl (.inr ⟨reported.2, rfl⟩), by simp, allowed⟩
  | signalStop purpose => exact signalStop_orderly orderly place taken
  | joinThread purpose => exact joinThread_orderly orderly place taken
  | closeStopEvent ending =>
    simp only [place, CallerOrder] at moved caller
    obtain ⟨gone, stands, result, reports⟩ := caller
    obtain rfl := Option.some.inj moved
    obtain ⟨released, permitted⟩ := SystemHandle.release_released stands.1
    exact ⟨⟨gone, released, result,
      reports.frame rfl rfl (fun null => by simp [check, null, SystemHandle.release]) rfl⟩,
      worker.frame rfl rfl rfl rfl rfl (.inl rfl), by simp [check], by simp [check, allowed, permitted]⟩
  | holding => simp [place] at moved
  | done ending => simp [place] at moved

/-- `start` waits for a thread that has not reported. -/
theorem CallerOrder.awaits (order : CallerOrder threads) (reporting : threads.worker.reporting = true) :
    threads.caller = .awaitInit := by
  by_contra elsewhere
  have quiet : threads.worker.reporting = false := by
    unfold CallerOrder at order
    cases place : threads.caller with
    | awaitInit => exact absurd place elsewhere
    | createStopEvent | createInitDone | checkEvents | createThread =>
      simp only [place] at order
      exact congrArg Worker.reporting order.1
    | closeInitDone | loadResult | joinFailed | holding =>
      simp only [place] at order
      exact order.1.2
    | signalStop purpose =>
      cases purpose <;> simp only [place] at order
      · exact order.1.2
      · exact order.1
    | joinThread purpose =>
      cases purpose <;> simp only [place] at order
      · exact order.1.2
      · exact order.1
    | closeStopEvent | done =>
      simp only [place] at order
      exact order.1.reporting
  exact absurd reporting (by simp [quiet])

/-- What `start` sees of a step of a thread that has not reported. -/
theorem CallerOrder.starting (order : CallerOrder threads) (reporting : threads.worker.reporting = true)
    (caller : next.caller = threads.caller) (born : next.worker ≠ .unborn)
    (stopEvent : next.stopEvent = threads.stopEvent)
    (initDone : threads.initDone = .live false → next.initDone = .live (!next.worker.reporting))
    (result : threads.initResult.isSome = true → next.initResult.isSome = true)
    (joinable : next.joinable = threads.joinable) : CallerOrder next := by
  have place := order.awaits reporting
  unfold CallerOrder at order ⊢
  simp only [caller, place, reporting] at order ⊢
  obtain ⟨begun, stands, event, some, joins⟩ := order
  exact ⟨born, by rw [StopStands, stopEvent]; exact ⟨stands.1, fun _ => stands.2 begun⟩, initDone event, result some,
    joinable.trans joins⟩

/-- What the starting thread sees of a step of a thread that has reported. -/
theorem CallerOrder.captures (order : CallerOrder threads) (reported : threads.worker.Reported)
    (alive : threads.worker ≠ .finished) (after : next.worker.Reported) (caller : next.caller = threads.caller)
    (stopEvent : next.stopEvent = threads.stopEvent) (initDone : next.initDone = threads.initDone)
    (result : next.initResult = threads.initResult) (joinable : next.joinable = threads.joinable)
    (calls : next.calls = threads.calls) : CallerOrder next := by
  have stands (before : StopStands threads) : StopStands next := by
    rw [StopStands, stopEvent]
    exact ⟨before.1, fun _ => before.2 reported.1⟩
  have reports (ending : Ending) (before : threads.Reports ending) : next.Reports ending := by
    cases ending with
    | destroyed => exact ⟨initDone ▸ before.1, after.1, calls ▸ before.2.2⟩
    | refused error => exact before.2.elim (fun h => absurd h.1 reported.1) fun h => absurd h.1 alive
    | thrown => exact absurd before.2 reported.1
  have present (gone : threads.worker.Gone) : False := gone.elim reported.1 alive
  have joins (before : threads.Joins) : next.Joins :=
    ⟨fun h => (present (before.1 (joinable.symm.trans h))).elim, fun unborn => absurd unborn after.1⟩
  unfold CallerOrder at order ⊢
  rw [caller, initDone, result, joinable, calls]
  cases place : threads.caller with
  | createStopEvent | createInitDone | checkEvents | createThread =>
    simp only [place] at order
    exact absurd order.1 reported.1
  | awaitInit =>
    simp only [place] at order ⊢
    exact ⟨after.1, stands order.2.1, by rw [order.2.2.1, reported.2, after.2], order.2.2.2⟩
  | closeInitDone | loadResult | joinFailed =>
    simp only [place] at order ⊢
    exact ⟨after, stands order.2.1, order.2.2⟩
  | holding =>
    simp only [place] at order ⊢
    obtain ⟨-, standing, event, gone, joined, found⟩ := order
    exact ⟨after, stands standing, event, gone, fun h => absurd (joined h) alive, found⟩
  | signalStop purpose =>
    cases purpose <;> simp only [place] at order ⊢
    · obtain ⟨-, standing, event, gone, joined, found⟩ := order
      exact ⟨after, stands standing, event, gone, fun h => absurd (joined h) alive, found⟩
    · obtain ⟨-, standing, gone, joined, found⟩ := order
      exact ⟨after.2, stands standing, gone, joins joined, reports _ found⟩
  | joinThread purpose =>
    cases purpose <;> simp only [place] at order ⊢
    · obtain ⟨-, standing, event, gone, joined, found⟩ := order
      exact ⟨after, stands standing, event, gone, fun h => absurd (joined h) alive, found⟩
    · obtain ⟨-, standing, gone, joined, found⟩ := order
      exact ⟨after.2, stands standing, gone, joins joined, reports _ found⟩
  | closeStopEvent | done =>
    simp only [place] at order
    exact (present order.1).elim

/-- A step of a thread that has not reported. -/
theorem Orderly.starting (orderly : Orderly threads) (reporting : threads.worker.reporting = true)
    (born : next.worker ≠ .unborn) (caller : next.caller = threads.caller)
    (stopEvent : next.stopEvent = threads.stopEvent) (joinable : next.joinable = threads.joinable)
    (initDone : threads.initDone = .live false → next.initDone = .live (!next.worker.reporting))
    (result : threads.initResult.isSome = true → next.initResult.isSome = true) (worker : WorkerOrder next)
    (allowed : next.misused = false) : Orderly next where
  caller := orderly.caller.starting reporting caller born stopEvent initDone result joinable
  worker := worker
  stopping purpose joins := by simp [caller, orderly.caller.awaits reporting] at joins
  allowed := allowed

/-- A step of a thread that has reported. -/
theorem Orderly.captures (orderly : Orderly threads) (reported : threads.worker.Reported)
    (alive : threads.worker ≠ .finished) (after : next.worker.Reported) (caller : next.caller = threads.caller)
    (stopEvent : next.stopEvent = threads.stopEvent) (initDone : next.initDone = threads.initDone)
    (result : next.initResult = threads.initResult) (joinable : next.joinable = threads.joinable)
    (calls : next.calls = threads.calls) (worker : WorkerOrder next) (allowed : next.misused = false) :
    Orderly next where
  caller := orderly.caller.captures reported alive after caller stopEvent initDone result joinable calls
  worker := worker
  stopping purpose joins _ := stopEvent.trans (orderly.stopping purpose (caller.symm.trans joins) reported.1)
  allowed := allowed

theorem initError_concat (calls : List (InitCall × HResult)) (call : InitCall) (hr : HResult) :
    initError (calls ++ [(call, hr)]) = (initError calls).or (call.failure hr) := by
  simp [initError, List.findSome?_append]

/-- The capture thread goes on only while it has not reported and no call has failed. -/
theorem WorkerOrder.initializing {call : InitCall} (order : WorkerOrder threads)
    (place : threads.worker = .initializing call) :
    initError threads.calls = none ∧ threads.mmcss = .null ∧ threads.running = false ∧ threads.dataEvent ≠ .closed ∧
      ((call ≠ .setEventHandle ∧ call ≠ .getService ∧ call ≠ .start) → threads.dataEvent = .null) := by
  cases call <;> simp_all [WorkerOrder]

/-- A call of the initialization fails or is answered. -/
theorem stepInit_cases {hr : HResult} (taken : threads.stepInit hr = some next) :
    ∃ call, threads.worker = .initializing call ∧
      ((∃ error, call.failure hr = some error ∧
          next = { threads with calls := threads.calls ++ [(call, hr)], worker := call.refused error }) ∨
        call.failure hr = none ∧ next = { threads with
          calls := threads.calls ++ [(call, hr)]
          worker := call.answered threads.loopback
          dataEvent := if call = .createDataEvent then .live false else threads.dataEvent
          running := threads.running || call = .start }) := by
  unfold stepInit at taken
  cases place : threads.worker with
  | initializing call =>
    simp only [place] at taken
    refine ⟨call, rfl, ?_⟩
    split at taken
    next error refused => exact .inl ⟨error, refused, (Option.some.inj taken).symm⟩
    next answered => exact .inr ⟨answered, (Option.some.inj taken).symm⟩
  | _ => simp [place] at taken

theorem stepInit_orderly {hr : HResult} (orderly : Orderly threads) (taken : threads.stepInit hr = some next) :
    Orderly next := by
  obtain ⟨call, place, cases⟩ := stepInit_cases taken
  obtain ⟨sound, mmcss, running, unclosed, early⟩ := orderly.worker.initializing place
  have reporting : threads.worker.reporting = true := congrArg Worker.reporting place
  have worker := orderly.worker
  rcases cases with ⟨error, answer, rfl⟩ | ⟨answer, rfl⟩
  · have found : initError (threads.calls ++ [(call, hr)]) = some error := by
      rw [initError_concat, sound, answer, Option.none_or]
    refine orderly.starting reporting ?_ rfl rfl rfl ?_ id ?_ orderly.allowed
    · cases call <;> simp [InitCall.refused]
    · cases call <;> exact id
    · have plain (ends : call = .setEventHandle ∨ call = .getService ∨ call = .start) : error = .backendFailure := by
        rcases ends with rfl | rfl | rfl <;> simp_all [InitCall.failure]
      cases call <;> simp_all [WorkerOrder, InitCall.refused, SystemHandle.Released]
  · have found : initError (threads.calls ++ [(call, hr)]) = none := by
      rw [initError_concat, sound, answer, Option.none_or]
    have goes := InitCall.answered_reporting threads.loopback call
    refine orderly.starting reporting (Worker.reporting_born goes) rfl rfl rfl ?_ id ?_ orderly.allowed
    · exact fun waits => by rw [goes]; exact waits
    · cases flow : threads.loopback <;> cases call <;> simp_all [WorkerOrder, InitCall.answered]

/-- The variable and the event of `start` are there for a thread that has not reported. -/
theorem CallerOrder.handshake (order : CallerOrder threads) (reporting : threads.worker.reporting = true) :
    threads.initDone = .live false ∧ threads.initResult.isSome = true := by
  have place := order.awaits reporting
  simp only [CallerOrder, place, reporting] at order
  exact ⟨order.2.2.1, order.2.2.2.1⟩

theorem stepWorker_orderly (orderly : Orderly threads) (taken : threads.stepWorker = some next) : Orderly next := by
  have worker := orderly.worker
  have allowed := orderly.allowed
  unfold stepWorker at taken
  cases place : threads.worker with
  | abandonDataEvent =>
    have reporting : threads.worker.reporting = true := congrArg Worker.reporting place
    simp only [WorkerOrder, place] at worker taken
    obtain ⟨unclosed, mmcss, running, found⟩ := worker
    obtain ⟨released, permitted⟩ := SystemHandle.close_released unclosed
    obtain rfl := Option.some.inj taken
    exact orderly.starting reporting (by simp [check]) rfl rfl rfl id id
      ⟨by simp, fun _ => released, mmcss, running, found⟩ (by simp [check, allowed, permitted])
  | storeResult failure =>
    have reporting : threads.worker.reporting = true := congrArg Worker.reporting place
    obtain ⟨waits, scope⟩ := orderly.caller.handshake reporting
    obtain ⟨result, stored⟩ := Option.isSome_iff_exists.mp scope
    simp only [WorkerOrder, place] at worker taken
    obtain ⟨kept, released, mmcss, running, found⟩ := worker
    obtain rfl := Option.some.inj taken
    exact orderly.starting reporting (by simp) rfl rfl rfl id (by simp [check])
      ⟨kept, released, mmcss, running, found, by simp [check, stored]⟩ (by simp [check, allowed, scope])
  | signalInitDone failure =>
    have reporting : threads.worker.reporting = true := congrArg Worker.reporting place
    obtain ⟨waits, scope⟩ := orderly.caller.handshake reporting
    simp only [WorkerOrder, place] at worker taken
    obtain ⟨kept, released, mmcss, running, found, stored⟩ := worker
    rw [waits, SystemHandle.set_live] at taken
    obtain rfl := Option.some.inj taken
    cases failure with
    | none =>
      refine orderly.starting reporting (by simp [check]) rfl rfl rfl (fun _ => rfl) id
        ⟨kept rfl, mmcss, running, found, ?_⟩ (by simp [check, allowed])
      exact fun result same => (Option.some.inj (stored.symm.trans same)).symm
    | some error =>
      refine orderly.starting reporting (by simp [check]) rfl rfl rfl (fun _ => rfl) id
        ⟨released (by simp), .inl mmcss, running, ?_⟩ (by simp [check, allowed])
      rintro result same
      exact (Option.some.inj (stored.symm.trans same)).symm.trans (congrArg (Option.elim · 0 encode) found.symm)
  | stopClient =>
    simp only [WorkerOrder, place] at worker taken
    obtain ⟨dataEvent, mmcss, running, rest⟩ := worker
    obtain rfl := Option.some.inj taken
    exact orderly.captures (place ▸ ⟨by simp, rfl⟩) (by simp [place]) ⟨by simp, rfl⟩ rfl rfl rfl rfl rfl rfl
      ⟨dataEvent, mmcss, rfl, rest⟩ allowed
  | revertThread =>
    simp only [WorkerOrder, place] at worker taken
    obtain ⟨dataEvent, mmcss, rest⟩ := worker
    obtain ⟨released, permitted⟩ := SystemHandle.release_released mmcss
    obtain rfl := Option.some.inj taken
    exact orderly.captures (place ▸ ⟨by simp, rfl⟩) (by simp [place]) ⟨by simp [check], rfl⟩ rfl rfl rfl rfl rfl rfl
      ⟨dataEvent, released, rest⟩ (by simp [check, allowed, permitted])
  | closeDataEvent =>
    simp only [WorkerOrder, place] at worker taken
    obtain ⟨dataEvent, mmcss, running, found, succeeded⟩ := worker
    obtain ⟨released, permitted⟩ := SystemHandle.release_released dataEvent
    obtain rfl := Option.some.inj taken
    exact orderly.captures (place ▸ ⟨by simp, rfl⟩) (by simp [place]) ⟨by simp [check], rfl⟩ rfl rfl rfl rfl rfl rfl
      ⟨released, mmcss, running, fun result same => by simp [check, found, succeeded result same]⟩
      (by simp [check, allowed, permitted])
  | _ => simp [place] at taken

/-- The stop event is there for a thread that captures. -/
theorem CallerOrder.stop_live (order : CallerOrder threads) (reported : threads.worker.Reported)
    (alive : threads.worker ≠ .finished) : ∃ signalled, threads.stopEvent = .live signalled := by
  have present (gone : threads.worker.Gone) : False := gone.elim reported.1 alive
  have stands : StopStands threads := by
    unfold CallerOrder at order
    cases place : threads.caller with
    | createStopEvent | createInitDone | checkEvents | createThread =>
      simp only [place] at order
      exact absurd order.1 reported.1
    | awaitInit | closeInitDone | loadResult | joinFailed | holding =>
      simp only [place] at order
      exact order.2.1
    | signalStop purpose => cases purpose <;> simp only [place] at order <;> exact order.2.1
    | joinThread purpose => cases purpose <;> simp only [place] at order <;> exact order.2.1
    | closeStopEvent | done =>
      simp only [place] at order
      exact (present order.1).elim
  exact SystemHandle.exists_live (stands.2 reported.1) stands.1

/-- What a wait of an orderly stream does. -/
theorem stepWait_cases {wake : Wake} (orderly : Orderly threads) (taken : threads.stepWait wake = some next) :
    threads.worker = .waiting ∧
      (wake = .failed ∧ next = { threads with waits := threads.waits ++ [.failed], worker := .stopClient } ∨
        wake = .stopRequested ∧ threads.stopEvent = .live true ∧
          next = { threads with waits := threads.waits ++ [.stopRequested], worker := .stopClient } ∨
        wake = .woken ∧ threads.stopEvent = .live false ∧ next = { threads with worker := .draining }) := by
  unfold stepWait at taken
  cases place : threads.worker with
  | waiting =>
    obtain ⟨signalled, live⟩ := orderly.caller.stop_live (place ▸ ⟨by simp, rfl⟩) (by simp [place])
    have worker := orderly.worker
    simp only [WorkerOrder, place] at worker
    have unclosed : (threads.dataEvent != .closed) = true := bne_iff_ne.mpr worker.1
    simp only [place, unclosed, check_true] at taken
    refine ⟨rfl, ?_⟩
    cases wake <;> cases signalled <;> simp_all
  | _ => simp [place] at taken

theorem stepWait_orderly {wake : Wake} (orderly : Orderly threads) (taken : threads.stepWait wake = some next) :
    Orderly next := by
  obtain ⟨place, cases⟩ := stepWait_cases orderly taken
  have worker := orderly.worker
  simp only [WorkerOrder, place] at worker
  have reported : threads.worker.Reported := place ▸ ⟨by simp, rfl⟩
  rcases cases with ⟨-, rfl⟩ | ⟨-, -, rfl⟩ | ⟨-, -, rfl⟩
  · exact orderly.captures reported (by simp [place]) ⟨by simp, rfl⟩ rfl rfl rfl rfl rfl rfl worker orderly.allowed
  · exact orderly.captures reported (by simp [place]) ⟨by simp, rfl⟩ rfl rfl rfl rfl rfl rfl worker orderly.allowed
  · exact orderly.captures reported (by simp [place]) ⟨by simp, rfl⟩ rfl rfl rfl rfl rfl rfl worker orderly.allowed

/-- A pass of the inner loop finds no packet, captures one, or fails. -/
theorem stepPoll_cases {poll : Option Poll} (taken : threads.stepPoll onFrame poll = some next) :
    threads.worker = .draining ∧
      (poll = none ∧
          next = { threads with waits := threads.waits ++ [.woken threads.polls], polls := [], worker := .waiting } ∨
        (∃ packet, poll = some (.packet packet) ∧ next = { threads with
          stream := (threads.stream.capturePacket onFrame threads.sink packet).1
          sink := (threads.stream.capturePacket onFrame threads.sink packet).2
          polls := threads.polls ++ [.packet packet] }) ∨
        ∃ failure, poll = some failure ∧ (failure = .sizeFailed ∨ failure = .bufferFailed) ∧ next = { threads with
          waits := threads.waits ++ [.woken (threads.polls ++ [failure])]
          polls := []
          worker := .stopClient }) := by
  unfold stepPoll at taken
  cases place : threads.worker with
  | draining =>
    simp only [place] at taken
    refine ⟨rfl, ?_⟩
    rcases poll with _ | _ | _ | packet
    · exact .inl ⟨rfl, (Option.some.inj taken).symm⟩
    · exact .inr (.inr ⟨_, rfl, .inl rfl, (Option.some.inj taken).symm⟩)
    · exact .inr (.inr ⟨_, rfl, .inr rfl, (Option.some.inj taken).symm⟩)
    · exact .inr (.inl ⟨packet, rfl, (Option.some.inj taken).symm⟩)
  | _ => simp [place] at taken

theorem stepPoll_orderly {poll : Option Poll} (orderly : Orderly threads)
    (taken : threads.stepPoll onFrame poll = some next) : Orderly next := by
  obtain ⟨place, cases⟩ := stepPoll_cases taken
  have worker := orderly.worker
  simp only [WorkerOrder, place] at worker
  have reported : threads.worker.Reported := place ▸ ⟨by simp, rfl⟩
  rcases cases with ⟨-, rfl⟩ | ⟨packet, -, rfl⟩ | ⟨failure, -, -, rfl⟩
  · exact orderly.captures reported (by simp [place]) ⟨by simp, rfl⟩ rfl rfl rfl rfl rfl rfl worker orderly.allowed
  · exact orderly.captures reported (by simp [place]) ⟨by simp [place], congrArg Worker.reporting place⟩ rfl rfl rfl rfl
      rfl rfl (orderly.worker.frame rfl rfl rfl rfl rfl (.inl rfl)) orderly.allowed
  · exact orderly.captures reported (by simp [place]) ⟨by simp, rfl⟩ rfl rfl rfl rfl rfl rfl worker orderly.allowed

theorem stepCreate_orderly {made : Bool} (orderly : Orderly threads) (taken : threads.stepCreate made = some next) :
    Orderly next := by
  obtain ⟨caller, worker, stopping, allowed⟩ := orderly
  cases place : threads.caller with
  | createStopEvent =>
    simp only [stepCreate, place, CallerOrder] at taken caller
    obtain ⟨unborn, -, initDone, result, joinable⟩ := caller
    obtain rfl := Option.some.inj taken
    exact ⟨⟨unborn, ⟨SystemHandle.create_ne_closed made, fun born => absurd unborn born⟩, initDone, result, joinable⟩,
      worker.frame rfl rfl rfl rfl rfl (.inl rfl), by simp, allowed⟩
  | createInitDone =>
    simp only [stepCreate, place, CallerOrder] at taken caller
    obtain ⟨unborn, stands, -, result, joinable⟩ := caller
    obtain rfl := Option.some.inj taken
    refine ⟨⟨unborn, stands, ?_, result, joinable⟩, worker.frame rfl rfl rfl rfl rfl (.inl rfl), by simp, allowed⟩
    cases made <;> simp [SystemHandle.create]
  | _ => simp [stepCreate, place] at taken

theorem step_orderly {label : ThreadStep} (orderly : Orderly threads) (taken : threads.step onFrame label = some next) :
    Orderly next := by
  have worker := orderly.worker
  cases label with
  | create made => exact stepCreate_orderly orderly taken
  | spawn made => exact stepSpawn_orderly orderly taken
  | caller => exact stepCaller_orderly orderly taken
  | stop =>
    obtain ⟨place, taken⟩ := Option.ite_none_right_eq_some.mp taken
    obtain rfl := Option.some.inj taken
    have caller := orderly.caller
    simp only [CallerOrder, place] at caller
    exact ⟨caller, worker.frame rfl rfl rfl rfl rfl (.inl rfl), by simp, orderly.allowed⟩
  | destroy =>
    obtain ⟨place, taken⟩ := Option.ite_none_right_eq_some.mp taken
    obtain rfl := Option.some.inj taken
    have caller := orderly.caller
    simp only [CallerOrder, place] at caller
    obtain ⟨reported, stands, initDone, result, joined, found⟩ := caller
    exact ⟨⟨reported.2, stands, result, ⟨fun h => .inr (joined h), fun unborn => absurd unborn reported.1⟩,
      .inr initDone, reported.1, found⟩,
      worker.frame rfl rfl rfl rfl rfl (.inl rfl), by simp, orderly.allowed⟩
  | init hr => exact stepInit_orderly orderly taken
  | endpoint render =>
    obtain ⟨place, taken⟩ := Option.ite_none_right_eq_some.mp taken
    obtain rfl := Option.some.inj taken
    simp only [WorkerOrder, place] at worker
    exact orderly.starting (congrArg Worker.reporting place) (by simp) rfl rfl rfl id id worker orderly.allowed
  | worker => exact stepWorker_orderly orderly taken
  | register made =>
    obtain ⟨place, taken⟩ := Option.ite_none_right_eq_some.mp taken
    obtain rfl := Option.some.inj taken
    simp only [WorkerOrder, place] at worker
    obtain ⟨dataEvent, -, rest⟩ := worker
    exact orderly.captures (place ▸ ⟨by simp, rfl⟩) (by simp [place]) ⟨by simp, rfl⟩ rfl rfl rfl rfl rfl rfl
      ⟨dataEvent, SystemHandle.create_ne_closed made, rest⟩ orderly.allowed
  | wait wake => exact stepWait_orderly orderly taken
  | poll poll => exact stepPoll_orderly orderly taken

end CaptureThreads

end VoxMesh.Platform.Windows
