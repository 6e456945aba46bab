import VoxMesh.Proofs.SttStreamClient

/-! # Accounting for uploaded frames

Every `sendFrame` call ends up counted as sent or as dropped, except for the frames it accepts after the
writer loop has ended and before `stop` has marked the client as stopped: the last block of `stop` clears
the queue without counting. `Accounted` is the balance at every point of every schedule, and
`frames_accounted_iff` reads it off at rest: the counters agree with the calls exactly on the schedules
without a late acceptance.
-/

namespace VoxMesh.Stt.Streaming

open VoxMesh.Audio (AudioFrame)

/-- Frames taken off the queue and not counted yet. -/
def Writer.inFlight : Writer → ℕ
  | .popped _ | .sent | .failed => 1
  | _ => 0

/-- Calls that have not decided about their frame yet. -/
def Sender.undecided : Sender → ℕ
  | .called _ => 1
  | _ => 0

/-- Queued frames that nobody will take. -/
def State.stranded (state : State) : ℕ := if state.drained then state.client.queue.length else 0

def Accounted (state : State) : Prop :=
  state.client.framesSent + state.client.framesDropped + state.client.queue.length + state.writer.inFlight +
    state.sender.undecided + state.log.late = state.log.calls + state.stranded

theorem Accounted.start (config : GrpcSttClientConfig) : Accounted (initial config) := rfl

private theorem inFlight_of_inactive {writer : Writer} (inactive : writer.inactive = true) :
    writer.inFlight = 0 := by
  cases writer <;> simp_all [Writer.inactive, Writer.inFlight]

/-- A frame is counted once for each place it can be in, and moves from place to place. -/
theorem Accounted.keeps {state next : State} {label : Label} (inv : Coherent state) (accounted : Accounted state)
    (taken : Taken state label next) : Accounted next := by
  have phase := inv.phase
  unfold Accounted State.stranded State.drained at *
  cases taken with
  | alreadyStarted callback connection => exact accounted
  | alreadyStopped => exact accounted
  | unreachable callback connection => exact accounted
  | opened callback control running => exact accounted
  | markRunning control =>
    simp only [Phase, control] at phase
    simpa [GrpcSttStreamClient.markRunning, inv.stopped phase.1] using accounted
  | startWriter control =>
    simp only [Phase, control] at phase
    rw [inFlight_of_inactive phase.2.2.2] at accounted
    simpa [phase.2.1, Writer.inFlight] using accounted
  | startReader control => exact accounted
  | requestStop control running =>
    simp only [Phase, control, running, ↓reduceIte] at phase
    obtain ⟨unrequested, working | ⟨done, broken⟩⟩ := phase
    · have notDone : state.writer.done = false := by
        cases here : state.writer <;> simp_all [Writer.working, Writer.done]
      simpa [unrequested, notDone] using accounted
    · simpa [unrequested, inv.broken broken] using accounted
  | joinWriter control writer => exact accounted
  | joinReader control => exact accounted
  | finish control => exact accounted
  | markStopped control =>
    simp only [Phase, control] at phase
    simp only [phase.2.1, phase.2.2, Writer.done, Bool.and_self, ↓reduceIte] at accounted
    simp [GrpcSttStreamClient.markStopped, phase.2.2]
    omega
  | send frame sender =>
    simp only [sender, Sender.undecided] at accounted ⊢
    omega
  | drop frame capturedAtUnixMs sender rejects =>
    simp only [sender, Sender.undecided] at accounted ⊢
    omega
  | accept frame capturedAtUnixMs sender room =>
    simp only [sender, Sender.undecided, List.length_append, List.length_singleton] at accounted ⊢
    unfold State.drained
    cases drained : state.client.stopRequested && state.writer.done <;>
      simp only [drained, Bool.toNat_false, Bool.toNat_true, Bool.false_eq_true, ↓reduceIte] at accounted ⊢ <;>
      omega
  | notified capturedAtUnixMs sender =>
    simpa [sender, Sender.undecided] using accounted
  | pop ok request rest writer queue =>
    simp [writer, queue, Writer.inFlight, Writer.done] at accounted ⊢
    omega
  | drain ok writer queue requested =>
    simpa [writer, queue, Writer.inFlight, Writer.done] using accounted
  | written request writer => simpa [writer, Writer.inFlight, Writer.done, onWire] using accounted
  | refused request writer => simpa [writer, Writer.inFlight, Writer.done, onWire] using accounted
  | count ok writer =>
    simp [writer, Writer.inFlight, Writer.done] at accounted ⊢
    omega
  | breakStream ok writer =>
    simp [writer, Writer.inFlight, Writer.done, GrpcSttStreamClient.breakStream] at accounted ⊢
    omega
  | writesDone ok writer => simpa [writer, Writer.inFlight, Writer.done, onWire] using accounted
  | received segment delivered => exact accounted
  | readEnded => exact accounted

theorem run_accounted {config : GrpcSttClientConfig} {schedule : List Label} {state : State}
    (run : Machine.Run step (initial config) schedule state) : Coherent state ∧ Accounted state := by
  refine run.invariant (I := fun state => Coherent state ∧ Accounted state) ?_
    ⟨Coherent.start config, Accounted.start config⟩
  rintro before label after ⟨coherent, accounted⟩ taken
  have taken := taken_of_step taken
  exact ⟨coherent.keeps taken, accounted.keeps coherent taken⟩

/-- At rest only the late frames are missing from the counters. -/
theorem quiescent_balance {config : GrpcSttClientConfig} {schedule : List Label} {state : State}
    (run : Machine.Run step (initial config) schedule state) (quiescent : state.Quiescent) :
    state.client.framesSent + state.client.framesDropped + state.log.late = state.log.calls := by
  obtain ⟨coherent, accounted⟩ := run_accounted run
  obtain ⟨control, stopped, sender⟩ := quiescent
  have phase := coherent.phase
  simp only [Phase, control, stopped, Bool.false_eq_true, ↓reduceIte] at phase
  simpa [Accounted, State.stranded, coherent.stopped stopped, inFlight_of_inactive phase, sender,
    Sender.undecided] using accounted

/-- The count of late frames grows at late acceptances and nowhere else. -/
theorem late_step {state next : State} {label : Label} (taken : Taken state label next) :
    (¬ LateAcceptance state label → next.log.late = state.log.late) ∧
      (LateAcceptance state label → next.log.late = state.log.late + 1) := by
  cases taken with
  | accept frame capturedAtUnixMs sender room =>
    constructor
    · intro timely
      have drained : state.drained = false := by
        by_contra drained
        exact timely ⟨⟨_, rfl⟩, ⟨frame, sender⟩, room, Bool.not_eq_false _ ▸ drained⟩
      simp [drained]
    · rintro ⟨-, -, -, drained⟩
      simp [drained]
  | drop frame capturedAtUnixMs sender rejects =>
    exact ⟨fun _ => rfl, fun ⟨_, _, room, _⟩ => absurd (rejects.symm.trans room) nofun⟩
  | notified capturedAtUnixMs sender =>
    refine ⟨fun _ => rfl, ?_⟩
    rintro ⟨-, ⟨frame, called⟩, -⟩
    exact absurd (sender.symm.trans called) nofun
  | _ => exact ⟨fun _ => rfl, fun ⟨⟨_, other⟩, _⟩ => absurd other nofun⟩

theorem timely_iff_late {config : GrpcSttClientConfig} {schedule : List Label} {state : State}
    (run : Machine.Run step (initial config) schedule state) :
    Machine.Along step (fun state label => ¬ LateAcceptance state label) (initial config) schedule ↔
      state.log.late = 0 := by
  refine run.along_iff_count (I := fun _ => True) (fun state => state.log.late) (fun _ _ _ _ _ => trivial)
    ?_ ?_ trivial
  · intro before label after _ taken
    exact (late_step (taken_of_step taken)).1
  · intro before label after _ taken late
    have := (late_step (taken_of_step taken)).2 (not_not.mp late)
    omega

/-- Whenever `stop` has returned and no `sendFrame` is in progress, the counters agree with the calls
exactly if no frame was accepted after the writer loop had ended. -/
theorem frames_accounted_iff (config : GrpcSttClientConfig) (schedule : List Label) (state : State)
    (run : Machine.Run step (initial config) schedule state) (quiescent : state.Quiescent) :
    state.client.framesSent + state.client.framesDropped = state.log.calls ↔
      Machine.Along step (fun state label => ¬ LateAcceptance state label) (initial config) schedule := by
  have balance := quiescent_balance run quiescent
  rw [timely_iff_late run]
  omega

/-- A session stopped while a `sendFrame` is under way: the frame comes between the end of the writer loop
and the last block of `stop`. -/
def lateSchedule : List Label :=
  [.start true .opened, .control, .control, .control, .stop, .writer true, .send {}, .sender 0, .sender 0,
    .writer true, .reader none, .control, .control, .control, .control]

/-- The frame was accepted and is counted nowhere. -/
theorem frames_accounted_late : ¬ ∀ (config : GrpcSttClientConfig) (schedule : List Label) (state : State),
    Machine.Run step (initial config) schedule state → state.Quiescent →
      state.client.framesSent + state.client.framesDropped = state.log.calls := by
  intro always
  have outcome : (Machine.exec step (initial {}) lateSchedule).map (fun state => (decide state.Quiescent,
      state.client.framesSent, state.client.framesDropped, state.log.calls)) = some (true, 0, 0, 1) := by
    decide +kernel
  obtain ⟨state, run, same⟩ := Option.map_eq_some_iff.mp outcome
  simp only [Prod.mk.injEq, decide_eq_true_eq] at same
  have balance := always {} lateSchedule state run same.1
  omega

/-- A session of one frame that is written before `stop`. -/
def timelySchedule : List Label :=
  [.start true .opened, .control, .control, .control, .send {}, .sender 0, .sender 0, .writer true, .writer true,
    .writer true, .stop, .writer true, .writer true, .reader none, .control, .control, .control, .control]

theorem frames_accounted_timely : ∃ state : State, Machine.Run step (initial {}) timelySchedule state ∧
    state.client.framesSent = 1 ∧ (state.client.framesSent + state.client.framesDropped = state.log.calls ↔
      Machine.Along step (fun state label => ¬ LateAcceptance state label) (initial {}) timelySchedule) := by
  have outcome : (Machine.exec step (initial {}) timelySchedule).map (fun state => (decide state.Quiescent,
      state.client.framesSent)) = some (true, 1) := by
    decide +kernel
  obtain ⟨state, run, same⟩ := Option.map_eq_some_iff.mp outcome
  simp only [Prod.mk.injEq, decide_eq_true_eq] at same
  exact ⟨state, run, same.2, frames_accounted_iff {} timelySchedule state run same.1⟩

end VoxMesh.Stt.Streaming
