import VoxMesh.Machine.Progress
import VoxMesh.Proofs.RecorderProgress

/-! # Waiting for the pipeline lock

The UI thread waits for the drain thread whenever it starts or stops a stream, installs a writer or takes it away. The
drain thread holds the lock for a whole round, and a ring that is filled meanwhile prolongs the round: `passesLeft`
bounds the passes still to come by the frames that wait in the rings, and each frame captured while the lock is held
pays for one more. However much waits, every operation can be performed to its end from every state.
-/

namespace VoxMesh.Audio.SpscRingBuffer

variable {α : Type*} {capacity : ℕ}

theorem size_le (buffer : SpscRingBuffer α capacity) : buffer.size ≤ capacity := by
  have head := buffer.head.isLt
  have tail := buffer.tail.isLt
  rw [size, Circular.distance]
  split <;> omega

theorem size_tryPush_le (buffer : SpscRingBuffer α capacity) (item : α) :
    (buffer.tryPush item).2.size ≤ buffer.size + 1 := by
  rw [tryPush]
  split
  next => exact Nat.le_succ _
  next =>
    have head := buffer.head.isLt
    have tail := buffer.tail.isLt
    simp only [size, write, increment, Circular.next, Circular.distance]
    split_ifs <;> simp_all <;> omega

end VoxMesh.Audio.SpscRingBuffer

namespace VoxMesh.App

open VoxMesh.Audio VoxMesh.Media Machine RecorderController

namespace Environment

/-- A pass of the drain thread. -/
def isDrain : Environment → Bool
  | .drain _ => true
  | _ => false

/-- What a step of another thread pays for: itself, and the pass that handles the frame it captures. -/
def pays (event : Environment) : ℕ := if event.isDrain then 0 else 2

theorem sum_pays (steps : List Environment) : (steps.map pays).sum = 2 * steps.countP (!·.isDrain) := by
  induction steps with
  | nil => rfl
  | cons event rest ih =>
    rw [List.map_cons, List.sum_cons, ih, List.countP_cons, pays]
    cases event.isDrain <;> simp [Nat.mul_add, Nat.add_comm]

end Environment

namespace Recorder

/-- Passes until the drain thread frees the lock, if nothing is captured meanwhile. -/
def passesLeft (recorder : Recorder) : ℕ :=
  match recorder.drain with
  | .resting | .ended => 0
  | .draining .microphone => recorder.waiting .microphone + recorder.waiting .systemOutput + 2
  | .draining .systemOutput => recorder.waiting .systemOutput + 1

theorem waiting_le (recorder : Recorder) (track : Track) :
    recorder.waiting track ≤ config.ringBufferCapacityFrames := by
  rw [waiting]
  cases recorder.controller.pipelines track with
  | none => exact Nat.zero_le _
  | some pipeline => exact pipeline.buffer.size_le

theorem passesLeft_le (recorder : Recorder) : recorder.passesLeft ≤ 2 * config.ringBufferCapacityFrames + 2 := by
  have microphone := recorder.waiting_le .microphone
  have systemOutput := recorder.waiting_le .systemOutput
  rw [passesLeft]
  split <;> omega

/-- A captured frame lengthens one queue by at most one. -/
theorem waiting_capture {recorder next : Recorder} {track : Track} {frame : AudioFrame}
    (captured : recorder.capture track frame = some next) :
    next.drain = recorder.drain ∧ next.waiting track ≤ recorder.waiting track + 1 ∧
      ∀ other ≠ track, next.waiting other = recorder.waiting other := by
  obtain ⟨pipeline, present, -, rfl⟩ := capture_eq_some captured
  have before : recorder.waiting track = pipeline.buffer.size := by rw [waiting, present]; rfl
  refine ⟨rfl, ?_, fun other apart => ?_⟩
  · change ((Function.update recorder.controller.pipelines track _ track).map (·.buffer.size)).getD 0 ≤ _
    rw [before, Function.update_self]
    exact pipeline.buffer.size_tryPush_le frame
  · change ((Function.update recorder.controller.pipelines track _ other).map (·.buffer.size)).getD 0 = _
    rw [Function.update_of_ne apart, waiting]

theorem passesLeft_capture {recorder next : Recorder} {track : Track} {frame : AudioFrame}
    (captured : recorder.capture track frame = some next) : next.passesLeft ≤ recorder.passesLeft + 1 := by
  obtain ⟨drain, longer, others⟩ := waiting_capture captured
  rw [passesLeft, passesLeft, drain]
  cases track with
  | microphone =>
    have same := others .systemOutput (by decide)
    split <;> omega
  | systemOutput =>
    have same := others .microphone (by decide)
    split <;> omega

/-- A pass of the drain loop leaves the other ring as it is. -/
theorem waiting_drainFrame_of_ne {recorder next : Recorder} {track other : Track} {answers rest : List FfmpegAnswer}
    (passed : recorder.drainFrame track answers = some (next, rest)) (apart : other ≠ track) :
    next.waiting other = recorder.waiting other := by
  obtain ⟨_, _, _, _, pipelines, _⟩ := drainFrame_pipelines passed
  rw [waiting, waiting, pipelines, Function.update_of_ne apart]

theorem passesLeft_drainStep {recorder next : Recorder} {answers : List FfmpegAnswer}
    (locked : recorder.unlocked = false) (taken : recorder.drainStep answers = some next) :
    next.passesLeft + 1 ≤ recorder.passesLeft := by
  cases inside : recorder.drain with
  | resting | ended => simp [unlocked, inside] at locked
  | draining track =>
    simp only [drainStep, inside] at taken
    split at taken
    next later rest passed =>
      obtain rfl := Option.some.inj taken
      have fewer := waiting_drainFrame passed
      have still : later.drain = .draining track := by
        obtain ⟨_, _, _, _, _, same⟩ := drainFrame_pipelines passed
        exact same.trans inside
      cases track with
      | systemOutput => simp only [passesLeft, still, inside]; omega
      | microphone =>
        have other : later.waiting .systemOutput = recorder.waiting .systemOutput :=
          waiting_drainFrame_of_ne passed (by decide)
        simp only [passesLeft, still, inside]
        omega
    next ended =>
      obtain rfl := Option.some.inj taken
      have empty := waiting_of_drainFrame_none ended
      cases track <;> simp only [passesLeft, inside, DrainThread.after]
      · have same : waiting { recorder with drain := .draining .systemOutput } .systemOutput =
            recorder.waiting .systemOutput := rfl
        omega
      · omega

/-- While the lock is held, each step of the others brings its release closer, or pays for not doing so. -/
theorem ranked : Ranked environment (fun recorder => recorder.unlocked = false)
    (fun recorder => recorder.unlocked = true) passesLeft Environment.pays where
  keeps _ _ next _ _ := (Bool.eq_false_or_eq_true next.unlocked).symm
  falls recorder event next locked taken := by
    cases event with
    | capture track frame =>
      have longer := passesLeft_capture taken
      exact Nat.succ_le_succ longer
    | captureOpening track frame =>
      simp only [environment, captureOpening] at taken
      split at taken
      next => contradiction
      next =>
        obtain rfl := Option.some.inj taken
        exact Nat.le_succ _
    | drain answers => exact passesLeft_drainStep locked taken
    | leave =>
      obtain ⟨resting, -, -⟩ := leave_eq_some taken
      simp [unlocked, resting] at locked

/-- Every operation can run to its end. -/
theorem completes_perform (designLowPass : ℕ → ℚ → List ℚ) (operation : Operation) :
    CanEnd (perform designLowPass operation) := by
  cases operation with
  | start answers => exact completes_start designLowPass answers
  | stop answers => exact completes_stop answers
  | pause drained =>
    exact (completes_handle _).bind fun _ => Thread.Completes.ite (.pure _)
      ((completes_stopStreams _).bind fun _ => .pure _)
  | resume failures =>
    refine (completes_get _).bind fun _ => Thread.Completes.ite (.pure _) ?_
    exact (completes_startStreams _).bind fun _ => Thread.Completes.ite
      ((completes_handle _).bind fun _ => .pure _) (completes_handle _)
  | refreshDevices _ | setSelectedMicrophone _ | setSelectedSystemOutput _ | setOutputDirectory _ | setSttEndpoint _ =>
    exact (completes_set _).bind fun _ => .pure _

/-- Whatever the recorder is doing, every operation can be performed to its end with the other threads' help, which
takes no failed write; and while the lock is held, the drain thread makes no more passes than frames fit into both
rings, than are captured meanwhile, and two. -/
theorem operations_complete (designLowPass : ℕ → ℚ → List ℚ) (recorder : Recorder) :
    (∀ operation, ∃ agenda result next, (∀ steps ∈ agenda, ∀ event ∈ steps, event.Granted) ∧
      (perform designLowPass operation).run agenda recorder = some (result, next)) ∧
      ∀ steps last, Run environment recorder steps last →
        Along environment (fun recorder _ => recorder.unlocked = false) recorder steps →
          steps.countP (·.isDrain) ≤ 2 * config.ringBufferCapacityFrames + 2 + steps.countP (!·.isDrain) := by
  refine ⟨fun operation => (completes_perform designLowPass operation).run recorder, fun steps last run held => ?_⟩
  have paid := Environment.sum_pays steps
  have split : steps.length = steps.countP (·.isDrain) + steps.countP (!·.isDrain) := by
    simpa only [Bool.not_eq_true, Bool.decide_eq_false] using
      List.length_eq_countP_add_countP (·.isDrain) (l := steps)
  have bound := recorder.passesLeft_le
  cases steps with
  | nil => exact Nat.zero_le _
  | cons event rest =>
    have short : Along environment (fun recorder _ => ¬ recorder.unlocked = true) recorder (event :: rest) :=
      held.mono fun _ _ locked => by simp [locked]
    have length := ranked.length_le run held.1 short
    omega

/-- A recording whose drain thread is inside a round. -/
private def midRound : Recorder where
  controller := { outputDirectory := "recordings", session := .recording }
  drain := .draining .systemOutput

/-- A pause that waits for the end of the round. -/
theorem operations_complete_waiting :
    ((perform (fun _ _ => []) (.pause [])).run [] midRound).isNone = true ∧
      (∃ agenda result next, (∀ steps ∈ agenda, ∀ event ∈ steps, event.Granted) ∧
        (perform (fun _ _ => []) (.pause [])).run agenda midRound = some (result, next)) ∧
      ((perform (fun _ _ => []) (.pause [])).run [[], [], [.drain []]] midRound).map (fun outcome =>
        (outcome.1, outcome.2.controller.session, outcome.2.drain)) = some (true, .paused, .resting) :=
  ⟨by decide +kernel, (operations_complete (fun _ _ => []) midRound).1 (.pause []), by decide +kernel⟩

end Recorder

end VoxMesh.App
