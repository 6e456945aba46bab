import VoxMesh.Proofs.SttStreamProducer
import VoxMesh.Soundness.SttUploadOrder
import Mathlib.Data.List.Chain

/-! # Sequence gaps on the wire

The producer numbers its frames one by one and has set their flags before the client decides what to queue.
So a gap comes only from a call that finds the queue full, and it is flagged only if the next frame to be queued
happens to carry a flag of its own. `decided` lists the calls of a schedule with what became of their frames.
When every frame queued right after such a loss is flagged, every gap on the wire is flagged.
-/

namespace VoxMesh.Stt.Streaming

open VoxMesh.Audio (AudioFrame)
open VoxMesh.Dsp (SttStreamConfig SttStreamProducer)

/-- What becomes of the frame of a `sendFrame` call. -/
inductive Verdict where
  | queued
  | overflowed
  | refused
deriving DecidableEq, Repr

def verdict (client : GrpcSttStreamClient) : Verdict :=
  if !client.running || client.streamBroken then .refused
  else if client.config.sendQueueCapacity ≤ client.queue.length then .overflowed
  else .queued

structure Call where
  frame : AudioFrame
  verdict : Verdict
deriving DecidableEq

/-- The call that a step decides. -/
def State.decision (state : State) : Label → Option Call
  | .sender _ =>
      match state.sender with
      | .called frame => some ⟨frame, verdict state.client⟩
      | _ => none
  | _ => none

/-- The calls that a schedule decides, in order. -/
def decided : State → List Label → List Call
  | _, [] => []
  | state, label :: rest =>
      (state.decision label).toList ++ ((step state label).map fun next => decided next rest).getD []

def Label.frame? : Label → Option AudioFrame
  | .send frame => some frame
  | _ => none

/-- The frames that a schedule passes to `sendFrame`, in order. -/
def sent (schedule : List Label) : List AudioFrame := schedule.filterMap Label.frame?

/-- A frame queued right after one was lost to the full queue is flagged. -/
def Heeds (earlier later : Call) : Prop :=
  earlier.verdict = .overflowed → later.verdict = .queued → later.frame.discontinuity = true

/-- The later frame directly follows the earlier one or is flagged. -/
def GapFlagged (earlier later : StreamTranscriptionRequest) : Prop :=
  earlier.frame.sequence + 1 < later.frame.sequence → later.frame.discontinuity = true

instance (earlier later : Call) : Decidable (Heeds earlier later) := inferInstanceAs (Decidable (_ → _ → _))

instance (earlier later : StreamTranscriptionRequest) : Decidable (GapFlagged earlier later) :=
  inferInstanceAs (Decidable (_ → _))

/-- The frame of a call that has not been decided. -/
def Sender.held : Sender → List AudioFrame
  | .called frame => [frame]
  | _ => []

theorem rejects_iff {client : GrpcSttStreamClient} : client.rejects = false ↔ verdict client = .queued := by
  unfold GrpcSttStreamClient.rejects verdict
  split_ifs with closed full
  · simp [closed]
  · simp [full]
  · simpa using ⟨by simpa using closed, Nat.lt_of_not_le full⟩

/-- A schedule with one more step decides what the step decides. -/
theorem decided_snoc {start state : State} {schedule : List Label} {label : Label}
    (run : Machine.Run step start schedule state) :
    decided start (schedule ++ [label]) = decided start schedule ++ (state.decision label).toList := by
  induction schedule generalizing start with
  | nil =>
    obtain rfl := Machine.Run.nil_iff.mp run
    cases taken : step state label <;> simp [decided, taken]
  | cons first rest ih =>
    obtain ⟨next, taken, tail⟩ := Machine.Run.cons_iff.mp run
    simp [decided, taken, ih tail]

/-- A call is decided after it was begun, and before the next one. -/
theorem held_step {state next : State} {label : Label} (taken : Taken state label next) :
    (state.decision label).toList.map Call.frame ++ next.sender.held =
      state.sender.held ++ label.frame?.toList := by
  cases taken with
  | send frame sender => simp [sender, State.decision, Sender.held, Label.frame?]
  | drop frame capturedAtUnixMs sender rejects => simp [sender, State.decision, Sender.held, Label.frame?]
  | accept frame capturedAtUnixMs sender room => simp [sender, State.decision, Sender.held, Label.frame?]
  | notified capturedAtUnixMs sender => simp [sender, State.decision, Sender.held, Label.frame?]
  | _ => simp [State.decision, Label.frame?]

theorem decided_frames {start state : State} {schedule : List Label} (idle : start.sender.held = [])
    (run : Machine.Run step start schedule state) :
    (decided start schedule).map Call.frame ++ state.sender.held = sent schedule := by
  induction schedule using List.reverseRecOn generalizing state with
  | nil =>
    obtain rfl := Machine.Run.nil_iff.mp run
    exact idle
  | append_singleton earlier label ih =>
    obtain ⟨middle, run, taken⟩ := Machine.Run.snoc_iff.mp run
    have later := held_step (taken_of_step taken)
    rw [decided_snoc run, List.map_append, List.append_assoc, later, ← List.append_assoc, ih run, sent, sent,
      List.filterMap_append]
    cases label <;> rfl

/-- Where the numbering stands after the given calls. -/
structure Sequenced (state : State) (calls : List Call) : Prop where
  finished : ∀ session ∈ state.log.finished, session.accepted.IsChain GapFlagged
  session : state.log.session.accepted.IsChain GapFlagged
  /-- The session's latest frame is the latest call's, or the latest call met a full queue. -/
  latest : ∀ last ∈ state.log.session.accepted.getLast?, state.client.running = true →
    state.client.streamBroken = false →
    last.frame.sequence + 1 = calls.length ∨ ∃ call ∈ calls.getLast?, call.verdict = .overflowed

theorem Sequenced.start (config : GrpcSttClientConfig) : Sequenced (initial config) [] :=
  ⟨nofun, .nil, nofun⟩

/-- A step that decides no call and begins no session. -/
theorem Sequenced.congr {state next : State} {calls : List Call} (inv : Sequenced state calls)
    (finished : next.log.finished = state.log.finished)
    (accepted : next.log.session.accepted = state.log.session.accepted)
    (running : next.client.running = true → state.client.running = true)
    (broken : next.client.streamBroken = false → state.client.streamBroken = false) : Sequenced next calls := by
  refine ⟨finished ▸ inv.finished, accepted ▸ inv.session, ?_⟩
  intro last member alive sound
  exact inv.latest last (accepted ▸ member) (running alive) (broken sound)

theorem Sequenced.accept {state : State} {calls : List Call} (inv : Sequenced state calls) {frame : AudioFrame}
    (capturedAtUnixMs : ℤ) (numbered : frame.sequence = calls.length) (room : state.client.rejects = false)
    (heeded : ∀ call ∈ calls.getLast?, Heeds call ⟨frame, .queued⟩) :
    (state.log.session.accepted ++ [toRequest state.client.config.session capturedAtUnixMs frame]).IsChain
      GapFlagged := by
  obtain ⟨running, sound, -⟩ := rejects_eq_false room
  refine List.isChain_append.mpr ⟨inv.session, .singleton _, ?_⟩
  intro last member next same gap
  obtain rfl : toRequest state.client.config.session capturedAtUnixMs frame = next := by simpa using same
  rcases inv.latest last member running sound with follows | ⟨call, latest, overflowed⟩
  · have number : last.frame.sequence + 1 < frame.sequence := gap
    omega
  · exact heeded call latest overflowed rfl

theorem Sequenced.keeps {state next : State} {label : Label} {calls : List Call} (inv : Sequenced state calls)
    (numbered : ∀ frame, state.sender = .called frame → frame.sequence = calls.length)
    (heeded : (calls ++ (state.decision label).toList).IsChain Heeds) (taken : Taken state label next) :
    Sequenced next (calls ++ (state.decision label).toList) := by
  cases taken with
  | markRunning control =>
    refine ⟨?_, .nil, fun last latest => by simp at latest⟩
    intro session member
    rcases List.mem_append.mp member with earlier | last
    · exact inv.finished session earlier
    · exact List.mem_singleton.mp last ▸ inv.session
  | drop frame capturedAtUnixMs sender rejects =>
    refine ⟨inv.finished, inv.session, ?_⟩
    intro last member running sound
    have full : verdict state.client = .overflowed := by
      have running : state.client.running = true := running
      have sound : state.client.streamBroken = false := sound
      have refused : state.client.rejects = true := rejects
      simp only [GrpcSttStreamClient.rejects, running, sound, Bool.not_true, Bool.false_or,
        decide_eq_true_eq] at refused
      simp [verdict, running, sound, refused]
    exact .inr ⟨⟨frame, verdict state.client⟩, by simp [State.decision, sender], full⟩
  | accept frame capturedAtUnixMs sender room =>
    have number := numbered frame sender
    have queued := rejects_iff.mp room
    simp only [State.decision, sender, queued, Option.toList_some] at heeded ⊢
    obtain ⟨-, -, heeded⟩ := List.isChain_append.mp heeded
    refine ⟨inv.finished, inv.accept capturedAtUnixMs number room fun call latest => ?_, ?_⟩
    · exact heeded call latest _ (by simp)
    · intro last member _ _
      obtain rfl : toRequest state.client.config.session capturedAtUnixMs frame = last := by simpa using member
      left
      rw [List.length_append, List.length_singleton, ← number]
      rfl
  | notified capturedAtUnixMs sender =>
    simp only [State.decision, sender, Option.toList_none, List.append_nil]
    exact inv.congr rfl rfl id id
  | breakStream ok writer =>
    change Sequenced _ (calls ++ [])
    rw [List.append_nil]
    exact inv.congr rfl rfl id fun sound => by cases sound
  | markStopped control =>
    change Sequenced _ (calls ++ [])
    rw [List.append_nil]
    exact inv.congr rfl rfl (fun running => by cases running) id
  | _ =>
    change Sequenced _ (calls ++ [])
    rw [List.append_nil]
    exact inv.congr rfl rfl id id

/-- The frames passed to `sendFrame` carry the numbers of their calls. -/
def Numbered (frames : List AudioFrame) : Prop := ∀ (k : ℕ) (bound : k < frames.length), frames[k].sequence = k

theorem Numbered.of_append {first second : List AudioFrame} (numbered : Numbered (first ++ second)) :
    Numbered first := by
  intro k bound
  have number := numbered k (by rw [List.length_append]; omega)
  rwa [List.getElem_append_left bound] at number

theorem run_sequenced {config : GrpcSttClientConfig} {schedule : List Label} {state : State}
    (run : Machine.Run step (initial config) schedule state) (numbered : Numbered (sent schedule))
    (heeded : (decided (initial config) schedule).IsChain Heeds) :
    Sequenced state (decided (initial config) schedule) := by
  induction schedule using List.reverseRecOn generalizing state with
  | nil =>
    obtain rfl := Machine.Run.nil_iff.mp run
    exact Sequenced.start config
  | append_singleton earlier label ih =>
    obtain ⟨middle, run, taken⟩ := Machine.Run.snoc_iff.mp run
    rw [decided_snoc run] at heeded ⊢
    rw [sent, List.filterMap_append] at numbered
    have numbered : Numbered (sent earlier) := numbered.of_append
    have inv := ih run numbered (List.isChain_append.mp heeded).1
    refine inv.keeps (fun frame called => ?_) heeded (taken_of_step taken)
    have frames := decided_frames rfl run
    rw [called, Sender.held] at frames
    have number := numbered (decided (initial config) earlier).length (by simp [← frames])
    simpa [← frames] using number

private theorem run_numbered {designLowPass : ℕ → ℚ → List ℚ} {config : SttStreamConfig}
    {producer : SttStreamProducer} (created : SttStreamProducer.create designLowPass config = some producer)
    (frames : List AudioFrame) : Numbered (producer.run frames).2 := by
  intro k bound
  simp only [((SttStreamProducer.created_of_create created).run frames).outputs, SttStreamProducer.released,
    List.getElem_map, List.getElem_range, SttStreamProducer.outputFrame]

/-- When every frame queued right after a loss is flagged, so is every gap between consecutive frames on the
wire of each session. -/
theorem gaps_flagged {designLowPass : ℕ → ℚ → List ℚ} {config : SttStreamConfig} {producer : SttStreamProducer}
    (created : SttStreamProducer.create designLowPass config = some producer) (frames : List AudioFrame)
    (client : GrpcSttClientConfig) (schedule : List Label) (state : State)
    (run : Machine.Run step (initial client) schedule state) (feeds : sent schedule <+: (producer.run frames).2)
    (heeded : (decided (initial client) schedule).IsChain Heeds) :
    ∀ session ∈ state.log.finished ++ [state.log.session], session.passed.IsChain GapFlagged := by
  obtain ⟨later, split⟩ := feeds
  have numbered : Numbered (sent schedule) := Numbered.of_append (split ▸ run_numbered created frames)
  have sequenced := run_sequenced run numbered heeded
  intro session member
  have accepted : session.accepted.IsChain GapFlagged := by
    rcases List.mem_append.mp member with earlier | last
    · exact sequenced.finished session earlier
    · exact List.mem_singleton.mp last ▸ sequenced.session
  obtain ⟨⟨unsent, split⟩, -, -⟩ := (uploads_in_order client schedule state run).sessions session member
  rw [← split] at accepted
  exact (List.isChain_append.mp accepted).1

/-- One sample a second, in and out. -/
private def ticking : SttStreamConfig where
  input := { sampleRate := 1, format := .pcmS16Le }
  output := { sampleRate := 1, format := .pcmS16Le }
  frameDuration := 1000

private def tickingProducer : SttStreamProducer where
  config := ticking
  decimator := VoxMesh.Dsp.FirDecimator.create (fun taps _ => List.replicate taps 0) 1
  samplesPerOutputFrame := 1

private theorem create_ticking :
    SttStreamProducer.create (fun taps _ => List.replicate taps 0) ticking = some tickingProducer := rfl

/-- A second of silence. -/
private def tick (flag : Bool) : AudioFrame :=
  { sampleRate := 1, channels := 1, payload := [0, 0], discontinuity := flag }

/-- The output frame of the given number, a second after the one before it. -/
private def ticked (k : ℕ) (flag : Bool) : AudioFrame :=
  { tick flag with track := .sttStream, sequence := k, timestamp := k * 1000000000 }

/-- With room for one frame, the second frame is lost before the writer takes the first. -/
def crowdedSchedule (first second third : AudioFrame) : List Label :=
  [.start true .opened, .control, .control, .control] ++
    [.send first, .sender 0, .sender 0, .send second, .sender 0, .writer true] ++
    [.send third, .sender 0, .sender 0, .writer true, .writer true, .writer true, .writer true]

private def crowded (flag : Bool) : List Label :=
  crowdedSchedule (ticked 0 false) (ticked 1 false) (ticked 2 flag)

private theorem crowded_feeds (flag : Bool) :
    sent (crowded flag) <+: (tickingProducer.run [tick false, tick false, tick flag]).2 := by
  cases flag <;> decide +kernel

/-- The third frame follows the first on the wire, unflagged. -/
theorem gaps_unflagged : ¬ ∀ (designLowPass : ℕ → ℚ → List ℚ) (config : SttStreamConfig) (producer : SttStreamProducer),
    SttStreamProducer.create designLowPass config = some producer → ∀ (frames : List AudioFrame)
      (client : GrpcSttClientConfig) (schedule : List Label) (state : State),
      Machine.Run step (initial client) schedule state → sent schedule <+: (producer.run frames).2 →
      state.log.session.passed.IsChain GapFlagged := by
  intro always
  have outcome : (Machine.exec step (initial { sendQueueCapacity := 1 }) (crowded false)).map (fun state =>
      decide (state.log.session.passed.IsChain GapFlagged)) = some false := by
    decide +kernel
  obtain ⟨state, run, broken⟩ := Option.map_eq_some_iff.mp outcome
  have chain := always _ _ _ create_ticking _ _ _ state run (crowded_feeds false)
  exact absurd chain (of_decide_eq_false broken)

/-- The same calls with a flag on the third frame. -/
theorem gaps_flagged_crowded : ∃ state : State,
    Machine.Run step (initial { sendQueueCapacity := 1 }) (crowded true) state ∧
    state.log.session.passed.map (fun request => (request.frame.sequence, request.frame.discontinuity)) =
      [(0, false), (2, true)] ∧
    ∀ session ∈ state.log.finished ++ [state.log.session], session.passed.IsChain GapFlagged := by
  have outcome : (Machine.exec step (initial { sendQueueCapacity := 1 }) (crowded true)).map (fun state =>
      state.log.session.passed.map fun request => (request.frame.sequence, request.frame.discontinuity)) =
      some [(0, false), (2, true)] := by
    decide +kernel
  obtain ⟨state, run, passed⟩ := Option.map_eq_some_iff.mp outcome
  refine ⟨state, run, passed, ?_⟩
  exact gaps_flagged create_ticking _ { sendQueueCapacity := 1 } (crowded true) state run (crowded_feeds true)
    (by decide +kernel)

end VoxMesh.Stt.Streaming
