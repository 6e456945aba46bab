import VoxMesh.Proofs.WriterHandles
import VoxMesh.Soundness.RecordingWriter

/-! # The handles of a recording writer

From `createRecordingWriter` to its destructor, whatever FFmpeg answers and whatever calls are made in between, a writer
uses only live handles, frees each of its handles once, and touches no other. It answers and does to the files what
`FfmpegRecordingWriter` does.
-/

namespace VoxMesh.Media

open VoxMesh.Audio Machine Handling

namespace WriterSession

variable (session : WriterSession)

theorem write_result (trackIndex : ℕ) (frame : AudioFrame) :
    let result := session.writer.write trackIndex frame session.io
    session.step (.write trackIndex frame) =
      some ⟨result.2.1, result.2.2, session.log ++ [(.write trackIndex frame, result.1)]⟩ := by
  rcases result : session.writer.write trackIndex frame session.io with ⟨answer, writer, io⟩
  rw [step, result]

theorem finalize_result (renamed : Bool) :
    let result := session.writer.finalize renamed session.io
    session.step (.finalize renamed) =
      some ⟨result.2.1, result.2.2, session.log ++ [(.finalize renamed, result.1)]⟩ := by
  rcases result : session.writer.finalize renamed session.io with ⟨answer, writer, io⟩
  rw [step, result]

theorem abort_result :
    session.step .abort = some ⟨(session.writer.abort session.io).1, (session.writer.abort session.io).2,
      session.log ++ [(.abort, true)]⟩ := by
  rcases result : session.writer.abort session.io with ⟨writer, io⟩
  rw [step, result]

end WriterSession

namespace HandleWriter

variable {ε : Type}

def perform : WriterCall → Ffmpeg ε Bool
  | .write trackIndex frame => write trackIndex frame
  | .finalize renamed => finalize renamed
  | .abort => do
      abort
      return true

/-- The calls one after the other, with their answers. -/
def performAll : List WriterCall → Ffmpeg ε (List (WriterCall × Bool))
  | [] => return []
  | call :: rest => do
      let answer ← perform call
      let answers ← performAll rest
      return (call, answer) :: answers

/-- `createRecordingWriter`, the calls on the writer if it hands one out, and the destructor. -/
def life (frameSize : ℕ) (calls : List WriterCall) :
    Ffmpeg Empty (Except RecordingWriterError (List (WriterCall × Bool))) := do
  match ← attempt («open» frameSize) with
  | .error error =>
      cleanup
      return .error error
  | .ok () =>
      let answers ← performAll calls
      cleanup
      return .ok answers

/-- The writer is that of the session, and its handles are in order. -/
def Stands (session : WriterSession) : Assertion FfmpegHandle WriterMemory := fun memory all =>
  ∃ writer, Sound writer ∧ writer.values = session.writer ∧ At writer session.io memory all

theorem perform_steps (ε : Type) (session : WriterSession) (call : WriterCall) :
    ∃ next answer, session.step call = some next ∧ next.log = session.log ++ [(call, answer)] ∧
      Holds (Stands session) (perform call : Ffmpeg ε Bool) fun outcome memory all =>
        outcome = .ok answer ∧ Stands next memory all := by
  have follows {program : Ffmpeg ε Bool} {result : Bool × FfmpegRecordingWriter × Io}
      {log : List (WriterCall × Bool)} (holds : ∀ writer : HandleWriter, writer.Sound → writer.values = session.writer →
        Holds (At writer session.io) program (Follows result)) :
      Holds (Stands session) program fun outcome memory all =>
        outcome = .ok result.1 ∧ Stands ⟨result.2.1, result.2.2, log⟩ memory all := by
    refine Holds.of_exists fun writer => Holds.of_fact fun sound => Holds.of_fact fun values => ?_
    refine Holds.conseq (holds writer sound values) (fun _ _ holds => holds) ?_
    rintro outcome memory all ⟨after, sound, values, same, holds⟩
    exact ⟨same, after, sound, values, holds⟩
  cases call with
  | write trackIndex frame =>
    refine ⟨_, _, session.write_result trackIndex frame, rfl, follows fun writer sound values => ?_⟩
    exact values ▸ write_follows trackIndex frame sound
  | finalize renamed =>
    refine ⟨_, _, session.finalize_result renamed, rfl, follows fun writer sound values => ?_⟩
    exact values ▸ finalize_follows renamed sound
  | abort =>
    refine ⟨_, true, session.abort_result, rfl, ?_⟩
    refine Holds.of_exists fun writer => Holds.of_fact fun sound => Holds.of_fact fun values => ?_
    refine Holds.bind_eq () (abort_follows sound.nested) (Holds.pure true fun memory all holds => ⟨rfl, ?_⟩)
    rw [values] at holds
    exact ⟨_, abort_sound session.writer session.io, rfl, holds⟩

/-- The calls on a writer are those of a session. -/
theorem performAll_runs (ε : Type) (calls : List WriterCall) (session : WriterSession) :
    ∃ last answers, Run WriterSession.step session calls last ∧ last.log = session.log ++ answers ∧
      Holds (Stands session) (performAll calls : Ffmpeg ε (List (WriterCall × Bool))) fun outcome memory all =>
        outcome = .ok answers ∧ Stands last memory all := by
  induction calls generalizing session with
  | nil =>
    exact ⟨session, [], Run.nil_iff.mpr rfl, (List.append_nil _).symm, Holds.pure [] fun _ _ holds => ⟨rfl, holds⟩⟩
  | cons call rest ih =>
    obtain ⟨next, answer, taken, noted, performs⟩ := perform_steps ε session call
    obtain ⟨last, answers, run, log, later⟩ := ih next
    refine ⟨last, (call, answer) :: answers, Run.cons_iff.mpr ⟨next, taken, run⟩, ?_, ?_⟩
    · rw [log, noted, List.append_assoc, List.singleton_append]
    · exact Holds.bind_eq _ performs (Holds.bind_eq _ later (Holds.pure _ fun _ _ holds => ⟨rfl, holds⟩))

/-- Behind `cleanup`, the writer owns nothing. -/
theorem cleanup_ends {writer : HandleWriter} {io : Io} {α : Type} (value : α)
    (nested : writer.format = none → writer.pb = none) :
    Holds (At writer io) (do cleanup; return value : Ffmpeg ε α) fun outcome memory all =>
      outcome = .ok value ∧ memory.io = io ∧ all = 0 := by
  refine Holds.bind_eq () (cleanup_answers nested) (Holds.pure value ?_)
  rintro memory all ⟨rfl, rfl⟩
  exact ⟨rfl, rfl, by simp [owned]⟩

/-- The lives that `FfmpegRecordingWriter` allows. -/
def IsLife (config : RecordingWriterConfig) (frameSize : ℕ) (calls : List WriterCall) (io : Io)
    (result : Except RecordingWriterError (List (WriterCall × Bool))) (final : Io) : Prop :=
  match FfmpegRecordingWriter.create config frameSize io with
  | (.error error, io') => result = .error error ∧ final = io'
  | (.ok writer, io') => ∃ session, Run WriterSession.step ⟨writer, io', []⟩ calls session ∧
      result = .ok session.log ∧ final = session.io

theorem life_ends (config : RecordingWriterConfig) (frameSize : ℕ) (calls : List WriterCall) (io : Io) :
    ∃ result final, IsLife config frameSize calls io result final ∧
      Holds (At { values := { config := config } } io) (life frameSize calls) fun outcome memory all =>
        outcome = .ok result ∧ memory.io = final ∧ all = 0 := by
  have opens := open_creates config frameSize io
  unfold IsLife
  generalize FfmpegRecordingWriter.create config frameSize io = created at opens ⊢
  obtain ⟨error | values, io'⟩ := created
  · refine ⟨.error error, io', ⟨rfl, rfl⟩, ?_⟩
    refine Holds.bind_eq (M := fun memory all => ∃ writer : HandleWriter,
      (writer.format = none → writer.pb = none) ∧ At writer io' memory all) (.error error) ?_ ?_
    · refine Holds.conseq (Holds.attempt opens) (fun _ _ holds => holds) ?_
      rintro outcome memory all ⟨result, rfl, after, nested, holds, rfl⟩
      exact ⟨rfl, after, nested, holds⟩
    · exact Holds.of_exists fun writer => Holds.of_fact fun nested => cleanup_ends _ nested
  · obtain ⟨session, answers, run, log, performs⟩ := performAll_runs Empty calls ⟨values, io', []⟩
    refine ⟨.ok answers, session.io, ⟨session, run, congrArg _ log.symm, rfl⟩, ?_⟩
    refine Holds.bind_eq (M := Stands ⟨values, io', []⟩) (.ok ()) ?_ (Holds.bind_eq answers performs ?_)
    · refine Holds.conseq (Holds.attempt opens) (fun _ _ holds => holds) ?_
      rintro outcome memory all ⟨result, rfl, after, -, holds, rfl, sound, same⟩
      exact ⟨rfl, after, sound, same, holds⟩
    · exact Holds.of_exists fun writer => Holds.of_fact fun sound => Holds.of_fact fun _ => cleanup_ends _ sound.nested

/-- Every life of a writer leaves the heap as it was, and is one of `FfmpegRecordingWriter`. -/
theorem handles_released (config : RecordingWriterConfig) (frameSize : ℕ) (calls : List WriterCall) (io : Io)
    (heap : Heap FfmpegHandle) :
    ∃ result last heap', (life frameSize calls).run (⟨{ values := { config := config } }, io⟩, heap) =
        some (.ok result, (last, heap')) ∧
      heap'.live = heap.live ∧ IsLife config frameSize calls io result last.io := by
  obtain ⟨result, final, isLife, ends⟩ := life_ends config frameSize calls io
  obtain ⟨outcome, last, heap', owned, ran, live, rfl, same, none⟩ :=
    ends ⟨{ values := { config := config } }, io⟩ heap 0 heap.live (zero_add _).symm ⟨rfl, by simp [HandleWriter.owned]⟩
  exact ⟨result, last, heap', ran, by rw [live, none, zero_add], same ▸ isLife⟩

end HandleWriter

end VoxMesh.Media
