import VoxMesh.Model.WriterHandles
import VoxMesh.Proofs.RecordingWriter
import Mathlib.Data.List.ModifyLast
import Mathlib.Tactic.Abel

/-! # What the writer does with its handles

The triples of `HandleWriter`'s functions follow its code statement by statement. While a recording goes on, no handle
is allocated or freed, and each function does to the values and the files what the function of `FfmpegRecordingWriter`
does (`Gives`).
-/

namespace VoxMesh.Media

open VoxMesh.Audio Machine Handling

namespace Io

theorem call_answers (io : Io) : io.call.2.answers.length ≤ io.answers.length := by
  unfold call
  split
  next => exact Nat.le_refl _
  next answer rest answers =>
    rw [answers]
    exact Nat.le_succ _

/-- A released packet is written by one more call. -/
theorem drainPackets_ok (disk : Disk) (path : String) (index : ℕ) (answers : List FfmpegAnswer) :
    drainPackets disk path index (.ok :: answers) =
      match call ⟨disk, answers⟩ with
      | (false, io) => (false, io)
      | (true, io) => drainPackets
          (io.disk.update path fun file => { file with packets := file.packets ++ [index] }) path index io.answers := by
  rcases answers with _ | ⟨_ | _ | _, answers⟩ <;> rfl

end Io

def TrackHandles.owned (track : TrackHandles) : Multiset (Handle FfmpegHandle) :=
  Machine.owned track.codec + Machine.owned track.fifo + Machine.owned track.scratch

theorem TrackState.chunk_le (track : TrackState) (drainAll : Bool) : track.chunk drainAll ≤ track.fifo.length := by
  rw [chunk]
  split
  next => assumption
  next =>
    split
    next => exact Nat.le_refl _
    next => exact Nat.zero_le _

namespace HandleWriter

variable {ε α β : Type}

def owned (writer : HandleWriter) : Multiset (Handle FfmpegHandle) :=
  Machine.owned writer.format + Machine.owned writer.pb + Machine.owned writer.packet +
    (writer.tracks.map TrackHandles.owned).sum

/-- The program is with this writer, at these files and answers, and owns the given handles. -/
def Owning (writer : HandleWriter) (io : Io) (handles : Multiset (Handle FfmpegHandle)) :
    Assertion FfmpegHandle WriterMemory := fun memory all => memory = ⟨writer, io⟩ ∧ all = handles

/-- The program owns what the writer points to. -/
abbrev At (writer : HandleWriter) (io : Io) : Assertion FfmpegHandle WriterMemory := Owning writer io writer.owned

/-- The outcome of a function that succeeds or fails, and where it ends. -/
def Gives (succeeds : Bool) (writer : HandleWriter) (io : Io) (outcome : Except ε α) :
    Assertion FfmpegHandle WriterMemory := fun memory all =>
  outcome.isOk = succeeds ∧ At writer io memory all

section Statements

variable {writer : HandleWriter} {io : Io} {handles : Multiset (Handle FfmpegHandle)}
  {R : Except ε β → Assertion FfmpegHandle WriterMemory}

theorem get_then {f : HandleWriter → α} {next : α → Ffmpeg ε β}
    (rest : Holds (Owning writer io handles) (next (f writer)) R) :
    Holds (Owning writer io handles) (get f >>= next) R :=
  Holds.bind_eq (f writer) (Holds.act fun _ _ holds => ⟨by rw [holds.1], holds⟩) rest

theorem modify_answers (change : HandleWriter → HandleWriter) :
    Holds (Owning writer io handles) (modify change : Ffmpeg ε Unit) fun outcome memory all =>
      outcome = .ok () ∧ Owning (change writer) io handles memory all :=
  Holds.act fun _ _ holds => ⟨rfl, by rw [holds.1], holds.2⟩

theorem modify_then {change : HandleWriter → HandleWriter} {next : Unit → Ffmpeg ε β}
    (rest : Holds (Owning (change writer) io handles) (next ()) R) :
    Holds (Owning writer io handles) (modify change >>= next) R :=
  Holds.bind_eq () (modify_answers change) rest

theorem modifyValues_then {change : FfmpegRecordingWriter → FfmpegRecordingWriter} {next : Unit → Ffmpeg ε β}
    (rest : Holds (At { writer with values := change writer.values } io) (next ()) R) :
    Holds (At writer io) (modifyValues change >>= next) R :=
  modify_then rest

theorem modifyFiles_then {change : Disk → Disk} {next : Unit → Ffmpeg ε β}
    (rest : Holds (At writer { io with disk := change io.disk }) (next ()) R) :
    Holds (At writer io) (modifyFiles change >>= next) R := by
  refine Holds.bind_eq () (Holds.act fun memory all holds => ⟨rfl, ?_, holds.2⟩) rest
  rw [holds.1]

/-- A handle that the writer owns may be used. -/
theorem use_then {pointer : HandleWriter → Option (Handle FfmpegHandle)} {next : Unit → Ffmpeg ε β}
    (owned : ∃ handle ∈ writer.owned, pointer writer = some handle) (rest : Holds (At writer io) (next ()) R) :
    Holds (At writer io) (use pointer >>= next) R := by
  refine Holds.bind_eq () (M := At writer io) (get_then (Holds.touch fun memory all holds => ?_)) rest
  exact ⟨holds.2 ▸ owned, rfl, holds⟩

theorem check_gives (error : ε) {R : Except ε Unit → Assertion FfmpegHandle WriterMemory}
    (passes : ∀ io', io.call = (true, io') → R (.ok ()) ⟨writer, io'⟩ writer.owned)
    (fails : ∀ io', io.call = (false, io') → R (.error error) ⟨writer, io'⟩ writer.owned) :
    Holds (At writer io) (check error) R := by
  refine Holds.bind_eq (M := At writer io.call.2) io.call.1 (Holds.act fun memory all holds => ?_) ?_
  · exact ⟨by rw [holds.1], by rw [holds.1], holds.2⟩
  refine Holds.ite (fun failed => Holds.throw error ?_) fun passed => Holds.pure () ?_
  · rintro memory all ⟨rfl, rfl⟩
    exact fails _ (Prod.ext (by simpa using failed) rfl)
  · rintro memory all ⟨rfl, rfl⟩
    exact passes _ (Prod.ext (by simpa using passed) rfl)

theorem check_then {error : ε} {next : Unit → Ffmpeg ε β}
    (passes : ∀ io', io.call = (true, io') → Holds (At writer io') (next ()) R)
    (fails : ∀ io', io.call = (false, io') → R (.error error) ⟨writer, io'⟩ writer.owned) :
    Holds (At writer io) (check error >>= next) R := by
  refine Holds.bind (R := fun outcome memory all => (∃ io', io.call = (true, io') ∧ outcome = .ok () ∧
    At writer io' memory all) ∨ outcome = .error error ∧ R (.error error) memory all) ?_ ?_ ?_
  · exact check_gives error (fun io' passed => .inl ⟨io', passed, rfl, rfl, rfl⟩)
      fun io' failed => .inr ⟨rfl, fails io' failed⟩
  · intro value
    refine Holds.conseq (P := fun memory all => ∃ io', io.call = (true, io') ∧ At writer io' memory all)
      (Holds.of_exists fun io' => Holds.of_fact fun passed => passes io' passed) ?_ fun _ _ _ result => result
    rintro memory all (⟨io', passed, -, holds⟩ | ⟨same, -⟩)
    · exact ⟨io', passed, holds⟩
    · contradiction
  · rintro error' memory all (⟨_, _, same, _⟩ | ⟨same, failed⟩)
    · contradiction
    · exact Except.error.inj same ▸ failed

/-- A handle that is handed out is owned, and not yet by the writer. -/
theorem acquire_then {error : ε} {kind : FfmpegHandle} {next : Handle FfmpegHandle → Ffmpeg ε β}
    (passes : ∀ io' handle, io.call = (true, io') → Holds (Owning writer io' ({handle} + writer.owned)) (next handle) R)
    (fails : ∀ io', io.call = (false, io') → R (.error error) ⟨writer, io'⟩ writer.owned) :
    Holds (At writer io) (acquire error kind >>= next) R := by
  rw [acquire, bind_assoc]
  refine check_then (fun io' passed => ?_) fails
  refine Holds.bind (R := fun outcome memory all => ∃ handle, outcome = .ok handle ∧
    Owning writer io' ({handle} + writer.owned) memory all) (Holds.allocate kind ?_) (fun value => ?_) ?_
  · rintro memory all handle ⟨same, rfl⟩
    exact ⟨handle, rfl, same, rfl⟩
  · refine Holds.of_exists fun handle => Holds.of_fact fun same => ?_
    obtain rfl := Except.ok.inj same
    exact passes io' value passed
  · rintro error memory all ⟨_, _, _⟩
    contradiction

/-- A function that is done with succeeds or fails as it is known to. -/
theorem gives_then {succeeds : Bool} {after : HandleWriter} {io' : Io} {P : Assertion FfmpegHandle WriterMemory}
    {program : Ffmpeg ε Unit} {next : Unit → Ffmpeg ε β} (first : Holds P program (Gives succeeds after io'))
    (passes : succeeds = true → Holds (At after io') (next ()) R)
    (fails : succeeds = false → ∀ error, R (.error error) ⟨after, io'⟩ after.owned) :
    Holds P (program >>= next) R := by
  refine Holds.bind first (fun value => ?_) ?_
  · intro memory heap all rest live holds
    exact passes holds.1.symm memory heap all rest live holds.2
  · rintro error memory all ⟨failed, rfl, rfl⟩
    exact fails failed.symm error

end Statements

end HandleWriter

/-- All of a track's handles are there. -/
structure TrackHandles.Ready (track : TrackHandles) : Prop where
  codec : track.codec.isSome = true
  stream : track.stream = true
  fifo : track.fifo.isSome = true
  scratch : track.scratch.isSome = true

namespace HandleWriter

/-- All of the writer's handles are there, for the tracks of its configuration. -/
structure Ready (writer : HandleWriter) : Prop where
  format : writer.format.isSome = true
  pb : writer.pb.isSome = true
  packet : writer.packet.isSome = true
  tracks : ∀ track ∈ writer.tracks, track.Ready
  values : writer.values.tracks.length = writer.tracks.length
  configured : writer.values.config.tracks.length = writer.tracks.length

def setTrack (writer : HandleWriter) (index : ℕ) (track : TrackState) : HandleWriter :=
  { writer with values := { writer.values with tracks := writer.values.tracks.set index track } }

section Encode

variable {ε β : Type} {writer : HandleWriter} {io : Io} {index : ℕ} {state : TrackState}

theorem mem_sum_owned {tracks : List TrackHandles} {track : TrackHandles} {handle : Handle FfmpegHandle}
    (member : track ∈ tracks) (held : handle ∈ track.owned) : handle ∈ (tracks.map TrackHandles.owned).sum := by
  induction tracks with
  | nil => contradiction
  | cons first rest ih =>
    rw [List.map_cons, List.sum_cons, Multiset.mem_add]
    rcases List.mem_cons.mp member with rfl | later
    · exact .inl held
    · exact .inr (ih later)

theorem owns_of_mem (writer : HandleWriter) {pointer : Option (Handle FfmpegHandle)} (present : pointer.isSome = true)
    (held : ∀ handle, pointer = some handle → handle ∈ writer.owned) :
    ∃ handle ∈ writer.owned, pointer = some handle := by
  obtain ⟨handle, rfl⟩ := Option.isSome_iff_exists.mp present
  exact ⟨handle, held handle rfl, rfl⟩

theorem owns_format (present : writer.format.isSome = true) : ∃ handle ∈ writer.owned, writer.format = some handle :=
  owns_of_mem writer present fun handle same => by simp [owned, same]

theorem owns_pb (present : writer.pb.isSome = true) : ∃ handle ∈ writer.owned, writer.pb = some handle :=
  owns_of_mem writer present fun handle same => by simp [owned, same]

theorem owns_packet (present : writer.packet.isSome = true) : ∃ handle ∈ writer.owned, writer.packet = some handle :=
  owns_of_mem writer present fun handle same => by simp [owned, same]

theorem owns_track {track : TrackHandles} {pointer : TrackHandles → Option (Handle FfmpegHandle)}
    (member : track ∈ writer.tracks) (present : (pointer track).isSome = true)
    (held : ∀ handle, pointer track = some handle → handle ∈ track.owned) :
    ∃ handle ∈ writer.owned, (some track).bind pointer = some handle :=
  owns_of_mem writer present fun handle same =>
    Multiset.mem_add.mpr (.inr (mem_sum_owned member (held handle same)))

theorem Ready.owns_codec (ready : writer.Ready) (inside : index < writer.tracks.length) :
    ∃ handle ∈ writer.owned, writer.tracks[index]?.bind (·.codec) = some handle := by
  rw [List.getElem?_eq_getElem inside]
  have member := List.getElem_mem inside
  exact owns_track member (ready.tracks _ member).codec fun handle same => by simp [TrackHandles.owned, same]

theorem Ready.owns_fifo (ready : writer.Ready) (inside : index < writer.tracks.length) :
    ∃ handle ∈ writer.owned, writer.tracks[index]?.bind (·.fifo) = some handle := by
  rw [List.getElem?_eq_getElem inside]
  have member := List.getElem_mem inside
  exact owns_track member (ready.tracks _ member).fifo fun handle same => by simp [TrackHandles.owned, same]

theorem Ready.owns_scratch (ready : writer.Ready) (inside : index < writer.tracks.length) :
    ∃ handle ∈ writer.owned, writer.tracks[index]?.bind (·.scratch) = some handle := by
  rw [List.getElem?_eq_getElem inside]
  have member := List.getElem_mem inside
  exact owns_track member (ready.tracks _ member).scratch fun handle same => by simp [TrackHandles.owned, same]

theorem Ready.owns_stream (ready : writer.Ready) (inside : index < writer.tracks.length) :
    ∃ handle ∈ writer.owned, writer.streamOf writer.tracks[index]? = some handle := by
  have stream := (ready.tracks _ (List.getElem_mem inside)).stream
  rw [List.getElem?_eq_getElem inside, streamOf, Option.any_some, if_pos stream]
  exact owns_format ready.format

@[simp] theorem setTrack_partialPath (writer : HandleWriter) (index : ℕ) (state : TrackState) :
    (writer.setTrack index state).values.partialPath = writer.values.partialPath := rfl

theorem setTrack_setTrack (first second : TrackState) :
    (writer.setTrack index first).setTrack index second = writer.setTrack index second := by
  simp only [setTrack, List.set_set]

theorem setTrack_of_getElem? (found : writer.values.tracks[index]? = some state) :
    writer.setTrack index state = writer := by
  obtain ⟨inside, rfl⟩ := List.getElem?_eq_some_iff.mp found
  simp only [setTrack, List.set_getElem_self]

theorem getElem?_setTrack (inside : index < writer.values.tracks.length) (state : TrackState) :
    (writer.setTrack index state).values.tracks[index]? = some state :=
  List.getElem?_set_self inside

theorem Ready.setTrack (ready : writer.Ready) (index : ℕ) (state : TrackState) : (writer.setTrack index state).Ready :=
  { ready with values := (List.length_set ..).trans ready.values }

theorem track_then {next : TrackState → Ffmpeg ε β} {R : Except ε β → Assertion FfmpegHandle WriterMemory}
    (found : writer.values.tracks[index]? = some state) (rest : Holds (At writer io) (next state) R) :
    Holds (At writer io) (track index >>= next) R := by
  refine Holds.bind_eq state (get_then ?_) rest
  rw [found]
  exact Holds.pure _ fun _ _ holds => ⟨rfl, holds⟩

theorem modifyTrack_then {change : TrackState → TrackState} {next : Unit → Ffmpeg ε β}
    {R : Except ε β → Assertion FfmpegHandle WriterMemory} (found : writer.values.tracks[index]? = some state)
    (rest : Holds (At (writer.setTrack index (change state)) io) (next ()) R) :
    Holds (At writer io) (modifyTrack index change >>= next) R := by
  obtain ⟨inside, rfl⟩ := List.getElem?_eq_some_iff.mp found
  refine modifyValues_then ?_
  rw [List.modify_eq_set_get _ inside]
  exact rest

theorem receive_then {disk : Disk} {answers : List FfmpegAnswer} {next : FfmpegAnswer → Ffmpeg ε β}
    {R : Except ε β → Assertion FfmpegHandle WriterMemory}
    (rest : Holds (At writer ⟨disk, answers.tail⟩) (next (answers.headD .again)) R) :
    Holds (At writer ⟨disk, answers⟩) (receive >>= next) R := by
  refine Holds.bind_eq _ (Holds.act fun memory all holds => ?_) rest
  obtain ⟨rfl, rfl⟩ := holds
  cases answers <;> exact ⟨rfl, rfl, rfl⟩

/-- A pass in which the encoder releases a packet. -/
theorem drainLoop_packet (ready : writer.Ready) (inside : index < writer.tracks.length) {disk : Disk}
    {answers : List FfmpegAnswer} {passes : ℕ} {R : Except Unit Unit → Assertion FfmpegHandle WriterMemory}
    (written : ∀ io', Io.call ⟨disk, answers⟩ = (true, io') → Holds (At writer { io' with
      disk := io'.disk.update writer.values.partialPath fun file => { file with packets := file.packets ++ [index] } })
        (drainLoop index passes) R)
    (fails : ∀ io', Io.call ⟨disk, answers⟩ = (false, io') → R (.error ()) ⟨writer, io'⟩ writer.owned) :
    Holds (At writer ⟨disk, .ok :: answers⟩) (drainLoop index (passes + 1)) R := by
  refine use_then (ready.owns_codec inside) (use_then (owns_packet ready.packet) (receive_then ?_))
  refine use_then (owns_packet ready.packet) (use_then (ready.owns_stream inside) ?_)
  refine use_then (ready.owns_codec inside) (use_then (owns_format ready.format) (use_then (owns_pb ready.pb) ?_))
  exact check_then (fun io' passed => get_then (modifyFiles_then (written io' passed))) fails

/-- A pass in which it releases none. -/
theorem drainLoop_ends (ready : writer.Ready) (inside : index < writer.tracks.length) {disk : Disk} {passes : ℕ}
    (answers : List FfmpegAnswer) (none : answers.headD .again ≠ .ok) :
    Holds (At writer ⟨disk, answers⟩) (drainLoop index (passes + 1))
      (Gives (answers.headD .again == .again) writer ⟨disk, answers.tail⟩) := by
  refine use_then (ready.owns_codec inside) (use_then (owns_packet ready.packet) (receive_then ?_))
  generalize answers.headD .again = answer at none
  cases answer with
  | ok => contradiction
  | again => exact Holds.pure () fun _ _ holds => ⟨rfl, holds⟩
  | failed => exact Holds.throw () fun _ _ holds => ⟨rfl, holds⟩

theorem drainLoop_gives (ready : writer.Ready) (inside : index < writer.tracks.length) (passes : ℕ) (disk : Disk)
    (answers : List FfmpegAnswer) (enough : answers.length < passes) :
    Holds (At writer ⟨disk, answers⟩) (drainLoop index passes)
      (Gives (Io.drainPackets disk writer.values.partialPath index answers).1 writer
        (Io.drainPackets disk writer.values.partialPath index answers).2) := by
  induction passes generalizing disk answers with
  | zero => exact absurd enough (Nat.not_lt_zero _)
  | succ passes ih =>
    rcases answers with _ | ⟨_ | _ | _, answers⟩
    · exact drainLoop_ends ready inside [] nofun
    · rw [Io.drainPackets_ok]
      refine drainLoop_packet ready inside (fun io' passed => ?_) fun io' failed => ?_
      · rw [passed]
        refine ih _ io'.answers ?_
        have fewer := Io.call_answers ⟨disk, answers⟩
        rw [passed] at fewer
        exact Nat.lt_of_le_of_lt fewer (Nat.lt_of_succ_lt_succ enough)
      · rw [failed]
        exact ⟨rfl, rfl, rfl⟩
    · exact drainLoop_ends ready inside (.again :: answers) nofun
    · exact drainLoop_ends ready inside (.failed :: answers) nofun

theorem drainPackets_gives (ready : writer.Ready) (inside : index < writer.tracks.length) (io : Io) :
    Holds (At writer io) (drainPackets index)
      (Gives (Io.drainPackets io.disk writer.values.partialPath index io.answers).1 writer
        (Io.drainPackets io.disk writer.values.partialPath index io.answers).2) := by
  refine Holds.bind_eq (M := At writer io) io.answers.length (Holds.act fun _ _ holds => ⟨by rw [holds.1], holds⟩) ?_
  exact drainLoop_gives ready inside _ io.disk io.answers (Nat.lt_succ_self _)

/-- The encoding loop does to the track and the files what it does in the writer's values. -/
theorem encodeLoop_gives (drainAll : Bool) (fuel : ℕ) {passes : ℕ} (ready : writer.Ready)
    (inside : index < writer.tracks.length) (found : writer.values.tracks[index]? = some state)
    (within : state.fifo.length ≤ fuel) (enough : fuel < passes) (io : Io) :
    Holds (At writer io) (encodeLoop index drainAll passes)
      (Gives (state.encodeLoop writer.values.partialPath index drainAll fuel io).1
        (writer.setTrack index (state.encodeLoop writer.values.partialPath index drainAll fuel io).2.1)
        (state.encodeLoop writer.values.partialPath index drainAll fuel io).2.2) := by
  induction fuel generalizing writer io state passes with
  | zero =>
    obtain ⟨passes, rfl⟩ : ∃ earlier, passes = earlier + 1 := ⟨passes - 1, by omega⟩
    refine use_then (ready.owns_fifo inside) (track_then found (Holds.ite (fun _ => Holds.pure () ?_) fun chunk => ?_))
    · rw [TrackState.encodeLoop, setTrack_of_getElem? found]
      exact fun _ _ holds => ⟨rfl, holds⟩
    · exact absurd (Nat.le_zero.mp ((state.chunk_le drainAll).trans within)) chunk
  | succ fuel ih =>
    obtain ⟨passes, rfl⟩ : ∃ earlier, passes = earlier + 1 := ⟨passes - 1, by omega⟩
    refine use_then (ready.owns_fifo inside) (track_then found (Holds.ite (fun none => Holds.pure () ?_)
      fun some => ?_))
    · rw [TrackState.encodeLoop, if_pos none, setTrack_of_getElem? found]
      exact fun _ _ holds => ⟨rfl, holds⟩
    rw [TrackState.encodeLoop, if_neg some]
    simp only [Io.calls]
    refine use_then (ready.owns_scratch inside) (check_then (fun io₁ first => ?_) fun io₁ first => ?_)
    · rw [first]
      refine use_then (ready.owns_fifo inside) (use_then (ready.owns_scratch inside) ?_)
      refine check_then (fun io₂ second => modifyTrack_then found ?_) fun io₂ second => ?_
      · simp only [second]
        have stored : index < writer.values.tracks.length := ready.values ▸ inside
        have taken := getElem?_setTrack stored { state with
          fifo := state.fifo.drop (state.chunk drainAll), nextPts := state.nextPts + state.chunk drainAll }
        have ready₁ := ready.setTrack index { state with
          fifo := state.fifo.drop (state.chunk drainAll), nextPts := state.nextPts + state.chunk drainAll }
        refine use_then (ready₁.owns_codec inside) (use_then (ready₁.owns_scratch inside) ?_)
        refine check_then (fun io₃ third => modifyTrack_then taken ?_) fun io₃ third => ?_
        · simp only [third, setTrack_setTrack]
          have sent := ready.setTrack index { state with
            fifo := state.fifo.drop (state.chunk drainAll)
            nextPts := state.nextPts + state.chunk drainAll
            encoded := state.encoded ++ [⟨state.nextPts, state.fifo.take (state.chunk drainAll)⟩] }
          have drains := drainPackets_gives sent inside io₃
          rcases result : Io.drainPackets io₃.disk writer.values.partialPath index io₃.answers with ⟨drained, io₄⟩
          simp only [setTrack_partialPath, result] at drains
          refine gives_then drains (fun succeeded => ?_) fun failed error => ?_
          · have shorter : (state.fifo.drop (state.chunk drainAll)).length ≤ fuel := by
              rw [List.length_drop]
              omega
            have later := ih sent inside (getElem?_setTrack stored _) shorter (Nat.lt_of_succ_lt_succ enough) io₄
            simp only [succeeded]
            simpa only [setTrack_setTrack, setTrack_partialPath] using later
          · simp only [failed]
            exact ⟨rfl, rfl, rfl⟩
        · simp only [third]
          exact ⟨rfl, rfl, rfl⟩
      · simp only [second]
        exact ⟨rfl, by rw [setTrack_of_getElem? found], rfl⟩
    · rw [first]
      exact ⟨rfl, by rw [setTrack_of_getElem? found], rfl⟩

theorem encodeBuffered_gives (drainAll : Bool) (ready : writer.Ready) (inside : index < writer.tracks.length)
    (found : writer.values.tracks[index]? = some state) (io : Io) :
    Holds (At writer io) (encodeBuffered index drainAll)
      (Gives (state.encodeBuffered writer.values.partialPath index drainAll io).1
        (writer.setTrack index (state.encodeBuffered writer.values.partialPath index drainAll io).2.1)
        (state.encodeBuffered writer.values.partialPath index drainAll io).2.2) :=
  track_then found (encodeLoop_gives drainAll _ ready inside found (Nat.le_refl _) (Nat.lt_succ_self _) io)

theorem buffer_gives (frame : AudioFrame) (ready : writer.Ready) (inside : index < writer.tracks.length)
    (found : writer.values.tracks[index]? = some state) (io : Io) :
    Holds (At writer io) (buffer index frame)
      (Gives (FfmpegRecordingWriter.buffer state writer.values.partialPath index frame io).1
        (writer.setTrack index (FfmpegRecordingWriter.buffer state writer.values.partialPath index frame io).2.1)
        (FfmpegRecordingWriter.buffer state writer.values.partialPath index frame io).2.2) := by
  rw [FfmpegRecordingWriter.buffer, buffer]
  refine Holds.ite (fun some => ?_) fun none => Holds.pure () ?_
  · simp only [not_le.mpr some, if_false]
    refine use_then (ready.owns_fifo inside) (check_then (fun io' passed => modifyTrack_then found ?_)
      fun io' failed => ?_)
    · simp only [passed]
      have stored : index < writer.values.tracks.length := ready.values ▸ inside
      have encoded := encodeBuffered_gives false (ready.setTrack index _) inside (getElem?_setTrack stored { state with
        fifo := state.fifo ++ (samplesOfFrame frame).take (FixedWidth.int32 frame.sampleCountPerChannel).toNat }) io'
      simpa only [setTrack_setTrack, setTrack_partialPath] using encoded
    · simp only [failed]
      exact ⟨rfl, by rw [setTrack_of_getElem? found], rfl⟩
  · rw [if_pos (not_lt.mp none), setTrack_of_getElem? found]
    exact fun _ _ holds => ⟨rfl, holds⟩

/-- A function that answers and does not fail. -/
def Answers (answer : α) (writer : HandleWriter) (io : Io) (outcome : Except ε α) :
    Assertion FfmpegHandle WriterMemory := fun memory all => outcome = .ok answer ∧ At writer io memory all

/-- An open writer has all its handles; no writer has an open file without its container. -/
structure Sound (writer : HandleWriter) : Prop where
  ready : writer.values.state = .opened → writer.Ready
  nested : writer.format = none → writer.pb = none

/-- A call that does to the values and the files what it does in `FfmpegRecordingWriter`. -/
def Follows (result : Bool × FfmpegRecordingWriter × Io) (outcome : Except ε Bool) :
    Assertion FfmpegHandle WriterMemory := fun memory all =>
  ∃ after, Sound after ∧ after.values = result.2.1 ∧ Answers result.1 after result.2.2 outcome memory all

/-- The end of a call that has kept all handles. -/
theorem follows_of_values {values : FfmpegRecordingWriter} {answer : Bool} {memory : WriterMemory}
    {all : Multiset (Handle FfmpegHandle)} (nested : writer.format = none → writer.pb = none)
    (ready : values.state = .opened → { writer with values := values }.Ready)
    (holds : At { writer with values := values } io memory all) :
    Follows (answer, values, io) (.ok answer : Except ε Bool) memory all :=
  ⟨{ writer with values := values }, ⟨ready, nested⟩, rfl, rfl, holds⟩

theorem refuse_follows (error : RecordingWriterError) (sound : writer.Sound) :
    Holds (At writer io) (refuse error : Ffmpeg ε Bool)
      (Follows (false, { writer.values with lastError := error }, io)) :=
  modifyValues_then (Holds.pure false fun _ _ holds =>
    follows_of_values sound.nested (fun opened => { sound.ready opened with }) holds)

theorem fail_follows (error : RecordingWriterError) (nested : writer.format = none → writer.pb = none) :
    Holds (At writer io) (fail error : Ffmpeg ε Bool) (Follows (false, writer.values.fail error, io)) :=
  modifyValues_then (Holds.pure false fun _ _ holds => follows_of_values nested nofun holds)

/-- What succeeded or failed, as its caller sees it. -/
theorem attempt_then {succeeds : Bool} {program : Ffmpeg Unit Unit} {P : Assertion FfmpegHandle WriterMemory}
    {next : Except Unit Unit → Ffmpeg ε β} {R : Except ε β → Assertion FfmpegHandle WriterMemory}
    (first : Holds (At writer io) program fun outcome memory all => outcome.isOk = succeeds ∧ P memory all)
    (rest : Holds P (next (if succeeds then .ok () else .error ())) R) :
    Holds (At writer io) (attempt program >>= next) R := by
  refine Holds.bind_eq _ (Holds.conseq (Holds.attempt first) (fun _ _ holds => holds) ?_) rest
  rintro outcome memory all ⟨result, rfl, same, holds⟩
  refine ⟨?_, holds⟩
  rw [← same]
  cases result <;> rfl

theorem write_follows (trackIndex : ℕ) (frame : AudioFrame) (sound : writer.Sound) :
    Holds (At writer io) (write trackIndex frame : Ffmpeg ε Bool)
      (Follows (writer.values.write trackIndex frame io)) := by
  rw [FfmpegRecordingWriter.write]
  refine get_then (Holds.ite (fun out => ?_) fun inside => ?_)
  · split
    next expected track opened _ stored =>
      have within := (sound.ready opened).values ▸ (List.getElem?_eq_some_iff.mp stored).1
      simp only [opened, bne_self_eq_false, Bool.false_or, decide_eq_true_eq] at out
      omega
    next => exact refuse_follows _ sound
  · simp only [Bool.or_eq_true, bne_iff_ne, decide_eq_true_eq, not_or, not_not, not_le] at inside
    have ready := sound.ready inside.1
    have expected := List.getElem?_eq_getElem (ready.configured ▸ inside.2)
    have stored := List.getElem?_eq_getElem (ready.values ▸ inside.2)
    split
    next expected state _ isExpected found =>
      refine get_then ?_
      rw [isExpected]
      refine Holds.ite (fun mismatch => ?_) fun fits => ?_
      · rw [if_pos mismatch]
        exact refuse_follows _ sound
      · rw [if_neg fits]
        refine attempt_then (buffer_gives frame ready inside.2 found io) ?_
        rcases FfmpegRecordingWriter.buffer state writer.values.partialPath trackIndex frame io with ⟨_ | _, state, io'⟩
        · exact fail_follows _ sound.nested
        · refine modifyValues_then (Holds.pure true fun _ _ holds => follows_of_values sound.nested (fun _ => ?_) holds)
          exact { ready.setTrack trackIndex state with }
    next apart => exact absurd stored (apart _ _ inside.1 expected)

end Encode

section End

variable {ε β : Type} {writer : HandleWriter} {io : Io}

/-- A writer without handles that is not open. -/
theorem sound_of_cleanup {values : FfmpegRecordingWriter} (ended : values.state ≠ .opened) :
    Sound { values := values.cleanup } :=
  ⟨fun opened => absurd opened ended, fun _ => rfl⟩

theorem freeTrack_frees (track : TrackHandles) (left : Multiset (Handle FfmpegHandle)) :
    Holds (Owning writer io (track.owned + left)) (freeTrack track : Ffmpeg ε Unit) fun outcome memory all =>
      outcome = .ok () ∧ Owning writer io left memory all := by
  refine Holds.bind_eq (M := Owning writer io (Machine.owned track.codec + Machine.owned track.fifo + left)) ()
    (Holds.release ?_) ?_
  · rintro memory all ⟨same, rfl⟩
    exact ⟨_, by rw [TrackHandles.owned]; abel, rfl, same, rfl⟩
  refine Holds.bind_eq (M := Owning writer io (Machine.owned track.codec + left)) () (Holds.release ?_) ?_
  · rintro memory all ⟨same, rfl⟩
    exact ⟨_, by abel, rfl, same, rfl⟩
  · refine Holds.release ?_
    rintro memory all ⟨same, rfl⟩
    exact ⟨_, rfl, rfl, same, rfl⟩

theorem freeTracks_frees (tracks : List TrackHandles) (left : Multiset (Handle FfmpegHandle)) :
    Holds (Owning writer io ((tracks.map TrackHandles.owned).sum + left)) (freeTracks tracks : Ffmpeg ε Unit)
      fun outcome memory all => outcome = .ok () ∧ Owning writer io left memory all := by
  induction tracks with
  | nil => exact Holds.pure () fun _ _ holds => ⟨rfl, holds.1, holds.2.trans (by simp)⟩
  | cons track rest ih =>
    rw [List.map_cons, List.sum_cons, add_assoc]
    exact Holds.bind_eq () (freeTrack_frees track _) ih

theorem closePb_answers (present : writer.format.isSome = true) :
    Holds (At writer io) (closePb : Ffmpeg ε Unit) (Answers () { writer with pb := none } io) := by
  refine use_then (owns_format present) (get_then ?_)
  refine Holds.bind_eq (M := Owning writer io ({ writer with pb := none } : HandleWriter).owned) () (Holds.release ?_)
    (modify_answers _)
  rintro memory all ⟨same, rfl⟩
  refine ⟨_, ?_, rfl, same, rfl⟩
  simp only [owned, owned_none]
  abel

/-- `cleanup` frees every handle. -/
theorem cleanup_answers (nested : writer.format = none → writer.pb = none) :
    Holds (At writer io) (cleanup : Ffmpeg ε Unit) (Answers () { values := writer.values.cleanup } io) := by
  have split : writer.owned = (writer.tracks.map TrackHandles.owned).sum +
      (Machine.owned writer.packet + (Machine.owned writer.format + Machine.owned writer.pb)) := by
    rw [owned]
    abel
  rw [At, split]
  refine get_then (Holds.bind_eq () (freeTracks_frees writer.tracks _) (modify_then (get_then ?_)))
  refine Holds.bind_eq (M := Owning { writer with tracks := [], values := writer.values.cleanup } io
    (Machine.owned writer.format + Machine.owned writer.pb)) () (Holds.release ?_) (modify_then (get_then ?_))
  · rintro memory all ⟨same, rfl⟩
    exact ⟨_, rfl, rfl, same, rfl⟩
  refine Holds.ite (fun present => ?_) fun absent => ?_
  · obtain ⟨format, isFormat⟩ : ∃ format, writer.format = some format := Option.isSome_iff_exists.mp present
    have closes : Holds (At { values := writer.values.cleanup, format := writer.format, pb := writer.pb } io)
      (closePb : Ffmpeg ε Unit) _ := closePb_answers present
    refine Holds.bind_eq () (Holds.conseq closes ?_ fun _ _ _ holds => holds) (get_then ?_)
    · rintro memory all ⟨same, rfl⟩
      exact ⟨same, by simp [owned]⟩
    refine Holds.bind_eq (M := Owning { values := writer.values.cleanup, format := writer.format } io
      ({ values := writer.values.cleanup } : HandleWriter).owned) () (Holds.free ?_) (modify_answers _)
    rintro memory all ⟨same, rfl⟩
    exact ⟨format, _, isFormat, by simp [owned, isFormat], rfl, same, rfl⟩
  · refine Holds.pure () ?_
    rintro memory all ⟨same, rfl⟩
    have isFormat : writer.format = none := Option.not_isSome_iff_eq_none.mp absent
    refine ⟨rfl, ?_, ?_⟩
    · rw [same, isFormat, nested isFormat]
    · simp [isFormat, nested isFormat, owned]

theorem flush_gives {index : ℕ} {state : TrackState} (ready : writer.Ready) (inside : index < writer.tracks.length)
    (found : writer.values.tracks[index]? = some state) (io : Io) :
    Holds (At writer io) (flush index)
      (Gives (state.flush writer.values.partialPath index io).1
        (writer.setTrack index (state.flush writer.values.partialPath index io).2.1)
        (state.flush writer.values.partialPath index io).2.2) := by
  rw [TrackState.flush]
  have encodes := encodeBuffered_gives true ready inside found io
  generalize state.encodeBuffered writer.values.partialPath index true io = result at encodes ⊢
  obtain ⟨encoded, state₁, io₁⟩ := result
  refine gives_then encodes (fun succeeded => ?_) fun failed error => ?_
  · obtain rfl : encoded = true := succeeded
    have ready₁ := ready.setTrack index state₁
    refine use_then (ready₁.owns_codec inside) (check_then (fun io₂ ended => ?_) fun io₂ ended => ?_)
    · simp only [ended]
      exact drainPackets_gives ready₁ inside io₂
    · simp only [ended]
      exact ⟨rfl, rfl, rfl⟩
  · obtain rfl : encoded = false := failed
    exact ⟨rfl, rfl, rfl⟩

/-- The tracks from the given index on, which are the last ones. -/
theorem flushAll_gives (handles : List TrackHandles) {index : ℕ} {before states : List TrackState}
    (ready : writer.Ready) (split : writer.values.tracks = before ++ states) (position : before.length = index)
    (rest : handles.length = states.length) (io : Io) :
    Holds (At writer io) (flushAll index handles)
      (Gives (TrackState.flushAll writer.values.partialPath index states io).1
        { writer with values := { writer.values with
          tracks := before ++ (TrackState.flushAll writer.values.partialPath index states io).2.1 } }
        (TrackState.flushAll writer.values.partialPath index states io).2.2) := by
  induction handles generalizing writer io index before states with
  | nil =>
    obtain rfl := List.eq_nil_of_length_eq_zero rest.symm
    refine Holds.pure () fun _ _ holds => ⟨rfl, ?_⟩
    rw [TrackState.flushAll, ← split]
    exact holds
  | cons _ handles ih =>
    obtain ⟨state, states, rfl⟩ := List.exists_cons_of_length_eq_add_one rest.symm
    have inside : index < writer.tracks.length := by
      rw [← ready.values, split, List.length_append, position]
      simp
    have found : writer.values.tracks[index]? = some state := by
      rw [split, ← position, List.getElem?_append_right (Nat.le_refl _), Nat.sub_self]
      rfl
    have replaced (state' : TrackState) : writer.values.tracks.set index state' = before ++ state' :: states := by
      rw [split, ← position, List.set_append_right _ _ (Nat.le_refl _), Nat.sub_self]
      rfl
    have flushes := flush_gives ready inside found io
    rw [TrackState.flushAll]
    generalize state.flush writer.values.partialPath index io = result at flushes ⊢
    obtain ⟨flushed, state₁, io₁⟩ := result
    refine gives_then flushes (fun succeeded => ?_) fun failed error => ?_
    · obtain rfl : flushed = true := succeeded
      have moved : (writer.setTrack index state₁).values.tracks = (before ++ [state₁]) ++ states := by
        simp [setTrack, replaced]
      have grown : (before ++ [state₁]).length = index + 1 := by simp [position]
      have later := ih (ready.setTrack index state₁) moved grown (Nat.succ.inj rest) io₁
      simpa only [setTrack, List.append_assoc, List.singleton_append] using later
    · obtain rfl : flushed = false := failed
      refine ⟨rfl, ?_, rfl⟩
      rw [setTrack, replaced]

/-- What `finalize` does to the values and the files up to the rename. -/
def completed (values : FfmpegRecordingWriter) (io : Io) : Bool × List TrackState × Io :=
  match TrackState.flushAll values.partialPath 0 values.tracks io with
  | (false, tracks, io) => (false, tracks, io)
  | (true, tracks, io) =>
      match io.call with
      | (false, io) => (false, tracks, io)
      | (true, io) =>
          let io := { io with disk := io.disk.update values.partialPath fun file => { file with trailer := true } }
          ((io.call).1, tracks, (io.call).2)

/-- `complete` may have closed the file. -/
theorem complete_gives (ready : writer.Ready) (io : Io) :
    Holds (At writer io) complete fun outcome memory all => outcome.isOk = (completed writer.values io).1 ∧
      ∃ pb, At { writer with values := { writer.values with tracks := (completed writer.values io).2.1 }, pb := pb }
        (completed writer.values io).2.2 memory all := by
  have flushes := flushAll_gives writer.tracks ready (List.nil_append _).symm rfl ready.values.symm io
  rw [completed]
  generalize TrackState.flushAll writer.values.partialPath 0 writer.values.tracks io = result at flushes ⊢
  obtain ⟨flushed, tracks, io₁⟩ := result
  refine get_then (gives_then flushes (fun succeeded => ?_) fun failed error => ?_)
  · obtain rfl : flushed = true := succeeded
    refine use_then (owns_format ready.format) (use_then (owns_pb ready.pb) ?_)
    refine check_then (fun io₂ ended => get_then (modifyFiles_then ?_)) fun io₂ ended => ?_
    · simp only [ended]
      refine Holds.bind_eq () (closePb_answers ready.format) (check_gives () (fun io₃ closed => ?_)
        fun io₃ closed => ?_)
      · rw [closed]
        exact ⟨rfl, none, rfl, rfl⟩
      · rw [closed]
        exact ⟨rfl, none, rfl, rfl⟩
    · simp only [ended]
      exact ⟨rfl, writer.pb, rfl, rfl⟩
  · obtain rfl : flushed = false := failed
    exact ⟨rfl, writer.pb, rfl, rfl⟩

theorem finalize_eq {values : FfmpegRecordingWriter} (opened : values.state = .opened) (renamed : Bool) (io : Io) :
    values.finalize renamed io =
      match completed values io with
      | (false, tracks, io) =>
          (false, ({ values with tracks := tracks } : FfmpegRecordingWriter).fail .finalizeFailed, io)
      | (true, tracks, io) =>
          if !renamed then (false, ({ values with tracks := tracks } : FfmpegRecordingWriter).fail .finalizeFailed, io)
          else (true, ({ values with tracks := tracks, state := .finalized } : FfmpegRecordingWriter).cleanup,
            { io with disk := io.disk.rename values.partialPath values.config.outputFile }) := by
  rw [FfmpegRecordingWriter.finalize, if_neg (not_not.mpr opened), completed]
  rcases TrackState.flushAll values.partialPath 0 values.tracks io with ⟨_ | _, tracks, io₁⟩
  · rfl
  simp only [Bool.not_true, Bool.false_eq_true, if_false]
  rcases io₁.call with ⟨_ | _, io₂⟩
  · rfl
  dsimp only
  rcases Io.call { io₂ with disk := io₂.disk.update values.partialPath fun file => { file with trailer := true } } with
    ⟨_ | _, io₃⟩
  · rfl
  · rfl

theorem finalize_follows (renamed : Bool) (sound : writer.Sound) :
    Holds (At writer io) (finalize renamed : Ffmpeg ε Bool) (Follows (writer.values.finalize renamed io)) := by
  refine get_then (Holds.ite (fun closed => ?_) fun opened => ?_)
  · rw [FfmpegRecordingWriter.finalize, if_pos closed]
    exact refuse_follows _ sound
  have opened := not_not.mp opened
  have ready := sound.ready opened
  have nested : writer.format = none → ∀ pb : Option (Handle FfmpegHandle), pb = none := by
    intro absent
    exact absurd ready.format (by simp [absent])
  rw [finalize_eq opened]
  have completes := complete_gives ready io
  generalize completed writer.values io = result at completes ⊢
  obtain ⟨succeeds, tracks, io'⟩ := result
  refine attempt_then completes (Holds.of_exists fun pb => ?_)
  cases succeeds with
  | false => exact fail_follows _ fun absent => nested absent pb
  | true =>
    dsimp only
    refine Holds.ite (fun kept => ?_) fun moved => ?_
    · rw [if_pos kept]
      exact fail_follows _ fun absent => nested absent pb
    · rw [if_neg moved]
      refine get_then (get_then (modifyFiles_then (modifyValues_then ?_)))
      refine Holds.bind_eq () (cleanup_answers fun absent => nested absent pb) (Holds.pure true fun _ _ holds => ?_)
      exact ⟨_, sound_of_cleanup (by simp), rfl, rfl, holds⟩

/-- A function that ends with `cleanup` leaves no handle. -/
theorem abort_follows (nested : writer.format = none → writer.pb = none) :
    Holds (At writer io) (abort : Ffmpeg ε Unit)
      (Answers () { values := (writer.values.abort io).1 } (writer.values.abort io).2) := by
  by_cases live : writer.values.Live
  · rw [writer.values.abort_of_live io live]
    have discards : Holds (At writer io) (discard : Ffmpeg ε Unit)
        (Answers () { values := { writer.values.cleanup with state := .aborted } }
          { io with disk := io.disk.remove writer.values.partialPath }) := by
      refine get_then (Holds.ite (fun _ => ?_) fun ended => absurd live ended)
      exact Holds.bind_eq () (cleanup_answers nested) (get_then (modifyFiles_then (modify_answers _)))
    exact Holds.bind_eq () discards (cleanup_answers fun _ => rfl)
  · have ended : writer.values.abort io = (writer.values.cleanup, io) := by
      rw [FfmpegRecordingWriter.abort]
      split
      next opened => exact absurd (.inl opened) live
      next failed => exact absurd (.inr failed) live
      next => rfl
    have discards : Holds (At writer io) (discard : Ffmpeg ε Unit) (Answers () writer io) :=
      get_then (Holds.ite (fun state => absurd state live) fun _ => Holds.pure () fun _ _ holds => ⟨rfl, holds⟩)
    rw [ended]
    exact Holds.bind_eq () discards (cleanup_answers nested)

/-- After `abort` the writer is not open. -/
theorem abort_sound (values : FfmpegRecordingWriter) (io : Io) : Sound { values := (values.abort io).1 } := by
  refine ⟨fun opened => ?_, fun _ => rfl⟩
  rw [FfmpegRecordingWriter.abort] at opened
  split at opened
  next => contradiction
  next => contradiction
  next closed _ => exact absurd opened closed

end End

section Open

variable {β : Type} {writer : HandleWriter} {io : Io} {final : Bool × Io} {Q : Assertion FfmpegHandle WriterMemory}
  {next : Unit → Ffmpeg RecordingWriterError Unit}

/-- How `open` goes on where `final` is what the calls still to be made come to. -/
def Opens (Q : Assertion FfmpegHandle WriterMemory) (final : Bool × Io) :
    Except RecordingWriterError Unit → Assertion FfmpegHandle WriterMemory
  | .ok _ => Q
  | .error error => fun memory all => error = .openFailed ∧ final = (false, memory.io) ∧
      ∃ writer, (writer.format = none → writer.pb = none) ∧ At writer memory.io memory all

theorem call_calls {count : ℕ} (pending : io.calls (count + 1) = final) :
    match io.call with
    | (true, io') => io'.calls count = final
    | (false, io') => final = (false, io') := by
  rw [Io.calls] at pending
  generalize io.call = result at pending ⊢
  obtain ⟨_ | _, io'⟩ := result
  · exact pending.symm
  · exact pending

theorem opening_check {count : ℕ} (pending : io.calls (count + 1) = final)
    (nested : writer.format = none → writer.pb = none)
    (rest : ∀ io', io'.calls count = final → Holds (At writer io') (next ()) (Opens Q final)) :
    Holds (At writer io) (check .openFailed >>= next) (Opens Q final) := by
  have called := call_calls pending
  refine check_then (fun io' passed => rest io' ?_) fun io' failed => ⟨rfl, ?_, writer, nested, rfl, rfl⟩
  · rw [passed] at called
    exact called
  · rw [failed] at called
    exact called

theorem opening_acquire {count : ℕ} {kind : FfmpegHandle}
    {next : Handle FfmpegHandle → Ffmpeg RecordingWriterError Unit}
    (pending : io.calls (count + 1) = final) (nested : writer.format = none → writer.pb = none)
    (rest : ∀ io' handle, io'.calls count = final →
      Holds (Owning writer io' ({handle} + writer.owned)) (next handle) (Opens Q final)) :
    Holds (At writer io) (acquire .openFailed kind >>= next) (Opens Q final) := by
  have called := call_calls pending
  refine acquire_then (fun io' handle passed => rest io' handle ?_)
    fun io' failed => ⟨rfl, ?_, writer, nested, rfl, rfl⟩
  · rw [passed] at called
    exact called
  · rw [failed] at called
    exact called

/-- The writer with one more track. -/
def push (writer : HandleWriter) (track : TrackHandles) : HandleWriter :=
  { writer with tracks := writer.tracks ++ [track] }

theorem owned_push (writer : HandleWriter) (track : TrackHandles) :
    (writer.push track).owned = writer.owned + track.owned := by
  simp only [push, owned, List.map_append, List.sum_append, List.map_singleton, List.sum_singleton]
  abel

theorem setLast_then {track : TrackHandles} {change : TrackHandles → TrackHandles}
    {extra : Multiset (Handle FfmpegHandle)} (gains : extra + track.owned = (change track).owned)
    (rest : Holds (At (writer.push (change track)) io) (next ()) (Opens Q final)) :
    Holds (Owning (writer.push track) io (extra + (writer.push track).owned)) (modifyLast change >>= next)
      (Opens Q final) := by
  have owns : extra + (writer.push track).owned = (writer.push (change track)).owned := by
    rw [owned_push, owned_push, ← gains]
    abel
  rw [owns]
  refine modify_then ?_
  rw [push, List.modifyLast_concat]
  exact rest

/-- A change of the last track that has nothing to do with what it owns. -/
theorem moveLast_then {track : TrackHandles} {change : TrackHandles → TrackHandles}
    (same : track.owned = (change track).owned)
    (rest : Holds (At (writer.push (change track)) io) (next ()) (Opens Q final)) :
    Holds (At (writer.push track) io) (modifyLast change >>= next) (Opens Q final) := by
  rw [At, ← zero_add (writer.push track).owned]
  exact setLast_then (by rw [zero_add, same]) rest

theorem useLast_then {track : TrackHandles} {pointer : TrackHandles → Option (Handle FfmpegHandle)}
    {handle : Handle FfmpegHandle} (points : pointer track = some handle) (held : handle ∈ track.owned)
    (rest : Holds (At (writer.push track) io) (next ()) (Opens Q final)) :
    Holds (At (writer.push track) io) (use (last pointer) >>= next) (Opens Q final) := by
  refine use_then ⟨handle, ?_, ?_⟩ rest
  · rw [owned_push]
    exact Multiset.mem_add.mpr (.inr held)
  · rw [last, push, List.getLast?_concat]
    exact points

theorem owns_stream {track : TrackHandles} (format : writer.format.isSome = true) :
    ∃ handle ∈ (writer.push { track with stream := true }).owned,
      (writer.push { track with stream := true }).streamOf (writer.push { track with stream := true }).tracks.getLast? =
        some handle := by
  rw [streamOf, push, List.getLast?_concat, Option.any_some, if_pos rfl]
  exact owns_format format

/-- The writer with more tracks. -/
def withTracks (writer : HandleWriter) (tracks : List TrackHandles) (states : List TrackState) : HandleWriter :=
  { writer with
    values := { writer.values with tracks := writer.values.tracks ++ states }
    tracks := writer.tracks ++ tracks }

theorem openTrack_opens (frameSize : ℕ) {count : ℕ} (format : writer.format.isSome = true)
    (pending : io.calls (count + FfmpegRecordingWriter.openTrackCalls) = final) :
    Holds (At writer io) (openTrack frameSize) (Opens (fun memory all => ∃ track io', track.Ready ∧
      io'.calls count = final ∧
        At (writer.withTracks [track] [FfmpegRecordingWriter.openTrack frameSize]) io' memory all) final) := by
  have nested : writer.format = none → writer.pb = none := fun absent => absurd format (by simp [absent])
  refine opening_check pending nested fun io₁ pending => modify_then ?_
  have unchanged : writer.owned = (writer.push {}).owned := by simp [owned_push, TrackHandles.owned]
  rw [unchanged]
  refine opening_acquire pending nested fun io₂ codec pending => setLast_then (by simp [TrackHandles.owned]) ?_
  refine useLast_then rfl (by simp [TrackHandles.owned]) (opening_check pending nested fun io₃ pending => ?_)
  refine use_then (owns_format format) (opening_check pending nested fun io₄ pending => moveLast_then rfl ?_)
  refine use_then (owns_stream format) (useLast_then rfl (by simp [TrackHandles.owned]) ?_)
  refine opening_check pending nested fun io₅ pending => modifyValues_then ?_
  let grown : HandleWriter := { writer with values := { writer.values with
    tracks := writer.values.tracks ++ [FfmpegRecordingWriter.openTrack frameSize] } }
  change Holds (At (grown.push { codec := some codec, stream := true }) io₅) _ _
  refine opening_acquire pending nested fun io₆ fifo pending => setLast_then (add_left_comm ..) ?_
  refine opening_acquire pending nested fun io₇ scratch pending => setLast_then (add_comm ..) ?_
  refine useLast_then rfl (by simp [TrackHandles.owned]) (useLast_then rfl (by simp [TrackHandles.owned]) ?_)
  refine opening_check pending nested fun io₈ pending => useLast_then rfl (by simp [TrackHandles.owned]) ?_
  have called := call_calls pending
  refine check_gives _ (fun io₉ passed => ?_) fun io₉ failed => ?_
  · rw [passed] at called
    exact ⟨_, io₉, ⟨rfl, rfl, rfl, rfl⟩, called, rfl, rfl⟩
  · rw [failed] at called
    exact ⟨rfl, called, grown.push _, nested, rfl, rfl⟩

theorem opens_then {P M : Assertion FfmpegHandle WriterMemory} {program : Ffmpeg RecordingWriterError Unit}
    (first : Holds P program (Opens M final)) (rest : Holds M (next ()) (Opens Q final)) :
    Holds P (program >>= next) (Opens Q final) :=
  Holds.bind first (fun _ => rest) fun _ _ _ failed => failed

theorem openTracks_opens (frameSize : ℕ) (configs : List RecordingTrackConfig) {count : ℕ}
    (format : writer.format.isSome = true)
    (pending : io.calls (count + configs.length * FfmpegRecordingWriter.openTrackCalls) = final) :
    Holds (At writer io) (openTracks frameSize configs) (Opens (fun memory all => ∃ tracks io',
      (∀ track ∈ tracks, track.Ready) ∧ tracks.length = configs.length ∧ io'.calls count = final ∧
        At (writer.withTracks tracks (configs.map fun _ => FfmpegRecordingWriter.openTrack frameSize)) io' memory all)
          final) := by
  induction configs generalizing writer io with
  | nil =>
    refine Holds.pure () fun memory all holds => ⟨[], io, by simp, rfl, ?_, ?_⟩
    · simpa using pending
    · simpa [withTracks] using holds
  | cons config rest ih =>
    rw [List.length_cons, Nat.succ_mul, ← add_assoc] at pending
    refine opens_then (openTrack_opens frameSize format pending) (Holds.of_exists fun track =>
      Holds.of_exists fun io₁ => Holds.of_fact fun isReady => Holds.of_fact fun later => ?_)
    have present : (writer.withTracks [track] [FfmpegRecordingWriter.openTrack frameSize]).format.isSome = true :=
      format
    refine Holds.conseq (ih present later) (fun _ _ holds => holds) fun outcome memory all => ?_
    cases outcome with
    | error => exact id
    | ok =>
      rintro ⟨tracks, io₂, areReady, length, done, holds⟩
      refine ⟨track :: tracks, io₂, List.forall_mem_cons.mpr ⟨isReady, areReady⟩, by simp [length], done, ?_⟩
      simpa only [withTracks, List.append_assoc, List.singleton_append, List.map_cons] using holds

/-- What `prepare` makes of a writer without handles. -/
def Prepared (values : FfmpegRecordingWriter) (frameSize : ℕ) (configs : List RecordingTrackConfig)
    (writer : HandleWriter) : Prop :=
  writer.values = { values with
      tracks := values.tracks ++ configs.map fun _ => FfmpegRecordingWriter.openTrack frameSize
      stats := { samplesWrittenPerTrack := configs.map fun _ => 0 } } ∧
    writer.format.isSome = true ∧ writer.pb = none ∧ writer.packet.isSome = true ∧
    (∀ track ∈ writer.tracks, track.Ready) ∧ writer.tracks.length = configs.length

theorem prepare_opens (values : FfmpegRecordingWriter) (frameSize : ℕ) (configs : List RecordingTrackConfig)
    (pending : io.calls (1 + configs.length * FfmpegRecordingWriter.openTrackCalls + 1) = final) :
    Holds (At { values := values } io) (prepare frameSize configs) (Opens (fun memory all => ∃ writer io',
      Prepared values frameSize configs writer ∧ final = (true, io') ∧ At writer io' memory all) final) := by
  refine opening_acquire pending (fun _ => rfl) fun io₁ format pending => modify_then ?_
  have owns : {format} + ({ values := values } : HandleWriter).owned =
      ({ values := values, format := some format } : HandleWriter).owned := by
    simp only [owned, owned_none, owned_some]
    abel
  rw [owns]
  refine modifyValues_then (opens_then (openTracks_opens frameSize configs rfl pending) ?_)
  refine Holds.of_exists fun tracks => Holds.of_exists fun io₂ => ?_
  refine Holds.of_fact fun ready => Holds.of_fact fun length => Holds.of_fact fun pending => ?_
  refine opening_acquire pending nofun fun io₃ packet pending => ?_
  refine Holds.conseq (modify_answers _) (fun _ _ holds => holds) ?_
  rintro outcome memory all ⟨rfl, same, rfl⟩
  refine ⟨_, io₃, ⟨rfl, rfl, rfl, rfl, ?_, ?_⟩, pending.symm, same, ?_⟩
  · simpa [withTracks] using ready
  · simpa [withTracks] using length
  · simp only [withTracks, owned, owned_none, owned_some]
    abel

/-- What `createRecordingWriter` hands out, or a writer to be destroyed. -/
def Creates (result : Except RecordingWriterError FfmpegRecordingWriter × Io)
    (outcome : Except RecordingWriterError Unit) :
    Assertion FfmpegHandle WriterMemory := fun memory all =>
  ∃ after, (after.format = none → after.pb = none) ∧ At after result.2 memory all ∧
    match result.1 with
    | .error error => outcome = .error error
    | .ok values => outcome = .ok () ∧ after.Sound ∧ after.values = values

theorem openPartial_creates (format : writer.format.isSome = true) (closed : writer.pb = none)
    (packet : writer.packet.isSome = true) (tracks : ∀ track ∈ writer.tracks, track.Ready)
    (values : writer.values.tracks.length = writer.tracks.length)
    (configured : writer.values.config.tracks.length = writer.tracks.length) (io : Io) :
    Holds (At writer io) openPartial (Creates (FfmpegRecordingWriter.openPartial writer.values io)) := by
  rw [FfmpegRecordingWriter.openPartial]
  have nested (pb : Option (Handle FfmpegHandle)) : writer.format = none → pb = none :=
    fun absent => absurd format (by simp [absent])
  refine use_then (owns_format format) (acquire_then (fun io₁ pb passed => modify_then ?_) fun io₁ failed => ?_)
  · simp only [passed]
    have owns : {pb} + writer.owned = ({ writer with pb := some pb } : HandleWriter).owned := by
      simp only [owned, closed, owned_none, owned_some]
      abel
    rw [owns]
    refine get_then (modifyFiles_then (use_then (owns_format format) (use_then (owns_pb rfl) ?_)))
    refine check_then (fun io₂ passed => modifyFiles_then ?_) fun io₂ failed => ?_
    · simp only [passed]
      refine Holds.conseq (modify_answers _) (fun _ _ holds => holds) fun outcome memory all holds => ?_
      exact ⟨{ writer with pb := some pb, values := { writer.values with state := .opened } }, nested _, holds.2,
        holds.1, ⟨fun _ => ⟨format, rfl, packet, tracks, values, configured⟩, nested _⟩, rfl⟩
    · simp only [failed]
      exact ⟨{ writer with pb := some pb }, nested _, ⟨rfl, rfl⟩, rfl⟩
  · simp only [failed]
    exact ⟨writer, nested _, ⟨rfl, rfl⟩, rfl⟩

/-- `open` succeeds or fails as `create` does. -/
theorem open_creates (config : RecordingWriterConfig) (frameSize : ℕ) (io : Io) :
    Holds (At { values := { config := config } } io) («open» frameSize)
      (Creates (FfmpegRecordingWriter.create config frameSize io)) := by
  refine get_then (Holds.ite (fun invalid => Holds.throw _ ?_) fun valid => ?_)
  · rw [FfmpegRecordingWriter.create, if_pos invalid]
    exact fun memory all holds => ⟨_, fun _ => rfl, holds, rfl⟩
  · rw [FfmpegRecordingWriter.create, if_neg valid]
    refine modifyValues_then (Holds.bind (prepare_opens _ frameSize config.tracks rfl) (fun _ => ?_) ?_)
    · refine Holds.of_exists fun writer => Holds.of_exists fun io' => Holds.of_fact fun prepared => ?_
      obtain ⟨values, format, closed, packet, tracks, length⟩ := prepared
      refine Holds.of_fact fun passed => ?_
      simp only [passed]
      have creates := openPartial_creates format closed packet tracks (by simp [values, length])
        (by simp [values, length]) io'
      rwa [values] at creates
    · rintro error memory all ⟨rfl, failed, writer, nested, holds⟩
      simp only [failed]
      exact ⟨writer, nested, holds, rfl⟩

end Open

end HandleWriter

end VoxMesh.Media
