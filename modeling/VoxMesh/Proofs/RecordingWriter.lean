import VoxMesh.Model.RecordingWriter
import Mathlib.Tactic.Common

/-! # What a call of the recording writer does

Whatever FFmpeg answers, encoding only ever adds packets to a file (`Disk.Grows`) and at most a trailer
(`Disk.Writes`); no path disappears (`Disk.Extends`). A write leaves the writer open when it succeeds; when it
fails the writer is still open or has failed. Only `finalize` renames the partial file and only `abort`
removes it.
-/

namespace VoxMesh.Media

open VoxMesh.Audio

/-- The file has kept its header and its packets; it may have gained packets and a trailer. -/
structure MediaFile.GrowsTo (file grown : MediaFile) : Prop where
  header : grown.header = file.header
  packets : file.packets <+: grown.packets
  trailer : file.trailer = true → grown.trailer = true

theorem MediaFile.GrowsTo.refl (file : MediaFile) : file.GrowsTo file := ⟨rfl, List.prefix_rfl, id⟩

theorem MediaFile.GrowsTo.trans {first second third : MediaFile} (left : first.GrowsTo second)
    (right : second.GrowsTo third) : first.GrowsTo third :=
  ⟨right.header.trans left.header, left.packets.trans right.packets, fun ended => right.trailer (left.trailer ended)⟩

namespace Disk

variable (disk : Disk) (path other : String)

theorem find?_remove :
    (disk.remove path).find? other = if other = path then none else disk.find? other := by
  obtain ⟨files⟩ := disk
  simp only [find?, remove]
  induction files with
  | nil => simp
  | cons entry rest ih =>
    obtain ⟨name, file⟩ := entry
    rw [List.filter_cons, List.lookup_cons]
    by_cases removed : name = path
    · subst removed
      simp only [bne_self_eq_false, Bool.false_eq_true, ↓reduceIte, ih]
      by_cases asked : other = name
      · simp [asked]
      · simp [asked, beq_false_of_ne asked]
    · have kept : (name != path) = true := by simpa using removed
      rw [if_pos kept, List.lookup_cons, ih]
      by_cases asked : other = name
      · simp [asked, removed]
      · simp [beq_false_of_ne asked]

theorem find?_put (file : MediaFile) :
    (disk.put path file).find? other = if other = path then some file else disk.find? other := by
  have rest := disk.find?_remove path other
  simp only [find?, put, List.lookup_cons] at rest ⊢
  rw [rest]
  by_cases same : other = path
  · simp [same]
  · simp [same, beq_false_of_ne same]

theorem holds_remove : (disk.remove path).holds other ↔ other ≠ path ∧ disk.holds other := by
  rw [holds, find?_remove]
  split
  next same => simp [same]
  next apart => simp [apart, holds]

theorem holds_put (file : MediaFile) : (disk.put path file).holds other ↔ other = path ∨ disk.holds other := by
  rw [holds, find?_put]
  split
  next same => simp [same]
  next apart => simp [apart, holds]

theorem holds_update (change : MediaFile → MediaFile) :
    (disk.update path change).holds other ↔ disk.holds other := by
  rw [update]
  split
  next file found =>
    rw [holds_put]
    constructor
    · rintro (rfl | held)
      · rw [holds, found]
        rfl
      · exact held
    · exact .inr
  next => rfl

theorem find?_update (change : MediaFile → MediaFile) : (disk.update path change).find? other =
    if other = path then (disk.find? path).map change else disk.find? other := by
  rw [update]
  split
  next file found =>
    rw [find?_put, found]
    rfl
  next missing =>
    split
    next same => rw [same, missing]; rfl
    next => rfl

/-- Every path in use stays in use. -/
def Extends (before after : Disk) : Prop := ∀ path, before.holds path = true → after.holds path = true

/-- The path has a file on both disks, and the file has at most grown. -/
def KeepsFile (path : String) (before after : Disk) : Prop :=
  ∃ file grown, before.find? path = some file ∧ after.find? path = some grown ∧ file.GrowsTo grown

theorem KeepsFile.held {path : String} {before after : Disk} (keeps : before.KeepsFile path after) :
    after.holds path = true := by
  obtain ⟨file, grown, -, found, -⟩ := keeps
  exact Option.isSome_of_eq_some found

theorem keepsFile_refl {path : String} {disk : Disk} (held : disk.holds path = true) : disk.KeepsFile path disk := by
  obtain ⟨file, found⟩ := Option.isSome_iff_exists.mp held
  exact ⟨file, file, found, found, .refl file⟩

theorem KeepsFile.trans {path : String} {first second third : Disk} (left : first.KeepsFile path second)
    (right : second.KeepsFile path third) : first.KeepsFile path third := by
  obtain ⟨file, middle, found, present, grown⟩ := left
  obtain ⟨_, last, same, kept, grown'⟩ := right
  obtain rfl := Option.some.inj (present.symm.trans same)
  exact ⟨file, last, found, kept, grown.trans grown'⟩

/-- No file but the given one is touched, and that one is kept and at most grows. -/
structure Writes (path : String) (before after : Disk) : Prop where
  elsewhere : ∀ other, other ≠ path → after.find? other = before.find? other
  keeps : before.holds path = true → before.KeepsFile path after

theorem Writes.kept {path : String} {before after : Disk} (writes : before.Writes path after)
    (held : before.holds path = true) : after.holds path = true := (writes.keeps held).held

theorem Writes.refl : disk.Writes path disk := ⟨fun _ _ => rfl, keepsFile_refl⟩

theorem Writes.trans {path : String} {first second third : Disk} (left : first.Writes path second)
    (right : second.Writes path third) : first.Writes path third :=
  ⟨fun other apart => (right.elsewhere other apart).trans (left.elsewhere other apart),
    fun held => (left.keeps held).trans (right.keeps (left.kept held))⟩

theorem Writes.extends {path : String} {before after : Disk} (writes : before.Writes path after) :
    before.Extends after := by
  intro other held
  by_cases same : other = path
  · subst same
    exact writes.kept held
  · rwa [holds, writes.elsewhere other same]

/-- The trailer is written. -/
theorem writes_trailer : disk.Writes path (disk.update path fun file => { file with trailer := true }) := by
  refine ⟨fun other apart => by rw [find?_update, if_neg apart], fun held => ?_⟩
  obtain ⟨file, found⟩ := Option.isSome_iff_exists.mp held
  refine ⟨file, { file with trailer := true }, found, ?_, rfl, List.prefix_rfl, fun _ => rfl⟩
  rw [find?_update, if_pos rfl, found]
  rfl

/-- The file grows by packets of the given streams, and no other file changes. -/
structure Grows (streams : ℕ → Prop) (path : String) (before after : Disk) : Prop where
  elsewhere : ∀ other, other ≠ path → after.find? other = before.find? other
  grown : ∀ file, before.find? path = some file →
    ∃ more, after.find? path = some { file with packets := file.packets ++ more } ∧ ∀ index ∈ more, streams index

section Grows

variable {streams : ℕ → Prop} {path : String} {before middle after : Disk}

theorem Grows.refl (streams : ℕ → Prop) (path : String) (disk : Disk) : disk.Grows streams path disk :=
  ⟨fun _ _ => rfl, fun file found => ⟨[], by simpa using found, by simp⟩⟩

theorem Grows.trans (left : before.Grows streams path middle) (right : middle.Grows streams path after) :
    before.Grows streams path after := by
  refine ⟨fun other apart => (right.elsewhere other apart).trans (left.elsewhere other apart), fun file found => ?_⟩
  obtain ⟨first, found, inside⟩ := left.grown file found
  obtain ⟨second, found, inside'⟩ := right.grown _ found
  refine ⟨first ++ second, by simpa using found, fun index member => ?_⟩
  exact (List.mem_append.mp member).elim (inside index) (inside' index)

/-- A packet is written. -/
theorem grows_packet (disk : Disk) {index : ℕ} (inside : streams index) :
    disk.Grows streams path (disk.update path fun file => { file with packets := file.packets ++ [index] }) := by
  refine ⟨fun other apart => by rw [find?_update, if_neg apart], fun file found => ⟨[index], ?_, by simpa using inside⟩⟩
  rw [find?_update, if_pos rfl, found]
  rfl

theorem Grows.writes (grows : before.Grows streams path after) : before.Writes path after := by
  refine ⟨grows.elsewhere, fun held => ?_⟩
  obtain ⟨file, found⟩ := Option.isSome_iff_exists.mp held
  obtain ⟨more, grown, -⟩ := grows.grown file found
  exact ⟨file, _, found, grown, rfl, List.prefix_append file.packets more, id⟩

end Grows

end Disk

namespace Io

theorem call_disk (io : Io) : io.call.2.disk = io.disk := by
  unfold call
  split <;> rfl

theorem calls_disk (count : ℕ) (io : Io) : (io.calls count).2.disk = io.disk := by
  induction count generalizing io with
  | zero => rfl
  | succ count ih =>
    have same := io.call_disk
    unfold calls
    split
    next io' answered =>
      rw [answered] at same
      exact (ih io').trans same
    next io' answered =>
      rw [answered] at same
      exact same

/-- Without a scripted failure every call succeeds. -/
theorem calls_unscripted (count : ℕ) (disk : Disk) : calls count ⟨disk, []⟩ = (true, ⟨disk, []⟩) := by
  induction count with
  | zero => rfl
  | succ count ih => exact ih

theorem drainPackets_grows {streams : ℕ → Prop} {index : ℕ} (inside : streams index) (disk : Disk) (path : String)
    (answers : List FfmpegAnswer) : disk.Grows streams path (drainPackets disk path index answers).2.disk := by
  fun_induction drainPackets disk path index answers with
  | case1 disk | case2 disk | case3 disk | case5 disk => exact .refl streams path disk
  | case4 disk => exact disk.grows_packet inside
  | case6 disk _ _ _ ih => exact (disk.grows_packet inside).trans ih

end Io

namespace TrackState

variable {streams : ℕ → Prop} {index : ℕ}

theorem encodeLoop_grows (inside : streams index) (path : String) (drainAll : Bool) (fuel : ℕ) (track : TrackState)
    (io : Io) : io.disk.Grows streams path (encodeLoop path index drainAll fuel track io).2.2.disk := by
  induction fuel generalizing track io with
  | zero => exact .refl _ _ _
  | succ fuel ih =>
    have made := io.calls_disk 2
    rw [encodeLoop]
    split
    next => exact .refl _ _ _
    next =>
      split
      next io₁ failed =>
        rw [failed] at made
        exact made ▸ .refl _ _ _
      next io₁ passed =>
        rw [passed] at made
        have sent := io₁.call_disk
        split
        next io₂ failed =>
          rw [failed] at sent
          exact made ▸ sent ▸ .refl _ _ _
        next io₂ passed =>
          rw [passed] at sent
          have drained := Io.drainPackets_grows inside io₂.disk path io₂.answers
          split
          next io₃ failed =>
            rw [failed] at drained
            exact made ▸ sent ▸ drained
          next io₃ passed =>
            rw [passed] at drained
            exact made ▸ sent ▸ drained.trans (ih _ io₃)

theorem flush_grows (inside : streams index) (track : TrackState) (path : String) (io : Io) :
    io.disk.Grows streams path (track.flush path index io).2.2.disk := by
  have encoded := encodeLoop_grows inside path true track.fifo.length track io
  rw [flush, encodeBuffered]
  split
  next _ io₁ failed =>
    rw [failed] at encoded
    exact encoded
  next _ io₁ passed =>
    rw [passed] at encoded
    have sent := io₁.call_disk
    split
    next io₂ failed =>
      rw [failed] at sent
      exact encoded.trans (sent ▸ .refl _ _ _)
    next io₂ passed =>
      rw [passed] at sent
      exact encoded.trans (sent ▸ Io.drainPackets_grows inside io₂.disk path io₂.answers)

theorem flushAll_grows (streams : ℕ → Prop) (path : String) (index : ℕ) (tracks : List TrackState)
    (inside : ∀ i, index ≤ i → i < index + tracks.length → streams i) (io : Io) :
    io.disk.Grows streams path (flushAll path index tracks io).2.2.disk := by
  induction tracks generalizing index io with
  | nil => exact .refl _ _ _
  | cons track rest ih =>
    rw [List.length_cons] at inside
    have here := flush_grows (inside index (le_refl index) (by omega)) track path io
    rw [flushAll]
    split
    next _ io₁ failed =>
      rw [failed] at here
      exact here
    next _ io₁ passed =>
      rw [passed] at here
      exact here.trans (ih (index + 1) (fun i above below => inside i (by omega) (by omega)) io₁)

end TrackState

namespace FfmpegRecordingWriter

/-- The writer has a partial file that it may still write to or has given up. -/
def Live (writer : FfmpegRecordingWriter) : Prop := writer.state = .opened ∨ writer.state = .failed

/-- What one writer and its successor after a call have in common. -/
structure SameFile (before after : FfmpegRecordingWriter) : Prop where
  config : after.config = before.config
  partialPath : after.partialPath = before.partialPath
  live : before.Live → after.Live

theorem SameFile.refl (writer : FfmpegRecordingWriter) : SameFile writer writer := ⟨rfl, rfl, id⟩

theorem SameFile.trans {first second third : FfmpegRecordingWriter} (left : SameFile first second)
    (right : SameFile second third) : SameFile first third :=
  ⟨right.config.trans left.config, right.partialPath.trans left.partialPath, fun live => right.live (left.live live)⟩

theorem buffer_grows (streams : ℕ → Prop) (index : ℕ) (inside : streams index) (track : TrackState) (path : String)
    (frame : AudioFrame) (io : Io) : io.disk.Grows streams path (buffer track path index frame io).2.2.disk := by
  have called := io.call_disk
  rw [buffer]
  split
  next => exact .refl _ _ _
  next =>
    split
    next io₁ failed =>
      rw [failed] at called
      exact called ▸ .refl _ _ _
    next io₁ passed =>
      rw [passed] at called
      exact called ▸ TrackState.encodeLoop_grows inside path false _ _ io₁

section Create

variable {config : RecordingWriterConfig} {frameSize : ℕ} {io io' : Io} {writer : FfmpegRecordingWriter}

/-- A writer as `createRecordingWriter` hands it out. -/
structure Fresh (config : RecordingWriterConfig) (writer : FfmpegRecordingWriter) (disk : Disk) : Prop where
  opened : writer.state = .opened
  configured : writer.config = config
  partialPath : writer.partialPath = config.outputFile ++ ".partial"
  framesWritten : writer.stats.framesWritten = 0
  held : disk.holds writer.partialPath = true

private theorem openPartial_fresh (opened : openPartial writer io = (.ok writer', io'))
    (path : writer.partialPath = writer.config.outputFile ++ ".partial") (none : writer.stats.framesWritten = 0) :
    Fresh writer.config writer' io'.disk := by
  rw [openPartial] at opened
  split at opened
  next => exact absurd (congrArg Prod.fst opened) nofun
  next io₁ _ =>
    have sameDisk := Io.call_disk { io₁ with disk := io₁.disk.put writer.partialPath {} }
    dsimp only at opened
    split at opened
    next => exact absurd (congrArg Prod.fst opened) nofun
    next io₂ created =>
      rw [created] at sameDisk
      obtain ⟨result, rfl⟩ := Prod.mk.inj opened
      obtain rfl := Except.ok.inj result
      refine ⟨rfl, rfl, path, none, ?_⟩
      rw [Disk.holds_update, sameDisk, Disk.holds_put]
      exact .inl rfl

theorem create_fresh (created : create config frameSize io = (.ok writer, io')) : Fresh config writer io'.disk := by
  rw [create] at created
  split at created
  next => exact absurd (congrArg Prod.fst created) nofun
  next =>
    split at created
    next => exact absurd (congrArg Prod.fst created) nofun
    next => exact openPartial_fresh created rfl rfl

private theorem openPartial_elsewhere (writer : FfmpegRecordingWriter) (io : Io) {other : String}
    (apart : other ≠ writer.partialPath) : (openPartial writer io).2.disk.find? other = io.disk.find? other := by
  have called := io.call_disk
  rw [openPartial]
  split
  next io₁ refused =>
    rw [refused] at called
    exact congrArg (·.find? other) called
  next io₁ accepted =>
    rw [accepted] at called
    have sameDisk := Io.call_disk { io₁ with disk := io₁.disk.put writer.partialPath {} }
    have created : (io₁.disk.put writer.partialPath {}).find? other = io.disk.find? other := by
      rw [Disk.find?_put, if_neg apart]
      exact congrArg (·.find? other) called
    dsimp only
    split
    next io₂ refused =>
      rw [refused] at sameDisk
      exact (congrArg (·.find? other) sameDisk).trans created
    next io₂ accepted =>
      rw [accepted] at sameDisk
      rw [Disk.find?_update, if_neg apart]
      exact (congrArg (·.find? other) sameDisk).trans created

/-- Opening a writer touches no file but its partial file. -/
theorem create_elsewhere {other : String} (apart : other ≠ config.outputFile ++ ".partial") :
    (create config frameSize io).2.disk.find? other = io.disk.find? other := by
  rw [create]
  split
  next => rfl
  next =>
    have called := io.calls_disk (1 + config.tracks.length * openTrackCalls + 1)
    split
    next io₁ refused =>
      rw [refused] at called
      exact congrArg (·.find? other) called
    next io₁ accepted =>
      rw [accepted] at called
      exact (openPartial_elsewhere _ io₁ apart).trans (congrArg (·.find? other) called)

theorem suffixed_ne (path : String) : path ++ ".partial" ≠ path := by
  intro same
  have lengths := congrArg String.length same
  rw [String.length_append] at lengths
  exact absurd lengths (by simp)

private theorem openPartial_tracks (opened : openPartial writer io = (.ok writer', io')) :
    writer'.tracks = writer.tracks ∧ writer'.stats = writer.stats := by
  rw [openPartial] at opened
  split at opened
  next => exact absurd (congrArg Prod.fst opened) nofun
  next =>
    dsimp only at opened
    split at opened
    next => exact absurd (congrArg Prod.fst opened) nofun
    next =>
      obtain rfl := Except.ok.inj (congrArg Prod.fst opened)
      exact ⟨rfl, rfl⟩

/-- A new writer has a new track for every configured one. -/
theorem create_tracks (created : create config frameSize io = (.ok writer, io')) :
    writer.tracks = config.tracks.map (fun _ => openTrack frameSize) ∧
      writer.stats.samplesWrittenPerTrack = config.tracks.map fun _ => 0 := by
  rw [create] at created
  split at created
  next => exact absurd (congrArg Prod.fst created) nofun
  next =>
    split at created
    next => exact absurd (congrArg Prod.fst created) nofun
    next =>
      obtain ⟨tracks, stats⟩ := openPartial_tracks created
      exact ⟨tracks, congrArg _ stats⟩

/-- When no call fails, a configuration with a file name and tracks of accepted formats is enough. -/
theorem create_unscripted {disk : Disk} (named : config.outputFile.isEmpty = false)
    (tracks : config.tracks.isEmpty = false) (formats : config.tracks.all (accepts ·.format) = true) :
    ∃ writer, (create config frameSize ⟨disk, []⟩).1 = .ok writer := by
  rw [create, named, tracks, formats, if_neg (by decide)]
  simp only [Io.calls_unscripted]
  exact ⟨_, rfl⟩

end Create

section Calls

variable (writer : FfmpegRecordingWriter) (index : ℕ) (frame : AudioFrame) (io : Io)

/-- A write is refused, or fails on the way to the file, or is counted. -/
theorem write_cases :
    (∃ error, writer.write index frame io = (false, { writer with lastError := error }, io)) ∨
    (∃ tracks io', writer.state = .opened ∧ io.disk.Writes writer.partialPath io'.disk ∧
      writer.write index frame io = (false, ({ writer with tracks := tracks }).fail .writeFailed, io')) ∨
    ∃ tracks samples io', writer.state = .opened ∧ io.disk.Writes writer.partialPath io'.disk ∧
      writer.write index frame io = (true, { writer with
        tracks := tracks, stats := ⟨writer.stats.framesWritten + 1, samples⟩ }, io') := by
  rw [write]
  split
  next expected track opened _ _ =>
    by_cases matching : matchesTrack expected.format frame
    · have buffered := (buffer_grows (fun _ => True) index trivial track writer.partialPath frame io).writes
      rcases result : buffer track writer.partialPath index frame io with ⟨done, track', io'⟩
      rw [result] at buffered
      simp only [matching, Bool.not_true, Bool.false_eq_true, ↓reduceIte]
      cases done with
      | false => exact .inr (.inl ⟨_, _, opened, buffered, rfl⟩)
      | true => exact .inr (.inr ⟨_, _, _, opened, buffered, rfl⟩)
    · exact .inl ⟨.formatMismatch, by simp [matching]⟩
  next => exact .inl ⟨.invalidState, rfl⟩

theorem write_sameFile : writer.SameFile (writer.write index frame io).2.1 := by
  rcases writer.write_cases index frame io with ⟨_, same⟩ | ⟨_, _, _, _, same⟩ | ⟨_, _, _, _, _, same⟩
  · exact same ▸ ⟨rfl, rfl, id⟩
  · exact same ▸ ⟨rfl, rfl, fun _ => .inr rfl⟩
  · exact same ▸ ⟨rfl, rfl, id⟩

theorem write_writes : io.disk.Writes writer.partialPath (writer.write index frame io).2.2.disk := by
  rcases writer.write_cases index frame io with ⟨_, same⟩ | ⟨_, _, _, grown, same⟩ | ⟨_, _, _, _, grown, same⟩
  · exact same ▸ .refl _ _
  · exact same ▸ grown
  · exact same ▸ grown

/-- A successful write finds the writer open, leaves it open and counts one more frame. -/
theorem write_succeeds (written : (writer.write index frame io).1 = true) :
    (writer.write index frame io).2.1.state = .opened ∧
      (writer.write index frame io).2.1.stats.framesWritten = writer.stats.framesWritten + 1 := by
  rcases writer.write_cases index frame io with ⟨_, same⟩ | ⟨_, _, _, _, same⟩ | ⟨_, _, _, opened, _, same⟩
  · rw [same] at written
    contradiction
  · rw [same] at written
    contradiction
  · rw [same]
    exact ⟨opened, rfl⟩

/-- `finalize` is refused, or fails on the way and keeps the partial file, or renames it. -/
theorem finalize_cases (renamed : Bool) :
    (writer.state ≠ .opened ∧
      writer.finalize renamed io = (false, { writer with lastError := .invalidState }, io)) ∨
    (∃ tracks io', writer.state = .opened ∧ io.disk.Writes writer.partialPath io'.disk ∧
      writer.finalize renamed io = (false, ({ writer with tracks := tracks }).fail .finalizeFailed, io')) ∨
    ∃ io' disk, writer.state = .opened ∧ io.disk.Writes writer.partialPath disk ∧
      io'.disk = disk.rename writer.partialPath writer.config.outputFile ∧
      (TrackState.flushAll writer.partialPath 0 writer.tracks io).1 = true ∧
      writer.finalize renamed io = (true, { writer with state := .finalized, tracks := [] }, io') := by
  have flushed := (TrackState.flushAll_grows (fun _ => True) writer.partialPath 0 writer.tracks
    (fun _ _ _ => trivial) io).writes
  rw [finalize]
  split
  next refused => exact .inl ⟨refused, rfl⟩
  next accepted =>
    have opened : writer.state = .opened := not_not.mp accepted
    refine .inr ?_
    generalize TrackState.flushAll writer.partialPath 0 writer.tracks io = result at flushed ⊢
    obtain ⟨done, tracks, io₁⟩ := result
    cases done with
    | false => exact .inl ⟨tracks, io₁, opened, flushed, rfl⟩
    | true =>
      have sameDisk := io₁.call_disk
      dsimp only at sameDisk flushed ⊢
      generalize io₁.call = result at sameDisk ⊢
      obtain ⟨wrote, io₂⟩ := result
      rw [← sameDisk] at flushed
      cases wrote with
      | false => exact .inl ⟨tracks, io₂, opened, flushed, rfl⟩
      | true =>
        have grown := flushed.trans (io₂.disk.writes_trailer writer.partialPath)
        have sameDisk := Io.call_disk { io₂ with
          disk := io₂.disk.update writer.partialPath fun file => { file with trailer := true } }
        dsimp only at sameDisk grown ⊢
        generalize Io.call { io₂ with
          disk := io₂.disk.update writer.partialPath fun file => { file with trailer := true } } = result
          at sameDisk ⊢
        obtain ⟨closed, io₃⟩ := result
        rw [← sameDisk] at grown
        cases closed with
        | false => exact .inl ⟨tracks, io₃, opened, grown, rfl⟩
        | true =>
          cases renamed with
          | false => exact .inl ⟨tracks, io₃, opened, grown, rfl⟩
          | true => exact .inr ⟨_, io₃.disk, opened, grown, rfl, rfl, rfl⟩

/-- `abort` on a live writer removes its partial file and nothing else. -/
theorem abort_of_live (live : writer.Live) :
    writer.abort io = ({ writer with state := .aborted, tracks := [] },
      { io with disk := io.disk.remove writer.partialPath }) := by
  rcases live with opened | failed
  · rw [abort, opened]
    rfl
  · rw [abort, failed]
    rfl

theorem abort_disk (live : writer.Live) : (writer.abort io).2.disk = io.disk.remove writer.partialPath := by
  rw [writer.abort_of_live io live]

/-- `abort` on any other writer that was opened only releases its handles. -/
theorem abort_of_ended (opened : writer.state ≠ .closed) (ended : ¬ writer.Live) :
    writer.abort io = (writer.cleanup, io) := by
  rw [abort]
  cases state : writer.state with
  | closed => exact absurd state opened
  | opened => exact absurd (.inl state) ended
  | failed => exact absurd (.inr state) ended
  | finalized | aborted => rfl

end Calls

end FfmpegRecordingWriter

end VoxMesh.Media
