import VoxMesh.Proofs.RecordingWriter

/-! # What the writer's file holds

Between its header and its trailer, a recording grows by packets of the writer's tracks. A writer that is open has the
header on file (`Headed`), and a `finalize` that succeeds leaves a complete file under the name of the recording.
-/

namespace VoxMesh.Media

open VoxMesh.Audio

/-- A header, packets of the given number of tracks, and a trailer. -/
structure MediaFile.Complete (tracks : ℕ) (file : MediaFile) : Prop where
  header : file.header = true
  packets : ∀ index ∈ file.packets, index < tracks
  trailer : file.trailer = true

/-- The file is on disk, with its header and with packets of the given number of tracks. -/
def Disk.Headed (tracks : ℕ) (path : String) (disk : Disk) : Prop :=
  ∃ file, disk.find? path = some file ∧ file.header = true ∧ ∀ index ∈ file.packets, index < tracks

theorem Disk.Headed.grows {tracks : ℕ} {path : String} {before after : Disk} (headed : before.Headed tracks path)
    (grows : before.Grows (· < tracks) path after) : after.Headed tracks path := by
  obtain ⟨file, found, header, packets⟩ := headed
  obtain ⟨more, found, inside⟩ := grows.grown file found
  refine ⟨_, found, header, fun index member => ?_⟩
  exact (List.mem_append.mp member).elim (packets index) (inside index)

namespace FfmpegRecordingWriter

variable {writer : FfmpegRecordingWriter} {io : Io}

/-- The writer has not more track states than tracks, and the header is on file. -/
structure OnHeadedFile (writer : FfmpegRecordingWriter) (disk : Disk) : Prop where
  states : writer.tracks.length ≤ writer.config.tracks.length
  headed : disk.Headed writer.config.tracks.length writer.partialPath

theorem write_grows (writer : FfmpegRecordingWriter) (index : ℕ) (frame : AudioFrame) (io : Io) :
    io.disk.Grows (· < writer.config.tracks.length) writer.partialPath (writer.write index frame io).2.2.disk ∧
      (writer.write index frame io).2.1.tracks.length = writer.tracks.length := by
  rw [write]
  split
  next expected track _ configured found =>
    have inside := (List.getElem?_eq_some_iff.mp configured).1
    split
    next => exact ⟨.refl _ _ _, rfl⟩
    next =>
      have grows := buffer_grows (· < writer.config.tracks.length) index inside track writer.partialPath frame io
      rcases result : buffer track writer.partialPath index frame io with ⟨done, track', io'⟩
      rw [result] at grows
      cases done with
      | false => exact ⟨grows, List.length_set ..⟩
      | true => exact ⟨grows, List.length_set ..⟩
  next => exact ⟨.refl _ _ _, rfl⟩

theorem OnHeadedFile.write (onFile : writer.OnHeadedFile io.disk) (index : ℕ) (frame : AudioFrame) :
    (writer.write index frame io).2.1.OnHeadedFile (writer.write index frame io).2.2.disk := by
  obtain ⟨grows, length⟩ := writer.write_grows index frame io
  have same := writer.write_sameFile index frame io
  refine ⟨?_, ?_⟩
  · rw [length, same.config]
    exact onFile.states
  · rw [same.config, same.partialPath]
    exact onFile.headed.grows grows

private theorem openPartial_headed {writer' : FfmpegRecordingWriter} {io' : Io}
    (opened : openPartial writer io = (.ok writer', io'))
    (states : writer.tracks.length ≤ writer.config.tracks.length) :
    writer'.OnHeadedFile io'.disk := by
  rw [openPartial] at opened
  split at opened
  next => exact absurd (congrArg Prod.fst opened) (by simp)
  next io₁ _ =>
    have sameDisk := Io.call_disk { io₁ with disk := io₁.disk.put writer.partialPath {} }
    dsimp only at opened
    split at opened
    next => exact absurd (congrArg Prod.fst opened) (by simp)
    next io₂ created =>
      rw [created] at sameDisk
      obtain ⟨result, rfl⟩ := Prod.mk.inj opened
      obtain rfl := Except.ok.inj result
      refine ⟨states, { header := true }, ?_, rfl, by simp⟩
      rw [Disk.find?_update, if_pos rfl, sameDisk, Disk.find?_put, if_pos rfl]
      rfl

/-- A writer is handed out with the header on file. -/
theorem create_headed {config : RecordingWriterConfig} {frameSize : ℕ} {io' : Io}
    (created : create config frameSize io = (.ok writer, io')) : writer.OnHeadedFile io'.disk := by
  rw [create] at created
  split at created
  next => exact absurd (congrArg Prod.fst created) (by simp)
  next =>
    split at created
    next => exact absurd (congrArg Prod.fst created) (by simp)
    next => exact openPartial_headed created (by simp)

/-- A `finalize` that succeeds leaves the recording complete under its name. -/
theorem finalize_complete {disk : Disk} {answers : List FfmpegAnswer} {renamed : Bool} {final : FfmpegRecordingWriter}
    {io' : Io} (onFile : writer.OnHeadedFile disk)
    (done : writer.finalize renamed ⟨disk, answers⟩ = (true, final, io')) :
    ∃ file, io'.disk.find? writer.config.outputFile = some file ∧ file.Complete writer.config.tracks.length := by
  have states := onFile.states
  have grows := TrackState.flushAll_grows (· < writer.config.tracks.length) writer.partialPath 0 writer.tracks
    (fun i _ below => by omega) ⟨disk, answers⟩
  rw [finalize] at done
  split at done
  next => exact absurd (congrArg Prod.fst done) (by simp)
  next =>
    rcases flushed : TrackState.flushAll writer.partialPath 0 writer.tracks ⟨disk, answers⟩ with ⟨all, states, io₁⟩
    rw [flushed] at done grows
    dsimp only at done
    split at done
    next => exact absurd (congrArg Prod.fst done) (by simp)
    next =>
      have headed := onFile.headed.grows grows
      have sameDisk := io₁.call_disk
      split at done
      next => exact absurd (congrArg Prod.fst done) (by simp)
      next io₂ ended =>
        rw [ended] at sameDisk
        have sameDisk' := Io.call_disk { io₂ with
          disk := io₂.disk.update writer.partialPath fun file => { file with trailer := true } }
        split at done
        next => exact absurd (congrArg Prod.fst done) (by simp)
        next io₃ closed =>
          rw [closed] at sameDisk'
          split at done
          next => exact absurd (congrArg Prod.fst done) (by simp)
          next =>
            obtain ⟨-, -, rfl⟩ := by simpa only [Prod.mk.injEq] using done
            obtain ⟨file, found, header, packets⟩ := headed
            refine ⟨{ file with trailer := true }, ?_, header, packets, rfl⟩
            have ended : io₃.disk.find? writer.partialPath = some { file with trailer := true } := by
              rw [sameDisk', Disk.find?_update, if_pos rfl, sameDisk, found]
              rfl
            dsimp only
            rw [Disk.rename, ended]
            exact (Disk.find?_put _ _ _ _).trans (if_pos rfl)

end FfmpegRecordingWriter

end VoxMesh.Media
