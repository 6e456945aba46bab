import VoxMesh.Proofs.EncodedTrack

/-! # The encoder gets what the writer was given

Frames are written to the tracks in any order, and the file is finalized. Each track has then sent its encoder
the samples of its frames, one after the other, in full chunks and a last short one. A frame of `2 ^ 31` samples
or more does not fit the `int` that the fifo counts in, and is not buffered at all.
-/

namespace VoxMesh.Media

open VoxMesh.Audio FixedWidth Blocks

/-- The whole samples of a frame, as bytes. -/
def wholeSamples (frame : AudioFrame) : List Byte :=
  frame.payload.take (frame.sampleCountPerChannel * (bytesPerSample frame.format * frame.channels))

/-- The frames written to one track. -/
def framesOf (frames : List (ℕ × AudioFrame)) (trackIndex : ℕ) : List AudioFrame :=
  (frames.filter (·.1 == trackIndex)).map Prod.snd

/-- The samples written to one track. -/
def samplesOf (frames : List (ℕ × AudioFrame)) (trackIndex : ℕ) : List (List Byte) :=
  (framesOf frames trackIndex).flatMap samplesOfFrame

/-- The chunks of a track are its frames, cut anew. -/
structure EncodesExactly (frames : List AudioFrame) (chunkSamples : ℕ) (encoded : List EncodedChunk)
    (samplesWritten : ℕ) : Prop where
  payload : (encoded.flatMap (·.samples)).flatten = frames.flatMap wholeSamples
  pts : ∀ k (bound : k < encoded.length), encoded[k].pts = ((encoded.take k).flatMap (·.samples)).length
  full : ∀ k (bound : k + 1 < encoded.length), encoded[k].samples.length = chunkSamples
  nonempty : ∀ chunk ∈ encoded, chunk.samples ≠ [] ∧ chunk.samples.length ≤ chunkSamples
  counted : samplesWritten = (encoded.flatMap (·.samples)).length

namespace FfmpegRecordingWriter

/-- Writes one after the other, until one fails. -/
def writeAll : List (ℕ × AudioFrame) → FfmpegRecordingWriter → Io → Bool × FfmpegRecordingWriter × Io
  | [], writer, io => (true, writer, io)
  | (trackIndex, frame) :: rest, writer, io =>
      match writer.write trackIndex frame io with
      | (false, writer, io) => (false, writer, io)
      | (true, writer, io) => writeAll rest writer io

end FfmpegRecordingWriter

section Samples

theorem samplesOfFrame_length (frame : AudioFrame) : (samplesOfFrame frame).length = frame.sampleCountPerChannel := by
  simp [samplesOfFrame]

theorem samplesOfFrame_flatten (frame : AudioFrame) : (samplesOfFrame frame).flatten = wholeSamples frame :=
  flatten_blocks (bytesPerSample frame.format * frame.channels) frame.payload frame.sampleCountPerChannel

theorem samplesOf_flatten (frames : List (ℕ × AudioFrame)) (trackIndex : ℕ) :
    (samplesOf frames trackIndex).flatten = (framesOf frames trackIndex).flatMap wholeSamples := by
  rw [samplesOf, List.flatten_eq_flatMap, List.flatMap_assoc]
  refine List.flatMap_congr fun frame _ => ?_
  rw [← List.flatten_eq_flatMap, samplesOfFrame_flatten]

theorem samplesOf_snoc (frames : List (ℕ × AudioFrame)) (trackIndex : ℕ) (frame : AudioFrame) (other : ℕ) :
    samplesOf (frames ++ [(trackIndex, frame)]) other =
      samplesOf frames other ++ if trackIndex = other then samplesOfFrame frame else [] := by
  by_cases same : trackIndex = other <;> simp [samplesOf, framesOf, List.filter_append, same]

end Samples

section Drained

variable {track : TrackState} {given : List (List Byte)}

/-- Everything about the chunks of a drained track. -/
theorem encodesExactly_of_drained {frames : List AudioFrame} (drained : track.Drained given)
    (payload : given.flatten = frames.flatMap wholeSamples) :
    EncodesExactly frames track.chunkSamples track.encoded given.length := by
  obtain ⟨count, encodes⟩ := drained.encodes
  have whole : given.length ≤ count * track.chunkSamples := by
    have none := congrArg List.length encodes.fifo
    rw [drained.empty, length_rest, List.length_nil] at none
    omega
  have sent (k : ℕ) : (((List.range k).map (TrackState.chunkOf track.chunkSamples given)).flatMap (·.samples)) =
      given.take (k * track.chunkSamples) := by
    rw [← flatten_blocks, List.flatMap_map, List.flatten_eq_flatMap, List.flatMap_map]
    rfl
  have all : track.encoded.flatMap (·.samples) = given := by
    rw [encodes.encoded, sent, List.take_of_length_le whole]
  have chunk (k : ℕ) (bound : k < track.encoded.length) :
      track.encoded[k] = TrackState.chunkOf track.chunkSamples given k := by
    simp [encodes.encoded]
  have length : track.encoded.length = count := by rw [encodes.encoded, List.length_map, List.length_range]
  constructor
  · rw [all, payload]
  · intro k bound
    have begun := encodes.begun k (length ▸ bound)
    rw [chunk, encodes.encoded, ← List.map_take, List.take_range, min_eq_left (by omega), sent, List.length_take,
      min_eq_left begun.le]
    rfl
  · intro k bound
    rw [chunk]
    exact length_block (encodes.begun (k + 1) (length ▸ bound)).le
  · intro chunk member
    rw [encodes.encoded] at member
    obtain ⟨k, inside, rfl⟩ := List.mem_map.mp member
    have begun := encodes.begun k (List.mem_range.mp inside)
    have positive := track.chunk_pos
    have size : (block track.chunkSamples given k).length =
        min track.chunkSamples (given.length - k * track.chunkSamples) := by
      rw [block, List.length_take, List.length_drop]
    refine ⟨fun empty => ?_, ?_⟩
    · have none : (block track.chunkSamples given k).length = 0 := congrArg List.length empty
      omega
    · change (block track.chunkSamples given k).length ≤ _
      omega
  · rw [all]

end Drained

section Writes

variable {writer writer' : FfmpegRecordingWriter} {io io' : Io} {frames : List (ℕ × AudioFrame)}

/-- The tracks and the statistics of a writer that was given the frames. -/
structure UpToDate (writer : FfmpegRecordingWriter) (frames : List (ℕ × AudioFrame)) : Prop where
  length : writer.tracks.length = writer.config.tracks.length
  buffered : ∀ (i : ℕ) (track : TrackState), writer.tracks[i]? = some track → track.Buffered (samplesOf frames i)
  counted : ∀ i < writer.config.tracks.length,
    writer.stats.samplesWrittenPerTrack[i]? = some (samplesOf frames i).length

/-- Samples that fit an `int` are buffered and encoded as far as they fill chunks. -/
theorem buffer_buffered {track track' : TrackState} {path : String} {index : ℕ} {frame : AudioFrame}
    {given : List (List Byte)} (small : frame.sampleCountPerChannel < 2 ^ 31) (buffered : track.Buffered given)
    (done : FfmpegRecordingWriter.buffer track path index frame io = (true, track', io')) :
    track'.Buffered (given ++ samplesOfFrame frame) := by
  rw [FfmpegRecordingWriter.buffer, int32_of_lt small] at done
  split at done
  next none =>
    obtain ⟨-, rfl, -⟩ := by simpa only [Prod.mk.injEq] using done
    have empty : samplesOfFrame frame = [] := by
      rw [← List.length_eq_zero_iff, samplesOfFrame_length]
      omega
    rwa [empty, List.append_nil]
  next some =>
    split at done
    next => exact absurd (congrArg Prod.fst done) Bool.false_ne_true
    next =>
      rw [Int.toNat_natCast, List.take_of_length_le (samplesOfFrame_length frame).le] at done
      exact (TrackState.encodeBuffered_buffered given buffered done).1

/-- A successful write finds its track and buffers the frame. -/
theorem of_write {trackIndex : ℕ} {frame : AudioFrame}
    (wrote : writer.write trackIndex frame io = (true, writer', io')) :
    ∃ track track' io₁, writer.tracks[trackIndex]? = some track ∧
      FfmpegRecordingWriter.buffer track writer.partialPath trackIndex frame io = (true, track', io₁) ∧
      writer'.config = writer.config ∧ writer'.tracks = writer.tracks.set trackIndex track' ∧
      writer'.stats.samplesWrittenPerTrack = writer.stats.samplesWrittenPerTrack.modify trackIndex
        (· + toUint64 (int32 frame.sampleCountPerChannel)) := by
  rw [FfmpegRecordingWriter.write] at wrote
  split at wrote
  next expected track _ _ found =>
    split at wrote
    next => exact absurd (congrArg Prod.fst wrote) Bool.false_ne_true
    next =>
      rcases result : FfmpegRecordingWriter.buffer track writer.partialPath trackIndex frame io with ⟨done, track', io₁⟩
      rw [result] at wrote
      cases done with
      | false => exact absurd (congrArg Prod.fst wrote) Bool.false_ne_true
      | true =>
        obtain ⟨-, rfl, -⟩ := by simpa only [Prod.mk.injEq] using wrote
        exact ⟨track, track', _, found, result, rfl, rfl, rfl⟩
  next => exact absurd (congrArg Prod.fst wrote) Bool.false_ne_true

theorem upToDate_of_write {trackIndex : ℕ} {frame : AudioFrame} (upToDate : UpToDate writer frames)
    (small : frame.sampleCountPerChannel < 2 ^ 31)
    (wrote : writer.write trackIndex frame io = (true, writer', io')) :
    UpToDate writer' (frames ++ [(trackIndex, frame)]) := by
  obtain ⟨track, track', io₁, found, buffers, config, tracks, stats⟩ := of_write wrote
  have here := buffer_buffered small (upToDate.buffered trackIndex track found) buffers
  refine ⟨?_, fun i other member => ?_, fun i bound => ?_⟩
  · rw [tracks, config, List.length_set, upToDate.length]
  · rw [samplesOf_snoc]
    rw [tracks, List.getElem?_set] at member
    by_cases same : trackIndex = i
    · subst same
      have inside := (List.getElem?_eq_some_iff.mp found).1
      rw [if_pos rfl, if_pos inside] at member
      obtain rfl := Option.some.inj member
      rwa [if_pos rfl]
    · rw [if_neg same] at member
      rw [if_neg same, List.append_nil]
      exact upToDate.buffered i other member
  · rw [config] at bound
    rw [stats, List.getElem?_modify, upToDate.counted i bound, samplesOf_snoc, int32_of_lt small,
      toUint64_of_lt (small.trans (by decide)), List.length_append]
    by_cases same : trackIndex = i <;> simp [same, samplesOfFrame_length]

theorem upToDate_of_writes {more : List (ℕ × AudioFrame)} (upToDate : UpToDate writer frames)
    (small : ∀ entry ∈ more, entry.2.sampleCountPerChannel < 2 ^ 31)
    (wrote : FfmpegRecordingWriter.writeAll more writer io = (true, writer', io')) :
    UpToDate writer' (frames ++ more) ∧ writer'.config = writer.config := by
  induction more generalizing writer io frames with
  | nil =>
    obtain ⟨-, rfl, -⟩ := by simpa only [FfmpegRecordingWriter.writeAll, Prod.mk.injEq] using wrote
    rw [List.append_nil]
    exact ⟨upToDate, rfl⟩
  | cons entry rest ih =>
    rw [FfmpegRecordingWriter.writeAll] at wrote
    split at wrote
    next => exact absurd (congrArg Prod.fst wrote) nofun
    next writer₁ io₁ first =>
      obtain ⟨_, _, _, _, _, config, _⟩ := of_write first
      have here := upToDate_of_write upToDate (small entry (List.mem_cons_self ..)) first
      obtain ⟨later, same⟩ := ih here (fun other member => small other (List.mem_cons_of_mem _ member)) wrote
      rw [List.append_assoc] at later
      exact ⟨later, same.trans config⟩

theorem upToDate_of_create {config : RecordingWriterConfig} {frameSize : ℕ}
    (created : FfmpegRecordingWriter.create config frameSize io = (.ok writer, io')) :
    UpToDate writer [] ∧ writer.config = config := by
  obtain ⟨tracks, stats⟩ := FfmpegRecordingWriter.create_tracks created
  have config := (FfmpegRecordingWriter.create_fresh created).configured
  refine ⟨⟨?_, fun i track found => ?_, fun i bound => ?_⟩, config⟩
  · rw [tracks, config, List.length_map]
  · rw [tracks, List.getElem?_map, Option.map_eq_some_iff] at found
    obtain ⟨_, _, rfl⟩ := found
    exact TrackState.buffered_new frameSize
  · rw [stats, List.getElem?_map, ← config, List.getElem?_eq_getElem bound]
    rfl

end Writes

/-- Between calls a track has sent or buffered every sample written to it, and it buffers less than a chunk. -/
def Accounted (writer : FfmpegRecordingWriter) : Prop :=
  ∀ (i : ℕ) (track : TrackState), writer.tracks[i]? = some track →
    writer.stats.samplesWrittenPerTrack[i]? = some (track.nextPts + track.fifo.length) ∧
      track.fifo.length < track.chunkSamples

/-- Frames of less than `2 ^ 31` samples each, written to a new writer in any order: the tracks account for them
between calls, and when `finalize` succeeds every track has encoded exactly its frames. -/
theorem encodes_exactly (config : RecordingWriterConfig) (frameSize : ℕ) (io opened midway : Io)
    (fresh writer : FfmpegRecordingWriter) (frames : List (ℕ × AudioFrame))
    (created : FfmpegRecordingWriter.create config frameSize io = (.ok fresh, opened))
    (small : ∀ entry ∈ frames, entry.2.sampleCountPerChannel < 2 ^ 31)
    (wrote : FfmpegRecordingWriter.writeAll frames fresh opened = (true, writer, midway)) :
    Accounted writer ∧ ∀ renamed final last, writer.finalize renamed midway = (true, final, last) →
      let flushed := (TrackState.flushAll writer.partialPath 0 writer.tracks midway).2.1
      flushed.length = config.tracks.length ∧ ∀ (i : ℕ) (track : TrackState), flushed[i]? = some track →
        ∃ samplesWritten, final.stats.samplesWrittenPerTrack[i]? = some samplesWritten ∧
          EncodesExactly (framesOf frames i) track.chunkSamples track.encoded samplesWritten := by
  obtain ⟨start, same⟩ := upToDate_of_create created
  obtain ⟨upToDate, same'⟩ := upToDate_of_writes start small wrote
  rw [List.nil_append] at upToDate
  have configured : writer.config = config := same'.trans same
  have counted (i : ℕ) (bound : i < writer.tracks.length) :
      writer.stats.samplesWrittenPerTrack[i]? = some (samplesOf frames i).length :=
    upToDate.counted i (upToDate.length ▸ bound)
  refine ⟨fun i track found => ?_, fun renamed final last finalized => ?_⟩
  · have buffered := upToDate.buffered i track found
    obtain ⟨count, encodes, -⟩ := buffered.encodes
    rw [counted i (List.getElem?_eq_some_iff.mp found).1, encodes.nextPts]
    exact ⟨rfl, buffered.short⟩
  · rcases writer.finalize_cases midway renamed with
      ⟨_, refused⟩ | ⟨_, _, _, _, failed⟩ | ⟨io', disk, _, _, _, flushed, succeeded⟩
    · exact absurd (congrArg Prod.fst (finalized.symm.trans refused)) nofun
    · exact absurd (congrArg Prod.fst (finalized.symm.trans failed)) nofun
    · have stats : final.stats = writer.stats :=
        congrArg (fun result => result.2.1.stats) (finalized.symm.trans succeeded)
      obtain ⟨length, drained⟩ :=
        TrackState.flushAll_drained (samplesOf frames) upToDate.buffered (Prod.ext flushed rfl)
      refine ⟨by rw [length, upToDate.length, configured], fun i track found => ?_⟩
      obtain ⟨earlier, member, drained, _⟩ := drained i track found
      rw [stats, counted i (List.getElem?_eq_some_iff.mp member).1]
      exact ⟨_, rfl, encodesExactly_of_drained drained (samplesOf_flatten frames i)⟩

private def singleTrack : RecordingWriterConfig where
  outputFile := "recording.flac"
  tracks := [{ format := { format := .pcmS16Le } }]

private def monoFrame (samples : ℕ) : AudioFrame where
  sampleRate := 48000
  channels := 1
  payload := List.replicate (2 * samples) 0

private theorem monoFrame_samples (samples : ℕ) : (monoFrame samples).sampleCountPerChannel = samples :=
  AudioFrame.sampleCountPerChannel_of_length Nat.one_pos
    (by rw [monoFrame, List.length_replicate, Nat.mul_one, Nat.mul_comm]; rfl)

private theorem buffer_of_oversized {track : TrackState} {path : String} {index : ℕ} {frame : AudioFrame} {io : Io}
    (oversized : int32 frame.sampleCountPerChannel ≤ 0) :
    FfmpegRecordingWriter.buffer track path index frame io = (true, track, io) := by
  rw [FfmpegRecordingWriter.buffer]
  exact if_pos oversized

/-- When the `int` is not positive, only the statistics change. -/
private theorem write_of_oversized {writer : FfmpegRecordingWriter} {trackIndex : ℕ} {frame : AudioFrame}
    {expected : RecordingTrackConfig} {track : TrackState} (io : Io) (opened : writer.state = .opened)
    (configured : writer.config.tracks[trackIndex]? = some expected)
    (found : writer.tracks[trackIndex]? = some track)
    (matching : FfmpegRecordingWriter.matchesTrack expected.format frame = true)
    (oversized : int32 frame.sampleCountPerChannel ≤ 0) :
    writer.write trackIndex frame io = (true, { writer with
      tracks := writer.tracks.set trackIndex track
      stats := ⟨writer.stats.framesWritten + 1, writer.stats.samplesWrittenPerTrack.modify trackIndex
        (· + toUint64 (int32 frame.sampleCountPerChannel))⟩ }, io) := by
  unfold FfmpegRecordingWriter.write
  split
  next expected' track' _ isExpected isTrack =>
    obtain rfl := Option.some.inj (isExpected.symm.trans configured)
    obtain rfl := Option.some.inj (isTrack.symm.trans found)
    rw [matching, buffer_of_oversized oversized]
    rfl
  next none => exact absurd found (none _ _ opened configured)

private theorem writeAll_singleton {writer writer' : FfmpegRecordingWriter} {trackIndex : ℕ} {frame : AudioFrame}
    {io io' : Io} (wrote : writer.write trackIndex frame io = (true, writer', io')) :
    FfmpegRecordingWriter.writeAll [(trackIndex, frame)] writer io = (true, writer', io') := by
  simp only [FfmpegRecordingWriter.writeAll, wrote]

/-- A frame of `2 ^ 31` samples is accepted: none of them is sent or buffered, and they are counted as
`2 ^ 64 - 2 ^ 31`. -/
theorem encodes_exactly_oversized : ∃ (fresh writer : FfmpegRecordingWriter) (opened midway : Io) (track : TrackState),
    FfmpegRecordingWriter.create singleTrack 4 ⟨⟨[]⟩, []⟩ = (.ok fresh, opened) ∧
      FfmpegRecordingWriter.writeAll [(0, monoFrame (2 ^ 31))] fresh opened = (true, writer, midway) ∧
      writer.tracks[0]? = some track ∧ track.nextPts + track.fifo.length = 0 ∧
      writer.stats.samplesWrittenPerTrack[0]? = some (2 ^ 64 - 2 ^ 31) := by
  have count : int32 (monoFrame (2 ^ 31)).sampleCountPerChannel = -2 ^ 31 := by
    rw [monoFrame_samples]
    decide
  have matching (track : RecordingTrackConfig) (format : track.format = { format := .pcmS16Le }) :
      FfmpegRecordingWriter.matchesTrack track.format (monoFrame (2 ^ 31)) = true := by
    rw [format]
    rfl
  rcases created : FfmpegRecordingWriter.create singleTrack 4 ⟨⟨[]⟩, []⟩ with ⟨result, opened⟩
  cases result with
  | error =>
    have succeeds : ∃ fresh, (FfmpegRecordingWriter.create singleTrack 4 ⟨⟨[]⟩, []⟩).1 = .ok fresh :=
      FfmpegRecordingWriter.create_unscripted rfl rfl rfl
    rw [created] at succeeds
    obtain ⟨_, contradictory⟩ := succeeds
    exact absurd contradictory nofun
  | ok fresh =>
    obtain ⟨tracks, stats⟩ := FfmpegRecordingWriter.create_tracks created
    have opening := FfmpegRecordingWriter.create_fresh created
    have expected : fresh.config.tracks[0]? = some { format := { format := .pcmS16Le } } := by
      rw [opening.configured]
      rfl
    have found : fresh.tracks[0]? = some (FfmpegRecordingWriter.openTrack 4) := by
      rw [tracks]
      rfl
    have wrote := write_of_oversized opened opening.opened expected found (matching _ rfl) (by rw [count]; decide)
    have wroteAll := writeAll_singleton wrote
    refine ⟨fresh, _, opened, opened, FfmpegRecordingWriter.openTrack 4, rfl, wroteAll, ?_, rfl, ?_⟩
    · rw [tracks]
      rfl
    · rw [stats, count]
      rfl

private def fiveSamples : List (ℕ × AudioFrame) := [(0, monoFrame 3), (0, monoFrame 0), (0, monoFrame 2)]

/-- Five samples in chunks of four. -/
theorem encodes_exactly_short : ∃ (writer final : FfmpegRecordingWriter) (midway last : Io),
    writer.finalize true midway = (true, final, last) ∧ Accounted writer ∧
      let flushed := (TrackState.flushAll writer.partialPath 0 writer.tracks midway).2.1
      flushed.map (·.encoded.map fun chunk => (chunk.pts, chunk.samples.length)) = [[(0, 4), (4, 1)]] ∧
        ∀ (i : ℕ) (track : TrackState), flushed[i]? = some track →
          ∃ samplesWritten, final.stats.samplesWrittenPerTrack[i]? = some samplesWritten ∧
            EncodesExactly (framesOf fiveSamples i) track.chunkSamples track.encoded samplesWritten := by
  have outcome : (match FfmpegRecordingWriter.create singleTrack 4 ⟨⟨[]⟩, []⟩ with
      | (.ok fresh, opened) =>
        let (wrote, writer, midway) := FfmpegRecordingWriter.writeAll fiveSamples fresh opened
        some (wrote, (writer.finalize true midway).1,
          (TrackState.flushAll writer.partialPath 0 writer.tracks midway).2.1.map
            (·.encoded.map fun chunk => (chunk.pts, chunk.samples.length)))
      | (.error _, _) => none) = some (true, true, [[(0, 4), (4, 1)]]) := by decide +kernel
  split at outcome
  next fresh opened created =>
    obtain ⟨wrote, finalized, chunks⟩ := by simpa only [Option.some.injEq, Prod.mk.injEq] using outcome
    rcases result : FfmpegRecordingWriter.writeAll fiveSamples fresh opened with ⟨_, writer, midway⟩
    rw [result] at wrote finalized chunks
    obtain rfl : _ = true := wrote
    obtain ⟨accounted, encodes⟩ := encodes_exactly singleTrack 4 ⟨⟨[]⟩, []⟩ opened midway fresh writer fiveSamples
      created (by decide +kernel) result
    have done : writer.finalize true midway = (true, (writer.finalize true midway).2) := Prod.ext finalized rfl
    exact ⟨writer, _, midway, _, done, accounted, chunks, (encodes true _ _ done).2⟩
  next => contradiction

end VoxMesh.Media
