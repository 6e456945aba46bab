import VoxMesh.Math.Blocks
import VoxMesh.Proofs.RecordingWriter

/-! # What a track sends to its encoder

A track buffers the samples it is given and sends them in chunks. `Encodes` ties the track to everything it was
given so far: the chunks sent are the first blocks of it, and the fifo holds the rest. Encoding in steps of full
chunks leaves less than a chunk behind; draining leaves nothing, and then the last block may be short.
-/

namespace VoxMesh.Media

open VoxMesh.Audio FixedWidth Blocks

namespace TrackState

/-- The chunk that holds block `k` of the samples given. -/
def chunkOf (size : ℕ) (given : List (List Byte)) (k : ℕ) : EncodedChunk := ⟨k * size, block size given k⟩

/-- The track has sent the first `count` blocks of the samples it was given. -/
structure Encodes (track : TrackState) (given : List (List Byte)) (count : ℕ) : Prop where
  encoded : track.encoded = (List.range count).map (chunkOf track.chunkSamples given)
  fifo : track.fifo = rest track.chunkSamples given count
  nextPts : track.nextPts + track.fifo.length = given.length
  begun : ∀ k < count, k * track.chunkSamples < given.length

variable {track track' : TrackState} {given : List (List Byte)} {count : ℕ} {io io' : Io} {path : String} {index : ℕ}

/-- The track after one more chunk. -/
private def advanced (track : TrackState) (chunk : ℕ) : TrackState :=
  { track with
    fifo := track.fifo.drop chunk
    nextPts := track.nextPts + chunk
    encoded := track.encoded ++ [⟨track.nextPts, track.fifo.take chunk⟩] }

private theorem chunk_cases (track : TrackState) (drainAll : Bool) :
    (track.chunk drainAll = track.chunkSamples ∧ track.chunkSamples ≤ track.fifo.length) ∨
    (track.chunk drainAll = track.fifo.length ∧ track.fifo.length < track.chunkSamples ∧ drainAll = true) ∨
    (track.chunk drainAll = 0 ∧ track.fifo.length < track.chunkSamples ∧ drainAll = false) := by
  rw [chunk]
  by_cases full : track.chunkSamples ≤ track.fifo.length
  · rw [if_pos full]
    exact .inl ⟨rfl, full⟩
  · rw [if_neg full]
    cases drainAll with
    | false => exact .inr (.inr ⟨rfl, by omega, rfl⟩)
    | true =>
      refine .inr (.inl ⟨?_, by omega, rfl⟩)
      simp only [Bool.true_and, decide_eq_true_eq]
      split <;> omega

/-- A chunk that is sent is the next block. -/
private theorem Encodes.advance (encodes : track.Encodes given count) {drainAll : Bool}
    (some : track.chunk drainAll ≠ 0) : (track.advanced (track.chunk drainAll)).Encodes given (count + 1) := by
  have positive := track.chunk_pos
  have length : track.fifo.length = given.length - count * track.chunkSamples := by rw [encodes.fifo, length_rest]
  have nextPts := encodes.nextPts
  have nonempty : track.fifo.length ≠ 0 := by
    rcases track.chunk_cases drainAll with ⟨_, full⟩ | ⟨chunk, _⟩ | ⟨none, _⟩
    · omega
    · omega
    · contradiction
  have taken : track.fifo.take (track.chunk drainAll) = block track.chunkSamples given count := by
    rcases track.chunk_cases drainAll with ⟨chunk, full⟩ | ⟨chunk, short, _⟩ | ⟨none, _⟩
    · rw [chunk, encodes.fifo, take_rest]
    · rw [chunk, List.take_length, ← take_rest, ← encodes.fifo, List.take_of_length_le short.le]
    · contradiction
  have dropped : track.fifo.drop (track.chunk drainAll) = rest track.chunkSamples given (count + 1) := by
    rcases track.chunk_cases drainAll with ⟨chunk, full⟩ | ⟨chunk, short, _⟩ | ⟨none, _⟩
    · rw [chunk, encodes.fifo, drop_rest]
    · rw [chunk, List.drop_length, ← drop_rest, ← encodes.fifo, List.drop_of_length_le short.le]
    · contradiction
  have bounded : track.chunk drainAll ≤ track.fifo.length := by
    rcases track.chunk_cases drainAll with ⟨chunk, full⟩ | ⟨chunk, short, _⟩ | ⟨none, _⟩ <;> omega
  have start : track.nextPts = count * track.chunkSamples := by omega
  refine ⟨?_, dropped, ?_, fun k bound => ?_⟩
  · change track.encoded ++ [⟨track.nextPts, track.fifo.take _⟩] =
      (List.range (count + 1)).map (chunkOf track.chunkSamples given)
    rw [List.range_succ, List.map_append, encodes.encoded, taken, start, List.map_singleton, chunkOf]
  · change track.nextPts + track.chunk drainAll + (track.fifo.drop _).length = _
    rw [List.length_drop]
    omega
  · change k * track.chunkSamples < given.length
    rcases Nat.lt_succ_iff_lt_or_eq.mp bound with earlier | rfl
    · exact encodes.begun k earlier
    · omega

/-- A loop that reports no failure has sent the next blocks, up to what `drainAll` asks for. -/
theorem encodeLoop_spec {drainAll : Bool} {fuel : ℕ} (encodes : track.Encodes given count)
    (enough : track.fifo.length ≤ fuel)
    (done : encodeLoop path index drainAll fuel track io = (true, track', io')) :
    track'.chunkSamples = track.chunkSamples ∧ track'.fifo.length < track.chunkSamples ∧
      (drainAll = true → track'.fifo = []) ∧ ∃ count', track'.Encodes given count' ∧
        (drainAll = false → count * track.chunkSamples ≤ given.length →
          count' * track.chunkSamples ≤ given.length) := by
  induction fuel generalizing track count io with
  | zero =>
    obtain ⟨-, rfl, rfl⟩ := by simpa only [encodeLoop, Prod.mk.injEq] using done
    have empty : track.fifo = [] := List.eq_nil_of_length_eq_zero (by omega)
    exact ⟨rfl, by rw [empty]; exact track.chunk_pos, fun _ => empty, count, encodes, fun _ within => within⟩
  | succ fuel ih =>
    rw [encodeLoop] at done
    split at done
    next none =>
      obtain ⟨-, rfl, rfl⟩ := by simpa only [Prod.mk.injEq] using done
      have positive := track.chunk_pos
      have short : track.fifo.length < track.chunkSamples ∧ (drainAll = true → track.fifo = []) := by
        rcases track.chunk_cases drainAll with ⟨chunk, full⟩ | ⟨chunk, short, _⟩ | ⟨_, short, idle⟩
        · omega
        · exact ⟨short, fun _ => List.eq_nil_of_length_eq_zero (by omega)⟩
        · exact ⟨short, fun drains => absurd (idle.symm.trans drains) Bool.false_ne_true⟩
      exact ⟨rfl, short.1, short.2, count, encodes, fun _ within => within⟩
    next some =>
      have bounded : (track.advanced (track.chunk drainAll)).fifo.length ≤ fuel := by
        change (track.fifo.drop _).length ≤ fuel
        rw [List.length_drop]
        omega
      split at done
      next => exact absurd (congrArg Prod.fst done) Bool.false_ne_true
      next =>
        split at done
        next => exact absurd (congrArg Prod.fst done) Bool.false_ne_true
        next =>
          dsimp only at done
          split at done
          next => exact absurd (congrArg Prod.fst done) Bool.false_ne_true
          next =>
            obtain ⟨same, short, drained, count', encodes', within⟩ := ih (encodes.advance some) bounded done
            refine ⟨same, short, drained, count', encodes', fun idle fits => within idle ?_⟩
            have length : track.fifo.length = given.length - count * track.chunkSamples := by
              rw [encodes.fifo, length_rest]
            rcases track.chunk_cases drainAll with ⟨_, full⟩ | ⟨_, _, drains⟩ | ⟨none, _⟩
            · change (count + 1) * track.chunkSamples ≤ given.length
              rw [Nat.succ_mul]
              omega
            · exact absurd (idle.symm.trans drains) Bool.false_ne_true
            · contradiction

/-- A track between two calls: it has sent every full block, and the rest is less than a chunk. -/
structure Buffered (track : TrackState) (given : List (List Byte)) : Prop where
  short : track.fifo.length < track.chunkSamples
  encodes : ∃ count, track.Encodes given count ∧ count * track.chunkSamples ≤ given.length

/-- A track after its last call: it has sent everything. -/
structure Drained (track : TrackState) (given : List (List Byte)) : Prop where
  empty : track.fifo = []
  encodes : ∃ count, track.Encodes given count

theorem buffered_new (frameSize : ℕ) : (FfmpegRecordingWriter.openTrack frameSize).Buffered [] := by
  have fresh : (FfmpegRecordingWriter.openTrack frameSize).Encodes [] 0 ∧
      (FfmpegRecordingWriter.openTrack frameSize).fifo = [] := by
    rw [FfmpegRecordingWriter.openTrack]
    split
    · exact ⟨⟨rfl, rest_zero.symm, rfl, fun k bound => absurd bound (Nat.not_lt_zero k)⟩, rfl⟩
    · exact ⟨⟨rfl, rest_zero.symm, rfl, fun k bound => absurd bound (Nat.not_lt_zero k)⟩, rfl⟩
  refine ⟨?_, 0, fresh.1, by simp⟩
  rw [fresh.2]
  exact (FfmpegRecordingWriter.openTrack frameSize).chunk_pos

/-- More samples in the fifo. -/
private theorem Encodes.give (encodes : track.Encodes given count) (within : count * track.chunkSamples ≤ given.length)
    (more : List (List Byte)) :
    ({ track with fifo := track.fifo ++ more } : TrackState).Encodes (given ++ more) count := by
  have nextPts := encodes.nextPts
  refine ⟨?_, ?_, ?_, fun k bound => ?_⟩
  · refine encodes.encoded.trans (List.map_congr_left fun k member => ?_)
    have full : (k + 1) * track.chunkSamples ≤ given.length :=
      (Nat.mul_le_mul_right _ (List.mem_range.mp member)).trans within
    rw [chunkOf, chunkOf, block_append full]
  · change track.fifo ++ more = rest track.chunkSamples (given ++ more) count
    rw [rest_append within, encodes.fifo]
  · change track.nextPts + (track.fifo ++ more).length = _
    rw [List.length_append, List.length_append]
    omega
  · rw [List.length_append]
    exact (encodes.begun k bound).trans_le (Nat.le_add_right _ _)

theorem encodeBuffered_buffered (given : List (List Byte)) {more : List (List Byte)} (buffered : track.Buffered given)
    (done : ({ track with fifo := track.fifo ++ more } : TrackState).encodeBuffered path index false io =
      (true, track', io')) :
    track'.Buffered (given ++ more) ∧ track'.chunkSamples = track.chunkSamples := by
  obtain ⟨count, encodes, within⟩ := buffered.encodes
  obtain ⟨same, short, -, count', encodes', within'⟩ :=
    encodeLoop_spec (encodes.give within more) (le_refl _) done
  have fits : count * track.chunkSamples ≤ (given ++ more).length := by
    rw [List.length_append]
    omega
  have sizes : track'.chunkSamples = track.chunkSamples := same
  exact ⟨⟨sizes.symm ▸ short, count', encodes', sizes.symm ▸ within' rfl fits⟩, sizes⟩

theorem flush_drained (buffered : track.Buffered given) (done : track.flush path index io = (true, track', io')) :
    track'.Drained given ∧ track'.chunkSamples = track.chunkSamples := by
  obtain ⟨count, encodes, -⟩ := buffered.encodes
  rw [flush] at done
  split at done
  next => exact absurd (congrArg Prod.fst done) Bool.false_ne_true
  next track₁ io₁ encoded =>
    split at done
    next => exact absurd (congrArg Prod.fst done) Bool.false_ne_true
    next =>
      obtain ⟨same, -, drained, count', encodes', -⟩ := encodeLoop_spec encodes (le_refl _) encoded
      obtain ⟨-, rfl, -⟩ := by simpa only [Prod.mk.injEq] using done
      exact ⟨⟨drained rfl, count', encodes'⟩, same⟩

/-- When all tracks are flushed, each of them is. -/
theorem flushAll_drained {tracks tracks' : List TrackState} (given : ℕ → List (List Byte))
    (buffered : ∀ (i : ℕ) (track : TrackState), tracks[i]? = some track → track.Buffered (given i))
    (done : flushAll path index tracks io = (true, tracks', io')) :
    tracks'.length = tracks.length ∧ ∀ (i : ℕ) (track' : TrackState), tracks'[i]? = some track' →
      ∃ track, tracks[i]? = some track ∧ track'.Drained (given i) ∧ track'.chunkSamples = track.chunkSamples := by
  induction tracks generalizing index io tracks' given with
  | nil =>
    obtain ⟨-, rfl, -⟩ := by simpa only [flushAll, Prod.mk.injEq] using done
    exact ⟨rfl, fun i track' found => by simp at found⟩
  | cons track rest ih =>
    rw [flushAll] at done
    split at done
    next => exact absurd (congrArg Prod.fst done) Bool.false_ne_true
    next track₁ io₁ flushed =>
      rcases result : flushAll path (index + 1) rest io₁ with ⟨answer, rest', io₂⟩
      rw [result] at done
      obtain ⟨rfl, rfl, rfl⟩ := by simpa only [Prod.mk.injEq] using done
      obtain ⟨length, later⟩ := ih (fun i => given (i + 1)) (fun i => buffered (i + 1)) result
      refine ⟨congrArg (· + 1) length, fun i track' found => ?_⟩
      cases i with
      | zero =>
        obtain rfl := Option.some.inj found
        exact ⟨track, rfl, flush_drained (buffered 0 track rfl) flushed⟩
      | succ i => exact later i track' found

end TrackState

end VoxMesh.Media
