import VoxMesh.Soundness.AlignedStream
import VoxMesh.Proofs.Timeline

/-! # Discontinuity flags on the aligned stream

A flagged frame should leave the synchronizer flagged, or right after explicit silence. The gap branch clears
the flag whenever the gap is within the cap, but a gap shorter than one sample needs no silence, and then the
discontinuity is erased without a trace.
-/

namespace VoxMesh.Audio

open FixedWidth

/-- The real frame comes last, and it is flagged or the frame right before it is explicit silence. -/
def KeepsDiscontinuity (config : ClockSyncConfig) (outputs : List AlignedFrame) : Prop :=
  ∃ before real, outputs = before ++ [real] ∧ real.synthesized = false ∧
    (real.frame.discontinuity = true ∨
      ∃ silence, before.getLast? = some silence ∧ silence.synthesized = true ∧ IsSilence config silence.frame)

namespace TrackSynchronizer

variable {arith : Arithmetic} {sync : TrackSynchronizer} {frame : AudioFrame}

/-- The gap before the frame is to be healed, but it is too short for a sample of silence. -/
def ErasesDiscontinuity (arith : Arithmetic) (sync : TrackSynchronizer) (frame : AudioFrame) : Prop :=
  sync.anchored = true ∧
    (sync.config.tolerance < sync.delta arith frame ∨ 0 < sync.delta arith frame) ∧
    sync.delta arith frame ≤ sync.config.cap ∧ sync.durationToSamples arith (sync.delta arith frame) = 0

theorem erases_iff (flagged : frame.discontinuity = true) :
    ErasesDiscontinuity arith sync frame ↔ sync.placement arith frame = .healed 0 := by
  constructor
  · rintro ⟨anchored, late, within, none⟩
    have gap : sync.config.tolerance < sync.delta arith frame ∨
        (frame.discontinuity = true ∧ 0 < sync.delta arith frame) := late.imp_right (⟨flagged, ·⟩)
    simp only [placement, anchored, Bool.not_true, Bool.false_eq_true, ↓reduceIte, gap, min_eq_left within, none,
      not_lt.mpr within]
  · intro healed
    obtain ⟨anchored, within, late, none⟩ := of_placement_healed healed
    exact ⟨anchored, late, within, none.symm⟩

/-- The flag stays, or silence is inserted. -/
theorem keepsDiscontinuity_iff_placement [Arithmetic.Truncating arith] :
    KeepsDiscontinuity sync.config (sync.process arith frame).2 ↔
      (sync.placement arith frame).flag frame.discontinuity = true ∨ 0 < (sync.placement arith frame).silence := by
  constructor
  · rintro ⟨before, real, outputs, -, kept⟩
    rw [process_output] at outputs
    obtain ⟨rfl, last⟩ := List.append_inj' outputs rfl
    obtain rfl := List.singleton_inj.mp last
    refine kept.imp id ?_
    rintro ⟨silence, last, -, -⟩
    by_contra none
    rw [silences, if_neg none] at last
    contradiction
  · intro kept
    refine ⟨_, _, process_output arith sync frame, rfl, kept.imp id fun some => ?_⟩
    have member : (⟨sync.silenceFrame arith frame (sync.placement arith frame).silence, true⟩ : AlignedFrame) ∈
        (sync.process arith frame).2 := by
      rw [process_output, silences, if_pos some]
      exact List.mem_append_left _ (List.mem_singleton_self _)
    refine ⟨_, ?_, rfl, process_silences arith sync frame _ member rfl⟩
    rw [silences, if_pos some]
    rfl

/-- What one call does with a flagged frame. -/
theorem keepsDiscontinuity_iff_of_flagged (arith : Arithmetic) [Arithmetic.Truncating arith]
    (sync : TrackSynchronizer) (flagged : frame.discontinuity = true) :
    KeepsDiscontinuity sync.config (sync.process arith frame).2 ↔ ¬ ErasesDiscontinuity arith sync frame := by
  rw [keepsDiscontinuity_iff_placement, erases_iff flagged, flagged]
  cases sync.placement arith frame with
  | first | continuous | overlap => simp [Placement.flag]
  | truncated silence => simp [Placement.flag]
  | healed silence =>
    simp only [Placement.flag, Placement.silence, Bool.false_eq_true, false_or, Placement.healed.injEq]
    omega

end TrackSynchronizer

/-- A discontinuity survives a call, in its flag or as explicit silence, exactly unless the gap before the frame
is to be healed and shorter than a sample. This holds in every state that a synchronizer can reach. -/
theorem discontinuity_kept_iff (config : ClockSyncConfig) (earlier : List AudioFrame) (frame : AudioFrame)
    (flagged : frame.discontinuity = true) :
    let sync := ((TrackSynchronizer.create config).run .machine earlier).1
    KeepsDiscontinuity config (sync.process .machine frame).2 ↔
      ¬ sync.ErasesDiscontinuity .machine frame := by
  have same := TrackSynchronizer.run_config .machine (TrackSynchronizer.create config) earlier
  have kept := TrackSynchronizer.keepsDiscontinuity_iff_of_flagged .machine
    ((TrackSynchronizer.create config).run .machine earlier).1 flagged
  rwa [same] at kept

/-- Ten milliseconds of sound, and the next ten with a flag, at the given time. -/
private def steady : AudioFrame := { sampleRate := 48000, channels := 1, payload := List.replicate 960 0 }

private def flaggedAt (timestamp : ℤ) : AudioFrame := { steady with timestamp := timestamp, discontinuity := true }

/-- The device restarts and continues ten microseconds later than expected: the flag is gone and there is no
silence. -/
theorem discontinuity_kept_iff_erased :
    let sync := ((TrackSynchronizer.create {}).run .machine [steady]).1
    (flaggedAt 10010000).discontinuity = true ∧
      (sync.process .machine (flaggedAt 10010000)).2.map
        (fun output => (output.synthesized, output.frame.discontinuity)) = [(false, false)] ∧
      ¬ KeepsDiscontinuity {} (sync.process .machine (flaggedAt 10010000)).2 := by
  refine ⟨rfl, by decide +kernel, ?_⟩
  rintro ⟨before, real, outputs, -, kept⟩
  have alone : (((TrackSynchronizer.create {}).run .machine [steady]).1.process .machine (flaggedAt 10010000)).2.map
      (·.frame.discontinuity) = [false] := by decide +kernel
  rw [outputs, List.map_append] at alone
  cases before with
  | nil => simp_all
  | cons first rest => simp at alone

/-- A millisecond later, there is silence. -/
theorem discontinuity_kept_iff_silence :
    (flaggedAt 11000000).discontinuity = true ∧
    let sync := ((TrackSynchronizer.create {}).run .machine [steady]).1
    (KeepsDiscontinuity {} (sync.process .machine (flaggedAt 11000000)).2 ↔
      ¬ sync.ErasesDiscontinuity .machine (flaggedAt 11000000)) :=
  ⟨rfl, discontinuity_kept_iff {} [steady] (flaggedAt 11000000) rfl⟩

end VoxMesh.Audio
