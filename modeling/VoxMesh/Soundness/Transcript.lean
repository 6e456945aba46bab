import VoxMesh.Machine.Table
import VoxMesh.Model.Transcript

/-! # The displayed transcript

The two lists of the controller are the keys and the values of a table, and applying an update records it there.
So when the revisions of every segment rise, the lines show the latest revision of each segment, in the order in
which the segments first appeared.
-/

namespace VoxMesh.Stt

/-- The settled text comes first; what may still change follows with an ellipsis. -/
theorem TranscriptUpdate.line_eq (update : TranscriptUpdate) : update.line =
    if update.mutableText = "" then update.stableText
    else if update.stableText = "" then update.mutableText ++ "…"
    else update.stableText ++ " " ++ update.mutableText ++ "…" := by
  simp only [line, String.isEmpty_iff]
  split
  next => rfl
  next =>
    split
    next none => rw [none, String.empty_append]
    next => simp only [String.append_assoc]

end VoxMesh.Stt

namespace VoxMesh.App.RecorderController

open VoxMesh.Stt Machine

section Update

variable {controller : RecorderController} {update : TranscriptUpdate}

/-- A segment not seen before gets a new line. -/
theorem applyTranscript_new (fresh : update.segmentId ∉ controller.transcriptSegmentIds) :
    (controller.applyTranscript update).transcriptSegmentIds =
        controller.transcriptSegmentIds ++ [update.segmentId] ∧
      (controller.applyTranscript update).transcriptLines = controller.transcriptLines ++ [update.line] := by
  have missing : controller.transcriptSegmentIds.findIdx? (· == update.segmentId) = none := by
    refine List.findIdx?_eq_none_iff.mpr fun id member => beq_eq_false_iff_ne.mpr ?_
    rintro rfl
    exact fresh member
  rw [applyTranscript, missing]
  exact ⟨rfl, rfl⟩

/-- A segment seen before keeps its place. -/
theorem applyTranscript_known (known : update.segmentId ∈ controller.transcriptSegmentIds) :
    (controller.applyTranscript update).transcriptSegmentIds = controller.transcriptSegmentIds ∧
      (controller.applyTranscript update).transcriptLines = controller.transcriptLines.set
        (controller.transcriptSegmentIds.idxOf update.segmentId) update.line := by
  have found : controller.transcriptSegmentIds.findIdx? (· == update.segmentId) =
      some (controller.transcriptSegmentIds.idxOf update.segmentId) :=
    List.findIdx?_eq_some_iff_findIdx_eq.mpr ⟨List.idxOf_lt_length_of_mem known, rfl⟩
  rw [applyTranscript, found]
  exact ⟨rfl, rfl⟩

end Update

/-- The lists of the controller are those of the table. -/
private def ShowsTable (controller : RecorderController) (table : Table String String) : Prop :=
  controller.transcriptSegmentIds = table.keys ∧ controller.transcriptLines = table.values

private theorem ShowsTable.applyTranscript {controller : RecorderController} {table : Table String String}
    (shows : controller.ShowsTable table) (update : TranscriptUpdate) :
    (controller.applyTranscript update).ShowsTable (table.put update.segmentId update.line) := by
  obtain ⟨ids, lines⟩ := shows
  by_cases known : update.segmentId ∈ table.keys
  · obtain ⟨sameIds, newLines⟩ := applyTranscript_known (ids.symm ▸ known)
    obtain ⟨keys, values⟩ := Table.put_of_mem update.line known
    exact ⟨sameIds.trans (ids.trans keys.symm), by rw [newLines, ids, lines, values]⟩
  · obtain ⟨newIds, newLines⟩ := applyTranscript_new (ids.symm ▸ known)
    obtain ⟨keys, values⟩ := Table.put_of_notMem update.line known
    exact ⟨by rw [newIds, ids, keys], by rw [newLines, lines, values]⟩

/-- Applied from empty lists, the updates make up the table that records them. -/
private theorem showsTable_foldl {controller : RecorderController} (ids : controller.transcriptSegmentIds = [])
    (lines : controller.transcriptLines = []) (updates : List TranscriptUpdate) :
    (updates.foldl applyTranscript controller).ShowsTable
      (.record TranscriptUpdate.segmentId TranscriptUpdate.line .empty updates) := by
  induction updates using List.reverseRecOn with
  | nil => exact ⟨ids, lines⟩
  | append_singleton earlier update ih =>
    rw [List.foldl_append, Table.record_snoc]
    exact ih.applyTranscript update

/-- The displayed transcript is that of the latest revisions: one line for each segment seen, in the order of
their first updates, made from the highest revision. -/
structure ShowsLatest (controller : RecorderController) (seen : List TranscriptUpdate) : Prop where
  aligned : controller.transcriptLines.length = controller.transcriptSegmentIds.length
  nodup : controller.transcriptSegmentIds.Nodup
  order : controller.transcriptSegmentIds = (seen.map (·.segmentId)).eraseDups
  latest : ∀ (index : ℕ) (id : String), controller.transcriptSegmentIds[index]? = some id →
    ∃ update ∈ seen, update.segmentId = id ∧
      (∀ other ∈ seen, other.segmentId = id → other.revision ≤ update.revision) ∧
      controller.transcriptLines[index]? = some update.line

/-- Whatever the order of the segments, after every update the transcript shows the latest revisions. -/
theorem transcript_shows_latest (controller : RecorderController) (updates : List TranscriptUpdate)
    (noIds : controller.transcriptSegmentIds = []) (noLines : controller.transcriptLines = [])
    (rising : ∀ id, ((updates.filter (·.segmentId = id)).map (·.revision)).Pairwise (· < ·)) :
    ∀ seen, seen <+: updates → (seen.foldl applyTranscript controller).ShowsLatest seen := by
  intro seen earlier
  obtain ⟨ids, lines⟩ := showsTable_foldl noIds noLines seen
  refine ⟨?_, ?_, ?_, ?_⟩
  · rw [ids, lines]
    exact Table.aligned _
  · rw [ids]
    exact Table.nodup _
  · rw [ids]
    exact Table.keys_record ..
  · intro index id here
    rw [ids] at here
    rw [lines]
    refine Table.record_highest _ _ TranscriptUpdate.revision (fun id => ?_) here
    exact (rising id).sublist ((earlier.sublist.filter _).map _)

private def partialHello : TranscriptUpdate where
  segmentId := "seg-1"
  revision := 1
  stableText := "hello"
  mutableText := "wor"

private def partialBye : TranscriptUpdate where
  segmentId := "seg-2"
  revision := 1
  mutableText := "by"

private def finalHello : TranscriptUpdate where
  segmentId := "seg-1"
  revision := 2
  isFinal := true
  stableText := "hello world"

private def heard : List TranscriptUpdate := [partialHello, partialBye, finalHello]

/-- The final revision of the first segment arrives after the second segment has begun. -/
theorem transcript_shows_latest_interleaved :
    ((heard.take 2).foldl applyTranscript { outputDirectory := "recordings" }).transcriptLines =
      ["hello wor…", "by…"] ∧
    (heard.foldl applyTranscript { outputDirectory := "recordings" }).transcriptLines = ["hello world", "by…"] ∧
    (heard.foldl applyTranscript { outputDirectory := "recordings" }).ShowsLatest heard := by
  refine ⟨by decide +kernel, by decide +kernel, ?_⟩
  refine transcript_shows_latest _ heard rfl rfl (fun id => ?_) _ List.prefix_rfl
  by_cases first : id = "seg-1"
  · subst first
    decide
  · by_cases second : id = "seg-2"
    · subst second
      decide
    · simp [heard, partialHello, partialBye, finalHello, Ne.symm first, Ne.symm second]

end VoxMesh.App.RecorderController
